import WalletResponder.Delivery.Effect

/-!
# Results and traces

How a chain of computations ends well (`bind_eq_ok`) and how it fails (`bind_eq_error`): if each of
its parts fails in a certain way only, so does the chain (`FailsIn`). A traced computation ends as
its results do, whatever it leaves behind.
-/

namespace WalletResponder

variable {ε α β : Type}

theorem bind_eq_ok {x : Except ε α} {f : α → Except ε β} {b : β} :
    x >>= f = .ok b ↔ ∃ a, x = .ok a ∧ f a = .ok b := by
  cases x with
  | error err => exact ⟨(nomatch ·), fun ⟨_, h, _⟩ => nomatch h⟩
  | ok a =>
    refine ⟨fun h => ⟨a, rfl, h⟩, fun ⟨_, h, hf⟩ => ?_⟩
    cases h
    exact hf

theorem map_eq_ok {x : Except ε α} {f : α → β} {b : β} :
    x.map f = .ok b ↔ ∃ a, x = .ok a ∧ f a = b := by
  cases x <;> simp [Except.map]

theorem bind_eq_error {x : Except ε α} {f : α → Except ε β} {err : ε} :
    x >>= f = .error err ↔ x = .error err ∨ ∃ a, x = .ok a ∧ f a = .error err := by
  cases x <;> simp [bind, Except.bind]

/-- A computation fails if it does not end well. -/
theorem exists_error_iff {x : Except ε α} : (∃ err, x = .error err) ↔ ¬ ∃ a, x = .ok a := by
  cases x <;> simp

theorem ofJson_eq_ok {x : Except Json.Fault α} {a : α} : ofJson x = .ok a ↔ x = .ok a := by
  cases x <;> simp [ofJson]

theorem ofJose_eq_ok {x : Except JoseFault α} {a : α} : ofJose x = .ok a ↔ x = .ok a := by
  cases x <;> simp [ofJose]

theorem ofCrypto_eq_ok {x : Except CryptoFault α} {a : α} : ofCrypto x = .ok a ↔ x = .ok a := by
  cases x <;> simp [ofCrypto]

/-- If a computation fails, it fails in the way `p`. -/
def FailsIn (p : Failure → Prop) (x : Except Failure α) : Prop := ∀ f, x = .error f → p f

variable {p q : Failure → Prop}

theorem FailsIn.mono {x : Except Failure α} (h : FailsIn p x) (hpq : ∀ f, p f → q f) :
    FailsIn q x :=
  fun f hf => hpq f (h f hf)

theorem failsIn_ok (a : α) : FailsIn p (.ok a) := fun _ h => by cases h

theorem failsIn_pure (a : α) : FailsIn p (pure a) := failsIn_ok a

theorem failsIn_error {f : Failure} (h : p f) : FailsIn p (.error f : Except Failure α) :=
  fun g hg => by cases hg; exact h

theorem failsIn_throw {f : Failure} (h : p f) : FailsIn p (throw f : Except Failure α) :=
  failsIn_error h

/-- A chain fails as its parts do; the second part may rely on how the first ended. -/
theorem FailsIn.bind {x : Except Failure α} {f : α → Except Failure β} (hx : FailsIn p x)
    (hf : ∀ a, x = .ok a → FailsIn p (f a)) : FailsIn p (x >>= f) := by
  cases hx' : x with
  | error err => exact fun g hg => by cases hg; exact hx _ hx'
  | ok a => exact hf a hx'

theorem FailsIn.map {x : Except Failure α} (hx : FailsIn p x) (f : α → β) :
    FailsIn p (x.map f) := by
  cases hx' : x with
  | error err => exact fun g hg => by cases hg; exact hx _ hx'
  | ok a => exact failsIn_ok (f a)

theorem failsIn_ofJson (h : ∀ fault, p (.json fault)) (x : Except Json.Fault α) :
    FailsIn p (ofJson x) := by
  cases x with
  | error fault => exact failsIn_error (h fault)
  | ok a => exact failsIn_ok a

theorem failsIn_ofJose (h : ∀ fault, p (.jose fault)) (x : Except JoseFault α) :
    FailsIn p (ofJose x) := by
  cases x with
  | error fault => exact failsIn_error (h fault)
  | ok a => exact failsIn_ok a

theorem failsIn_ofCrypto (h : ∀ fault, p (.crypto fault)) (x : Except CryptoFault α) :
    FailsIn p (ofCrypto x) := by
  cases x with
  | error fault => exact failsIn_error (h fault)
  | ok a => exact failsIn_ok a

/-! ### Traces -/

namespace Traced

theorem bind_of_ok {t : Traced α} {a : α} (h : t.result = .ok a) (next : α → Traced β) :
    t >>= next = ⟨t.effects ++ (next a).effects, (next a).result⟩ := by
  simp only [Bind.bind, andThen, h]

theorem bind_of_error {t : Traced α} {f : Failure} (h : t.result = .error f) (next : α → Traced β) :
    t >>= next = ⟨t.effects, .error f⟩ := by
  simp only [Bind.bind, andThen, h]

/-- The results of a chain are chained. -/
theorem result_bind (t : Traced α) (next : α → Traced β) :
    (t >>= next).result = t.result >>= fun a => (next a).result := by
  cases h : t.result with
  | error f => rw [bind_of_error h]; rfl
  | ok a => rw [bind_of_ok h]; rfl

@[simp] theorem result_ofResult (r : Except Failure α) : (ofResult r).result = r := rfl

end Traced
end WalletResponder
