import WalletResponder.Key.Signing
import WalletResponder.Proofs.Crypto.Rsa.Oaep
import WalletResponder.Proofs.Crypto.Rsa.Signature
import WalletResponder.Proofs.Result

/-!
# Halves of keys that belong together

What the two halves of a key do for each other: one signs and the other accepts
(`Key.IsCheckedBy`), one encrypts or agrees on a secret and the other finds the same
(`Key.Opens`). Everything that is said of tokens rests on these two properties of keys. RSA keys
have them when their exponents are inverse (`Key.isCheckedBy_rsa`, `Key.opens_rsa`).
-/

namespace WalletResponder

namespace Key

/-- Each signature that `own` makes for an algorithm that it serves is right for `pub`. -/
def IsCheckedBy (own pub : Key) : Prop :=
  ∀ alg message e signature, own.supports alg = .ok true →
    own.sign? alg message e = some signature → pub.checks alg message signature = true

end Key

/-- With every new key of the group, `own` agrees on the secret that the new key and `pub` agree on,
and the point of the new key is a point of the curve. -/
def CurveKey.Receives (own pub : CurveKey) : Prop :=
  ∀ e x y secret, (generate pub.group e).point = .affine x y →
    (generate pub.group e).agree pub = .ok secret →
      pub.group.contains x y = true ∧
        own.agree { group := pub.group, point := .affine x y, secret := none } = .ok secret

/-- What `pub` encrypts `own` decrypts. -/
def RsaKey.Receives (own pub : RsaKey) : Prop :=
  ∀ alg message e ciphertext, pub.encrypt alg message e = .ok ciphertext →
    own.decrypt alg ciphertext = .ok message

namespace Key

/-- A content key that is sent to `pub` reaches `own`. -/
def Opens : Key → Key → Prop
  | rsa own, rsa pub => own.Receives pub
  | ec own, ec pub => own.Receives pub
  | _, _ => False

theorem Opens.family? {own pub : Key} (h : own.Opens pub) : own.family? = pub.family? := by
  cases own <;> cases pub <;> first | rfl | exact h.elim

/-! ### RSA keys -/

variable {k : RsaKey} {s : RsaSecret}

/-- **What an RSA key pair signs its public half accepts.** -/
theorem isCheckedBy_rsa (h : k.IsPair s) : (rsa k).IsCheckedBy (rsa k.publicHalf) := by
  intro alg message e signature _ hsign
  simp only [sign?, checks] at hsign ⊢
  split at hsign
  · next hsalted =>
    rw [if_pos hsalted]
    exact h.verifySalted_signSalted (Entropy.length_take _ _) hsign
  · next hsalted =>
    rw [if_neg hsalted]
    exact h.verifyFixed_signFixed hsign

/-- **What is encrypted for an RSA key pair reaches its holder.** -/
theorem opens_rsa (h : k.IsPair s) : (rsa k).Opens (rsa k.publicHalf) :=
  fun _ _ _ _ hencrypt => h.decrypt_encrypt hencrypt

/-! ### Public halves -/

theorem ofGroup?_eq_some {g : Group} {c : NamedCurve} (h : NamedCurve.ofGroup? g = some c) :
    c.group = g := by
  have := List.find?_some h
  simpa using this

theorem ofGroup?_group (c : NamedCurve) : NamedCurve.ofGroup? c.group = some c := by
  cases c <;> decide +kernel

theorem hasOwnSchemes_group (c : NamedCurve) : c.group.hasOwnSchemes = false := by
  cases c <;> decide

theorem namedCurve_ec {k : CurveKey} {c : NamedCurve} (h : (ec k).namedCurve = .ok c) :
    c.group = k.group := by
  simp only [namedCurve] at h
  split at h
  · next c' hc => cases h; exact ofGroup?_eq_some hc
  · cases h

theorem namedCurve_congr {k k' : CurveKey} (h : k.group = k'.group) :
    (ec k).namedCurve = (ec k').namedCurve := by
  simp only [namedCurve, h]

/-- A key on a curve serves the one algorithm of its curve. -/
theorem supports_ec {k : CurveKey} {alg : JwsAlgorithm} (h : (ec k).supports alg = .ok true) :
    ∃ c, alg.curve? = some c ∧ (ec k).namedCurve = .ok c := by
  cases hc : alg.curve? with
  | none => simp [supports, hc] at h
  | some c =>
    simp only [supports, hc] at h
    obtain ⟨c', hcurve, heq⟩ := map_eq_ok.mp h
    rw [beq_iff_eq] at heq
    exact ⟨c, rfl, by rw [hcurve, heq]⟩

theorem supports_ec_of {k : CurveKey} {alg : JwsAlgorithm} {c : NamedCurve}
    (hc : alg.curve? = some c) (h : (ec k).namedCurve = .ok c) :
    (ec k).supports alg = .ok true := by
  simp [supports, hc, h, Except.map]

/-- The public half of a key on a named curve is a key on it. -/
theorem publicHalf_ec {k : CurveKey} {pub : Key} {c : NamedCurve}
    (hc : (ec k).namedCurve = .ok c) (h : (ec k).publicHalf = .ok pub) :
    pub = ec
      { group := k.group, point := k.point, secret := none, hasForm := k.point != .neutral } := by
  have hschemes := hasOwnSchemes_group c
  rw [namedCurve_ec hc] at hschemes
  simp only [publicHalf] at h
  obtain ⟨half, hhalf, rfl⟩ := map_eq_ok.mp h
  unfold CurveKey.publicHalf at hhalf
  split at hhalf
  · cases hhalf
    rw [hschemes]
    rfl
  · cases hhalf

/-- The public half of a key serves the same algorithms. -/
theorem supports_publicHalf {k pub : Key} {alg : JwsAlgorithm} (hpub : k.publicHalf = .ok pub)
    (h : k.supports alg = .ok true) : pub.supports alg = .ok true := by
  cases k with
  | rsa k => cases hpub; cases alg <;> exact h
  | ed25519 k => cases hpub; cases alg <;> exact h
  | ec k =>
    obtain ⟨c, hc, hcurve⟩ := supports_ec h
    rw [publicHalf_ec hcurve hpub]
    exact supports_ec_of hc ((namedCurve_congr rfl).trans hcurve)
  | ladder k => cases alg <;> cases h
  | residue k => cases alg <;> cases h
  | other k => cases alg <;> cases h

end Key
end WalletResponder
