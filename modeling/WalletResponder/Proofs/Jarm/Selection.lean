import WalletResponder.Proofs.Jarm.Completeness
import WalletResponder.Proofs.Jarm.Refusals
import WalletResponder.Proofs.Jose.Defects

/-!
# The key that is selected

A search through the keys of a verifier passes over a key that has another type or describes
nothing, and ends at the first one that is left (`JwkSet.select_eq_ok`). So the keys in front of
others decide (`JwkSet.select_append`), and keys that are passed over may stand anywhere
(`JwkSet.select_of_padded`).

`JwkSet.Raising.select` is the search with the failures of keys left as they are: it passes over the
faults of keys only. There are no other failures, so it is the same search
(`JwkSet.Raising.select_eq`).
-/

namespace WalletResponder

namespace Jwk

variable {k : Jwk} {alg : JweAlgorithm} {family : KeyFamily}

/-- A key that a search for a family passes over: it has another type, or a defect. -/
def IsPassedOver (k : Jwk) (family : KeyFamily) : Prop :=
  k.keyType ≠ family.keyType ∨ k.Lacks family

/-- Keys among which others were put, all of which are passed over. -/
inductive Padded (family : KeyFamily) : List Jwk → List Jwk → Prop
  | nil : Padded family [] []
  | keep (k : Jwk) {keys keys' : List Jwk} (h : Padded family keys keys') :
    Padded family (k :: keys) (k :: keys')
  | put {k : Jwk} {keys keys' : List Jwk} (hk : k.IsPassedOver family)
    (h : Padded family keys keys') : Padded family keys (k :: keys')

theorem isUsable_iff_describes : isUsable alg k = true ↔ k.Describes alg.family := isUsable_iff

theorem isPassedOver_iff : k.IsPassedOver alg.family ↔ isUsable alg k = false := by
  rw [IsPassedOver, ← not_describes_iff, ← isUsable_iff_describes, Bool.not_eq_true]

end Jwk

namespace JwkSet

variable {alg : JweAlgorithm} {s s' : JwkSet} {k : Jwk}

theorem select_eq_ok_iff_usable : s.select alg = .ok k ↔ s.usable? alg = some k := by
  rw [select]
  cases s.usable? alg <;> simp

/-- **The first key that describes one is selected.** -/
theorem select_eq_ok : s.select alg = .ok k ↔ ∃ before after, s.keys = before ++ k :: after ∧
    k.Describes alg.family ∧ ∀ k' ∈ before, k'.IsPassedOver alg.family := by
  simp only [select_eq_ok_iff_usable, usable?, List.find?_eq_some_iff_append,
    Jwk.isUsable_iff_describes, Jwk.isPassedOver_iff, Bool.not_eq_true']
  constructor
  · rintro ⟨hk, before, after, hkeys, hbefore⟩
    exact ⟨before, after, hkeys, hk, hbefore⟩
  · rintro ⟨before, after, hkeys, hk, hbefore⟩
    exact ⟨hk, before, after, hkeys, hbefore⟩

/-- **Nothing is selected if all keys are passed over**, and that is the only failure. -/
theorem select_eq_error {f : Failure} : s.select alg = .error f ↔
    f = .noUsableKey alg ∧ ∀ k ∈ s.keys, k.IsPassedOver alg.family := by
  have hnone : s.usable? alg = none ↔ ∀ k ∈ s.keys, k.IsPassedOver alg.family := by
    simp only [usable?, List.find?_eq_none, Jwk.isPassedOver_iff, Bool.not_eq_true]
  rw [← hnone, select]
  cases s.usable? alg <;> simp [eq_comm]

theorem not_offers_iff : ¬ s.Offers alg ↔ ∀ k ∈ s.keys, k.IsPassedOver alg.family := by
  rw [← isSome_usable?, usable?, List.find?_isSome]
  simp [Jwk.isPassedOver_iff]

/-- **The keys in front decide.** -/
theorem select_append (before after : List Jwk) : select alg ⟨before ++ after⟩ =
    (select alg ⟨before⟩).tryCatch fun _ => select alg ⟨after⟩ := by
  simp only [select, usable?, List.find?_append]
  cases before.find? (Jwk.isUsable alg) <;> rfl

/-- **Keys that are passed over change nothing**, wherever they stand. -/
theorem select_of_padded {keys keys' : List Jwk} (h : Jwk.Padded alg.family keys keys') :
    select alg ⟨keys'⟩ = select alg ⟨keys⟩ := by
  have husable : usable? alg ⟨keys'⟩ = usable? alg ⟨keys⟩ := by
    simp only [usable?]
    induction h with
    | nil => rfl
    | keep k _ ih => rw [List.find?_cons, List.find?_cons, ih]
    | put hk _ ih => rw [List.find?_cons, Jwk.isPassedOver_iff.mp hk, ih]
  rw [select, select, husable]

/-! ### The search with the failures of keys -/

/-- A search that passes over the faults of keys and ends at any other failure. -/
def Raising.select (alg : JweAlgorithm) : List Jwk → Except Failure Jwk
  | [] => .error (.noUsableKey alg)
  | k :: rest =>
    if k.keyType = alg.family.keyType then
      match Jwe.Raising.publicKey k with
      | .ok _ => .ok k
      | .error (.jose _) => Raising.select alg rest
      | .error f => .error f
    else Raising.select alg rest

/-- A key with the type of a family shows its type. -/
theorem Raising.type_of_keyType {family : KeyFamily} (h : k.keyType = family.keyType) :
    (do (← k.toJson.member (utf8 "kty")).asText) = .ok k.keyType := by
  cases htext : k.text? (utf8 "kty") with
  | none =>
    rw [Jwk.keyType, htext] at h
    cases family <;> exact absurd h (by decide)
  | some type =>
    obtain ⟨v, hfind, hv⟩ := Option.bind_eq_some_iff.mp htext
    cases v with
    | str s =>
      cases hv
      rw [Json.member_eq_ok.mpr hfind, Jwk.keyType, htext]
      rfl
    | _ => cases hv

/-- **No failure but the faults of keys can end the search.** -/
theorem Raising.select_eq : ∀ keys : List Jwk, Raising.select alg keys = JwkSet.select alg ⟨keys⟩
  | [] => rfl
  | k :: rest => by
    have ih : Raising.select alg rest = JwkSet.select alg ⟨rest⟩ := Raising.select_eq rest
    rw [Raising.select, JwkSet.select, usable?, List.find?_cons]
    by_cases htype : k.keyType = alg.family.keyType
    · rw [if_pos htype, Jwe.Raising.publicKey_eq_of_type (type_of_keyType htype)]
      cases hkey : k.publicKey with
      | error fault =>
        have husable : Jwk.isUsable alg k = false := by
          rw [Jwk.isUsable, hkey]
          exact Bool.and_false _
        rw [husable]
        exact ih
      | ok key =>
        rw [Jwk.isUsable_iff.mpr ⟨htype, key, hkey⟩]
        rfl
    · have husable : Jwk.isUsable alg k = false := Jwk.isPassedOver_iff.mp (.inl htype)
      rw [if_neg htype, husable]
      exact ih

/-! ### What is selected -/

/-- **The first usable key is selected, and nothing else matters.** The search ends at no failure
but the faults of keys, and keys in front of others decide. It fails in one way, and exactly if no
key of the set describes one of the family. Keys of another type and keys with a defect may be put
anywhere. What is selected describes a key of the family that the algorithm needs, so that
encrypting to it is never refused for its kind. -/
theorem select_takes_first_usable (alg : JweAlgorithm) :
    (∀ s : JwkSet, Raising.select alg s.keys = s.select alg) ∧
    (∀ (s : JwkSet) (k : Jwk), s.select alg = .ok k ↔ ∃ before after,
      s.keys = before ++ k :: after ∧ k.Describes alg.family ∧
        ∀ k' ∈ before, k'.IsPassedOver alg.family) ∧
    (∀ s s' : JwkSet, select alg ⟨s.keys ++ s'.keys⟩ =
      (s.select alg).tryCatch fun _ => s'.select alg) ∧
    (∀ (s : JwkSet) (f : Failure), s.select alg = .error f ↔ f = .noUsableKey alg ∧
      ¬ ∃ k ∈ s.keys, k.keyType = alg.family.keyType ∧ ∃ key, k.publicKey = .ok key) ∧
    (∀ s s' : JwkSet, Jwk.Padded alg.family s.keys s'.keys → s'.select alg = s.select alg) ∧
    ∀ (s : JwkSet) (k : Jwk), s.select alg = .ok k →
      ∃ key, k.publicKey = .ok key ∧ Jwe.fits alg key = true ∧ ∀ enc text extra e type,
        Jwe.encrypt alg enc k text extra e ≠ .error (.jose (.wrongRecipient alg type)) := by
  refine ⟨fun s => Raising.select_eq s.keys, fun s k => select_eq_ok,
    fun s s' => select_append s.keys s'.keys, fun s f => ?_, fun s s' => select_of_padded,
    fun s k hk => ?_⟩
  · rw [select_eq_error, ← not_offers_iff]
    rfl
  · obtain ⟨-, key, hkey, hfamily⟩ := select_ok hk
    have hfits : Jwe.fits alg key = true := by
      rw [Jwe.fits, hfamily]
      exact beq_self_eq_true _
    exact ⟨key, hkey, hfits, fun enc text extra e type herror =>
      noJarm_encrypt hkey hfamily _ herror trivial⟩

/-- Keys on an unknown curve, without an exponent and of another type stand in front. -/
example : select .rsaOaep ⟨[⟨[(utf8 "crv", .text "secp256k1"), (utf8 "kty", .text "EC")]⟩,
    ⟨[(utf8 "kty", .text "RSA"), (utf8 "n", .text "AA8")]⟩, Jwk.ofNumbers 15 3]⟩ =
      .ok (Jwk.ofNumbers 15 3) := rfl

end JwkSet
end WalletResponder
