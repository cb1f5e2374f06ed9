import Mathlib.Tactic.SplitIfs
import WalletResponder.Proofs.Result
import WalletResponder.Service.Message

/-!
# Agreed protections

Whatever is agreed on is provided: a protection comes of a negotiation exactly when the mode asks
for one, and the second look at it finds nothing to refuse (`negotiate_ok`). The key that is
selected for it then describes a key of the family that the algorithm needs (`select_ok`).
-/

namespace WalletResponder

/-! ### Keys of the right kind -/

theorem Jwk.publicKey_family {k : Jwk} {key : Key} {family : KeyFamily}
    (hkey : k.publicKey = .ok key) (htype : k.keyType = family.keyType) :
    key.family? = some family := by
  unfold Jwk.publicKey at hkey
  cases family with
  | ellipticCurve =>
    rw [KeyFamily.keyType] at htype
    rw [htype, if_neg (by decide), if_pos rfl] at hkey
    obtain ⟨c, -, rfl⟩ := map_eq_ok.mp hkey
    rfl
  | rsa =>
    rw [KeyFamily.keyType] at htype
    rw [htype, if_pos rfl] at hkey
    obtain ⟨r, -, rfl⟩ := map_eq_ok.mp hkey
    rfl

theorem Jwk.isUsable_iff {k : Jwk} {alg : JweAlgorithm} : isUsable alg k = true ↔
    k.keyType = alg.family.keyType ∧ ∃ key, k.publicKey = .ok key := by
  have hok : k.publicKey.isOk = true ↔ ∃ key, k.publicKey = .ok key := by
    cases k.publicKey <;> simp [Except.isOk, Except.toBool]
  rw [isUsable, Bool.and_eq_true, beq_iff_eq, hok]

theorem JwkSet.usable?_eq_some {s : JwkSet} {alg : JweAlgorithm} {k : Jwk}
    (h : s.usable? alg = some k) :
    k ∈ s.keys ∧ ∃ key, k.publicKey = .ok key ∧ key.family? = some alg.family := by
  obtain ⟨htype, key, hkey⟩ := Jwk.isUsable_iff.mp (List.find?_some h)
  exact ⟨List.mem_of_find?_eq_some h, key, hkey, k.publicKey_family hkey htype⟩

/-- **The selected key describes a key of the right family.** -/
theorem JwkSet.select_ok {s : JwkSet} {alg : JweAlgorithm} {k : Jwk} (h : s.select alg = .ok k) :
    k ∈ s.keys ∧ ∃ key, k.publicKey = .ok key ∧ key.family? = some alg.family := by
  unfold JwkSet.select at h
  split at h
  · next k' hk =>
    cases h
    exact JwkSet.usable?_eq_some hk
  · cases h

theorem JwkSet.select_of_usable {s : JwkSet} {alg : JweAlgorithm}
    (h : (s.usable? alg).isSome = true) : ∃ k, s.select alg = .ok k := by
  obtain ⟨k, hk⟩ := Option.isSome_iff_exists.mp h
  exact ⟨k, by rw [JwkSet.select, hk]⟩

/-! ### What the second look accepts -/

variable {wallet : JarmConfig}

theorem JarmSigning.refusal?_eq_none {s : JarmSigning} : s.refusal? wallet = none ↔
    wallet.signs s.alg = true ∧
      ∃ signer, s.signer = some signer ∧ signer.supports s.alg = true := by
  unfold JarmSigning.refusal?
  cases wallet.signs s.alg with
  | false => simp
  | true =>
    cases s.signer with
    | none => simp
    | some signer => cases signer.supports s.alg <;> simp

theorem JarmEncryption.refusal?_eq_none {r : JarmEncryption} : r.refusal? wallet = none ↔
    wallet.encrypts r.alg r.enc = true ∧ (r.keys.usable? r.alg).isSome = true := by
  unfold JarmEncryption.refusal?
  cases wallet.encrypts r.alg r.enc with
  | false => simp
  | true => cases (r.keys.usable? r.alg).isSome <;> simp

theorem JarmRequirement.validate_eq_ok {r : JarmRequirement} :
    r.validate wallet = .ok () ↔ r.refusal? wallet = none := by
  unfold JarmRequirement.validate
  cases r.refusal? wallet <;> simp

theorem JarmRequirement.refusal?_signedAndEncrypted {s : JarmSigning} {r : JarmEncryption} :
    (signedAndEncrypted s r).refusal? wallet = none ↔
      s.refusal? wallet = none ∧ r.refusal? wallet = none := by
  simp [JarmRequirement.refusal?, Option.or_eq_none_iff]

/-! ### What is agreed on -/

/-- How a protection signs, if it does. -/
def JarmRequirement.signing? : JarmRequirement → Option JarmSigning
  | signed s | signedAndEncrypted s _ => some s
  | encrypted _ => none

namespace ClientMetadata

variable {m : ClientMetadata} {mode : ResponseMode}

theorem signingWith_ok {alg : JwsAlgorithm} {s : JarmSigning}
    (h : signingWith alg wallet = .ok s) : s.refusal? wallet = none := by
  unfold signingWith at h
  split at h
  · cases h
  · dsimp only at h
    split at h
    · cases h
    · next hs => cases h; exact hs

theorem signing_ok {s : JarmSigning} (h : m.signing wallet = .ok (some s)) :
    s.refusal? wallet = none := by
  unfold signing at h
  split at h
  · cases h
  · obtain ⟨alg, -, h⟩ := bind_eq_ok.mp h
    obtain ⟨s', hs, h⟩ := bind_eq_ok.mp h
    cases h
    exact signingWith_ok hs

theorem encryption_ok {r : JarmEncryption} (h : m.encryption wallet = .ok (some r)) :
    r.refusal? wallet = none := by
  unfold encryption at h
  split at h
  · split_ifs at h
    cases h
  · obtain ⟨alg, -, h⟩ := bind_eq_ok.mp h
    obtain ⟨enc, -, h⟩ := bind_eq_ok.mp h
    obtain ⟨keys, -, h⟩ := bind_eq_ok.mp h
    dsimp only at h
    split at h
    · cases h
    · next hr => cases h; exact hr

/-- **What is agreed on is provided**, and something is agreed on exactly when the mode asks for
protection. -/
theorem negotiate_ok {jarm : Option JarmRequirement} (h : m.negotiate mode wallet = .ok jarm) :
    jarm.isSome = mode.isProtected ∧ ∀ r ∈ jarm, r.validate wallet = .ok () := by
  unfold negotiate at h
  split_ifs at h with hmode
  · obtain ⟨s, hs, h⟩ := bind_eq_ok.mp h
    obtain ⟨r, hr, h⟩ := bind_eq_ok.mp h
    have hjarm : ∃ j, jarm = some j ∧ j.refusal? wallet = none := by
      cases s with
      | some s =>
        have hs := signing_ok hs
        cases r with
        | some r =>
          have hr := encryption_ok hr
          cases h
          exact ⟨_, rfl, by simp [JarmRequirement.refusal?, hs, hr]⟩
        | none => cases h; exact ⟨_, rfl, hs⟩
      | none =>
        cases r with
        | some r => cases h; exact ⟨_, rfl, encryption_ok hr⟩
        | none =>
          obtain ⟨s, hs, h⟩ := bind_eq_ok.mp h
          cases h
          exact ⟨_, rfl, signingWith_ok hs⟩
    obtain ⟨j, rfl, hj⟩ := hjarm
    refine ⟨hmode.symm, fun r hr => ?_⟩
    cases hr
    exact JarmRequirement.validate_eq_ok.mpr hj
  · cases h
    exact ⟨by simpa using hmode, by simp⟩

end ClientMetadata

/-! ### What is read -/

namespace Request

variable {j : Json} {r : Request}

theorem negotiate_of_ofKind {kind : QueryKind} (h : ofKind kind j wallet = .ok r) :
    ∃ m : ClientMetadata, m.negotiate r.mode wallet = .ok r.jarm := by
  obtain ⟨clientId, -, h⟩ := bind_eq_ok.mp h
  obtain ⟨state, -, h⟩ := bind_eq_ok.mp h
  obtain ⟨nonce, -, h⟩ := bind_eq_ok.mp h
  obtain ⟨mode, -, h⟩ := bind_eq_ok.mp h
  obtain ⟨metadata, -, h⟩ := bind_eq_ok.mp h
  obtain ⟨jarm, hjarm, h⟩ := bind_eq_ok.mp h
  obtain ⟨query, -, h⟩ := bind_eq_ok.mp h
  cases h
  unfold agree at hjarm
  split at hjarm
  · next hn => cases hjarm; exact ⟨metadata, hn⟩
  · cases hjarm

/-- The protection of a request that is read was agreed on. -/
theorem negotiate_of_ofJson (h : ofJson j wallet = .ok r) :
    ∃ m : ClientMetadata, m.negotiate r.mode wallet = .ok r.jarm := by
  unfold ofJson at h
  split_ifs at h with hobj
  · obtain ⟨type, -, h⟩ := bind_eq_ok.mp h
    split at h
    · exact negotiate_of_ofKind h
    · cases h

/-- **A request that is read carries an accepted protection exactly when its mode asks for one.** -/
theorem ofJson_ok (h : ofJson j wallet = .ok r) :
    r.jarm.isSome = r.mode.isProtected ∧ ∀ jarm ∈ r.jarm, jarm.validate wallet = .ok () :=
  let ⟨_, hn⟩ := negotiate_of_ofJson h
  ClientMetadata.negotiate_ok hn

end Request
end WalletResponder
