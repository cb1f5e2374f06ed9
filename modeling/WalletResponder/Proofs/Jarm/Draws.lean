import WalletResponder.Proofs.Jarm.Opening
import WalletResponder.Proofs.Jose.Draws

/-!
# When a response gets its token

A response gets its token exactly if the wallet accepts the protection, the claims are text, and the
keys are up to it (`JarmRequirement.exists_token`). What is asked of the keys is
`JarmRequirement.IsPossible`: that a signature and a content key fit in them, which accepting a
protection does not look at.

Neither what is drawn nor what the claims say, as long as they are text, makes a difference. On the
curves, this is said of draws that make signatures and that meet the key of the verifier.
-/

namespace WalletResponder

open Json

/-- What a draw has to be for a response to be signed. -/
def JarmSigning.SignsWith (s : JarmSigning) (e : Entropy) : Prop :=
  ∀ signer ∈ s.signer, signer.key.SignsWith e

/-- What a draw has to be for a response to be encrypted. -/
def JarmEncryption.SendsWith (r : JarmEncryption) (e : Entropy) : Prop :=
  ∀ recipient key, r.keys.select r.alg = .ok recipient → recipient.publicKey = .ok key →
    Jwe.SendsWith key e.left

/-- What a draw has to be for a response to be protected. -/
def JarmRequirement.WorksWith : JarmRequirement → Entropy → Prop
  | signed s, e => s.SignsWith e
  | encrypted r, e => r.SendsWith e
  | signedAndEncrypted s r, e => s.SignsWith e.left ∧ r.SendsWith e.right

/-- The signer has an identifier that can be written, and its key signs. -/
def JarmSigning.IsPossible (s : JarmSigning) : Prop :=
  ∃ signer, s.signer = some signer ∧ Utf8.valid signer.keyId = true ∧ signer.key.CanSign s.alg

/-- The selected key has an identifier that can be written, if it has one, and a content key can be
sent to it. -/
def JarmEncryption.IsPossible (r : JarmEncryption) : Prop :=
  ∃ recipient key, r.keys.select r.alg = .ok recipient ∧ recipient.publicKey = .ok key ∧
    (∀ id ∈ recipient.keyId?, Utf8.valid id = true) ∧ Jwe.CanSend r.alg r.enc key

/-- The keys of a protection are up to it. -/
def JarmRequirement.IsPossible : JarmRequirement → Prop
  | signed s => s.IsPossible
  | encrypted r => r.IsPossible
  | signedAndEncrypted s r => s.IsPossible ∧ r.IsPossible

variable {wallet : JarmConfig} {config : WalletConfig} {e : Entropy}

theorem JarmSigning.exists_token {s : JarmSigning} (h : s.SignsWith e) (claims : JarmClaims) :
    (∃ token, s.token wallet claims e = .ok token) ↔
      s.refusal? wallet = none ∧ claims.toJson.isText = true ∧ s.IsPossible := by
  rw [JarmSigning.refusal?_eq_none, ← exists_dump]
  constructor
  · rintro ⟨token, htoken⟩
    obtain ⟨signer, text, hsigner, htext, hsign⟩ := JarmSigning.token_ok htoken
    obtain ⟨hid, hsupports, hcan⟩ := (Jws.exists_sign (h signer hsigner)).mp ⟨token, hsign⟩
    have hsigns : wallet.signs s.alg = true := by
      unfold JarmSigning.token at htoken
      by_contra hno
      rw [Bool.not_eq_true] at hno
      rw [hno] at htoken
      split at htoken
      · exact nomatch htoken
      · exact nomatch htoken
    exact ⟨⟨hsigns, signer, hsigner, hsupports⟩, ⟨text, htext⟩, signer, hsigner, hid, hcan⟩
  · rintro ⟨⟨hsigns, signer, hsigner, hsupports⟩, ⟨text, htext⟩, signer', hsigner', hid, hcan⟩
    cases hsigner.symm.trans hsigner'
    have hsome : wallet.signing.isNone = false := by
      unfold JarmConfig.signs at hsigns
      cases hs : wallet.signing with
      | none => rw [hs] at hsigns; exact nomatch hsigns
      | some config => rfl
    obtain ⟨token, htoken⟩ := (Jws.exists_sign (h signer hsigner)).mpr ⟨hid, hsupports, hcan⟩
    refine ⟨token, ?_⟩
    simp only [JarmSigning.token, hsome, hsigns, hsigner, hsupports, htext, bind, Except.bind,
      ofJson, Bool.not_true, Bool.false_eq_true, if_false, if_true]
    exact htoken

theorem JarmEncryption.exists_token {r : JarmEncryption} (h : r.SendsWith e)
    {members : List (Bytes × Json)} (hmembers : (obj members).isText = true)
    (hepk : (obj members).find? Jwe.epk = none) (text : Bytes) :
    (∃ token, r.token wallet text (.obj members) e = .ok token) ↔
      r.refusal? wallet = none ∧ r.IsPossible := by
  rw [JarmEncryption.refusal?_eq_none]
  constructor
  · rintro ⟨token, htoken⟩
    unfold JarmEncryption.token at htoken
    split at htoken
    · exact nomatch htoken
    split at htoken
    · exact nomatch htoken
    next hencrypts =>
    obtain ⟨recipient, hselect, hencrypt⟩ := bind_eq_ok.mp htoken
    obtain ⟨-, key, hkey, -⟩ := JwkSet.select_ok hselect
    obtain ⟨hcan, htext⟩ :=
      (Jwe.exists_encrypt hkey hepk (h recipient key hselect hkey)).mp ⟨token, hencrypt⟩
    refine ⟨⟨by simpa using hencrypts, ?_⟩, recipient, key, hselect, hkey,
      (Jwe.isText_named hmembers).mp htext, hcan⟩
    unfold JwkSet.select at hselect
    split at hselect
    · next hsome => rw [hsome]; rfl
    · exact nomatch hselect
  · rintro ⟨⟨hencrypts, -⟩, recipient, key, hselect, hkey, hid, hcan⟩
    have hsome : wallet.encryption.isNone = false := by
      unfold JarmConfig.encrypts at hencrypts
      cases hs : wallet.encryption with
      | none => rw [hs] at hencrypts; exact nomatch hencrypts
      | some config => rfl
    obtain ⟨token, htoken⟩ :
        ∃ token, Jwe.encrypt r.alg r.enc recipient text (.obj members) e = .ok token :=
      (Jwe.exists_encrypt hkey hepk (h recipient key hselect hkey)).mpr
        ⟨hcan, (Jwe.isText_named hmembers).mpr hid⟩
    refine ⟨token, ?_⟩
    simp only [JarmEncryption.token, hsome, hencrypts, hselect, bind, Except.bind, Bool.not_true,
      Bool.false_eq_true, if_false]
    exact htoken

/-- **When a response gets its token.** -/
theorem JarmRequirement.exists_token {r : JarmRequirement} (h : r.WorksWith e) (now : Int)
    (p : Payload) : (∃ token, r.token config now p e = .ok token) ↔
      r.refusal? config.jarm = none ∧
        (JarmClaims.ofPayload p config.issuer now config.cancelled).toJson.isText = true ∧
        r.IsPossible := by
  cases r with
  | signed s => exact JarmSigning.exists_token h _
  | encrypted r =>
    have htoken : ∀ text, (∃ token, r.token config.jarm text (.obj []) e = .ok token) ↔
        r.refusal? config.jarm = none ∧ r.IsPossible :=
      JarmEncryption.exists_token h rfl (find?_nil _)
    simp only [JarmRequirement.token, bind_eq_ok, ofJson_eq_ok, JarmRequirement.refusal?,
      JarmRequirement.IsPossible, ← exists_dump]
    constructor
    · rintro ⟨token, text, htext, hr⟩
      obtain ⟨hnone, hcan⟩ := (htoken text).mp ⟨token, hr⟩
      exact ⟨hnone, ⟨text, htext⟩, hcan⟩
    · rintro ⟨hnone, ⟨text, htext⟩, hcan⟩
      obtain ⟨token, hr⟩ := (htoken text).mpr ⟨hnone, hcan⟩
      exact ⟨token, text, htext, hr⟩
  | signedAndEncrypted s r =>
    have hinner : (∃ inner, s.token config.jarm
        (JarmClaims.ofPayload p config.issuer now config.cancelled) e.left = .ok inner) ↔ _ :=
      JarmSigning.exists_token h.1 _
    have houter : ∀ inner, (∃ token, r.token config.jarm inner nestedHeader e.right = .ok token) ↔
        r.refusal? config.jarm = none ∧ r.IsPossible :=
      JarmEncryption.exists_token h.2 (by decide) (by decide)
    rw [JarmRequirement.refusal?_signedAndEncrypted]
    simp only [JarmRequirement.token]
    constructor
    · rintro ⟨token, htoken⟩
      split at htoken
      · obtain ⟨inner, hs, hr⟩ := bind_eq_ok.mp htoken
        obtain ⟨hsnone, htext, hscan⟩ := hinner.mp ⟨inner, hs⟩
        obtain ⟨hrnone, hrcan⟩ := (houter inner).mp ⟨token, hr⟩
        exact ⟨⟨hsnone, hrnone⟩, htext, hscan, hrcan⟩
      · cases htoken
    · rintro ⟨⟨hsnone, hrnone⟩, htext, hscan, hrcan⟩
      obtain ⟨inner, hs⟩ := hinner.mpr ⟨hsnone, htext, hscan⟩
      obtain ⟨token, hr⟩ := (houter inner).mpr ⟨hrnone, hrcan⟩
      rw [if_pos (JarmEncryption.refusal?_eq_none.mp hrnone).1]
      exact ⟨token, bind_eq_ok.mpr ⟨inner, hs, hr⟩⟩

end WalletResponder
