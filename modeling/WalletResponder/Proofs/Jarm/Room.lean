import WalletResponder.Proofs.Jarm.Draws
import WalletResponder.Proofs.Jose.PublicKeys
import WalletResponder.Proofs.Key.Files
import WalletResponder.Proofs.Response.Texts
import WalletResponder.Proofs.Wallet.Overlay

/-!
# Room in the keys

Accepting a protection looks at names, at the type of the verifier's keys and at what the signer's
key serves. It does not look at sizes: the block of a signature has to fit in the modulus of the
signer's key, and a content key in that of the verifier's. For a wallet whose configuration was read
this is all that is left to go wrong (`JarmRequirement.exists_token_iff_hasRoom`), and it does: the
protection with the key of `shortKeySet` is accepted and gets no token.
-/

namespace WalletResponder

open Json

/-! ### Signing -/

/-- The key has room for the signatures of an algorithm, if it serves that. -/
def Key.HasRoom (alg : JwsAlgorithm) : Key → Prop
  | rsa k => k.CanLower ∧ k.HasRoom alg
  | ec k => ∀ secret ∈ k.secret, CurveKey.fits k.group secret = true
  | _ => True

theorem Key.canSign_iff_hasRoom {k : Key} {alg : JwsAlgorithm} (hprivate : k.IsPrivate)
    (hsupports : k.supports alg = .ok true) : k.CanSign alg ↔ k.HasRoom alg := by
  cases k with
  | rsa k => exact Iff.rfl
  | ec k =>
    obtain ⟨secret, hsecret⟩ := Option.isSome_iff_exists.mp hprivate
    simp [CanSign, HasRoom, hsecret]
  | ed25519 k => exact iff_of_true hprivate trivial
  | _ => cases alg <;> cases hsupports

/-- The signer's key has room for the signature. -/
def JarmSigning.HasRoom (s : JarmSigning) : Prop :=
  ∀ signer ∈ s.signer, signer.key.HasRoom s.alg

variable {files : Files} {config : WalletConfig}

/-- The wallet's signer signs if its key has room. -/
theorem JarmSigning.isPossible_iff_hasRoom (hconfig : config.IsRead files) {s : JarmSigning}
    (hsigner : s.signer = config.jarm.signing.map SigningConfig.signer)
    (hvalid : s.refusal? config.jarm = none) : s.IsPossible ↔ s.HasRoom := by
  obtain ⟨-, signer, hsome, hsupports⟩ := JarmSigning.refusal?_eq_none.mp hvalid
  rw [hsome] at hsigner
  obtain ⟨c, hc, rfl⟩ := Option.map_eq_some_iff.mp hsigner.symm
  obtain ⟨path, key, handle, keyId, hkey, hmade⟩ := hconfig.signer_ofFile c hc
  obtain ⟨hsame, -, hserves⟩ := Signer.supports_of_ofKey hmade hsupports
  have hprivate : c.signer.key.IsPrivate := by
    rw [← Option.some.inj hsame]
    unfold Files.key at hkey
    split at hkey
    · exact Key.isPrivate_of_ofFile hkey
    · exact nomatch hkey
  have hid : Utf8.valid c.signer.keyId = true := hconfig.isWritable.keyId c hc
  have hcan := Key.canSign_iff_hasRoom hprivate hserves
  simp [IsPossible, HasRoom, hsome, hid, hcan]

/-! ### Encrypting -/

/-- The selected key has room for a content key, if it is an RSA key. -/
def JarmEncryption.HasRoom (r : JarmEncryption) : Prop :=
  ∀ recipient k, r.keys.select r.alg = .ok recipient → recipient.publicKey = .ok (.rsa k) →
    k.CanRaise ∧ ∃ h, Oaep.hash? r.alg = some h ∧ r.enc.keySize + 2 * h.size + 2 ≤ k.size

/-- A key set was read from a text. -/
def JwkSet.IsRead (s : JwkSet) : Prop :=
  ∃ text j, Json.parse? text = some j ∧ ofJson j = .ok s

theorem Jwk.isText_of_ofJson {j : Json} {k : Jwk} (hj : j.isText = true) (h : ofJson j = .ok k) :
    k.toJson.isText = true := by
  unfold ofJson at h
  split at h
  case h_2 => cases h
  split at h
  case isFalse => cases h
  split at h
  · cases h
  · cases h
    rw [toJson, isText, membersAreText_iff]
    intro m hm
    exact (membersAreText_iff _).mp hj m (List.mem_filter.mp hm).1

theorem JwkSet.isText_of_readAll : ∀ {items : List Json} {ks : List Jwk},
    areText items = true → readAll items = .ok ks → ∀ k ∈ ks, k.toJson.isText = true
  | [], ks, _, h => by
    cases h
    exact fun _ h => nomatch h
  | j :: rest, ks, hitems, h => by
    rw [areText, Bool.and_eq_true] at hitems
    obtain ⟨k, hk, h⟩ := bind_eq_ok.mp h
    obtain ⟨ks', hks, h⟩ := bind_eq_ok.mp h
    cases h
    intro k' hk'
    rcases List.mem_cons.mp hk' with rfl | hk'
    · exact Jwk.isText_of_ofJson hitems.1 hk
    · exact isText_of_readAll hitems.2 hks k' hk'

/-- The keys of a set that was read can be written. -/
theorem JwkSet.IsRead.isText {s : JwkSet} (h : s.IsRead) :
    ∀ k ∈ s.keys, k.toJson.isText = true := by
  obtain ⟨text, j, hparse, h⟩ := h
  have hj := Json.isText_of_parse? hparse
  unfold ofJson at h
  split at h
  · split at h
    · next items hitems =>
      obtain ⟨ks, hks, rfl⟩ := map_eq_ok.mp h
      exact isText_of_readAll (isText_of_find? hj hitems) hks
    · cases h
  · cases h

/-- A content key can be sent to the selected key if that has room. On a curve there is always room.
-/
theorem JarmEncryption.isPossible_iff_hasRoom {r : JarmEncryption} (hkeys : r.keys.IsRead)
    (hvalid : r.refusal? config.jarm = none) : r.IsPossible ↔ r.HasRoom := by
  obtain ⟨-, husable⟩ := JarmEncryption.refusal?_eq_none.mp hvalid
  obtain ⟨recipient, hselect⟩ := JwkSet.select_of_usable husable
  obtain ⟨hmem, key, hkey, hfamily⟩ := JwkSet.select_ok hselect
  have hid : ∀ id ∈ recipient.keyId?, Utf8.valid id = true := by
    intro id hid
    obtain ⟨v, hv, hid⟩ := Option.bind_eq_some_iff.mp hid
    have hv := isText_of_find? (hkeys.isText recipient hmem) hv
    cases v <;> cases hid
    exact hv
  have hpossible : r.IsPossible ↔ Jwe.CanSend r.alg r.enc key := by
    constructor
    · rintro ⟨recipient', key', hselect', hkey', -, hcan⟩
      cases hselect.symm.trans hselect'
      cases hkey.symm.trans hkey'
      exact hcan
    · exact fun hcan => ⟨recipient, key, hselect, hkey, hid, hcan⟩
  have hroom : r.HasRoom ↔ ∀ k, key = .rsa k → k.CanRaise ∧
      ∃ h, Oaep.hash? r.alg = some h ∧ r.enc.keySize + 2 * h.size + 2 ≤ k.size := by
    constructor
    · rintro h k rfl
      exact h recipient k hselect hkey
    · intro h recipient' k hselect' hkey'
      cases hselect.symm.trans hselect'
      exact h k (Except.ok.inj (hkey.symm.trans hkey'))
  rw [hpossible, hroom]
  cases key with
  | rsa k =>
    have hrsa : r.alg.family = .rsa := (Option.some.inj hfamily).symm
    simp [Jwe.CanSend, hrsa]
  | ec k =>
    have hcurve : r.alg.family = .ellipticCurve := (Option.some.inj hfamily).symm
    exact iff_of_true ⟨hcurve, Jwk.namedCurve_of_publicKey hkey⟩ fun _ h => nomatch h
  | _ => exact nomatch hfamily

/-! ### Both -/

namespace JarmRequirement

/-- How a protection encrypts, if it does. -/
def encryption? : JarmRequirement → Option JarmEncryption
  | encrypted r | signedAndEncrypted _ r => some r
  | signed _ => none

/-- The keys of a protection have room for what is made with them. -/
def HasRoom : JarmRequirement → Prop
  | signed s => s.HasRoom
  | encrypted r => r.HasRoom
  | signedAndEncrypted s r => s.HasRoom ∧ r.HasRoom

theorem isPossible_iff_hasRoom (hconfig : config.IsRead files) {r : JarmRequirement}
    (hsigner : ∀ s ∈ r.signing?, s.signer = config.jarm.signing.map SigningConfig.signer)
    (hkeys : ∀ t ∈ r.encryption?, t.keys.IsRead) (hvalid : r.refusal? config.jarm = none) :
    r.IsPossible ↔ r.HasRoom := by
  cases r with
  | signed s => exact JarmSigning.isPossible_iff_hasRoom hconfig (hsigner s rfl) hvalid
  | encrypted r => exact JarmEncryption.isPossible_iff_hasRoom (hkeys r rfl) hvalid
  | signedAndEncrypted s r =>
    obtain ⟨hs, hr⟩ := refusal?_signedAndEncrypted.mp hvalid
    exact and_congr (JarmSigning.isPossible_iff_hasRoom hconfig (hsigner s rfl) hs)
      (JarmEncryption.isPossible_iff_hasRoom (hkeys r rfl) hr)

/-- **An accepted protection gives a token exactly if its keys have room.** The configuration and
the key set were read, the signer is the wallet's, and the payload is text. -/
theorem exists_token_iff_hasRoom (hconfig : config.IsRead files) {r : JarmRequirement}
    (hsigner : ∀ s ∈ r.signing?, s.signer = config.jarm.signing.map SigningConfig.signer)
    (hkeys : ∀ t ∈ r.encryption?, t.keys.IsRead) (hvalid : r.validate config.jarm = .ok ())
    {p : Payload} (hp : p.IsText) (now : Int) {e : Entropy} (hworks : r.WorksWith e) :
    (∃ token, r.token config now p e = .ok token) ↔ r.HasRoom := by
  have hnone := validate_eq_ok.mp hvalid
  have hwritable := hconfig.isWritable
  have hclaims : (JarmClaims.ofPayload p config.issuer now config.cancelled).toJson.isText = true :=
    (JarmClaims.isText_ofPayload p _ _ _).mpr ⟨hp, hwritable.issuer, fun _ => hwritable.cancelled⟩
  rw [exists_token hworks, ← isPossible_iff_hasRoom hconfig hsigner hkeys hnone]
  simp [hnone, hclaims]

end JarmRequirement

/-! ### A key that is too short -/

/-- Whether the key of a set that is selected for an algorithm is an RSA key of so many bytes. -/
def JwkSet.selectsRsa (s : JwkSet) (alg : JweAlgorithm) (size : Nat) : Bool :=
  match s.usable? alg with
  | none => false
  | some recipient =>
    match recipient.publicKey with
    | .ok (.rsa k) => k.size == size && k.hasUsableExponent && k.modulus % 2 == 1
    | _ => false

theorem JwkSet.select_of_selectsRsa {s : JwkSet} {alg : JweAlgorithm} {size : Nat}
    (h : s.selectsRsa alg size = true) : ∃ recipient k, s.select alg = .ok recipient ∧
      recipient.publicKey = .ok (.rsa k) ∧ k.size = size ∧ k.CanRaise := by
  unfold selectsRsa at h
  split at h
  · exact nomatch h
  next recipient hrecipient =>
  split at h
  · next k hk =>
    simp only [Bool.and_eq_true, beq_iff_eq] at h
    obtain ⟨⟨hsize, hexponent⟩, hodd⟩ := h
    exact ⟨recipient, k, by rw [select, hrecipient], hk, hsize, hexponent, hodd⟩
  · exact nomatch h

/-- A set with an RSA key of 1024 bits. -/
def shortKeySet : JwkSet := ⟨[⟨[(utf8 "e", .text "AQAB"), (utf8 "kty", .text "RSA"),
  (utf8 "n", .text ("0SqckGPKhgo2zD8SOfQ0Uf8ZuwZ7t3R48vv_UirTq9hrbh4OMpa4h9Mh1wwQ" ++
    "R7yYv1nXoLRdGTxhaaWVwLzG3Ihkx3vmxsce5gc43HbU5js2LfDUStZCkWJI" ++
    "dYDDKBqHe1lDY5jADRUH-YttQSpQw2Fug3O2NsmkqLJ7bhG8Y00"))]⟩]⟩

theorem selectsRsa_shortKeySet : shortKeySet.selectsRsa .rsaOaep256 128 = true := by decide +kernel

/-- The configuration of a wallet that encrypts for RSA keys, with long content keys and with short
ones. -/
def encryptingText : Bytes :=
  utf8 "\x7b\"jarm\":\x7b\"encryption\":\x7b\"algorithms\":[\"RSA-OAEP-256\"]," ++
    utf8 "\"methods\":[\"A256CBC-HS512\",\"A128GCM\"]\x7d\x7d\x7d"

/-- That configuration as it is read. -/
def encryptingConfig : WalletConfig :=
  { WalletConfig.standard with jarm := ⟨none, some ⟨[.rsaOaep256], [.a256cbcHs512, .a128gcm]⟩⟩ }

theorem load_encryptingText :
    WalletConfig.load (fun _ => none) (some encryptingText) = .ok encryptingConfig := rfl

theorem validate_shortKeySet {enc : ContentEncryption}
    (henc : encryptingConfig.jarm.encrypts .rsaOaep256 enc = true) :
    (JarmRequirement.encrypted ⟨.rsaOaep256, enc, shortKeySet⟩).validate encryptingConfig.jarm =
      .ok () := by
  have husable : (shortKeySet.usable? .rsaOaep256).isSome = true := by decide +kernel
  exact JarmRequirement.validate_eq_ok.mpr (JarmEncryption.refusal?_eq_none.mpr ⟨henc, husable⟩)

theorem worksWith_shortKeySet (enc : ContentEncryption) (e : Entropy) :
    (JarmRequirement.encrypted ⟨.rsaOaep256, enc, shortKeySet⟩).WorksWith e := by
  intro recipient key hselect hkey c hc
  obtain ⟨recipient', k, hselect', hkey', -⟩ := JwkSet.select_of_selectsRsa selectsRsa_shortKeySet
  cases hselect.symm.trans hselect'
  cases hkey.symm.trans hkey'
  exact nomatch hc

/-- **What is accepted may get no token.** A content key of 64 bytes does not fit in a key of 1024
bits next to two hashes of 32 bytes, whatever is said, when, and whatever is drawn. -/
theorem accepted_without_token :
    WalletConfig.load (fun _ => none) (some encryptingText) = .ok encryptingConfig ∧
    (JarmRequirement.encrypted ⟨.rsaOaep256, .a256cbcHs512, shortKeySet⟩).validate
      encryptingConfig.jarm = .ok () ∧
    ∀ (now : Int) (p : Payload) (e : Entropy) (token : Bytes),
      (JarmRequirement.encrypted ⟨.rsaOaep256, .a256cbcHs512, shortKeySet⟩).token
        encryptingConfig now p e ≠ .ok token := by
  refine ⟨load_encryptingText, validate_shortKeySet rfl, fun now p e token h => ?_⟩
  obtain ⟨-, -, recipient, key, hselect, hkey, -, hcan⟩ :=
    (JarmRequirement.exists_token (worksWith_shortKeySet _ e) now p).mp ⟨token, h⟩
  obtain ⟨recipient', k, hselect', hkey', hsize, -⟩ :=
    JwkSet.select_of_selectsRsa selectsRsa_shortKeySet
  cases hselect.symm.trans hselect'
  cases hkey.symm.trans hkey'
  obtain ⟨-, -, hash, hhash, hfits⟩ := hcan
  cases hhash
  rw [hsize] at hfits
  exact absurd hfits (by decide)

/-! ### A key that is long enough for less -/

theorem isRead_encryptingConfig : encryptingConfig.IsRead fun _ => none := by
  obtain ⟨j, hparse, hover⟩ := bind_eq_ok.mp load_encryptingText
  have hparse : Json.parse? encryptingText = some j := by
    have hparse := ofJson_eq_ok.mp hparse
    unfold Json.parse at hparse
    split at hparse
    · next h =>
      cases hparse
      exact h
    · exact nomatch hparse
  exact .overlay .standard hparse hover

theorem isRead_shortKeySet : shortKeySet.IsRead := by
  have hplain : shortKeySet.toJson.IsPlain := by
    simp +decide [shortKeySet, JwkSet.toJson, Jwk.toJson, IsPlain, ArePlain, MembersArePlain,
      InOrder, Json.text]
  obtain ⟨text, htext⟩ := exists_dump.mpr (show shortKeySet.toJson.isText = true by decide +kernel)
  exact ⟨text, _, Json.parse?_dump hplain htext, rfl⟩

/-- A content key of 16 bytes fits in the same key, and its protection gives a token. -/
theorem exists_token_shortKeySet : ∃ token,
    (JarmRequirement.encrypted ⟨.rsaOaep256, .a128gcm, shortKeySet⟩).token encryptingConfig
      1700000000 ⟨.idToken (utf8 "t"), none, utf8 "verifier"⟩ (fun _ => 0) = .ok token := by
  have hp : Payload.IsText ⟨.idToken (utf8 "t"), none, utf8 "verifier"⟩ :=
    ⟨show Utf8.valid (utf8 "t") = true by decide, fun _ h => (by cases h), by decide⟩
  refine (JarmRequirement.exists_token_iff_hasRoom isRead_encryptingConfig ?_ ?_
    (validate_shortKeySet rfl) hp 1700000000 (worksWith_shortKeySet _ _)).mpr ?_
  · intro s hs
    cases hs
  · rintro _ ⟨⟩
    exact isRead_shortKeySet
  · intro recipient k hselect hkey
    obtain ⟨recipient', k', hselect', hkey', hsize, hcan⟩ :=
      JwkSet.select_of_selectsRsa selectsRsa_shortKeySet
    cases hselect.symm.trans hselect'
    cases hkey.symm.trans hkey'
    exact ⟨hcan, .sha256, rfl, by rw [hsize]; decide⟩

end WalletResponder
