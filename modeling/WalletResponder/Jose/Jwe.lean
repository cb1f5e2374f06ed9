import WalletResponder.Crypto.ConcatKdf
import WalletResponder.Crypto.ContentCipher
import WalletResponder.Crypto.KeyWrap
import WalletResponder.Jose.Jws

/-!
# Encrypted tokens

An encrypted token has five parts, joined by dots and each in base64url: the header, the encrypted
content key, the initial value, the ciphertext and the tag. The header is authenticated as it
stands.

There are three ways for a content key to reach the recipient. It is encrypted under an RSA key; or
it is what both sides derive from a shared secret; or what both sides derive wraps it. In the last
two the header carries the ephemeral key of the sender.
-/

namespace WalletResponder
namespace Jwe

/-- The name of the member with the ephemeral key. -/
def epk : Bytes := utf8 "epk"

/-- A content key, how it is sent, and the header that says so. -/
structure Sent where
  contentKey : Bytes
  encryptedKey : Bytes
  header : Json

/-- The key that both sides derive from a secret: the content key itself or the one that wraps it,
which the algorithm decides. -/
def derived (alg : JweAlgorithm) (enc : ContentEncryption) (secret apu apv : Bytes) :
    Except CryptoFault Bytes :=
  if alg.wrapSize = 0 then ConcatKdf.derive secret enc.name enc.keySize apu apv
  else ConcatKdf.derive secret alg.name alg.wrapSize apu apv

/-- Sends a content key to a point of a curve. -/
def sendByAgreement (alg : JweAlgorithm) (enc : ContentEncryption) (recipient : CurveKey)
    (header : Json) (e : Entropy) : Except Failure Sent := do
  let curve ← ofCrypto (Key.ec recipient).namedCurve
  let ephemeral := CurveKey.generate curve.group e.left
  let secret ← ofCrypto (ephemeral.agree recipient)
  let published ← Jwk.ofKey (.ec ephemeral) none
  let header ← ofJson (header.assign epk published.toJson)
  let key ← ofCrypto (derived alg enc secret [] [])
  if alg.wrapSize = 0 then pure ⟨key, [], header⟩
  else
    let contentKey := e.right.take enc.keySize
    let wrapped ← ofCrypto (KeyWrap.wrap key contentKey)
    pure ⟨contentKey, wrapped, header⟩

/-- Sends a content key to the holder of an RSA key. -/
def sendByTransport (alg : JweAlgorithm) (enc : ContentEncryption) (recipient : RsaKey)
    (header : Json) (e : Entropy) : Except Failure Sent := do
  let contentKey := e.left.take enc.keySize
  let encrypted ← ofCrypto (recipient.encrypt alg contentKey e.right)
  pure ⟨contentKey, encrypted, header⟩

/-- Sends a content key to a recipient, whose key must be of the kind that the algorithm needs. -/
def send (alg : JweAlgorithm) (enc : ContentEncryption) (recipient : Jwk) (key : Key)
    (header : Json) (e : Entropy) : Except Failure Sent :=
  match alg.family, key with
  | .ellipticCurve, .ec k => sendByAgreement alg enc k header e
  | .rsa, .rsa k => sendByTransport alg enc k header e
  | _, _ => .error (.jose (.wrongRecipient alg recipient.keyType))

/-- Whether a key is of the kind that an algorithm needs. -/
def fits (alg : JweAlgorithm) (key : Key) : Bool := key.family? == some alg.family

/-- The header with the names of the algorithms and of the recipient's key. -/
def name (alg : JweAlgorithm) (enc : ContentEncryption) (recipient : Jwk) (header : Json) :
    Except Json.Fault Json := do
  let header ← header.assign (utf8 "alg") (.str alg.name)
  let header ← header.assign (utf8 "enc") (.str enc.name)
  match recipient.keyId? with
  | some id => header.assign (utf8 "kid") (.str id)
  | none => pure header

/-- The five parts as a token; the header is written already. -/
def assemble (header encryptedKey iv ciphertext tag : Bytes) : Bytes :=
  Jws.join header (Jws.join (Base64Url.encode encryptedKey) (Jws.join (Base64Url.encode iv)
    (Jws.join (Base64Url.encode ciphertext) (Base64Url.encode tag))))

/-- The token for a text. -/
def encrypt (alg : JweAlgorithm) (enc : ContentEncryption) (recipient : Jwk) (text : Bytes)
    (extra : Json) (e : Entropy) : Except Failure Bytes := do
  let key ← ofJose recipient.publicKey
  if fits alg key then
    let header ← ofJson (name alg enc recipient extra)
    let sent ← send alg enc recipient key header e.left
    let header ← ofJson sent.header.dump
    let written := Base64Url.encode header
    let iv := e.right.take enc.ivSize
    let (ciphertext, tag) ← ofCrypto (enc.encrypt sent.contentKey iv written text)
    pure (assemble written sent.encryptedKey iv ciphertext tag)
  else throw (.jose (.wrongRecipient alg recipient.keyType))

/-- A result about a token that a cryptographic operation decides. -/
def decrypting {α : Type} : Except CryptoFault α → Except JoseFault α
  | .ok a => .ok a
  | .error fault => .error (.decryption fault)

/-- The bytes that a part writes. -/
def part (s : Bytes) : Except JoseFault Bytes :=
  match Base64Url.decode s with
  | .ok b => .ok b
  | .error fault => .error (.encoding fault)

/-- The text of a member of the header. -/
def headerText (header : Json) (name : Bytes) : Except JoseFault Bytes :=
  match header.find? name with
  | some (.str s) => .ok s
  | _ => .error (.headerMember name)

/-- The bytes that a member of the header writes; without it there are none. -/
def headerBytes (header : Json) (name : Bytes) : Except JoseFault Bytes :=
  match header.find? name with
  | none => .ok []
  | some (.str s) => part s
  | some _ => .error (.headerMemberNotText name)

/-- The header that a part writes. -/
def header (s : Bytes) : Except JoseFault Json := do
  match Json.parse? (← part s) with
  | some (.obj members) => pure (.obj members)
  | _ => throw .encryptedHeader

/-- The algorithms that a header names. -/
def algorithms (header : Json) : Except JoseFault (JweAlgorithm × ContentEncryption) := do
  match JweAlgorithm.named (← headerText header (utf8 "alg")) with
  | .error fault => throw (.unknownAlgorithm fault)
  | .ok alg =>
    match ContentEncryption.named (← headerText header (utf8 "enc")) with
    | .error fault => throw (.unknownAlgorithm fault)
    | .ok enc => pure (alg, enc)

/-- The ephemeral key in a header. -/
def ephemeral (header : Json) : Except JoseFault Key :=
  match header.find? epk with
  | none => .error .noEphemeralKey
  | some j => do
    let jwk ← Jwk.ofJson j
    match ← jwk.publicKey with
    | .ec k => pure (.ec k)
    | _ => throw .ephemeralKeyKind

/-- Receives a content key that a secret leads to. -/
def receiveByAgreement (alg : JweAlgorithm) (enc : ContentEncryption) (header : Json) (key : Key)
    (encryptedKey : Bytes) : Except JoseFault Bytes := do
  let peer ← ephemeral header
  let secret ← decrypting (key.agree peer)
  let apu ← headerBytes header (utf8 "apu")
  let apv ← headerBytes header (utf8 "apv")
  if alg.wrapSize = 0 then
    if encryptedKey.isEmpty then decrypting (derived alg enc secret apu apv)
    else throw .superfluousKey
  else
    let kek ← decrypting (derived alg enc secret apu apv)
    decrypting (KeyWrap.unwrap kek encryptedKey)

/-- Receives a content key. -/
def receive (alg : JweAlgorithm) (enc : ContentEncryption) (header : Json) (key : Key)
    (encryptedKey : Bytes) : Except JoseFault Bytes :=
  match alg.family with
  | .rsa => decrypting (key.decrypt alg encryptedKey)
  | .ellipticCurve => receiveByAgreement alg enc header key encryptedKey

/-- Decrypts the parts behind a header that is read already. -/
def decryptParts (alg : JweAlgorithm) (enc : ContentEncryption) (header : Json) (key : Key)
    (first second third fourth fifth : Bytes) : Except JoseFault Opened := do
  let encryptedKey ← part second
  let iv ← part third
  let ciphertext ← part fourth
  let tag ← part fifth
  let contentKey ← receive alg enc header key encryptedKey
  if contentKey.length = enc.keySize then
    let text ← decrypting (enc.decrypt contentKey iv first ciphertext tag)
    pure ⟨header, text⟩
  else throw (.contentKeySize enc)

/-- Decrypts a token. -/
def decrypt (token : Bytes) (key : Option Key) : Except JoseFault Opened :=
  match token.splitOn Jws.dot with
  | [first, second, third, fourth, fifth] => do
    let h ← header first
    let (alg, enc) ← algorithms h
    match key with
    | none => throw (.wrongPrivateKey alg)
    | some k =>
      if fits alg k then decryptParts alg enc h k first second third fourth fifth
      else throw (.wrongPrivateKey alg)
  | _ => .error .encryptedParts

end Jwe
end WalletResponder
