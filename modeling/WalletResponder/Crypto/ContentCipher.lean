import WalletResponder.Crypto.Cbc
import WalletResponder.Crypto.Fault
import WalletResponder.Crypto.Gcm
import WalletResponder.Crypto.Hash

/-!
# Content encryption

The six methods that encrypt a text and authenticate it with additional data. Three are AES in
Galois/Counter mode. The other three join AES in cipher block chaining mode with a keyed hash: the
first half of the content key is the key of the hash, the second half that of the cipher, and the
tag is the first half of the hash of `macInput`.

**The tag comes first.** Decryption compares the tag before it looks at anything that the cipher
gives, so a padding is only ever checked under a tag that matches.
-/

namespace WalletResponder.ContentEncryption

/-- Whether the method is AES in Galois/Counter mode. -/
def isGcm : ContentEncryption → Bool
  | a128gcm | a192gcm | a256gcm => true
  | _ => false

/-- The size of the content key. -/
def keySize : ContentEncryption → Nat
  | a128gcm => 16
  | a192gcm => 24
  | a256gcm | a128cbcHs256 => 32
  | a192cbcHs384 => 48
  | a256cbcHs512 => 64

/-- The size of the initial value. -/
def ivSize (enc : ContentEncryption) : Nat := if enc.isGcm then 12 else 16

/-- The size of the tag. -/
def tagSize (enc : ContentEncryption) : Nat := if enc.isGcm then 16 else enc.keySize / 2

/-- The hash function of the methods with a keyed hash. -/
def hash : ContentEncryption → Hash
  | a192cbcHs384 => .sha384
  | a256cbcHs512 => .sha512
  | _ => .sha256

/-- What the keyed hash authenticates: additional data, initial value, ciphertext, and the length of
the additional data in bits. -/
def macInput (aad iv ciphertext : Bytes) : Bytes :=
  aad ++ iv ++ ciphertext ++ Bytes.ofNat 8 (8 * aad.length)

/-- The tag of the methods with a keyed hash. -/
def macTag (enc : ContentEncryption) (cek iv aad ciphertext : Bytes) : Bytes :=
  let half := enc.keySize / 2
  (enc.hash.hmac (cek.take half) (macInput aad iv ciphertext)).take half

/-- The round keys of the cipher inside the method. -/
def cipherKeys (enc : ContentEncryption) (cek : Bytes) : List Block :=
  Aes.roundKeys (if enc.isGcm then cek else cek.drop (enc.keySize / 2))

/-- Encrypts a text: ciphertext and tag. -/
def encrypt (enc : ContentEncryption) (cek iv aad text : Bytes) :
    Except CryptoFault (Bytes × Bytes) :=
  let keys := enc.cipherKeys cek
  if cek.length ≠ enc.keySize ∨ iv.length ≠ enc.ivSize then
    .error (if enc.isGcm then .gcmSizes else .cbcSizes)
  else if enc.isGcm then
    let ciphertext := Gcm.crypt keys iv text
    .ok (ciphertext, Gcm.tag keys iv aad ciphertext)
  else
    let ciphertext := Cbc.encrypt keys iv text
    .ok (ciphertext, enc.macTag cek iv aad ciphertext)

/-- Decrypts a ciphertext whose tag matches. -/
def decrypt (enc : ContentEncryption) (cek iv aad ciphertext tag : Bytes) :
    Except CryptoFault Bytes :=
  let keys := enc.cipherKeys cek
  if cek.length ≠ enc.keySize ∨ iv.length ≠ enc.ivSize ∨ tag.length ≠ enc.tagSize then
    .error (if enc.isGcm then .gcmSizesWithTag else .cbcSizesWithTag)
  else if enc.isGcm then
    if Gcm.tag keys iv aad ciphertext = tag then .ok (Gcm.crypt keys iv ciphertext)
    else .error .gcmTag
  else if enc.macTag cek iv aad ciphertext = tag then
    match Cbc.decrypt? keys iv ciphertext with
    | some text => .ok text
    | none => .error .cbcPadding
  else .error .cbcTag

end WalletResponder.ContentEncryption
