import WalletResponder.Crypto.Entropy
import WalletResponder.Crypto.Fault
import WalletResponder.Crypto.Rsa.Basic

/-!
# RSA encryption of a content key

A short message is laid out in a block of the size of the modulus (`Oaep.encode`): behind a zero
byte stand a seed and a data part, each masked by the other. The data part holds the hash of the
empty label, zeros, a one and the message. `Oaep.decode?` takes the masks off and finds the message
behind the one.
-/

namespace WalletResponder
namespace Oaep

/-- The data part for a block of `size` bytes. -/
def dataPart (h : Hash) (size : Nat) (message : Bytes) : Bytes :=
  h.digest [] ++ List.replicate (size - message.length - 2 * h.size - 2) 0 ++ 1 :: message

/-- The longest message that a block of `size` bytes holds, if it holds any. -/
def capacity? (h : Hash) (size : Nat) : Option Nat :=
  if 2 * h.size + 2 ≤ size then some (size - 2 * h.size - 2) else none

/-- The block for a message. -/
def encode (h : Hash) (size : Nat) (seed message : Bytes) : Bytes :=
  let data := dataPart h size message
  let masked := Bytes.xor data (h.mask seed data.length)
  0 :: (Bytes.xor seed (h.mask masked h.size) ++ masked)

/-- The message in a data part: what stands behind the first byte after the hash that is not zero,
if that byte is a one. -/
def message? (h : Hash) (data : Bytes) : Option Bytes :=
  if data.take h.size = h.digest [] then
    match (data.drop h.size).dropWhile (· == 0) with
    | 1 :: message => some message
    | _ => none
  else none

/-- The message in a block. -/
def decode? (h : Hash) (block : Bytes) : Option Bytes :=
  match block with
  | 0 :: rest =>
    let masked := rest.drop h.size
    let seed := Bytes.xor (rest.take h.size) (h.mask masked h.size)
    if (capacity? h block.length).isSome then
      message? h (Bytes.xor masked (h.mask seed masked.length))
    else none
  | _ => none

/-- The hash function that goes with a key management algorithm. -/
def hash? : JweAlgorithm → Option Hash
  | .rsaOaep => some .sha1
  | .rsaOaep256 => some .sha256
  | _ => none

end Oaep

namespace RsaKey

/-- Encrypts a message under the public half of a key. -/
def encrypt (k : RsaKey) (alg : JweAlgorithm) (message : Bytes) (e : Entropy) :
    Except CryptoFault Bytes :=
  match Oaep.hash? alg with
  | none => .error (.notOaep alg)
  | some h =>
    if k.size = 0 then .error .encryptionSize
    else
      match Oaep.capacity? h k.size with
      | none => .error .encryption
      | some most =>
        if message.length ≤ most then
          match k.raiseBytes? (Oaep.encode h k.size (e.take h.size) message) with
          | some c => .ok c
          | none => .error .encryption
        else .error .encryption

/-- The block in a ciphertext. The exponents of a key that do not belong together reveal none. -/
def block? (k : RsaKey) (ciphertext : Bytes) : Option Bytes :=
  (k.lowerBytes? ciphertext).filter fun b => k.undoes (Bytes.toNat ciphertext) (Bytes.toNat b)

/-- Decrypts a message with the private half of a key. -/
def decrypt (k : RsaKey) (alg : JweAlgorithm) (ciphertext : Bytes) : Except CryptoFault Bytes :=
  match Oaep.hash? alg with
  | none => .error (.notOaep alg)
  | some h =>
    match (k.block? ciphertext).bind (Oaep.decode? h) with
    | some message => .ok message
    | none => .error .decryption

end RsaKey
end WalletResponder
