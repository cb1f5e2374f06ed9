import WalletResponder.Crypto.Rsa.Basic

/-!
# RSA signatures

A signature is the private power of a block that holds the hash of the message. There are two
layouts. In the first the block is determined by the hash: a row of `0xff` bytes and the hash with
its name (`RsaBlock.fixed?`). In the second it depends on a random salt as long as the hash, which
the reader finds in the block (`RsaBlock.salted?`).

Checking a signature lays out the block again and compares, in both cases.
-/

namespace WalletResponder
namespace RsaBlock

/-- The name of a hash function, as it stands before the hash. -/
def hashName : Hash → Bytes
  | .sha1 =>
    [0x30, 0x21, 0x30, 0x09, 0x06, 0x05, 0x2b, 0x0e, 0x03, 0x02, 0x1a, 0x05, 0x00, 0x04, 0x14]
  | .sha256 =>
    [0x30, 0x31, 0x30, 0x0d, 0x06, 0x09, 0x60, 0x86, 0x48, 0x01, 0x65, 0x03, 0x04, 0x02, 0x01, 0x05,
      0x00, 0x04, 0x20]
  | .sha384 =>
    [0x30, 0x41, 0x30, 0x0d, 0x06, 0x09, 0x60, 0x86, 0x48, 0x01, 0x65, 0x03, 0x04, 0x02, 0x02, 0x05,
      0x00, 0x04, 0x30]
  | .sha512 =>
    [0x30, 0x51, 0x30, 0x0d, 0x06, 0x09, 0x60, 0x86, 0x48, 0x01, 0x65, 0x03, 0x04, 0x02, 0x03, 0x05,
      0x00, 0x04, 0x40]

/-- The block of `size` bytes for a hash; there are at least eight `0xff` bytes in it. -/
def fixed? (h : Hash) (size : Nat) (digest : Bytes) : Option Bytes :=
  let named := hashName h ++ digest
  if named.length + 11 ≤ size then
    some (0 :: 1 :: (List.replicate (size - named.length - 3) 0xff ++ 0 :: named))
  else none

/-- The upper bits of the first byte that a block for a modulus of `bits` bits leaves zero. -/
def topMask (bits : Nat) : UInt8 := UInt8.ofNat (0xff >>> ((8 - (bits - 1) % 8) % 8))

/-- The block for a hash and a salt. It has as many bytes as one bit less than the modulus needs,
and a zero byte in front where the modulus has one more. -/
def salted? (h : Hash) (bits : Nat) (digest salt : Bytes) : Option Bytes :=
  let size := (bits + 6) / 8
  if h.size + salt.length + 2 ≤ size then
    let seed := h.digest (List.replicate 8 0 ++ digest ++ salt)
    let data := List.replicate (size - salt.length - h.size - 2) 0 ++ 1 :: salt
    match Bytes.xor data (h.mask seed data.length) with
    | [] => none
    | first :: rest =>
      some (List.replicate ((bits + 7) / 8 - size) 0 ++
        (first &&& topMask bits) :: rest ++ seed ++ [0xbc])
  else none

/-- The salt in a block: the end of the data part. -/
def salt (h : Hash) (bits : Nat) (block : Bytes) : Bytes :=
  let size := (bits + 6) / 8
  let body := block.drop (block.length - size)
  let masked := body.take (size - h.size - 1)
  let seed := (body.drop (size - h.size - 1)).take h.size
  (Bytes.xor masked (h.mask seed masked.length)).drop (masked.length - h.size)

end RsaBlock

namespace RsaKey

/-- Signs with the fixed layout. -/
def signFixed? (k : RsaKey) (h : Hash) (message : Bytes) : Option Bytes :=
  (RsaBlock.fixed? h k.size (h.digest message)).bind k.lowerBytes?

/-- Checks a signature with the fixed layout. -/
def verifyFixed (k : RsaKey) (h : Hash) (message signature : Bytes) : Bool :=
  match RsaBlock.fixed? h k.size (h.digest message) with
  | none => false
  | some block => signature.length == k.size && k.raiseBytes? signature == some block

/-- Signs with the salted layout. -/
def signSalted? (k : RsaKey) (h : Hash) (message salt : Bytes) : Option Bytes :=
  (RsaBlock.salted? h (bitLength k.modulus) (h.digest message) salt).bind k.lowerBytes?

/-- Checks a signature with the salted layout. -/
def verifySalted (k : RsaKey) (h : Hash) (message signature : Bytes) : Bool :=
  match k.raiseBytes? signature with
  | none => false
  | some block =>
    let bits := bitLength k.modulus
    RsaBlock.salted? h bits (h.digest message) (RsaBlock.salt h bits block) == some block

end RsaKey
end WalletResponder
