import WalletResponder.Crypto.Sha1
import WalletResponder.Crypto.Sha2

/-!
# Hash functions and HMAC

The hash functions by name, with the sizes of their output and of the blocks they work on, and the
keyed hash built from any of them.
-/

namespace WalletResponder

/-- The hash functions in use. -/
inductive Hash where
  | sha1
  | sha256
  | sha384
  | sha512
  deriving DecidableEq, Repr

namespace Hash

/-- The hash of a message. -/
def digest : Hash → Bytes → Bytes
  | sha1 => Sha1.digest
  | sha256 => Sha256.digest
  | sha384 => Sha512.digest384
  | sha512 => Sha512.digest

/-- How many bytes a hash has. -/
def size : Hash → Nat
  | sha1 => 20
  | sha256 => 32
  | sha384 => 48
  | sha512 => 64

/-- How many bytes a block has. -/
def blockSize : Hash → Nat
  | sha1 | sha256 => 64
  | sha384 | sha512 => 128

/-- The key of HMAC as one block: hashed when it is longer, then filled with zeros. -/
def hmacKey (h : Hash) (key : Bytes) : Bytes :=
  let short := if key.length > h.blockSize then h.digest key else key
  short ++ List.replicate (h.blockSize - short.length) 0

/-- The keyed hash of a message. -/
def hmac (h : Hash) (key message : Bytes) : Bytes :=
  let k := h.hmacKey key
  h.digest (k.map (· ^^^ 0x5c) ++ h.digest (k.map (· ^^^ 0x36) ++ message))

end Hash
end WalletResponder
