import WalletResponder.Crypto.Fault
import WalletResponder.Crypto.Hash

/-!
# Concatenation key derivation

A shared secret becomes a key: the hashes of a counter, the secret and the other information follow
each other until there are enough bytes. The other information names the algorithm, the two parties
and the length of the key, each text behind its own length, so that no two choices of them write the
same bytes.
-/

namespace WalletResponder.ConcatKdf

/-- A text behind its length in four bytes. -/
def framed (s : Bytes) : Bytes := Bytes.ofNat 4 s.length ++ s

/-- Algorithm, parties and length of the key in bits. -/
def otherInfo (algorithm apu apv : Bytes) (size : Nat) : Bytes :=
  framed algorithm ++ framed apu ++ framed apv ++ Bytes.ofNat 4 (8 * size)

/-- The hash with counter `i`. -/
def round (secret info : Bytes) (i : Nat) : Bytes :=
  Sha256.digest (Bytes.ofNat 4 i ++ secret ++ info)

/-- Derives a key of `size` bytes; neither the secret nor the key may be empty. -/
def derive (secret algorithm : Bytes) (size : Nat) (apu apv : Bytes) : Except CryptoFault Bytes :=
  if secret.isEmpty || size == 0 then .error .derivation
  else
    let info := otherInfo algorithm apu apv size
    .ok (((List.range ((size + 31) / 32)).flatMap fun i => round secret info (i + 1)).take size)

end WalletResponder.ConcatKdf
