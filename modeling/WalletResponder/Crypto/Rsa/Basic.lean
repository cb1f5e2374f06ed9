import WalletResponder.Crypto.Hash
import WalletResponder.Crypto.Modular

/-!
# RSA keys

A key is a modulus, a public exponent and, for whoever holds it, a private exponent. The two
operations are powers modulo the modulus: `RsaKey.raise?` with the public exponent and
`RsaKey.lower?` with the private one. Both work on numbers below an odd modulus, and the public one
refuses exponents that are out of proportion to the modulus.

Whoever knows two factors of the modulus computes the private power modulo each of them, and puts
the results together. The public power tells whether that came out right; if not, the private
exponent is used after all.
-/

namespace WalletResponder

/-- How many bits a number has. -/
def RsaKey.bitLength (v : Nat) : Nat := if v = 0 then 0 else Nat.log2 v + 1

/-- Two factors of a modulus, the private exponent modulo the predecessor of each, and the inverse
of the second factor modulo the first. -/
structure RsaFactors where
  (p q dp dq inverse : Nat)
  /-- Whether the modulus has no further factors. -/
  isPair : Bool
  deriving DecidableEq, Repr

/-- What the holder of an RSA key knows. -/
structure RsaSecret where
  exponent : Nat
  factors : Option RsaFactors
  deriving DecidableEq, Repr

/-- An RSA key, with its private part if that is known. -/
structure RsaKey where
  modulus : Nat
  publicExponent : Nat
  secret : Option RsaSecret
  deriving DecidableEq, Repr

namespace RsaFactors

/-- Whether one can compute modulo the factors. Both must be odd; and if there are no others and
these have the same length, the inverse must fit in as many words of sixty-four bits as they do. -/
def areUsable (f : RsaFactors) : Bool :=
  let bits := RsaKey.bitLength f.p
  f.p % 2 == 1 && f.q % 2 == 1 &&
    (!f.isPair || bits != RsaKey.bitLength f.q ||
      RsaKey.bitLength f.inverse ≤ (bits + 63) / 64 * 64)

/-- The number that is the power of `x` modulo both factors. -/
def power (f : RsaFactors) (x : Nat) : Nat :=
  let second := Modular.pow x f.dq f.q
  let difference := Modular.sub f.p (Modular.pow x f.dp f.p) (second % f.p)
  difference * f.inverse % f.p * f.q + second

end RsaFactors

namespace RsaKey

/-- How many bytes the modulus has. -/
def size (k : RsaKey) : Nat := Bytes.width k.modulus

/-- The key without its private part. -/
def publicHalf (k : RsaKey) : RsaKey := { k with secret := none }

/-- Whether the public exponent is in proportion to the modulus: smaller, and short when the modulus
is long. -/
def hasUsableExponent (k : RsaKey) : Bool :=
  bitLength k.modulus ≤ 16384 && k.publicExponent < k.modulus &&
    (bitLength k.modulus ≤ 3072 || bitLength k.publicExponent ≤ 64)

/-- The public operation. -/
def raise? (k : RsaKey) (x : Nat) : Option Nat :=
  if k.hasUsableExponent && k.modulus % 2 == 1 && x < k.modulus then
    some (Modular.pow x k.publicExponent k.modulus)
  else none

/-- Whether a number is the private power of another: the public power leads back. -/
def undoes (k : RsaKey) (x y : Nat) : Bool := Modular.pow y k.publicExponent k.modulus == x

/-- The private operation by way of the factors. -/
def lowerWith? (k : RsaKey) (d : Nat) (f : RsaFactors) (x : Nat) : Option Nat :=
  if f.areUsable then
    let y := f.power x
    some (if k.undoes x y then y else Modular.pow x d k.modulus)
  else none

/-- The private operation. -/
def lower? (k : RsaKey) (x : Nat) : Option Nat :=
  match k.secret with
  | none => none
  | some s =>
    if k.modulus % 2 == 1 && x < k.modulus then
      match s.factors with
      | none => some (Modular.pow x s.exponent k.modulus)
      | some f => k.lowerWith? s.exponent f x
    else none

/-- The public operation on bytes; the result has the size of the modulus. -/
def raiseBytes? (k : RsaKey) (b : Bytes) : Option Bytes :=
  if b.length ≤ k.size then (k.raise? (Bytes.toNat b)).map (Bytes.ofNat k.size) else none

/-- The private operation on bytes; the result has the size of the modulus. -/
def lowerBytes? (k : RsaKey) (b : Bytes) : Option Bytes :=
  if b.length ≤ k.size then (k.lower? (Bytes.toNat b)).map (Bytes.ofNat k.size) else none

end RsaKey

/-- The mask of `n` bytes that a seed expands to: the hashes of the seed and a counter. -/
def Hash.mask (h : Hash) (seed : Bytes) (n : Nat) : Bytes :=
  ((List.range ((n + h.size - 1) / h.size)).flatMap fun i =>
    h.digest (seed ++ Bytes.ofNat 4 i)).take n

end WalletResponder
