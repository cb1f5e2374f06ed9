import WalletResponder.Crypto.Modular
import WalletResponder.Crypto.Sha2

/-!
# Ed25519

Signatures on the twisted curve `- x ^ 2 + y ^ 2 = 1 + d x ^ 2 y ^ 2` over the integers modulo
`2 ^ 255 - 19`. Numbers are written with the least significant byte first; a point is written as its
second coordinate with the parity of the first in the highest bit.

Signing draws nothing at random: the multiplier is a hash of the secret and the message. Checking
computes the first half of the signature anew from the second and compares the bytes.
-/

namespace WalletResponder

/-- An Ed25519 key: the bytes of its point, with the seed of its secret if that is known. -/
structure Ed25519Key where
  point : Bytes
  seed : Option Bytes
  deriving DecidableEq, Repr

namespace Ed25519

/-- The prime of the field. -/
def p : Nat := Nat.pow 2 255 - 19

/-- The order of the base point. -/
def order : Nat := Nat.pow 2 252 + 27742317777372353535851937790883648493

/-- The constant of the curve. -/
def d : Nat := 0x52036cee2b6ffe738cc740797779e89800700a4d4141d8ab75eb4dca135978a3

/-- A square root of minus one. -/
def rootOfMinusOne : Nat := 0x2b8324804fc1df0b2b4d00993dfbd7a72f431806ad2fe478c4ee1b274a0ea0b0

/-- A point `(x, y)` as `(X, Y, Z, T)` with `x = X / Z`, `y = Y / Z` and `x y = T / Z`. -/
structure Extended where
  (x y z t : Nat)
  deriving DecidableEq

/-- The neutral element. -/
def neutral : Extended := ⟨0, 1, 1, 0⟩

/-- The base point. -/
def base : Extended :=
  let x := 0x216936d3cd6e53fec0a4e231fdd6dc5c692cc7609525a7b2c9562d608f25d51a
  let y := 0x6666666666666666666666666666666666666666666666666666666666666658
  ⟨x, y, 1, x * y % p⟩

/-- The sum of two points. -/
def add (v w : Extended) : Extended :=
  let a := Modular.sub p v.y v.x * Modular.sub p w.y w.x % p
  let b := (v.y + v.x) * (w.y + w.x) % p
  let c := 2 * v.t * (d * w.t % p) % p
  let f := 2 * v.z * w.z % p
  let e := Modular.sub p b a
  let g := (f + c) % p
  let h := b + a
  let f := Modular.sub p f c
  ⟨e * f % p, g * h % p, f * g % p, e * h % p⟩

/-- The opposite of a point. -/
def negate (v : Extended) : Extended :=
  ⟨Modular.sub p 0 v.x, v.y, v.z, Modular.sub p 0 v.t⟩

/-- The multiple of `v` by the `n` lower bits of `k`, added to `2 ^ n` times `acc`. -/
def scaleFrom (k : Nat) (v : Extended) : Nat → Extended → Extended
  | 0, acc => acc
  | n + 1, acc =>
    let twice := add acc acc
    scaleFrom k v n (if k.testBit n then add twice v else twice)

/-- The multiple of a point. -/
def scale (k : Nat) (v : Extended) : Extended := scaleFrom k v (Nat.log2 k + 1) neutral

/-- The number that bytes write, least significant first. -/
def number (b : Bytes) : Nat := Bytes.toNat b.reverse

/-- The thirty-two bytes of a number, least significant first. -/
def bytes (v : Nat) : Bytes := (Bytes.ofNat 32 v).reverse

/-- The bytes of a point. -/
def encode (v : Extended) : Bytes :=
  let i := Modular.inversePrime p v.z
  bytes (v.y * i % p + v.x * i % p % 2 * Nat.pow 2 255)

/-- A root of `u / v`, of either sign. -/
def rootOfRatio? (u v : Nat) : Option Nat :=
  let v3 := v * v % p * v % p
  let x := u * v3 % p * Modular.pow (u * (v3 * v3 % p * v % p) % p) ((p - 5) / 8) p % p
  let square := v * (x * x % p) % p
  if square = u then some x
  else if (square + u) % p = 0 then some (x * rootOfMinusOne % p)
  else none

/-- The point that bytes write. The second coordinate is taken modulo the prime, and the parity of
a first coordinate of zero is not looked at. -/
def decode? (b : Bytes) : Option Extended :=
  let written := number b
  let y := written % Nat.pow 2 255 % p
  let y2 := y * y % p
  (rootOfRatio? (Modular.sub p y2 1) ((d * y2 + 1) % p)).map fun x =>
    let x := if x % 2 = written / Nat.pow 2 255 % 2 then x else Modular.sub p 0 x
    ⟨x, y, 1, x * y % p⟩

/-- The multiplier of a secret: the first half of the hash of its seed, with the three lowest bits
cleared and the highest bit of the order's range set. -/
def multiplier (seed : Bytes) : Nat :=
  number ((Sha512.digest seed).take 32) % Nat.pow 2 254 / 8 * 8 + Nat.pow 2 254

/-- The key of a seed of thirty-two bytes. -/
def ofSeed (seed : Bytes) : Ed25519Key := ⟨encode (scale (multiplier seed) base), some seed⟩

/-- What ties the first half of a signature to the key and the message. -/
def challenge (r point message : Bytes) : Nat :=
  number (Sha512.digest (r ++ point ++ message)) % order

end Ed25519

namespace Ed25519Key

open Ed25519

/-- The key without its seed. -/
def publicHalf (k : Ed25519Key) : Ed25519Key := { k with seed := none }

/-- Signs a message. -/
def sign? (key : Ed25519Key) (message : Bytes) : Option Bytes :=
  key.seed.map fun seed =>
    let k := number (Sha512.digest ((Sha512.digest seed).drop 32 ++ message)) % order
    let r := encode (scale k base)
    r ++ bytes ((k + challenge r key.point message * multiplier seed) % order)

/-- Checks a signature of sixty-four bytes. -/
def verify (key : Ed25519Key) (message signature : Bytes) : Bool :=
  let r := signature.take 32
  let s := number (signature.drop 32)
  match decode? key.point with
  | none => false
  | some a =>
    signature.length == 64 && s < order &&
      encode (add (scale (challenge r key.point message) (negate a)) (scale s base)) == r

end Ed25519Key
end WalletResponder
