import WalletResponder.Crypto.Fault
import WalletResponder.Crypto.Modular

/-!
# Key agreement by a ladder

On two curves of the form `y ^ 2 = x ^ 3 + a x ^ 2 + x` a secret is agreed on with first coordinates
alone. A ladder carries the coordinates of two neighbouring multiples, each as a ratio, and doubles
one of them and adds both at each bit of the multiplier. Numbers are written with the least
significant byte first.
-/

namespace WalletResponder

/-- The curves for agreement by a ladder. -/
inductive LadderCurve where
  | x25519
  | x448
  deriving DecidableEq, Repr

namespace LadderCurve

/-- The prime of the field. -/
def p : LadderCurve → Nat
  | x25519 => Nat.pow 2 255 - 19
  | x448 => Nat.pow 2 448 - Nat.pow 2 224 - 1

/-- A quarter of `a - 2`. -/
def quarter : LadderCurve → Nat
  | x25519 => 121665
  | x448 => 39081

/-- The first coordinate of the base point. -/
def base : LadderCurve → Nat
  | x25519 => 9
  | x448 => 5

/-- How many bits a coordinate and a multiplier have. -/
def bits : LadderCurve → Nat
  | x25519 => 255
  | x448 => 448

/-- What every multiplier is divisible by. -/
def cofactor : LadderCurve → Nat
  | x25519 => 8
  | x448 => 4

/-- How many bytes a coordinate and a secret have. -/
def size (c : LadderCurve) : Nat := (c.bits + 7) / 8

/-- The number that bytes write, least significant first. -/
def number (b : Bytes) : Nat := Bytes.toNat b.reverse

/-- The multiplier of a secret: its highest bit is set, and it is divisible by the cofactor. -/
def multiplier (c : LadderCurve) (secret : Bytes) : Nat :=
  number secret % Nat.pow 2 (c.bits - 1) / c.cofactor * c.cofactor + Nat.pow 2 (c.bits - 1)

/-- One step of the ladder for the point with first coordinate `u`: the double of `v` and the sum
of `v` and `w`, whose difference is that point. -/
def step (c : LadderCurve) (u : Nat) (v w : Nat × Nat) : (Nat × Nat) × (Nat × Nat) :=
  let p := c.p
  let a := v.1 + v.2
  let b := Modular.sub p v.1 v.2
  let a2 := a * a % p
  let b2 := b * b % p
  let e := Modular.sub p a2 b2
  let da := Modular.sub p w.1 w.2 * a % p
  let cb := (w.1 + w.2) * b % p
  let sum := da + cb
  let difference := Modular.sub p da cb
  ((a2 * b2 % p, e * (a2 + c.quarter * e) % p),
    (sum * sum % p, u * (difference * difference % p) % p))

/-- The multiple of `v` by the bits of `k` that remain; `w` is the next multiple. -/
def climb (c : LadderCurve) (u k : Nat) : Nat → Nat × Nat → Nat × Nat → Nat × Nat
  | 0, v, _ => v
  | n + 1, v, w =>
    if k.testBit n then
      let (w, v) := c.step u w v
      climb c u k n v w
    else
      let (v, w) := c.step u v w
      climb c u k n v w

/-- The first coordinate of a multiple of the point with first coordinate `u`; zero stands for the
neutral element as well. -/
def scale (c : LadderCurve) (k u : Nat) : Nat :=
  let (x, z) := c.climb u k c.bits (1, 0) (u, 1)
  x * Modular.inversePrime c.p z % c.p

/-- The bytes of a coordinate. -/
def encode (c : LadderCurve) (u : Nat) : Bytes := (Bytes.ofNat c.size u).reverse

/-- The coordinate that bytes write; bits beyond those of the field do not count. -/
def decode (c : LadderCurve) (b : Bytes) : Nat := number b % Nat.pow 2 c.bits % c.p

end LadderCurve

/-- A key for agreement by a ladder: the bytes of its coordinate, with its secret if that is known.
-/
structure LadderKey where
  curve : LadderCurve
  point : Bytes
  secret : Option Bytes
  deriving DecidableEq, Repr

namespace LadderKey

/-- The key with a secret. -/
def ofSecret (c : LadderCurve) (secret : Bytes) : LadderKey :=
  ⟨c, c.encode (c.scale (c.multiplier secret) c.base), some secret⟩

/-- The key without its secret. -/
def publicHalf (k : LadderKey) : LadderKey := { k with secret := none }

/-- The secret that two keys on one curve share. -/
def agree (own peer : LadderKey) : Except CryptoFault Bytes :=
  if own.curve ≠ peer.curve then .error .agreementPeer
  else
    match own.secret with
    | none => .error .agreement
    | some secret =>
      let shared := own.curve.scale (own.curve.multiplier secret) (own.curve.decode peer.point)
      if shared = 0 then .error .agreement else .ok (own.curve.encode shared)

end LadderKey
end WalletResponder
