import WalletResponder.Crypto.Curve.Key

/-!
# Signatures with a curve

A signature is a pair of numbers below the order of the group, each written with the width of the
field. `r` is the first coordinate of a random multiple of the generator, `s` ties it to the hash of
the message and to the secret. The hash counts as a number of as many bits as the order has.
-/

namespace WalletResponder.CurveKey

/-- A hash as a number: its leading bits, as many as the order has. -/
def hashNumber (g : Group) (digest : Bytes) : Nat :=
  Bytes.toNat digest >>> (8 * digest.length - (Nat.log2 g.n + 1))

/-- The first coordinate of a point, modulo the order. -/
def coordinate (g : Group) : Point → Nat
  | .neutral => 0
  | .affine x _ => x % g.n

/-- The pair for one random multiplier, unless one of its numbers is zero. -/
def pair? (g : Group) (secret h k : Nat) : Option (Nat × Nat) :=
  let r := coordinate g (g.scale k g.generator)
  let s := Modular.inversePrime g.n k * (h + r * secret) % g.n
  if r = 0 || s = 0 then none else some (r, s)

/-- The pair for the first of `tries` random multipliers that gives one. -/
def pairFrom (g : Group) (secret h : Nat) : Nat → Entropy → Option (Nat × Nat)
  | 0, _ => none
  | tries + 1, e =>
    match pair? g secret h (e.left.below g.n) with
    | some p => some p
    | none => pairFrom g secret h tries e.right

/-- Whether a secret fits in as many words of sixty-four bits as the order. -/
def fits (g : Group) (secret : Nat) : Bool :=
  secret < Nat.pow 2 (64 * (Nat.log2 g.n / 64 + 1))

/-- Signs the hash of a message. -/
def sign? (key : CurveKey) (digest : Bytes) (e : Entropy) : Option Bytes :=
  (key.secret.filter (fits key.group)).bind fun secret =>
    (pairFrom key.group secret (hashNumber key.group digest) 16 e).map fun (r, s) =>
      Bytes.ofNat key.group.size r ++ Bytes.ofNat key.group.size s

/-- Whether a pair signs a hash: the multiple that it determines has `r` as first coordinate. -/
def checks (key : CurveKey) (h r s : Nat) : Bool :=
  let g := key.group
  if 0 < r && r < g.n && 0 < s && s < g.n then
    let w := Modular.inversePrime g.n s
    coordinate g (g.scaleAdd (h * w % g.n) g.generator (r * w % g.n) key.point) == r
  else false

/-- Checks a signature of exactly twice the width of the field. -/
def verify (key : CurveKey) (digest signature : Bytes) : Bool :=
  let n := key.group.size
  signature.length == 2 * n &&
    key.checks (hashNumber key.group digest) (Bytes.toNat (signature.take n))
      (Bytes.toNat (signature.drop n))

end WalletResponder.CurveKey
