import WalletResponder.Crypto.Curve.Weighted

/-!
# Points of an elliptic curve

A point is the neutral element or a pair of coordinates (`Point`). It is written as a byte for the
form, then both coordinates, or the first one alone: the form then holds a bit that tells the two
points with this coordinate apart. The neutral element is a single zero byte.
-/

namespace WalletResponder

/-- A point of a curve. -/
inductive Point where
  | neutral
  | affine (x y : Nat)
  deriving DecidableEq, Repr

/-- Weighted coordinates of a point. -/
def Point.weigh : Point → Weighted
  | .neutral => .neutral
  | .affine x y => ⟨x, y, 1⟩

namespace CoordinateField

/-- Whether a number is an element. -/
def contains (v : Nat) : CoordinateField → Bool
  | prime p => v < p
  | binary f => v < Nat.pow 2 f.degree

/-- The product of two elements. -/
def mul (a b : Nat) : CoordinateField → Nat
  | prime p => a * b % p
  | binary f => f.mul a b

/-- The inverse of an element other than zero. -/
def inverse (a : Nat) : CoordinateField → Nat
  | prime p => Modular.inversePrime p a
  | binary f => f.inverse a

end CoordinateField

namespace Group

/-- Whether a pair of numbers are the coordinates of a point. -/
def contains (g : Group) (x y : Nat) : Bool :=
  g.field.contains x && g.field.contains y &&
    match g.field with
    | .prime p => y * y % p == (x * x * x + g.a * x + g.b) % p
    | .binary f => f.mul y (y ^^^ x) == f.mul (f.square x) (x ^^^ g.a) ^^^ g.b

/-- The generator. -/
def generator (g : Group) : Point := .affine g.gx g.gy

/-- The point that weighted coordinates stand for. -/
def unweigh (g : Group) (w : Weighted) : Point :=
  if w.z = 0 then .neutral
  else
    let i := g.field.inverse w.z
    let i2 := g.field.mul i i
    .affine (g.field.mul w.x i2) (g.field.mul w.y (g.field.mul i2 i))

/-- The multiple of a point. -/
def scale (g : Group) (k : Nat) (q : Point) : Point := g.unweigh (g.scaleWeighted k q.weigh)

/-- The sum of two multiples. -/
def scaleAdd (g : Group) (k : Nat) (q : Point) (l : Nat) (r : Point) : Point :=
  g.unweigh (g.add (g.scaleWeighted k q.weigh) (g.scaleWeighted l r.weigh))

/-- The bit that tells a point from the other one with the same first coordinate. Over a prime field
it is the parity of the second coordinate; over a binary one that of its ratio to the first. -/
def side (g : Group) (x y : Nat) : Nat :=
  match g.field with
  | .prime _ => y % 2
  | .binary f => if x = 0 then 0 else f.mul y (f.inverse x) % 2

/-- A second coordinate that goes with the first one and is on the given side, if the curve has a
point with this first coordinate. -/
def lift? (g : Group) (x bit : Nat) : Option Nat :=
  match g.field with
  | .prime p =>
    (Modular.sqrt? p (x * x * x + g.a * x + g.b)).map fun y => if y % 2 = bit then y else p - y
  | .binary f =>
    if x = 0 then some (f.sqrt g.b)
    else
      (f.solve? (x ^^^ g.a ^^^ f.mul g.b (f.inverse (f.square x)))).map fun z =>
        f.mul x (if z % 2 = bit then z else z ^^^ 1)

/-- A pair of coordinates as a point, if it is one. -/
def point? (g : Group) (x y : Nat) : Option Point :=
  if g.contains x y then some (.affine x y) else none

/-- The point that bytes write. -/
def decode? (g : Group) : Bytes → Option Point
  | [] => none
  | form :: rest =>
    let x := Bytes.toNat (rest.take g.size)
    let y := Bytes.toNat (rest.drop g.size)
    if form == 0 then if rest.isEmpty then some .neutral else none
    else if form == 4 then if rest.length = 2 * g.size then g.point? x y else none
    else if form == 6 || form == 7 then
      if rest.length = 2 * g.size && g.side x y == form.toNat - 6 then g.point? x y else none
    else if form == 2 || form == 3 then
      if rest.length = g.size && g.field.contains x then
        (g.lift? x (form.toNat - 2)).bind (g.point? x)
      else none
    else none

end Group
end WalletResponder
