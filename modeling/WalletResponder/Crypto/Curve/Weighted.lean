import WalletResponder.Crypto.Curve.Group
import WalletResponder.Crypto.Modular

/-!
# Sums of points without division

Weighted coordinates `(X, Y, Z)` stand for the point `(X / Z ^ 2, Y / Z ^ 3)`, and for the neutral
element when `Z` is zero. Points are doubled and added in them, so that a multiple needs a single
division at its end. The formulas for a prime field and for a binary one have nothing in common but
that.
-/

namespace WalletResponder

/-- Weighted coordinates. -/
structure Weighted where
  (x y z : Nat)
  deriving DecidableEq

namespace Weighted

/-- The neutral element. -/
def neutral : Weighted := ⟨1, 1, 0⟩

/-- Twice a point of the curve with coefficient `a` over the integers modulo `p`. -/
def doublePrime (p a : Nat) (w : Weighted) : Weighted :=
  if w.z = 0 || w.y = 0 then neutral
  else
    let y2 := w.y * w.y % p
    let z2 := w.z * w.z % p
    let s := 4 * w.x * y2 % p
    let m := (3 * w.x * w.x + a * (z2 * z2 % p)) % p
    let x := Modular.sub p (m * m) (2 * s % p)
    ⟨x, Modular.sub p (m * Modular.sub p s x) (8 * y2 * y2 % p), 2 * w.y * w.z % p⟩

/-- The sum of two points of the curve with coefficient `a` over the integers modulo `p`. -/
def addPrime (p a : Nat) (v w : Weighted) : Weighted :=
  if v.z = 0 then w
  else if w.z = 0 then v
  else
    let v2 := v.z * v.z % p
    let w2 := w.z * w.z % p
    let u1 := v.x * w2 % p
    let u2 := w.x * v2 % p
    let s1 := v.y * (w2 * w.z % p) % p
    let s2 := w.y * (v2 * v.z % p) % p
    if u1 = u2 then if s1 = s2 then doublePrime p a v else neutral
    else
      let h := Modular.sub p u2 u1
      let r := Modular.sub p s2 s1
      let h2 := h * h % p
      let h3 := h2 * h % p
      let u := u1 * h2 % p
      let x := Modular.sub p (r * r) ((h3 + 2 * u) % p)
      ⟨x, Modular.sub p (r * Modular.sub p u x) (s1 * h3 % p), h * (v.z * w.z % p) % p⟩

/-- Twice a point of the curve with coefficient `b` over a binary field. -/
def doubleBinary (f : BinaryField) (b : Nat) (w : Weighted) : Weighted :=
  if w.z = 0 || w.x = 0 then neutral
  else
    let x2 := f.square w.x
    let z2 := f.square w.z
    let x4 := f.square x2
    let z := f.mul w.x z2
    let x := x4 ^^^ f.mul b (f.square (f.square z2))
    let u := z ^^^ x2 ^^^ f.mul w.y w.z
    ⟨x, f.mul x4 z ^^^ f.mul u x, z⟩

/-- The sum of two points of the curve with coefficients `a` and `b` over a binary field. -/
def addBinary (f : BinaryField) (a b : Nat) (v w : Weighted) : Weighted :=
  if v.z = 0 then w
  else if w.z = 0 then v
  else
    let v2 := f.square v.z
    let w2 := f.square w.z
    let h := f.mul v.x w2 ^^^ f.mul w.x v2
    let r := f.mul v.y (f.mul w2 w.z) ^^^ f.mul w.y (f.mul v2 v.z)
    if h = 0 then if r = 0 then doubleBinary f b v else neutral
    else
      let l := f.mul v.z h
      let z := f.mul l w.z
      let t := r ^^^ z
      let x := f.mul a (f.square z) ^^^ f.mul t r ^^^ f.mul (f.square h) h
      let c := f.mul r w.x ^^^ f.mul l w.y
      ⟨x, f.mul t x ^^^ f.mul c (f.square l), z⟩

end Weighted

namespace Group

/-- Twice a point. -/
def double (g : Group) (w : Weighted) : Weighted :=
  match g.field with
  | .prime p => w.doublePrime p g.a
  | .binary f => w.doubleBinary f g.b

/-- The sum of two points. -/
def add (g : Group) (v w : Weighted) : Weighted :=
  match g.field with
  | .prime p => v.addPrime p g.a w
  | .binary f => v.addBinary f g.a g.b w

/-- The multiple of `w` by the `n` lower bits of `k`, added to `2 ^ n` times `acc`. -/
def scaleFrom (g : Group) (k : Nat) (w : Weighted) : Nat → Weighted → Weighted
  | 0, acc => acc
  | n + 1, acc =>
    let twice := g.double acc
    scaleFrom g k w n (if k.testBit n then g.add twice w else twice)

/-- The multiple of a point. -/
def scaleWeighted (g : Group) (k : Nat) (w : Weighted) : Weighted :=
  scaleFrom g k w (Nat.log2 k + 1) .neutral

end Group
end WalletResponder
