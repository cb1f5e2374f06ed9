/-!
# Binary fields

A polynomial whose coefficients are zero or one is the number that has them as its bits, and the sum
of two is their exclusive or. A binary field holds the polynomials modulo one of the form
`x ^ m + x ^ t + … + 1` that has no divisors; its elements are the numbers below `2 ^ m`.

Squaring is additive here. So square roots always exist, and `z ^ 2 + z = a` has either no solution
or two that differ by one (`BinaryField.solve?`).
-/

namespace WalletResponder

/-- The polynomials modulo `x ^ degree` plus the powers of `x` in a tail. -/
structure BinaryField where
  degree : Nat
  /-- The exponents below the degree, the largest first. -/
  tail : List Nat
  deriving DecidableEq, Repr

namespace BinaryField

/-- The products of a polynomial with those of degree three at most. -/
def shortProducts (b : Nat) : Array Nat :=
  [b, b <<< 1, b <<< 2, b <<< 3].foldl (fun table v => table ++ table.map (v ^^^ ·)) #[0]

/-- The product by the `4 n` lower coefficients of `a`, added to `x ^ (4 n)` times `acc`; `table`
holds the products by four coefficients. -/
def productFrom (table : Array Nat) (a : Nat) : Nat → Nat → Nat
  | 0, acc => acc
  | n + 1, acc =>
    productFrom table a n ((acc <<< 4) ^^^ table.getD ((a >>> (4 * n)) % 16) 0)

/-- The product of two polynomials. -/
def product (a b : Nat) : Nat := productFrom (shortProducts b) a (Nat.log2 a / 4 + 1) 0

/-- Replaces the powers of `x` from the degree on by what they are modulo the field's polynomial. -/
def fold (f : BinaryField) (v : Nat) : Nat :=
  let upper := v >>> f.degree
  f.tail.foldl (fun acc t => acc ^^^ (upper <<< t)) (v ^^^ (upper <<< f.degree))

/-- Folds up to `fuel` times, until the degree is small enough. -/
def reduceFrom (f : BinaryField) : Nat → Nat → Nat
  | 0, v => v
  | fuel + 1, v => if v >>> f.degree = 0 then v else reduceFrom f fuel (f.fold v)

/-- The element that a product of two elements stands for. -/
def reduce (f : BinaryField) (v : Nat) : Nat := reduceFrom f f.degree v

/-- The product of two elements. -/
def mul (f : BinaryField) (a b : Nat) : Nat := f.reduce (product a b)

/-- The square of an element. -/
def square (f : BinaryField) (a : Nat) : Nat := f.mul a a

/-- The result of squaring `n` times. -/
def squares (f : BinaryField) : Nat → Nat → Nat
  | 0, a => a
  | n + 1, a => squares f n (f.square a)

/-- The product of `acc` with the next `n` squares after `a`. -/
def inverseFrom (f : BinaryField) : Nat → Nat → Nat → Nat
  | 0, _, acc => acc
  | n + 1, a, acc =>
    let a := f.square a
    inverseFrom f n a (f.mul acc a)

/-- The inverse of an element other than zero: its power by `2 ^ m - 2`. -/
def inverse (f : BinaryField) (a : Nat) : Nat := inverseFrom f (f.degree - 1) a 1

/-- The square root of an element. -/
def sqrt (f : BinaryField) (a : Nat) : Nat := f.squares (f.degree - 1) a

/-- An element whose squares of all orders add up to one: one itself in a field of odd degree, else
the power of `x` that the first odd gap in the field's polynomial shows. -/
def traceOne (f : BinaryField) : Nat :=
  if f.degree % 2 = 1 then 1
  else
    match f.tail.find? fun t => (f.degree - t) % 2 = 1 with
    | some t => Nat.pow 2 (f.degree - t)
    | none => 1

/-- The sums from which a solution comes: each step squares `z` and `w` and adds a multiple of `a`
to the first, the element of trace one to the second. -/
def solveFrom (f : BinaryField) (a : Nat) : Nat → Nat → Nat → Nat
  | 0, z, _ => z
  | n + 1, z, w =>
    let w2 := f.square w
    solveFrom f a n (f.square z ^^^ f.mul w2 a) (w2 ^^^ f.traceOne)

/-- A solution of `z ^ 2 + z = a`, if there is one; the other is its sum with one. -/
def solve? (f : BinaryField) (a : Nat) : Option Nat :=
  let z := solveFrom f a (f.degree - 1) 0 f.traceOne
  if f.square z ^^^ z = a then some z else none

end BinaryField
end WalletResponder
