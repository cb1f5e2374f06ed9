import WalletResponder.Bytes

/-!
# Binary64 numbers

The finite numbers of the 64-bit binary floating point format, as exact values: sign, significand
and scale, with the value `± significand * 2 ^ (scale - 1074)`. Every operation is exact arithmetic
on natural numbers, so a number and its text can be reasoned about.

* `Binary64.ofDecimal` reads a decimal: the nearest number, a tie to the even significand.
* `Binary64.shortest` writes one: the fewest digits that read back, and of those the nearest.
* `Binary64.render` lays the digits out: positional up to fifteen places before the point and down
  to four zeros after it, with `.0` on an integral value; otherwise with an exponent.
-/

namespace WalletResponder

/-- A finite binary64 number, in normal form: the significand is below `2 ^ 53`, and from
`2 ^ 52` on unless the scale is zero. -/
structure Binary64 where
  /-- Whether there is a minus sign; zero has both signs. -/
  negative : Bool
  /-- The integral significand. -/
  significand : Nat
  /-- The exponent of two, shifted so that the smallest is zero. -/
  scale : Nat
  deriving DecidableEq, Repr

namespace Binary64

/-- How many binary digits `v` has. -/
def bits (v : Nat) : Nat := if v = 0 then 0 else Nat.log2 v + 1

/-- The smallest positive number is one part of this many. -/
def parts : Nat := Nat.pow 2 1074

/-- How many units are nearest to `value`, a tie to the even number of them. -/
def nearest (value unit : Nat) : Nat :=
  let low := value / unit
  let rest := 2 * (value % unit)
  if rest > unit || (rest == unit && low % 2 == 1) then low + 1 else low

/-- The number with a significand of at most `2 ^ 53`, which is carried over; none when that is not
finite. -/
def settle (negative : Bool) (near scale : Nat) : Option Binary64 :=
  let (near, scale) := if near == Nat.pow 2 53 then (Nat.pow 2 52, scale + 1) else (near, scale)
  if scale > 2045 then none else some ⟨negative, near, scale⟩

/-- The number nearest to `num / den`, a tie to the even significand; none when that is not
finite. -/
def ofRatio (negative : Bool) (num den : Nat) : Option Binary64 :=
  let shifted := num * parts
  let scale := bits (shifted / den) - 53
  settle negative (nearest shifted (den * Nat.pow 2 scale)) scale

/-- How many decimal digits `v` has. -/
def places (v : Nat) : Nat := (Bytes.decimalNat v).length

/-- The number nearest to `digits * 10 ^ exponent`; none when it is too large. Beyond `10 ^ 310`
and below `10 ^ (-400)` the answer does not hang on the digits. -/
def ofDecimal (negative : Bool) (digits : Nat) (exponent : Int) : Option Binary64 :=
  let top : Int := places digits + exponent
  if digits = 0 || top < -400 then some ⟨negative, 0, 0⟩
  else if 310 < top then none
  else if 0 ≤ exponent then ofRatio negative (digits * Nat.pow 10 exponent.toNat) 1
  else ofRatio negative digits (Nat.pow 10 (-exponent).toNat)

/-- The absolute value as a fraction. -/
def ratio (x : Binary64) : Nat × Nat :=
  if 1074 ≤ x.scale then (x.significand * Nat.pow 2 (x.scale - 1074), 1)
  else (x.significand, Nat.pow 2 (1074 - x.scale))

/-- The absolute value in units of `10 ^ exponent`, rounded down, and how the rest compares with
half a unit. -/
def inUnits (x : Binary64) (exponent : Int) : Nat × Ordering :=
  let (num, den) := x.ratio
  let (num, den) :=
    if 0 ≤ exponent then (num, den * Nat.pow 10 exponent.toNat)
    else (num * Nat.pow 10 (-exponent).toNat, den)
  (num / den, compare (2 * (num % den)) den)

/-- The least `k` with the absolute value below `10 ^ k`. -/
def magnitude (x : Binary64) : Int :=
  let (num, den) := x.ratio
  if den ≤ num then places (num / den)
  else
    let zeros := (den - 1) / num
    let guess := places zeros
    if num * Nat.pow 10 guess < den then -(guess : Int)
    else if num * Nat.pow 10 (guess - 1) < den then 1 - (guess : Int)
    else 2 - (guess : Int)

/-- The `n` digit decimal that reads back as `x`, the nearer one if there are two. -/
def withPlaces (x : Binary64) (n : Nat) : Option (Nat × Int) :=
  let exponent := x.magnitude - n
  let (low, rest) := x.inUnits exponent
  let reads (digits : Nat) : Bool := ofDecimal x.negative digits exponent == some x
  match reads low, reads (low + 1) with
  | true, true => some (if rest == .gt then low + 1 else low, exponent)
  | true, false => some (low, exponent)
  | false, true => some (low + 1, exponent)
  | false, false => none

/-- The value written out in full. -/
def exact (x : Binary64) : Nat × Int :=
  if 1074 ≤ x.scale then (x.significand * Nat.pow 2 (x.scale - 1074), 0)
  else (x.significand * Nat.pow 5 (1074 - x.scale), -((1074 - x.scale : Nat) : Int))

/-- Moves the zeros at the end of the digits into the exponent. -/
def trim : Nat → Nat × Int → Nat × Int
  | 0, d => d
  | fuel + 1, (digits, exponent) =>
    if digits ≠ 0 && digits % 10 == 0 then trim fuel (digits / 10, exponent + 1)
    else (digits, exponent)

/-- Digits and exponent of the decimal with the fewest digits that reads back as `x`. -/
def shortest (x : Binary64) : Nat × Int :=
  let found := ((List.range 17).findSome? fun n => x.withPlaces (n + 1)).getD x.exact
  trim (places found.1) found

/-- An exponent with its sign and at least two digits. -/
def renderExponent (e : Int) : Bytes :=
  let digits := Bytes.decimalNat e.natAbs
  let digits := if digits.length < 2 then 48 :: digits else digits
  utf8 "e" ++ (if e < 0 then utf8 "-" else utf8 "+") ++ digits

/-- Lays out `digits` with the point after the first `point` of them. -/
def layOut (digits : Bytes) (point : Int) : Bytes :=
  let len : Int := digits.length
  if len ≤ point && point ≤ 15 then
    digits ++ List.replicate (point - len).toNat 48 ++ utf8 ".0"
  else if 0 < point && point ≤ 15 then
    digits.take point.toNat ++ utf8 "." ++ digits.drop point.toNat
  else if -4 < point && point ≤ 0 then
    utf8 "0." ++ List.replicate (-point).toNat 48 ++ digits
  else
    digits.take 1 ++ (if digits.length > 1 then utf8 "." ++ digits.drop 1 else []) ++
      renderExponent (point - 1)

/-- The text of a number. -/
def render (x : Binary64) : Bytes :=
  let body :=
    if x.significand = 0 then utf8 "0.0"
    else
      let (digits, exponent) := x.shortest
      let text := Bytes.decimalNat digits
      layOut text (text.length + exponent)
  if x.negative then 45 :: body else body

/-- Equality of values: the two zeros are equal. -/
def same (x y : Binary64) : Bool := x == y || (x.significand == 0 && y.significand == 0)

/-- Whether the value is the integer `n`. -/
def isInt (x : Binary64) (n : Int) : Bool :=
  let (num, den) := x.ratio
  num == n.natAbs * den && (num == 0 || x.negative == decide (n < 0))

/-- The value rounded toward zero. -/
def truncate (x : Binary64) : Int :=
  let (num, den) := x.ratio
  if x.negative then -((num / den : Nat) : Int) else (num / den : Nat)

end Binary64
end WalletResponder
