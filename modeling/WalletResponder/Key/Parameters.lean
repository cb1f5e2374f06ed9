import WalletResponder.Crypto.Curve.KnownGroups
import WalletResponder.Crypto.Curve.Point
import WalletResponder.Key.Der

/-!
# The group of a key on a curve

A key tells its group by the object identifier of a known one, or by numbers: the field, the
coefficients of the curve, the generator and its order (`GroupParameters.ofNumbers?`). The numbers
of a known group stand for that group. Others make a group without a name. The generator must be on
the curve, and the order may have one bit more than the field has; that the field is one, and that
the order is that of the generator, is not looked at.
-/

namespace WalletResponder

namespace CoordinateField

/-- How many bits an element has. -/
def bits : CoordinateField → Nat
  | prime p => Nat.log2 p + 1
  | binary f => f.degree

/-- The element that a number stands for. -/
def reduce (v : Nat) : CoordinateField → Nat
  | prime p => v % p
  | binary f => f.reduceFrom (Nat.log2 v + 1) v

end CoordinateField

namespace GroupParameters

/-- The object identifier of fields of integers modulo a prime. -/
def primeField : Bytes := [0x2a, 0x86, 0x48, 0xce, 0x3d, 0x01, 0x01]

/-- The object identifier of binary fields. -/
def binaryField : Bytes := [0x2a, 0x86, 0x48, 0xce, 0x3d, 0x01, 0x02]

/-- The object identifier of polynomials with three terms. -/
def trinomial : Bytes := binaryField ++ [0x03, 0x02]

/-- The object identifier of polynomials with five terms. -/
def pentanomial : Bytes := binaryField ++ [0x03, 0x03]

/-- The most bits that an element may have. -/
def maxBits : Nat := 661

/-- An integer with nothing after it. -/
def lastInteger? (s : Bytes) : Option Int :=
  match Der.integer? s with
  | some (v, []) => some v
  | _ => none

/-- The integers modulo an odd number of at least three bits. -/
def ofModulus? (p : Int) : Option CoordinateField :=
  if 4 < p && p % 2 = 1 && Nat.log2 p.toNat < maxBits then some (.prime p.toNat) else none

/-- The exponents between the degree and zero in a polynomial, the largest first. -/
def exponents? (form s : Bytes) : Option (List Int) :=
  if form = trinomial then (lastInteger? s).map fun k => [k]
  else if form = pentanomial then do
    let body ← Der.whole? Der.sequence s
    let (k1, r) ← Der.small? body
    let (k2, r) ← Der.small? r
    let (k3, r) ← Der.small? r
    if r.isEmpty then some [k3, k2, k1] else none
  else none

/-- The binary field with a polynomial, which is told by its degree and its form. -/
def ofPolynomial? (s : Bytes) : Option CoordinateField := do
  let body ← Der.whole? Der.sequence s
  let (degree, r) ← Der.small? body
  let (form, r) ← Der.element? Der.identifier r
  let exponents ← exponents? form r
  if degree ≤ maxBits && List.Pairwise (· > ·) (degree :: exponents ++ [0]) then
    some (.binary ⟨degree.toNat, exponents.map Int.toNat ++ [0]⟩)
  else none

/-- The field of the coordinates. -/
def field? (s : Bytes) : Option CoordinateField := do
  let (kind, r) ← Der.element? Der.identifier s
  if kind = primeField then (lastInteger? r).bind ofModulus?
  else if kind = binaryField then ofPolynomial? r
  else none

/-- The coefficients of the curve. A seed may follow, which is not used. -/
def coefficients? (field : CoordinateField) (s : Bytes) : Option (Nat × Nat) := do
  let (a, r) ← Der.element? Der.octetString s
  let (b, r) ← Der.element? Der.octetString r
  let (seed, r) := Der.optional Der.bitString r
  if r.isEmpty && seed.all fun s => 2 ≤ s.length && Der.isProper Der.bitString s then
    some (field.reduce (Bytes.toNat a), field.reduce (Bytes.toNat b))
  else none

/-- Whether bytes are nothing or a cofactor, which is not used. -/
def isCofactor (s : Bytes) : Bool := s.isEmpty || (lastInteger? s).any (0 ≤ ·)

/-- The group with the numbers that are given. -/
def ofNumbers? (parameters : Bytes) : Option Group := do
  let body ← Der.whole? Der.sequence parameters
  let (_, r) ← Der.small? body
  let (field, r) ← Der.element? Der.sequence r
  let field ← field? field
  let (curve, r) ← Der.element? Der.sequence r
  let (a, b) ← coefficients? field curve
  let (generator, r) ← Der.element? Der.octetString r
  let (n, r) ← Der.integer? r
  let g : Group := ⟨none, [], field, a, b, 0, 0, n.toNat, 0⟩
  match g.decode? generator with
  | some (.affine x y) =>
    if 0 < n && Nat.log2 g.n ≤ field.bits && isCofactor r then
      some (Group.recognised { g with gx := x, gy := y })
    else none
  | _ => none

/-- The group that parameters name or describe. -/
def group? (parameters : Bytes) : Option Group :=
  (Der.whole? Der.identifier parameters).bind Group.ofIdentifier? <|> ofNumbers? parameters

end GroupParameters
end WalletResponder
