/-!
# Byte strings

Texts, keys, tokens and messages are finite sequences of bytes. A text is not assumed to be valid
UTF-8: whoever needs that asks for it (`WalletResponder.Text.Utf8`).

The number forms are big-endian: `Bytes.ofNat n v` has exactly `n` bytes and keeps `v` modulo
`256 ^ n`, `Bytes.toNat` reads any length back.
-/

namespace WalletResponder

/-- A byte string. -/
abbrev Bytes := List UInt8

/-- The UTF-8 bytes of a text written in the program. -/
def utf8 (s : String) : Bytes := s.toUTF8.data.toList

namespace Bytes

/-- Unsigned lexicographic order; a proper beginning comes first. -/
def lt : Bytes → Bytes → Bool
  | _, [] => false
  | [], _ :: _ => true
  | a :: as, b :: bs => a < b || (a == b && lt as bs)

/-- The last `n` bytes of the big-endian form of `v`, with leading zeros where `v` is short. -/
def ofNat : Nat → Nat → Bytes
  | 0, _ => []
  | n + 1, v => UInt8.ofNat (v >>> (8 * n)) :: ofNat n v

/-- The number that the bytes write in base 256, most significant first. -/
def toNat (b : Bytes) : Nat := b.foldl (fun v x => 256 * v + x.toNat) 0

/-- How many bytes the number needs; zero needs none. -/
def width (v : Nat) : Nat := if v = 0 then 0 else Nat.log2 v / 8 + 1

/-- The shortest big-endian form. -/
def ofNatMin (v : Nat) : Bytes := ofNat (width v) v

/-- Bytewise exclusive or, as long as both last. -/
def xor (a b : Bytes) : Bytes := List.zipWith (· ^^^ ·) a b

/-- What stands before the first `c`. -/
def upTo (c : UInt8) (s : Bytes) : Bytes := s.takeWhile (· != c)

/-- What stands after the first `c`, or nothing if there is no `c`. -/
def after? (c : UInt8) (s : Bytes) : Option Bytes :=
  match s.dropWhile (· != c) with
  | [] => none
  | _ :: r => some r

/-- The parts between the occurrences of `c`: one more than there are occurrences. -/
def splitOn (c : UInt8) (s : Bytes) : List Bytes :=
  let (last, parts) := s.foldl
    (fun (part, parts) x => if x == c then ([], part.reverse :: parts) else (x :: part, parts))
    (([], []) : Bytes × List Bytes)
  (last.reverse :: parts).reverse

/-- Decimal digits of `v` in front of `rest`; `fuel` is at least the number of digits. -/
def decimalDigits : Nat → Nat → Bytes → Bytes
  | 0, _, rest => rest
  | fuel + 1, v, rest =>
    let here := UInt8.ofNat (48 + v % 10) :: rest
    if v < 10 then here else decimalDigits fuel (v / 10) here

/-- A natural number in decimal, without leading zeros. -/
def decimalNat (v : Nat) : Bytes := decimalDigits (v + 1) v []

/-- An integer in decimal, with a minus sign when negative. -/
def decimal : Int → Bytes
  | .ofNat v => decimalNat v
  | .negSucc v => 45 :: decimalNat (v + 1)

theorem length_ofNat (n v : Nat) : (ofNat n v).length = n := by
  induction n with
  | zero => rfl
  | succ n ih => simp [ofNat, ih]

end Bytes
end WalletResponder
