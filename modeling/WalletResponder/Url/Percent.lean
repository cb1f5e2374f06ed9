import WalletResponder.Bytes

/-!
# Percent encoding

`Percent.encode` leaves letters, digits and `- . _ ~` alone and writes every other byte as `%` and
two upper case hexadecimal digits. `Percent.decode` reads a plus sign as a space and decodes a `%`
that two hexadecimal digits of either case follow; any other `%` stands for itself.

Both are done by a library, which is told the number of bytes in 32 bits and writes no more than
`Percent.maxEscaped` bytes. `Percent.write` and `Percent.read` are the codec with these limits.
-/

namespace WalletResponder.Percent

/-- A byte that needs no encoding. -/
def isUnreserved (b : UInt8) : Bool :=
  (65 ≤ b && b ≤ 90) || (97 ≤ b && b ≤ 122) || (48 ≤ b && b ≤ 57) || b == 45 || b == 46 ||
    b == 95 || b == 126

/-- A hexadecimal digit in upper case. -/
def hexDigit (n : Nat) : UInt8 := UInt8.ofNat (if n < 10 then 48 + n else 55 + n)

/-- The value of a hexadecimal digit of either case. -/
def hexValue? (b : UInt8) : Option Nat :=
  if 48 ≤ b && b ≤ 57 then some (b.toNat - 48)
  else if 65 ≤ b && b ≤ 70 then some (b.toNat - 55)
  else if 97 ≤ b && b ≤ 102 then some (b.toNat - 87)
  else none

/-- One byte, encoded. -/
def encodeByte (b : UInt8) : Bytes :=
  if isUnreserved b then [b] else [0x25, hexDigit (b.toNat / 16), hexDigit (b.toNat % 16)]

/-- A value as it stands in a query or a form. -/
def encode (s : Bytes) : Bytes := s.flatMap encodeByte

/-- Decodes every `%` that two hexadecimal digits follow. -/
def unescape : Bytes → Bytes
  | c :: a :: b :: r =>
    if c == 0x25 then
      match hexValue? a, hexValue? b with
      | some x, some y => UInt8.ofNat (16 * x + y) :: unescape r
      | _, _ => c :: unescape (a :: b :: r)
    else c :: unescape (a :: b :: r)
  | c :: r => c :: unescape r
  | [] => []

/-- The value that an encoded one stands for. -/
def decode (s : Bytes) : Bytes := unescape (s.map fun b => if b == 0x2b then 0x20 else b)

/-! ## The limits of the library -/

/-- Why a value is not converted. -/
inductive Fault where
  | escaping
  | unescaping
  deriving DecidableEq, Repr

/-- The wording of a fault. -/
def Fault.message : Fault → Bytes
  | .escaping => utf8 "curl_easy_escape failed"
  | .unescaping => utf8 "curl_easy_unescape failed"

/-- The longest encoding that the library writes: its buffers hold three times eight million bytes
with the zero byte at the end. -/
def maxEscaped : Nat := 23999999

/-- The length of an encoding. -/
def encodedSize (s : Bytes) : Nat := s.foldl (fun n b => n + if isUnreserved b then 1 else 3) 0

/-- The bytes that the library looks at. It refuses a negative number of bytes, and takes zero to
mean everything up to the first zero byte. -/
def told? (s : Bytes) : Option Bytes :=
  match (Int32.ofNat s.length).toInt with
  | .negSucc _ => none
  | .ofNat 0 => some (s.upTo 0)
  | .ofNat n => some (s.take n)

/-- A value as it stands in a query or a form, unless it is too long. -/
def write (s : Bytes) : Except Fault Bytes :=
  match told? s with
  | none => .error .escaping
  | some t => if encodedSize t ≤ maxEscaped then .ok (encode t) else .error .escaping

/-- The value that an encoded one stands for, unless it is too long. -/
def read (s : Bytes) : Except Fault Bytes :=
  match told? s with
  | none => .error .unescaping
  | some t => .ok (decode t)

end WalletResponder.Percent
