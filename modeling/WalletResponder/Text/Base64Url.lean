import WalletResponder.Bytes

/-!
# base64url

The unpadded encoding with the alphabet `A-Z a-z 0-9 - _`. Three bytes are four characters; one or
two bytes at the end are two or three. Reading checks the length before the characters, and takes no
notice of the bits of the last character that no byte uses.

The library behind the encoding is told sizes in 32 bits, and tells them so. `Base64Url.write` and
`Base64Url.read` are the encoding with these sizes: what is told as a negative number is not looked
at, and a size that comes back negative is one that no string can have. `Base64Url.encode` and
`Base64Url.decode` are the encoding without them, which is the same for all strings of less than a
gigabyte; keys and tokens are written and read with these.
-/

namespace WalletResponder.Base64Url

/-- Why a text is not base64url. -/
inductive Fault where
  /-- One character is left over after the groups of four. -/
  | badLength
  /-- A character is not in the alphabet. -/
  | badCharacter
  deriving DecidableEq, Repr

/-- The wording of a fault. -/
def Fault.message : Fault → Bytes
  | .badLength => utf8 "invalid base64url length"
  | .badCharacter => utf8 "invalid base64url character"

/-- The character for six bits. -/
def character (v : Nat) : UInt8 :=
  UInt8.ofNat (if v < 26 then 65 + v
    else if v < 52 then 71 + v
    else if v < 62 then v - 4
    else if v = 62 then 45
    else 95)

/-- The six bits of a character of the alphabet. -/
def sextet? (c : UInt8) : Option Nat :=
  if 65 ≤ c && c ≤ 90 then some (c.toNat - 65)
  else if 97 ≤ c && c ≤ 122 then some (c.toNat - 71)
  else if 48 ≤ c && c ≤ 57 then some (c.toNat + 4)
  else if c == 45 then some 62
  else if c == 95 then some 63
  else none

/-- Writes bytes as characters. -/
def encode : Bytes → Bytes
  | [] => []
  | [a] => [character (a.toNat / 4), character (a.toNat % 4 * 16)]
  | [a, b] =>
    [character (a.toNat / 4), character (a.toNat % 4 * 16 + b.toNat / 16),
      character (b.toNat % 16 * 4)]
  | a :: b :: c :: r =>
    character (a.toNat / 4) :: character (a.toNat % 4 * 16 + b.toNat / 16) ::
      character (b.toNat % 16 * 4 + c.toNat / 64) :: character (c.toNat % 64) :: encode r

/-- The bytes that groups of six bits make up. -/
def ofSextets : List Nat → Bytes
  | a :: b :: c :: d :: r =>
    UInt8.ofNat (a * 4 + b / 16) :: UInt8.ofNat (b * 16 + c / 4) :: UInt8.ofNat (c * 64 + d) ::
      ofSextets r
  | [a, b, c] => [UInt8.ofNat (a * 4 + b / 16), UInt8.ofNat (b * 16 + c / 4)]
  | [a, b] => [UInt8.ofNat (a * 4 + b / 16)]
  | _ => []

/-- Whether the character is in the alphabet. -/
def isCharacter (c : UInt8) : Bool := (sextet? c).isSome

/-- Reads characters back as bytes. -/
def decode (s : Bytes) : Except Fault Bytes :=
  if s.length % 4 = 1 then .error .badLength
  else if s.all isCharacter then .ok (ofSextets (s.filterMap sextet?))
  else .error .badCharacter

/-! ## Sizes in 32 bits -/

/-- Why nothing is written or read, with regard to sizes. -/
inductive SizedFault where
  | text (fault : Fault)
  /-- A string would have a negative size. -/
  | size
  deriving DecidableEq, Repr

/-- Writes bytes as characters. The library looks at as many bytes as it was told, and counts the
characters in 32 bits. -/
def write (b : Bytes) : Except SizedFault Bytes :=
  let told := (Int32.ofNat b.length).toNatClampNeg
  if (Int32.ofNat (4 * ((told + 2) / 3))).toInt < 0 then .error .size
  else .ok (encode (b.take told))

/-- Reads a text of which there is known how long it is, whether its characters are those of the
alphabet, and how it begins. The library looks at the text with characters for zero at its end, so
that it has whole groups, and the bytes of these characters are taken away from what it found. -/
def readBy (length : Nat) (isClean : Bool) (front : Nat → Bytes) : Except SizedFault Bytes :=
  let padding := (4 - length % 4) % 4
  let told := (Int32.ofNat (length + padding)).toNatClampNeg
  let found := 3 * (told / 4)
  if length % 4 = 1 then .error (.text .badLength)
  else if !isClean then .error (.text .badCharacter)
  else if found < padding then .error .size
  else .ok ((ofSextets ((front told).filterMap sextet?)).take (found - padding))

/-- Reads characters back as bytes. -/
def read (s : Bytes) : Except SizedFault Bytes := readBy s.length (s.all isCharacter) s.take

end WalletResponder.Base64Url
