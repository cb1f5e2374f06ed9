import WalletResponder.Json.Basic
import WalletResponder.Text.Utf8

/-!
# Writing JSON

The text of a value has no blanks. A string is written raw but for the quote, the backslash and the
control characters below U+0020, so it is JSON only when all strings in the value are valid UTF-8:
`Json.dump` refuses any other value, `Json.dumpRepaired` writes U+FFFD for what is not text.
-/

namespace WalletResponder.Json

/-- A hexadecimal digit in lower case. -/
def hexDigit (n : Nat) : UInt8 := UInt8.ofNat (if n < 10 then 48 + n else 87 + n)

/-- One byte inside a quoted string. -/
def escapeByte (b : UInt8) : Bytes :=
  if b == 0x22 then [0x5c, 0x22]
  else if b == 0x5c then [0x5c, 0x5c]
  else if b == 0x08 then [0x5c, 0x62]
  else if b == 0x0c then [0x5c, 0x66]
  else if b == 0x0a then [0x5c, 0x6e]
  else if b == 0x0d then [0x5c, 0x72]
  else if b == 0x09 then [0x5c, 0x74]
  else if b < 0x20 then
    [0x5c, 0x75, 0x30, 0x30, hexDigit (b.toNat / 16), hexDigit (b.toNat % 16)]
  else [b]

/-- A string in quotes. -/
def quote (s : Bytes) : Bytes := 0x22 :: (s.flatMap escapeByte ++ [0x22])

/-- Pieces with a comma between them. -/
def commas : List Bytes → Bytes
  | [] => []
  | [x] => x
  | x :: y :: rest => x ++ 0x2c :: commas (y :: rest)

mutual

/-- The text of a value, with `fix` applied to every string and name first. -/
def renderWith (fix : Bytes → Bytes) : Json → Bytes
  | .null => utf8 "null"
  | .bool true => utf8 "true"
  | .bool false => utf8 "false"
  | .int n => Bytes.decimal n
  | .float x => x.render
  | .str s => quote (fix s)
  | .arr items => 0x5b :: (commas (renderItems fix items) ++ [0x5d])
  | .obj members => 0x7b :: (commas (renderMembers fix members) ++ [0x7d])

/-- The texts of an array's items. -/
def renderItems (fix : Bytes → Bytes) : List Json → List Bytes
  | [] => []
  | j :: rest => renderWith fix j :: renderItems fix rest

/-- The texts of an object's members. -/
def renderMembers (fix : Bytes → Bytes) : List (Bytes × Json) → List Bytes
  | [] => []
  | (k, j) :: rest => (quote (fix k) ++ 0x3a :: renderWith fix j) :: renderMembers fix rest

end

mutual

/-- Whether every string and name in the value is valid UTF-8. -/
def isText : Json → Bool
  | .str s => Utf8.valid s
  | .arr items => areText items
  | .obj members => membersAreText members
  | _ => true

/-- Whether all items are text. -/
def areText : List Json → Bool
  | [] => true
  | j :: rest => isText j && areText rest

/-- Whether all members are text, names included. -/
def membersAreText : List (Bytes × Json) → Bool
  | [] => true
  | (k, j) :: rest => Utf8.valid k && isText j && membersAreText rest

end

/-- The text of a value whose strings are valid UTF-8. -/
def render (j : Json) : Bytes := renderWith id j

/-- The text of a value; refused when a string in it is not valid UTF-8. -/
def dump (j : Json) : Except Fault Bytes := if j.isText then .ok j.render else .error .notText

/-- The text of a value, with U+FFFD for what is not text. -/
def dumpRepaired (j : Json) : Bytes := renderWith Utf8.repair j

end WalletResponder.Json
