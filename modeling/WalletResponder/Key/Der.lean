import WalletResponder.Bytes

/-!
# Tagged elements

The binary form in which keys are stored: an element is a tag, the length of its content and the
content. A length below 128 is one byte; a longer one is written behind the number of its bytes. A
length written in the longer form must not be the last thing there is.
-/

namespace WalletResponder.Der

/-- The tag of a sequence. -/
def sequence : UInt8 := 0x30

/-- The tag of a set. -/
def set : UInt8 := 0x31

/-- The tag of an integer. -/
def integer : UInt8 := 0x02

/-- The tag of a string of bits. -/
def bitString : UInt8 := 0x03

/-- The tag of a string of bytes. -/
def octetString : UInt8 := 0x04

/-- The tag of an object identifier. -/
def identifier : UInt8 := 0x06

/-- The tag of an optional part with a number. -/
def part (n : UInt8) : UInt8 := 0xa0 + n

/-- Reads a length. -/
def length? : Bytes → Option (Nat × Bytes)
  | [] => none
  | b :: r =>
    if b < 0x80 then some (b.toNat, r)
    else
      let n := b.toNat - 0x80
      if n = 0 || r.length ≤ n then none else some (Bytes.toNat (r.take n), r.drop n)

/-- Reads an element with the given tag from the front: its content and what follows it. -/
def element? (tag : UInt8) : Bytes → Option (Bytes × Bytes)
  | [] => none
  | t :: r =>
    if t == tag then
      match length? r with
      | some (n, r) => if n ≤ r.length then some (r.take n, r.drop n) else none
      | none => none
    else none

/-- The content of an element with the given tag and nothing after it. -/
def whole? (tag : UInt8) (s : Bytes) : Option Bytes :=
  match element? tag s with
  | some (content, []) => some content
  | _ => none

/-- The bytes in a string of bits. Its first byte says how many bits at the end do not count. -/
def bits? (s : Bytes) : Option Bytes :=
  match whole? bitString s with
  | some (unused :: content) =>
    if unused ≤ 7 then
      some (content.dropLast ++ (content.getLast?.map fun b => (b >>> unused) <<< unused).toList)
    else none
  | _ => none

/-- The integer that bytes write, the first bit being its sign. -/
def signed (content : Bytes) : Int :=
  if content.headD 0 < 0x80 then Bytes.toNat content
  else (Bytes.toNat content : Int) - Nat.pow 2 (8 * content.length)

/-- Whether the content of an integer is as short as it can be. A single `0xff` in front of zeros is
let through. -/
def isShort : Bytes → Bool
  | [] => false
  | 0x00 :: b :: _ => 0x80 ≤ b
  | 0xff :: b :: rest => b < 0x80 || (b :: rest).all (· == 0)
  | _ => true

/-- Whether bytes are the content of an object identifier: groups of seven bits, in numbers without
leading zeros. -/
def isIdentifier (content : Bytes) : Bool :=
  let starts := content.zip (0 :: content)
  !content.isEmpty && content.getLast?.all (· < 0x80) &&
    starts.all fun (b, before) => b != 0x80 || 0x80 ≤ before

/-- Whether a content is possible for its tag. Sequences and sets are not looked into. -/
def isProper (tag : UInt8) (content : Bytes) : Bool :=
  match tag with
  | 0x01 => content.length == 1
  | 0x02 | 0x0a => isShort content
  | 0x03 => content.head?.any (· ≤ 7)
  | 0x05 => content.isEmpty
  | 0x06 => isIdentifier content
  | 0x1c => content.length % 4 == 0
  | 0x1e => content.length % 2 == 0
  | 0x10 | 0x11 | 0x21 | 0x22 | 0x25 | 0x26 | 0x2a => false
  | _ => true

/-- Whether the bytes are nothing, or a single element of any tag. -/
def isOptional : Bytes → Bool
  | [] => true
  | tag :: r => (whole? tag (tag :: r)).any (isProper tag)

/-- Reads an integer, which must be written as short as it can be. -/
def integer? (s : Bytes) : Option (Int × Bytes) :=
  match element? integer s with
  | some (content, r) => if isShort content then some (signed content, r) else none
  | none => none

/-- Reads a small integer: one of thirty-two bits, with no bytes for zero. -/
def small? (s : Bytes) : Option (Int × Bytes) :=
  match element? integer s with
  | some ([], r) => some (0, r)
  | _ => (integer? s).filter fun (v, _) => -Nat.pow 2 31 ≤ v && v < Nat.pow 2 31

/-- Reads an element with the given tag from the front, if there is one. -/
def optional (tag : UInt8) (s : Bytes) : Option Bytes × Bytes :=
  match element? tag s with
  | some (content, r) => (some content, r)
  | none => (none, s)

/-- Reads `n` integers without sign. -/
def naturals? : Nat → Bytes → Option (List Nat × Bytes)
  | 0, s => some ([], s)
  | n + 1, s =>
    match element? integer s with
    | none => none
    | some (content, r) => (naturals? n r).map fun (vs, r) => (Bytes.toNat content :: vs, r)

end WalletResponder.Der
