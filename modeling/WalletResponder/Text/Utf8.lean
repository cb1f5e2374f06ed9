import WalletResponder.Bytes

/-!
# UTF-8

A byte string is text when it is a sequence of encoded scalar values in their shortest form:
no surrogates, nothing above U+10FFFF. `Utf8.valid` decides it, `Utf8.repair` replaces what is not
text by U+FFFD, and `Utf8.encode` writes one scalar value.

**One character is recognised by its bytes.** `Utf8.pair`, `Utf8.triple` and `Utf8.quad` are the
rows of the table of well-formed sequences; a sequence is refused at the first byte that no row
allows, which is where `repair` starts to read afresh.
-/

namespace WalletResponder.Utf8

/-- A byte that continues a sequence. -/
def continues (b : UInt8) : Bool := 0x80 ≤ b && b ≤ 0xbf

/-- Whether `b` may follow the lead byte `a` of a sequence of two, three or four bytes. The second
byte is where overlong forms, surrogates and values above U+10FFFF show. -/
def second (a b : UInt8) : Bool :=
  if a == 0xe0 then 0xa0 ≤ b && b ≤ 0xbf
  else if a == 0xed then 0x80 ≤ b && b ≤ 0x9f
  else if a == 0xf0 then 0x90 ≤ b && b ≤ 0xbf
  else if a == 0xf4 then 0x80 ≤ b && b ≤ 0x8f
  else continues b

/-- How many bytes the sequence that `a` leads has, zero if it leads none. -/
def span (a : UInt8) : Nat :=
  if a < 0x80 then 1
  else if 0xc2 ≤ a && a ≤ 0xdf then 2
  else if 0xe0 ≤ a && a ≤ 0xef then 3
  else if 0xf0 ≤ a && a ≤ 0xf4 then 4
  else 0

/-- Whether two bytes are one character. -/
def pair (a b : UInt8) : Bool := span a == 2 && second a b

/-- Whether three bytes are one character. -/
def triple (a b c : UInt8) : Bool := span a == 3 && second a b && continues c

/-- Whether four bytes are one character. -/
def quad (a b c d : UInt8) : Bool := span a == 4 && second a b && continues c && continues d

/-- Whether the bytes are text. -/
def valid : Bytes → Bool
  | [] => true
  | [a] => a < 0x80
  | [a, b] => if a < 0x80 then valid [b] else pair a b
  | [a, b, c] =>
    if a < 0x80 then valid [b, c]
    else if pair a b then valid [c]
    else triple a b c
  | a :: b :: c :: d :: r =>
    if a < 0x80 then valid (b :: c :: d :: r)
    else if pair a b then valid (c :: d :: r)
    else if triple a b c then valid (d :: r)
    else if quad a b c d then valid r
    else false

/-- U+FFFD, written where bytes are not text. -/
def replacement : Bytes := [0xef, 0xbf, 0xbd]

/-- Reads one character, or the longest beginning of one, from the front: the bytes to write for it
and how many bytes it took. -/
def lead : Bytes → Bytes × Nat
  | [] => ([], 0)
  | a :: r =>
    match span a, r with
    | 1, _ => ([a], 1)
    | 2, b :: _ => if second a b then ([a, b], 2) else (replacement, 1)
    | 3, b :: c :: _ =>
      if second a b then if continues c then ([a, b, c], 3) else (replacement, 2)
      else (replacement, 1)
    | 3, [b] => if second a b then (replacement, 2) else (replacement, 1)
    | 4, b :: c :: d :: _ =>
      if second a b then
        if continues c then if continues d then ([a, b, c, d], 4) else (replacement, 3)
        else (replacement, 2)
      else (replacement, 1)
    | 4, [b, c] =>
      if second a b then if continues c then (replacement, 3) else (replacement, 2)
      else (replacement, 1)
    | 4, [b] => if second a b then (replacement, 2) else (replacement, 1)
    | _, _ => (replacement, 1)

/-- Writes `done` reversed, then `s` with every stretch that is no text replaced. -/
def repairFrom : Nat → Bytes → Bytes → Bytes
  | 0, done, _ => done.reverse
  | _, done, [] => done.reverse
  | fuel + 1, done, s =>
    let (out, n) := lead s
    repairFrom fuel (out.reverse ++ done) (s.drop n)

/-- The text with each maximal beginning of a character that is not continued replaced by U+FFFD.
Text is left as it is. -/
def repair (s : Bytes) : Bytes := if valid s then s else repairFrom s.length [] s

/-- The UTF-8 form of a scalar value. -/
def encode (c : Nat) : Bytes :=
  if c < 0x80 then [UInt8.ofNat c]
  else if c < 0x800 then [UInt8.ofNat (0xc0 + c / 0x40), UInt8.ofNat (0x80 + c % 0x40)]
  else if c < 0x10000 then
    [UInt8.ofNat (0xe0 + c / 0x1000), UInt8.ofNat (0x80 + c / 0x40 % 0x40),
      UInt8.ofNat (0x80 + c % 0x40)]
  else
    [UInt8.ofNat (0xf0 + c / 0x40000), UInt8.ofNat (0x80 + c / 0x1000 % 0x40),
      UInt8.ofNat (0x80 + c / 0x40 % 0x40), UInt8.ofNat (0x80 + c % 0x40)]

end WalletResponder.Utf8
