import WalletResponder.Text.Base64Url

/-!
# Textual key files

A file holds blocks: a line that begins a block and names its kind, lines of base64, and a line that
ends it. What stands outside of blocks is text. In a block, lines of a header may come first, with
an empty line behind them; a header shows by a colon or by that empty line.

Lines are read in pieces of at most 254 bytes, each of which counts as a line. White space at the
end of a piece does not count, nor do bytes there that are no ASCII.

A block may turn out to be malformed. `Pem.next` gives the next block or says that it is malformed,
together with the lines behind the place where that shows.
-/

namespace WalletResponder.Pem

/-- A piece of a line. -/
structure Line where
  text : Bytes
  /-- Whether the line goes on behind the piece. -/
  goesOn : Bool
  deriving DecidableEq, Repr

/-- A block: its label, its header and the bytes that it holds. -/
structure Block where
  label : Bytes
  header : Bytes
  content : Bytes
  deriving DecidableEq, Repr

/-- How many bytes a piece has at most. -/
def pieceSize : Nat := 254

/-- Whether a byte at the end of a piece does not count. -/
def isTrailing (c : UInt8) : Bool := c ≤ 0x20 || 0x80 ≤ c

/-- A piece, from its bytes in reverse order. -/
def piece (reversed : Bytes) (goesOn : Bool) : Line :=
  ⟨(reversed.dropWhile isTrailing).reverse, goesOn⟩

/-- The pieces of the lines of a text, behind the `n` bytes of the current piece. -/
def linesFrom : Bytes → Bytes → Nat → List Line
  | [], reversed, n => if n = 0 then [] else [piece reversed false]
  | c :: rest, reversed, n =>
    if c == 0x0a then piece reversed false :: linesFrom rest [] 0
    else if n + 1 = pieceSize then piece (c :: reversed) true :: linesFrom rest [] 0
    else linesFrom rest (c :: reversed) (n + 1)

/-- The pieces of the lines of a file. -/
def lines (s : Bytes) : List Line := linesFrom s [] 0

/-- A line without the byte order mark in front. -/
def dropMark : Bytes → Bytes
  | 0xef :: 0xbb :: 0xbf :: r => r
  | s => s

/-- What opens a line that begins a block. -/
def beginning : Bytes := utf8 "-----BEGIN "

/-- What opens a line that ends a block. -/
def ending : Bytes := utf8 "-----END "

/-- What closes both. -/
def dashes : Bytes := utf8 "-----"

/-- The label in a line that begins a block; it ends before the first zero byte. -/
def label? (line : Bytes) : Option Bytes :=
  if beginning.isPrefixOf line && dashes.isSuffixOf line &&
      beginning.length + dashes.length ≤ line.length then
    some (Bytes.upTo 0
      ((line.drop beginning.length).take (line.length - beginning.length - dashes.length)))
  else none

/-- The label of the first block that begins in the lines, and the lines behind its beginning. -/
def begin? : List Line → Option (Bytes × List Line)
  | [] => none
  | line :: rest =>
    match label? line.text with
    | some label => some (label, rest)
    | none => begin? rest

/-- The lines without a byte order mark in front of the first. -/
def dropFirstMark : List Line → List Line
  | [] => []
  | line :: rest => { line with text := dropMark line.text } :: rest

/-- How far a block is read: nothing tells yet whether there is a header, or a header is being read,
or the lines behind it. -/
inductive Stage where
  | start
  | header
  | body
  deriving DecidableEq, Repr

/-- What has been read of a block. -/
structure Progress where
  stage : Stage := .start
  /-- The lines in front of the empty line, the last one first. -/
  first : List Bytes := []
  /-- The lines behind it, the last one first. -/
  second : List Bytes := []
  /-- Whether the last piece was not the end of its line. -/
  goesOn : Bool := false
  /-- Whether a short line behind the header was the last one. -/
  isOver : Bool := false
  deriving DecidableEq, Repr

/-- What a line does to the reading of a block. -/
inductive Step where
  | more (p : Progress)
  | finished (header text : Bytes)
  | malformed
  deriving DecidableEq, Repr

namespace Progress

/-- An empty piece: the end of a line that was read already, or the end of the header. -/
def blank (p : Progress) (line : Line) : Step :=
  if p.goesOn then .more { p with goesOn := line.goesOn }
  else if p.stage = .body then .malformed
  else .more { p with stage := .body, goesOn := line.goesOn }

/-- The line that ends the block. -/
def finish (p : Progress) : Step :=
  let first := p.first.reverse.flatten
  if p.stage = .start then .finished [] first else .finished first p.second.reverse.flatten

/-- A line of text. Behind a header all lines are full, but for the last one. -/
def text (p : Progress) (line : Line) : Step :=
  let kept := if line.text.contains 0 then Bytes.upTo 0 line.text else line.text ++ [0x0a]
  let p := { p with goesOn := line.goesOn }
  if p.isOver then .malformed
  else if p.stage = .body then
    if 64 < line.text.length then .malformed
    else .more { p with second := kept :: p.second, isOver := line.text.length < 64 }
  else .more { p with first := kept :: p.first }

/-- Reads a line of a block with the given label. -/
def read (label : Bytes) (p : Progress) (line : Line) : Step :=
  let p := if p.stage = .start && line.text.contains 0x3a then { p with stage := .header } else p
  if line.text.isEmpty then p.blank line
  else if ending.isPrefixOf line.text then
    if line.text == ending ++ label ++ dashes then p.finish else .malformed
  else p.text line

end Progress

/-- The header and the text of a block whose beginning is read, and the lines behind it. -/
def body (label : Bytes) : List Line → Progress → Option (Bytes × Bytes) × List Line
  | [], _ => (none, [])
  | line :: rest, p =>
    match p.read label line with
    | .more p => body label rest p
    | .finished header text => (some (header, text), rest)
    | .malformed => (none, rest)

/-- The six bits of a character of the standard alphabet. -/
def sextet? (c : UInt8) : Option Nat :=
  if c == 0x2b then some 62
  else if c == 0x2f then some 63
  else if c == 0x2d || c == 0x5f then none
  else Base64Url.sextet? c

/-- Whether a byte may stand anywhere in base64 and means nothing. -/
def isBlank (c : UInt8) : Bool := c == 0x20 || c == 0x09 || c == 0x0d || c == 0x0a

/-- The bytes that padded base64 writes, at least one. A dash ends it. -/
def base64? (s : Bytes) : Option Bytes :=
  let s := (Bytes.upTo 0x2d s).filter fun c => !isBlank c
  let data := (s.reverse.dropWhile (· == 0x3d)).reverse
  if s.length % 4 = 0 && !data.isEmpty && s.length - data.length ≤ 2 &&
      data.all fun c => (sextet? c).isSome then
    some (Base64Url.ofSextets (data.filterMap sextet?))
  else none

/-- The next block in the lines, unless it is malformed or there is none, and the lines that have
not been looked at. -/
def next (ls : List Line) : Option Block × List Line :=
  match begin? (dropFirstMark ls) with
  | none => (none, [])
  | some (label, rest) =>
    match body label rest {} with
    | (none, rest) => (none, rest)
    | (some (header, text), rest) => ((base64? text).map fun b => ⟨label, header, b⟩, rest)

end WalletResponder.Pem
