import WalletResponder.Json.Printer

/-!
# Reading JSON

A strict reader: one value, blanks around its tokens, nothing after it. A byte order mark in front
is skipped. Where a token may begin, a zero byte ends the text, whatever stands behind it. Strings
are valid UTF-8 without control characters below U+0020, and an escaped surrogate stands only in a
pair. A number without a fraction and an exponent is an integer as long as it fits 64 bits, and a
binary64 number otherwise; a number too large for that is refused.

The readers of values, items and members call each other. `fuel` bounds how deep and how often; each
round takes a byte, so twice the length of the text is always enough (`Json.parse?`).
-/

namespace WalletResponder.Json

/-- The blanks between tokens. -/
def isBlank (b : UInt8) : Bool := b == 0x20 || b == 0x09 || b == 0x0a || b == 0x0d

/-- Drops the blanks in front. -/
def skipBlanks (s : Bytes) : Bytes := s.dropWhile isBlank

/-- A decimal digit. -/
def isDigit (b : UInt8) : Bool := 0x30 ≤ b && b ≤ 0x39

/-- The number that decimal digits write. -/
def digitsValue (digits : Bytes) : Nat := digits.foldl (fun v b => 10 * v + (b.toNat - 48)) 0

/-- The value of a hexadecimal digit of either case. -/
def hexValue? (b : UInt8) : Option Nat :=
  if isDigit b then some (b.toNat - 48)
  else if 0x61 ≤ b && b ≤ 0x66 then some (b.toNat - 87)
  else if 0x41 ≤ b && b ≤ 0x46 then some (b.toNat - 55)
  else none

/-- Four hexadecimal digits. -/
def hexQuad? : Bytes → Option (Nat × Bytes)
  | a :: b :: c :: d :: r => do
    let a ← hexValue? a
    let b ← hexValue? b
    let c ← hexValue? c
    let d ← hexValue? d
    pure (((a * 16 + b) * 16 + c) * 16 + d, r)
  | _ => none

/-- The scalar value that follows a `\u`: one unit, or a pair of surrogates. -/
def scalar? (s : Bytes) : Option (Nat × Bytes) := do
  let (unit, r) ← hexQuad? s
  if 0xd800 ≤ unit && unit ≤ 0xdbff then
    match r with
    | 0x5c :: 0x75 :: r =>
      let (low, r) ← hexQuad? r
      if 0xdc00 ≤ low && low ≤ 0xdfff then
        pure (0x10000 + (unit - 0xd800) * 0x400 + (low - 0xdc00), r)
      else none
    | _ => none
  else if 0xdc00 ≤ unit && unit ≤ 0xdfff then none
  else pure (unit, r)

/-- What an escape stands for; the backslash has been read. -/
def escape? : Bytes → Option (Bytes × Bytes)
  | [] => none
  | c :: r =>
    if c == 0x22 || c == 0x5c || c == 0x2f then some ([c], r)
    else if c == 0x62 then some ([0x08], r)
    else if c == 0x66 then some ([0x0c], r)
    else if c == 0x6e then some ([0x0a], r)
    else if c == 0x72 then some ([0x0d], r)
    else if c == 0x74 then some ([0x09], r)
    else if c == 0x75 then (scalar? r).map fun (v, r) => (Utf8.encode v, r)
    else none

/-- The rest of a quoted string; `done` is what was read of it, last byte first. -/
def stringBody : Nat → Bytes → Bytes → Option (Bytes × Bytes)
  | 0, _, _ => none
  | _, _, [] => none
  | fuel + 1, done, c :: r =>
    if c == 0x22 then some (done.reverse, r)
    else if c == 0x5c then
      match escape? r with
      | none => none
      | some (out, r) => stringBody fuel (out.reverse ++ done) r
    else if c < 0x20 then none
    else stringBody fuel (c :: done) r

/-- A quoted string after its opening quote. An escape writes whole characters, so the content is
valid exactly when the raw parts are. -/
def string? (s : Bytes) : Option (Bytes × Bytes) :=
  match stringBody (s.length + 1) [] s with
  | some (content, r) => if Utf8.valid content then some (content, r) else none
  | none => none

/-- An exponent after its `e`. -/
def exponent? (s : Bytes) : Option (Int × Bytes) :=
  let (negative, r) := match s with
    | 0x2d :: r => (true, r)
    | 0x2b :: r => (false, r)
    | r => (false, r)
  match r.takeWhile isDigit with
  | [] => none
  | digits =>
    let value : Int := digitsValue digits
    some (if negative then -value else value, r.dropWhile isDigit)

/-- A number from its digits. -/
def numberValue? (negative : Bool) (whole fraction : Bytes) (exponent : Option Int) :
    Option Json :=
  let value := digitsValue whole
  let decimal? := (Binary64.ofDecimal negative (digitsValue (whole ++ fraction))
    (exponent.getD 0 - fraction.length)).map Json.float
  if fraction.isEmpty && exponent.isNone then
    if negative then if value ≤ Nat.pow 2 63 then some (.int (-(value : Int))) else decimal?
    else if value < Nat.pow 2 64 then some (.int value) else decimal?
  else decimal?

/-- The digits of a fraction, if there is a point. -/
def fraction? : Bytes → Option (Bytes × Bytes)
  | 0x2e :: r =>
    match r.takeWhile isDigit with
    | [] => none
    | digits => some (digits, r.dropWhile isDigit)
  | r => some ([], r)

/-- An exponent, if there is one. -/
def scale? : Bytes → Option (Option Int × Bytes)
  | 0x65 :: r => (exponent? r).map fun (e, r) => (some e, r)
  | 0x45 :: r => (exponent? r).map fun (e, r) => (some e, r)
  | r => some (none, r)

/-- A number after its sign. -/
def unsigned? (negative : Bool) (s : Bytes) : Option (Json × Bytes) :=
  let whole := s.takeWhile isDigit
  if whole.isEmpty || (whole.length > 1 && whole.head? == some 0x30) then none
  else do
    let (fraction, r) ← fraction? (s.dropWhile isDigit)
    let (exponent, r) ← scale? r
    let value ← numberValue? negative whole fraction exponent
    pure (value, r)

/-- A number. -/
def number? : Bytes → Option (Json × Bytes)
  | 0x2d :: r => unsigned? true r
  | r => unsigned? false r

/-- The rest after a given beginning. -/
def after? (start s : Bytes) : Option Bytes :=
  if start.isPrefixOf s then some (s.drop start.length) else none

/-- A literal name or a number. -/
def plain? (s : Bytes) : Option (Json × Bytes) :=
  match after? (utf8 "null") s with
  | some r => some (.null, r)
  | none =>
    match after? (utf8 "true") s with
    | some r => some (.bool true, r)
    | none =>
      match after? (utf8 "false") s with
      | some r => some (.bool false, r)
      | none => number? s

/-- The name of a member and its colon, with blanks before and between. -/
def name? (s : Bytes) : Option (Bytes × Bytes) :=
  match skipBlanks s with
  | 0x22 :: r =>
    match string? r with
    | some (name, r) =>
      match skipBlanks r with
      | 0x3a :: r => some (name, r)
      | _ => none
    | none => none
  | _ => none

mutual

/-- A value, with blanks before it. -/
def value? : Nat → Bytes → Option (Json × Bytes)
  | 0, _ => none
  | fuel + 1, s =>
    match skipBlanks s with
    | 0x22 :: r => (string? r).map fun (text, r) => (.str text, r)
    | 0x5b :: r =>
      match skipBlanks r with
      | 0x5d :: r => some (.arr [], r)
      | r => items? fuel [] r
    | 0x7b :: r =>
      match skipBlanks r with
      | 0x7d :: r => some (.obj [], r)
      | r => members? fuel [] r
    | r => plain? r

/-- The items of an array up to its end; `done` holds those read, last first. -/
def items? : Nat → List Json → Bytes → Option (Json × Bytes)
  | 0, _, _ => none
  | fuel + 1, done, s =>
    match value? fuel s with
    | none => none
    | some (item, r) =>
      match skipBlanks r with
      | 0x2c :: r => items? fuel (item :: done) r
      | 0x5d :: r => some (.arr (item :: done).reverse, r)
      | _ => none

/-- The members of an object up to its end; `done` holds those read. -/
def members? : Nat → List (Bytes × Json) → Bytes → Option (Json × Bytes)
  | 0, _, _ => none
  | fuel + 1, done, s =>
    match name? s with
    | none => none
    | some (name, r) =>
      match value? fuel r with
      | none => none
      | some (item, r) =>
        match skipBlanks r with
        | 0x2c :: r => members? fuel (put name item done) r
        | 0x7d :: r => some (.obj (put name item done), r)
        | _ => none

end

/-- The text without a byte order mark in front. -/
def dropMark : Bytes → Bytes
  | 0xef :: 0xbb :: 0xbf :: r => r
  | s => s

/-- Whether no token is left: behind the blanks comes the end or a zero byte. -/
def isOver (s : Bytes) : Bool := (skipBlanks s).head?.all (· == 0)

/-- Reads a text that is one JSON value. -/
def parse? (s : Bytes) : Option Json :=
  let s := dropMark s
  match value? (2 * s.length + 2) s with
  | some (j, r) => if isOver r then some j else none
  | none => none

/-- The wording of a fault of a text, which shows the text. -/
def complaint (s : Bytes) : Bytes :=
  utf8 "[json.exception.parse_error.101] syntax error; last read: '" ++ s ++ utf8 "'"

/-- Reads a text that is one JSON value, or reports a fault in the given wording. -/
def parse (wording : Bytes → Bytes) (s : Bytes) : Except Fault Json :=
  match parse? s with
  | some j => .ok j
  | none => .error (.malformed (wording s))

end WalletResponder.Json
