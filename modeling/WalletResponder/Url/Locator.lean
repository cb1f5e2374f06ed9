import WalletResponder.Url.Percent

/-!
# Where a URL leads

A URL is read as far as is needed to tell whether a connection can be tried (`Url.refusal?`): its
scheme, and the host with the port. Only two schemes are spoken. A URL is malformed if it holds
spaces or control characters, if one to three slashes do not follow the scheme, or if its host is
none. Without a scheme the host decides, and a name that looks like a scheme is no host.

The scheme for files has rules of its own: there is no host but for the name of this one.
-/

namespace WalletResponder.Url

/-- Why a URL is refused before anything is sent. -/
inductive Refusal where
  | malformed
  | unsupportedScheme
  deriving DecidableEq, Repr

/-- The wording of a refusal. -/
def Refusal.message : Refusal → Bytes
  | malformed => utf8 "URL using bad/illegal format or missing URL"
  | unsupportedScheme => utf8 "Unsupported protocol"

/-- Whether a byte is a letter. -/
def isLetter (b : UInt8) : Bool := (65 ≤ b && b ≤ 90) || (97 ≤ b && b ≤ 122)

/-- Whether a byte is a digit. -/
def isDigit (b : UInt8) : Bool := 48 ≤ b && b ≤ 57

/-- Whether a byte may stand in the scheme of a URL. -/
def isSchemeByte (b : UInt8) : Bool :=
  isLetter b || isDigit b || b == 0x2b || b == 0x2d || b == 0x2e

/-- A byte in lower case. -/
def lower (b : UInt8) : UInt8 := if 65 ≤ b && b ≤ 90 then b + 32 else b

/-- Whether a byte may not stand in a URL at all. -/
def isJunk (b : UInt8) : Bool := b ≤ 0x20 || b == 0x7f

/-- The scheme of a URL in lower case and what stands behind its colon, if there is a scheme. It has
forty bytes at most, and a slash follows the colon. -/
def scheme? (url : Bytes) : Option (Bytes × Bytes) :=
  let name := (url.take 40).takeWhile isSchemeByte
  let rest := url.drop name.length
  if name.head?.any isLetter && (utf8 ":/").isPrefixOf rest then some (name.map lower, rest.drop 1)
  else none

/-- Whether a group of an address of eight groups is one to four hexadecimal digits. -/
def isGroup (s : Bytes) : Bool :=
  0 < s.length && s.length ≤ 4 && s.all fun b => (Percent.hexValue? b).isSome

/-- Whether a part of an address of four numbers is one below 256 without leading zeros. -/
def isOctet (s : Bytes) : Bool :=
  !s.isEmpty && s.all isDigit && (s.length == 1 || s.head? != some 0x30) &&
    s.foldl (fun v b => 10 * v + (b.toNat - 48)) 0 ≤ 255

/-- Whether bytes are an address of four numbers. -/
def isQuad (s : Bytes) : Bool :=
  let parts := s.splitOn 0x2e
  parts.length == 4 && parts.all isOctet

/-- How many groups colons separate, if all are groups. An address of four numbers may stand at the
end for two groups, if it is allowed there. -/
def groups? (allowsQuad : Bool) (s : Bytes) : Option Nat :=
  if s.isEmpty then some 0
  else
    let parts := s.splitOn 0x3a
    let last := parts.getLast?.getD []
    if parts.all isGroup then some parts.length
    else if allowsQuad && parts.dropLast.all isGroup && isQuad last then some (parts.length + 1)
    else none

/-- What stands before and after the first two colons in a row, if there are such. -/
def splitDouble : Bytes → Option (Bytes × Bytes)
  | [] => none
  | 0x3a :: 0x3a :: rest => some ([], rest)
  | b :: rest => (splitDouble rest).map fun (before, after) => (b :: before, after)

/-- Whether bytes are an address of eight groups. Two colons in a row, once, stand for all groups
that are missing. -/
def isAddress (s : Bytes) : Bool :=
  match splitDouble s with
  | none => groups? true s == some 8
  | some (before, after) =>
    match groups? false before, groups? true after with
    | some m, some n => m + n ≤ 7
    | _, _ => false

/-- Whether bytes in brackets are an address, with or without the name of a zone behind it. -/
def isLiteral (s : Bytes) : Bool :=
  let zone := s.dropWhile (· != 0x25)
  let name := if (utf8 "%25").isPrefixOf zone && 3 < zone.length then zone.drop 3 else zone.drop 1
  isAddress (s.takeWhile (· != 0x25)) && (zone.isEmpty || (0 < name.length && name.length ≤ 15))

/-- The bytes that a name of a host may not have. -/
def notInNames : Bytes := utf8 " \r\n\t/:#?!@\x7b\x7d[]\\$'\"^\x60*<>=;,+&()%"

/-- Whether bytes are the name of a host. What a percent sign and two digits write must not be a
control character either. Only ASCII is spoken: no other script is converted. -/
def isName (s : Bytes) : Bool :=
  let decoded := Percent.unescape s
  !s.isEmpty && decoded.all (fun b => 0x20 ≤ b && b < 0x80 && !notInNames.contains b)

/-- Whether bytes are a port in decimal. -/
def isPort (s : Bytes) : Bool :=
  s.all isDigit && s.foldl (fun v b => 10 * v + (b.toNat - 48)) 0 ≤ 65535

/-- The host in what stands between the slashes and the path, if it is one: a name or an address in
brackets. A user may be named in front and a port behind; a port may be left out behind its colon if
there is a scheme. -/
def host? (hasScheme : Bool) (s : Bytes) : Option Bytes :=
  let s := (s.after? 0x40).getD s
  let (host, rest) :=
    match s with
    | 0x5b :: literal => (0x5b :: literal.takeWhile (· != 0x5d), literal.dropWhile (· != 0x5d))
    | s => (s.takeWhile (· != 0x3a), s.dropWhile (· != 0x3a))
  let isHost :=
    match host with
    | 0x5b :: literal => rest.head? == some 0x5d && isLiteral literal
    | name => isName name
  let port := if rest.head? == some 0x5d then rest.drop 1 else rest
  let isPorted :=
    match port with
    | [] => true
    | 0x3a :: digits => isPort digits && (hasScheme || !digits.isEmpty)
    | _ => false
  if isHost && isPorted && host.length ≤ 65535 then some host else none

/-- The part of a URL behind its slashes that names the host. -/
def authority (s : Bytes) : Bytes := s.takeWhile fun b => b != 0x2f && b != 0x3f && b != 0x23

/-- Whether a path begins with the letter of a drive. -/
def hasDrive (path : Bytes) : Bool :=
  match path with
  | letter :: mark :: rest =>
    isLetter letter && (mark == 0x3a || mark == 0x7c) &&
      rest.head?.all fun b => b == 0x2f || b == 0x5c
  | _ => false

/-- The path of a URL for a file, if it is one. -/
def filePath? (s : Bytes) : Option Bytes :=
  if (utf8 "//").isPrefixOf s then
    let path := s.drop 2
    let host := (path.take 10).map lower
    if path.head? == some 0x2f || hasDrive path then some path
    else if host == utf8 "localhost/" || host == utf8 "127.0.0.1/" then some (path.drop 9)
    else none
  else some s

/-- Whether a URL for a file, of which `s` stands behind the colon, is well-formed. -/
def isFile (s : Bytes) : Bool :=
  1 < s.length &&
    match filePath? s with
    | none => false
    | some path => !hasDrive path && !(path.head? == some 0x2f && hasDrive (path.drop 1))

/-- The beginnings of names of hosts that stand for a scheme which is not spoken. -/
def telling : List Bytes :=
  [utf8 "ftp.", utf8 "dict.", utf8 "ldap.", utf8 "imap.", utf8 "smtp.", utf8 "pop3."]

/-- Why a URL without a scheme is refused, if it is. -/
def bareRefusal? (url : Bytes) : Option Refusal :=
  match host? false (authority url) with
  | none => some .malformed
  | some host =>
    let name := (Percent.unescape host).map lower
    if telling.any fun t => t.isPrefixOf name then some .unsupportedScheme else none

/-- Why a URL is refused before anything is sent, if it is. It ends before the first zero byte. -/
def refusal? (url : Bytes) : Option Refusal :=
  let url := url.upTo 0
  if url.any isJunk then some .malformed
  else
    match scheme? url with
    | none => bareRefusal? url
    | some (name, rest) =>
      if name = utf8 "file" then some (if isFile rest then .unsupportedScheme else .malformed)
      else
        let slashes := (rest.takeWhile (· == 0x2f)).length
        if slashes ≤ 3 && (host? true (authority (rest.drop slashes))).isSome then
          if name = utf8 "http" ∨ name = utf8 "https" then none else some .unsupportedScheme
        else some .malformed

end WalletResponder.Url
