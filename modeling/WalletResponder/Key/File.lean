import WalletResponder.Key.Content
import WalletResponder.Key.Pem

/-!
# Keys in files

A file is searched for a private key up to twice. The first search goes through all blocks. It takes
the first one that holds a key in a form that goes with the block's label, and passes over malformed
blocks and those that hold no such key. A protected block ends it, since there is no password.

The second search looks at no more than one block: the first that is labelled as a private key. It
accepts some labels, identifiers and groups that the first search knows nothing of. A key on a curve
that it finds does not show its coordinates.
-/

namespace WalletResponder
namespace KeyFile

/-- The label of a block with a wrapped key. -/
def wrappedLabel : Bytes := utf8 "PRIVATE KEY"

/-- The label of a block with a key that is protected by a password. -/
def protectedLabel : Bytes := utf8 "ENCRYPTED PRIVATE KEY"

/-- The labels that name a kind of key, for the first search. -/
def kinds : List (Bytes × KeyKind) :=
  [(utf8 "RSA PRIVATE KEY", .rsa), (utf8 "RSA PUBLIC KEY", .rsa), (utf8 "DSA PRIVATE KEY", .dsa),
    (utf8 "DSA PUBLIC KEY", .dsa), (utf8 "DSA PARAMETERS", .dsa), (utf8 "EC PRIVATE KEY", .curve),
    (utf8 "EC PARAMETERS", .curve), (utf8 "DH PARAMETERS", .residue),
    (utf8 "X9.42 DH PARAMETERS", .orderedResidue)]

/-- What a search makes of a block. -/
inductive Verdict where
  | found (k : Key)
  | passedOver
  | final

/-- The verdict when a block may hold a key. -/
def Verdict.ofOption : Option Key → Verdict
  | some k => .found k
  | none => .passedOver

/-- A key as the first search takes it. Whether it is in the group with schemes of its own and
whether its identifier says so must agree. -/
def settle? (kind : KeyKind) (k : Key) : Option Key :=
  match k with
  | .ec c =>
    match c.group.hasOwnSchemes, kind with
    | true, .ownCurve => some (.other { encrypts := true })
    | true, _ => none
    | false, .ownCurve => none
    | false, _ => some k
  | k => some k

/-- The key in a wrapped one, for the first search. -/
def unwrap? (w : Wrapped) : Option Key :=
  match KeyKind.identifiers.lookup w.identifier with
  | some kind => (w.key? kind).bind (settle? kind)
  | none => none

/-- The wrapped key, if it is of the given kind. -/
def unwrapAs? (kind : KeyKind) (w : Wrapped) : Option Key :=
  if KeyKind.identifiers.lookup w.identifier = some kind then unwrap? w else none

/-- The key that goes with a label, for the first search. A label that names a kind allows a wrapped
key of that kind as well; one that announces a password does not mean that there is one. -/
def labelled? (b : Pem.Block) : Option Key :=
  if b.label = wrappedLabel || b.label = protectedLabel then
    (Wrapped.read? b.content).bind unwrap?
  else
    match kinds.lookup b.label with
    | some kind =>
      (kind.bare? b.content).bind (settle? kind) <|>
        (Wrapped.read? b.content).bind (unwrapAs? kind)
    | none => none

/-- Whether bytes are a key under a password: an identifier with parameters and a string. -/
def isProtected (content : Bytes) : Bool :=
  (Der.element? Der.sequence content).any fun (body, _) =>
    (Der.element? Der.sequence body).any fun (kind, r) =>
      ((Der.element? Der.identifier kind).any fun (_, r) => Der.isOptional r) &&
        (Der.whole? Der.octetString r).isSome

/-- What opens the header of a protected block. -/
def processing : Bytes := utf8 "Proc-Type:"

/-- Whether a header is of another version than those of protected blocks. -/
def isOtherVersion (header : Bytes) : Bool :=
  processing.isPrefixOf header &&
    !(utf8 "4,").isPrefixOf
      ((header.drop processing.length).dropWhile fun c => c == 0x20 || c == 0x09)

/-- The verdict of the first search. A header of ten bytes at most is not looked at. -/
def firstVerdict (b : Pem.Block) : Verdict :=
  if 10 < b.header.length then if isOtherVersion b.header then .passedOver else .final
  else if b.label = protectedLabel && isProtected b.content then .final
  else .ofOption (labelled? b)

/-- The first search, through at most `fuel` blocks. -/
def firstSearch : Nat → List Pem.Line → Option Key
  | 0, _ => none
  | _, [] => none
  | fuel + 1, ls =>
    match Pem.next ls with
    | (none, rest) => firstSearch fuel rest
    | (some b, rest) =>
      match firstVerdict b with
      | .found k => some k
      | .passedOver => firstSearch fuel rest
      | .final => none

/-- A letter as a capital. -/
def capital (c : UInt8) : UInt8 := if 0x61 ≤ c && c ≤ 0x7a then c - 0x20 else c

/-- The kind of key that a label names, for the second search. Small letters are as good as capitals
there, but in the words for the private key. -/
def labelKind? (label : Bytes) : Option KeyKind :=
  let ending := utf8 " PRIVATE KEY"
  if ending.isSuffixOf label then
    [(utf8 "RSA", KeyKind.rsa), (utf8 "DSA", .dsa), (utf8 "EC", .curve)].lookup
      ((label.take (label.length - ending.length)).map capital)
  else none

/-- Whether the second search stops at a block with this label. -/
def isPrivate (label : Bytes) : Bool :=
  label == wrappedLabel || label == protectedLabel || label == utf8 "ANY PRIVATE KEY" ||
    (labelKind? label).isSome

/-- The kind that an identifier names, for the second search. -/
def kindOf? (identifier : Bytes) : Option KeyKind :=
  ((KeyKind.identifiers ++ KeyKind.oldIdentifiers).lookup identifier).map fun kind =>
    if kind = .ownCurve then .curve else kind

/-- A key as the second search takes it. -/
def veil : Key → Key
  | .ec c => .ec { c with showsPoint := false }
  | k => k

/-- The key in a block, for the second search. -/
def secondKey? (b : Pem.Block) : Option Key :=
  if !b.header.isEmpty then none
  else
    let wrapped := (Wrapped.read? b.content).bind fun w =>
      (kindOf? w.identifier).bind fun kind => (w.key? kind).map fun k => (kind, k)
    if b.label = wrappedLabel then wrapped.map (·.2)
    else
      (labelKind? b.label).bind fun kind =>
        kind.bare? b.content <|> (wrapped.filter fun w => w.1 == kind).map (·.2)

/-- The second search, through at most `fuel` blocks. -/
def secondSearch : Nat → List Pem.Line → Option Key
  | 0, _ => none
  | fuel + 1, ls =>
    match Pem.next ls with
    | (none, _) => none
    | (some b, rest) =>
      if isPrivate b.label then (secondKey? b).map veil else secondSearch fuel rest

/-- The private key in the lines of a file. -/
def search? (ls : List Pem.Line) : Option Key :=
  firstSearch (ls.length + 1) ls <|> secondSearch (ls.length + 1) ls

end KeyFile

/-- The private key in a file. -/
def Key.ofFile (file : Bytes) : Except CryptoFault Key :=
  match KeyFile.search? (Pem.lines file) with
  | some k => .ok k
  | none => .error .unreadableKey

end WalletResponder
