import WalletResponder.Key.Basic
import WalletResponder.Key.Parameters

/-!
# What a block of a key file holds

A private key is written in one of two ways. For some kinds of key there is a form of their own: the
numbers of the key and no word on what they are. The other form is the same for all kinds: an object
identifier for the kind, parameters and the key proper (`Wrapped`).

`KeyKind` lists the kinds that are told apart, and `Wrapped.key?` reads a wrapped key of each.
-/

namespace WalletResponder

/-- The kinds of key that a file may hold. -/
inductive KeyKind where
  | rsa
  /-- RSA keys for signatures with a salt only. -/
  | salted
  /-- Keys for signatures with residues. -/
  | dsa
  /-- Keys for agreement with residues. -/
  | residue
  /-- Such keys with the order of the generator. -/
  | orderedResidue
  | curve
  /-- Keys of the group with schemes of its own. -/
  | ownCurve
  | ed25519
  | ed448
  | ladder (c : LadderCurve)
  deriving DecidableEq, Repr

namespace KeyContent

/-- Two factors of a modulus and what belongs to them, if five numbers are there. -/
def factors? (isPair : Bool) : List Nat → Option RsaFactors
  | [p, q, dp, dq, inverse] => some ⟨p, q, dp, dq, inverse, isPair⟩
  | _ => none

/-- Whether bytes are triples of integers: further prime factors. -/
def areTriples : Nat → Bytes → Bool
  | _, [] => true
  | 0, _ => false
  | fuel + 1, s =>
    match Der.element? Der.sequence s with
    | none => false
    | some (triple, r) =>
      ((Der.naturals? 3 triple).any fun (_, rest) => rest.isEmpty) && areTriples fuel r

/-- An RSA key: version, modulus, both exponents, and five numbers that follow from them. Version
one announces more than two prime factors, and at least one must then stand behind. -/
def rsa? (content : Bytes) : Option RsaKey := do
  let (body, _) ← Der.element? Der.sequence content
  let (version, r) ← Der.small? body
  let (numbers, r) ← Der.naturals? 8 r
  let (more, r) := Der.optional Der.sequence r
  let isComplete := r.isEmpty && more.all (fun s => areTriples s.length s) &&
    (version ≠ 1 || more.any (!·.isEmpty))
  match numbers with
  | n :: e :: d :: rest =>
    if isComplete then some ⟨n, e, some ⟨d, factors? (version ≠ 1) rest⟩⟩ else none
  | _ => none

/-- A key for signatures with residues: version and five numbers. -/
def isDsa (content : Bytes) : Bool :=
  match Der.element? Der.sequence content with
  | some (body, _) =>
    match (Der.small? body).bind fun (_, r) => Der.naturals? 5 r with
    | some (_, []) => true
    | _ => false
  | none => false

/-- The key with a written point. -/
def withPoint? (g : Group) (secret : Nat) (part : Bytes) : Option CurveKey :=
  ((Der.bits? part).bind g.decode?).map fun q =>
    { group := g, point := q, secret := some secret, hasForm := q != .neutral }

/-- A key on a curve: version, secret, and optionally the group and the point. The group may be
known beforehand, and a missing point is computed. -/
def curve? (known : Option Group) (content : Bytes) : Option CurveKey := do
  let (body, _) ← Der.element? Der.sequence content
  let (_, r) ← Der.small? body
  let (secret, r) ← Der.element? Der.octetString r
  let secret := Bytes.toNat secret
  let (parameters, r) := Der.optional (Der.part 0) r
  let g ← match parameters with
    | some parameters => GroupParameters.group? parameters
    | none => known
  match Der.optional (Der.part 1) r with
  | (some part, []) => withPoint? g secret part
  | (none, []) => pure (CurveKey.ofSecret g secret)
  | _ => none

/-- The seed of a key that is nothing else, if it has the right size. -/
def seed? (size : Nat) (content : Bytes) : Option Bytes :=
  ((Der.element? Der.octetString content).map (·.1)).filter fun seed => seed.length == size

/-- Whether parameters with the numbers of a group for signatures go with a secret number. -/
def isDsaWith (parameters content : Bytes) : Bool :=
  match Der.whole? Der.sequence parameters with
  | some body =>
    match Der.naturals? 3 body with
    | some (p :: _, []) => p % 2 == 1 && (Der.integer? content).any fun (x, _) => 0 ≤ x
    | _ => false
  | none => false

/-- Whether bytes tell how a modulus was found: a seed and a counter. -/
def isOrigin (s : Bytes) : Bool :=
  match Der.element? Der.bitString s with
  | some (seed, r) =>
    Der.isProper Der.bitString seed && (Der.naturals? 1 r).any fun (_, r) => r.isEmpty
  | none => false

/-- The group for agreement in parameters: modulus and generator, and behind them the order of the
generator or the length of an exponent. -/
def residueGroup? (isOrdered : Bool) (parameters : Bytes) : Option ResidueGroup := do
  let body ← Der.whole? Der.sequence parameters
  if isOrdered then
    match ← Der.naturals? 3 body with
    | ([p, g, q], r) =>
      let r := (Der.optional Der.integer r).2
      let (origin, r) := Der.optional Der.sequence r
      if r.isEmpty && origin.all isOrigin then some ⟨p, g, some q⟩ else none
    | _ => none
  else
    match ← Der.naturals? 2 body with
    | ([p, g], r) =>
      if r.isEmpty || (Der.small? r).any fun (_, r) => r.isEmpty then some ⟨p, g, none⟩ else none
    | _ => none

/-- A key for agreement with residues. -/
def residue? (isOrdered : Bool) (parameters content : Bytes) : Option ResidueKey := do
  let r ← residueGroup? isOrdered parameters
  let (x, _) ← Der.integer? content
  if r.isUsable then some (ResidueKey.ofExponent r x.natAbs) else none

/-- The hash functions that parameters for signatures with a salt may name and that are written
again: those of the older and the newer family, also by way of signatures that use them. -/
def commonHashes : List Bytes :=
  [0x2b, 0x0e, 0x03, 0x02, 0x1a] :: [0x2b, 0x0e, 0x03, 0x02, 0x1d] ::
    ([1, 2, 3, 4, 5, 6].map fun i => [0x60, 0x86, 0x48, 0x01, 0x65, 0x03, 0x04, 0x02, i]) ++
    [0x05, 0x0b, 0x0c, 0x0d, 0x0e, 0x0f, 0x10].map fun i =>
      [0x2a, 0x86, 0x48, 0x86, 0xf7, 0x0d, 0x01, 0x01, i]

/-- Further hash functions, which are understood but not written again. -/
def rareHashes : List Bytes :=
  [[0x2a, 0x86, 0x48, 0x86, 0xf7, 0x0d, 0x02, 0x04],
    [0x2a, 0x86, 0x48, 0x86, 0xf7, 0x0d, 0x02, 0x05],
    [0x2a, 0x86, 0x48, 0x86, 0xf7, 0x0d, 0x01, 0x01, 0x03],
    [0x2a, 0x86, 0x48, 0x86, 0xf7, 0x0d, 0x01, 0x01, 0x04],
    [0x2b, 0x24, 0x03, 0x02, 0x01], [0x2b, 0x24, 0x03, 0x03, 0x01, 0x02],
    [0x2a, 0x81, 0x1c, 0xcf, 0x55, 0x01, 0x83, 0x11],
    [0x2b, 0x06, 0x01, 0x04, 0x01, 0x8d, 0x3a, 0x0c, 0x02, 0x01, 0x10],
    [0x2b, 0x06, 0x01, 0x04, 0x01, 0x8d, 0x3a, 0x0c, 0x02, 0x02, 0x08],
    [0x28, 0xcf, 0x06, 0x03, 0x00, 0x37]] ++
    [7, 8, 9, 10, 11, 12].map fun i => [0x60, 0x86, 0x48, 0x01, 0x65, 0x03, 0x04, 0x02, i]

/-- The identifier in a pair of an identifier and optional parameters, and the parameters. -/
def named? (s : Bytes) : Option (Bytes × Bytes) :=
  match (Der.whole? Der.sequence s).bind (Der.element? Der.identifier) with
  | some (id, r) => if Der.isOptional r then some (id, r) else none
  | none => none

/-- Whether the hash function that an identifier with parameters names is written again, if it is
understood. -/
def hash? (s : Bytes) : Option Bool :=
  (named? s).bind fun (id, _) =>
    if commonHashes.contains id then some true
    else if rareHashes.contains id then some false
    else none

/-- The same for the hash function with which the mask function is named. -/
def mask? (s : Bytes) : Option Bool :=
  (named? s).bind fun (id, r) =>
    if id = [0x2a, 0x86, 0x48, 0x86, 0xf7, 0x0d, 0x01, 0x01, 0x08] then hash? r else none

/-- The number that is kept of an integer: its lower thirty-two bits, with a sign. One of more than
sixty-four bits counts as minus one. -/
def kept (v : Int) : Int :=
  if -Nat.pow 2 63 ≤ v && v < Nat.pow 2 63 then (v + Nat.pow 2 31) % Nat.pow 2 32 - Nat.pow 2 31
  else -1

/-- Whether a number is written again, if it is one. -/
def number? (accepts : Int → Bool) (s : Bytes) : Option Bool :=
  match Der.integer? s with
  | some (v, []) => some (accepts (kept v))
  | _ => none

/-- Whether a part of the parameters is written again, if it is understood. -/
def part? (read? : Bytes → Option Bool) : Option Bytes → Option Bool
  | none => some true
  | some s => read? s

/-- Whether parameters that limit signatures with a salt are written again, if they are understood:
hash, mask, length of the salt and a number for the trailer, each of them optional. No parameters
limit nothing. -/
def limit? (parameters : Bytes) : Option Bool :=
  if parameters.isEmpty then some true
  else do
    let body ← Der.whole? Der.sequence parameters
    let (hash, r) := Der.optional (Der.part 0) body
    let (mask, r) := Der.optional (Der.part 1) r
    let (salt, r) := Der.optional (Der.part 2) r
    let (trailer, r) := Der.optional (Der.part 3) r
    let h ← part? hash? hash
    let m ← part? mask? mask
    let s ← part? (number? fun v => 0 ≤ v) salt
    let t ← part? (number? fun v => v = 1) trailer
    if r.isEmpty then some (h && m && s && t) else none

/-- Whether bytes are attributes: each an identifier and a set. -/
def areAttributes : Nat → Bytes → Bool
  | _, [] => true
  | 0, _ => false
  | fuel + 1, s =>
    match Der.element? Der.sequence s with
    | none => false
    | some (body, r) =>
      ((Der.element? Der.identifier body).any fun (id, r) =>
          Der.isIdentifier id && (Der.whole? Der.set r).isSome) &&
        areAttributes fuel r

end KeyContent

/-- A wrapped key: what kind it is of, with which parameters, and the key proper. -/
structure Wrapped where
  identifier : Bytes
  parameters : Bytes
  content : Bytes
  deriving DecidableEq, Repr

namespace Wrapped

open KeyContent

/-- Reads a wrapped key: version, object identifier with parameters, and the key; attributes may
follow. -/
def read? (s : Bytes) : Option Wrapped := do
  let (body, _) ← Der.element? Der.sequence s
  let (_, r) ← Der.integer? body
  let (kind, r) ← Der.element? Der.sequence r
  let (content, r) ← Der.element? Der.octetString r
  let (attributes, r) := Der.optional (Der.part 0) r
  let (id, parameters) ← Der.element? Der.identifier kind
  if r.isEmpty && Der.isOptional parameters && attributes.all fun s => areAttributes s.length s then
    some ⟨id, parameters, content⟩
  else none

/-- The wrapped key, read as one of the given kind. -/
def key? (w : Wrapped) : KeyKind → Option Key
  | .rsa => (rsa? w.content).map .rsa
  | .salted =>
    (limit? w.parameters).bind fun written =>
      (rsa? w.content).map fun _ => .other { publishes := written }
  | .dsa => if isDsaWith w.parameters w.content then some (.other {}) else none
  | .residue => (residue? false w.parameters w.content).map .residue
  | .orderedResidue => (residue? true w.parameters w.content).map .residue
  | .curve | .ownCurve =>
    (GroupParameters.group? w.parameters).bind fun g => (curve? (some g) w.content).map .ec
  | .ed25519 =>
    if w.parameters.isEmpty then
      (seed? 32 w.content).map fun s => .ed25519 (Ed25519.ofSeed s)
    else none
  | .ed448 =>
    if w.parameters.isEmpty then (seed? 57 w.content).map fun _ => .other {} else none
  | .ladder c =>
    if w.parameters.isEmpty then
      (seed? c.size w.content).map fun s => .ladder (LadderKey.ofSecret c s)
    else none

end Wrapped

namespace KeyKind

/-- The object identifiers of the kinds. -/
def identifiers : List (Bytes × KeyKind) :=
  [([0x2a, 0x86, 0x48, 0x86, 0xf7, 0x0d, 0x01, 0x01, 0x01], rsa),
    ([0x2a, 0x86, 0x48, 0x86, 0xf7, 0x0d, 0x01, 0x01, 0x0a], salted),
    ([0x2a, 0x86, 0x48, 0xce, 0x38, 0x04, 0x01], dsa),
    ([0x2a, 0x86, 0x48, 0x86, 0xf7, 0x0d, 0x01, 0x03, 0x01], residue),
    ([0x2a, 0x86, 0x48, 0xce, 0x3e, 0x02, 0x01], orderedResidue),
    ([0x2a, 0x86, 0x48, 0xce, 0x3d, 0x02, 0x01], curve),
    ([0x2a, 0x81, 0x1c, 0xcf, 0x55, 0x01, 0x82, 0x2d], ownCurve),
    ([0x2b, 0x65, 0x6e], ladder .x25519),
    ([0x2b, 0x65, 0x6f], ladder .x448),
    ([0x2b, 0x65, 0x70], ed25519),
    ([0x2b, 0x65, 0x71], ed448)]

/-- Older identifiers, which name some kinds as well. -/
def oldIdentifiers : List (Bytes × KeyKind) :=
  [([0x55, 0x08, 0x01, 0x01], rsa),
    ([0x2a, 0x86, 0x48, 0xce, 0x38, 0x04, 0x03], dsa),
    ([0x2b, 0x0e, 0x03, 0x02, 0x0c], dsa),
    ([0x2b, 0x0e, 0x03, 0x02, 0x0d], dsa),
    ([0x2b, 0x0e, 0x03, 0x02, 0x1b], dsa)]

/-- The key in the form that a kind has of its own. -/
def bare? (kind : KeyKind) (content : Bytes) : Option Key :=
  match kind with
  | rsa => (KeyContent.rsa? content).map .rsa
  | dsa => if KeyContent.isDsa content then some (.other {}) else none
  | curve => (KeyContent.curve? none content).map .ec
  | _ => none

end KeyKind
end WalletResponder
