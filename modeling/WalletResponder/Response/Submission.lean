import WalletResponder.Json.Printer

/-!
# Presentation submissions

A submission says where in a presentation the parts of a definition are found. Each of its
descriptors is a place, and may point further into what is found there: a chain of places, from the
outside in.

The JSON form has the members in the order of their names, so equal submissions have equal texts.
Reading takes no notice of other members, and a nested descriptor that is null counts as absent.
-/

namespace WalletResponder

/-- A place in a presentation. -/
structure Place where
  id : Bytes
  format : Bytes
  path : Bytes
  deriving DecidableEq, Repr

/-- A chain of places. -/
inductive Descriptor where
  | last (place : Place)
  | within (place : Place) (nested : Descriptor)
  deriving DecidableEq, Repr

/-- What a presentation submits. -/
structure PresentationSubmission where
  id : Bytes
  definitionId : Bytes
  descriptors : List Descriptor
  deriving DecidableEq, Repr

namespace Place

/-- Reads a place from an object. -/
def ofJson (j : Json) : Except Json.Fault Place := do
  let id ← (← j.member (utf8 "id")).asText
  let format ← (← j.member (utf8 "format")).asText
  let path ← (← j.member (utf8 "path")).asText
  pure ⟨id, format, path⟩

/-- Equality of places. -/
def same (p q : Place) : Bool := p.id == q.id && p.format == q.format && p.path == q.path

end Place

namespace Descriptor

/-- The name of the member with the nested descriptor. -/
def nestedName : Bytes := utf8 "path_nested"

/-- The JSON form of a descriptor. -/
def toJson : Descriptor → Json
  | last p =>
    .obj [(utf8 "format", .str p.format), (utf8 "id", .str p.id), (utf8 "path", .str p.path)]
  | within p nested =>
    .obj [(utf8 "format", .str p.format), (utf8 "id", .str p.id), (utf8 "path", .str p.path),
      (nestedName, nested.toJson)]

mutual

/-- Reads a descriptor. -/
def ofJson : Json → Except Json.Fault Descriptor
  | .obj members => do
    let place ← Place.ofJson (.obj members)
    match nested? members with
    | none => pure (last place)
    | some (.ok nested) => pure (within place nested)
    | some (.error fault) => throw fault
  | j => (Place.ofJson j).map last

/-- Reads the nested descriptor among the members of an object. -/
def nested? : List (Bytes × Json) → Option (Except Json.Fault Descriptor)
  | [] => none
  | (name, j) :: rest =>
    if name = nestedName then if j.isNull then none else some (ofJson j) else nested? rest

end

/-- Equality of descriptors: their places are equal, and so are their nested descriptors, if there
are any. -/
def same : Descriptor → Descriptor → Bool
  | last p, last q => p.same q
  | within p d, within q e => p.same q && d.same e
  | _, _ => false

/-- Reads a list of descriptors. -/
def readAll : List Json → Except Json.Fault (List Descriptor)
  | [] => .ok []
  | j :: rest => do
    let d ← ofJson j
    let ds ← readAll rest
    pure (d :: ds)

end Descriptor

namespace PresentationSubmission

/-- Equality of submissions, whose descriptors are compared one by one. -/
def same (s t : PresentationSubmission) : Bool :=
  s.id == t.id && s.definitionId == t.definitionId &&
    s.descriptors.isEqv t.descriptors Descriptor.same

/-- The JSON form of a submission. -/
def toJson (s : PresentationSubmission) : Json :=
  .obj [(utf8 "definition_id", .str s.definitionId),
    (utf8 "descriptor_map", .arr (s.descriptors.map Descriptor.toJson)), (utf8 "id", .str s.id)]

/-- Reads a submission. -/
def ofJson (j : Json) : Except Json.Fault PresentationSubmission := do
  let id ← (← j.member (utf8 "id")).asText
  let definitionId ← (← j.member (utf8 "definition_id")).asText
  let items ← (← j.member (utf8 "descriptor_map")).asArray
  let descriptors ← Descriptor.readAll items
  pure ⟨id, definitionId, descriptors⟩

/-- The text of a submission. -/
def canonical (s : PresentationSubmission) : Except Json.Fault Bytes := s.toJson.dump

end PresentationSubmission
end WalletResponder
