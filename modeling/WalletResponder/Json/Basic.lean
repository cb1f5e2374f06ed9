import WalletResponder.Json.Binary64

/-!
# JSON values

A value is null, a boolean, a number, a text, an array or an object. A number is an integer or a
binary64 number, and keeps which of the two it was written as. The members of an object are kept in
the order of their names' bytes, each name once; `Json.put` keeps it so, and `Json.object` builds an
object from a list in which the last of several equal names counts.

Reading a value as a type it does not have is a `Json.Fault`.
-/

namespace WalletResponder

/-- A JSON value. Texts and names are bytes; a parsed value has valid UTF-8 in them. -/
inductive Json where
  | null
  | bool (b : Bool)
  | int (n : Int)
  | float (x : Binary64)
  | str (s : Bytes)
  | arr (items : List Json)
  | obj (members : List (Bytes × Json))
  deriving Inhabited

namespace Json

/-- What goes wrong with a JSON text or with reading a value. -/
inductive Fault where
  /-- The text is not one JSON value. The reader words that in its own way, and may show bytes of
  the text. -/
  | malformed (wording : Bytes)
  /-- A value has another type than the reader wants. -/
  | wrongType (wanted : String)
  /-- An object lacks a member. -/
  | missing (name : Bytes)
  /-- A text to be written is not valid UTF-8. -/
  | notText
  deriving DecidableEq, Repr

/-- The wording of a fault. -/
def Fault.message : Fault → Bytes
  | .malformed wording => wording
  | .wrongType wanted => utf8 "[json.exception.type_error.302] type must be " ++ utf8 wanted
  | .missing name => utf8 "[json.exception.out_of_range.403] key '" ++ name ++ utf8 "' not found"
  | .notText => utf8 "[json.exception.type_error.316] invalid UTF-8 byte"

/-- The members with `name` set to `value`, in the order of the names. -/
def put (name : Bytes) (value : Json) : List (Bytes × Json) → List (Bytes × Json)
  | [] => [(name, value)]
  | (k, v) :: rest =>
    if k == name then (name, value) :: rest
    else if Bytes.lt name k then (name, value) :: (k, v) :: rest
    else (k, v) :: put name value rest

/-- The object with these members; the last of several equal names counts. -/
def object (members : List (Bytes × Json)) : Json :=
  .obj (members.foldl (fun acc m => put m.1 m.2 acc) [])

/-- A text written in the program. -/
def text (s : String) : Json := .str (utf8 s)

/-- The member called `name`; a value that is no object has none. -/
def find? (name : Bytes) : Json → Option Json
  | .obj members => (members.find? fun m => m.1 == name).map (·.2)
  | _ => none

/-- The value without the member called `name`. -/
def erase (name : Bytes) : Json → Json
  | .obj members => .obj (members.filter fun m => m.1 != name)
  | j => j

/-- Whether the value is an object. -/
def isObject : Json → Bool
  | .obj _ => true
  | _ => false

/-- Whether the value is null. -/
def isNull : Json → Bool
  | .null => true
  | _ => false

/-- The value with a member set: null becomes an object, and nothing else but an object has
members. -/
def assign (j : Json) (name : Bytes) (value : Json) : Except Fault Json :=
  match j with
  | .obj members => .ok (.obj (put name value members))
  | .null => .ok (.obj [(name, value)])
  | _ => .error (.wrongType "object")

/-- The text of a value that is one. -/
def asText? : Json → Option Bytes
  | .str s => some s
  | _ => none

/-- Reads a text. -/
def asText : Json → Except Fault Bytes
  | .str s => .ok s
  | _ => .error (.wrongType "string")

/-- Reads an array. -/
def asArray : Json → Except Fault (List Json)
  | .arr items => .ok items
  | _ => .error (.wrongType "array")

/-- The number in the range of 64-bit integers with a sign that is equal to `n` modulo `2 ^ 64`. -/
def signed64 (n : Int) : Int := Int.bmod n (Nat.pow 2 64)

/-- The number in the range of 64-bit integers without a sign that is equal to `n` modulo
`2 ^ 64`. -/
def unsigned64 (n : Int) : Int := n % Nat.pow 2 64

/-- An integer in the range of 64-bit integers with a sign stands for itself, and any other for the
least of them. -/
def fitted64 (n : Int) : Int :=
  if -Nat.pow 2 63 ≤ n ∧ n < Nat.pow 2 63 then n else -Nat.pow 2 63

/-- Reads a number as a 64-bit integer with a sign. Integers wrap around; fractions are cut off and
fitted. -/
def asSigned64 : Json → Except Fault Int
  | .int n => .ok (signed64 n)
  | .float x => .ok (fitted64 x.truncate)
  | _ => .error (.wrongType "number")

/-- Reads a number as a 64-bit integer without a sign. Integers wrap around; fractions are cut off
and fitted, and from `2 ^ 63` on it is the excess over `2 ^ 63` that is fitted. -/
def asUnsigned64 : Json → Except Fault Int
  | .int n => .ok (unsigned64 n)
  | .float x =>
    if x.truncate < Nat.pow 2 63 then .ok (unsigned64 (fitted64 x.truncate))
    else .ok (Nat.pow 2 63 + fitted64 (x.truncate - Nat.pow 2 63))
  | _ => .error (.wrongType "number")

/-- Reads the member called `name`, which must be there. -/
def member (name : Bytes) : Json → Except Fault Json
  | .obj members =>
    match (Json.obj members).find? name with
    | some v => .ok v
    | none => .error (.missing name)
  | _ => .error (.wrongType "object")

/-- Reads the member called `name` of an object with `read`, or takes the default when it is
absent. -/
def memberOr {α : Type} (name : Bytes) (read : Json → Except Fault α) (default : α) :
    Json → Except Fault α
  | .obj members =>
    match (Json.obj members).find? name with
    | some v => read v
    | none => .ok default
  | _ => .error (.wrongType "object")

mutual

/-- Equality of values: numbers are compared by value, whichever way they are written. -/
def same : Json → Json → Bool
  | .null, .null => true
  | .bool a, .bool b => a == b
  | .int a, .int b => a == b
  | .int a, .float y => y.isInt a
  | .float x, .int b => x.isInt b
  | .float x, .float y => x.same y
  | .str a, .str b => a == b
  | .arr as, .arr bs => sameItems as bs
  | .obj as, .obj bs => sameMembers as bs
  | _, _ => false

/-- Equality of arrays. -/
def sameItems : List Json → List Json → Bool
  | [], [] => true
  | a :: as, b :: bs => same a b && sameItems as bs
  | _, _ => false

/-- Equality of objects. -/
def sameMembers : List (Bytes × Json) → List (Bytes × Json) → Bool
  | [], [] => true
  | (k, a) :: as, (l, b) :: bs => k == l && same a b && sameMembers as bs
  | _, _ => false

end

end Json
end WalletResponder
