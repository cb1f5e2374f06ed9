import WalletResponder.Json.Basic

/-!
# Values without their texts

`Json.blank` empties every text in a value and leaves its shape: types, names, numbers and how many
of what. `Json.mapMember` changes a member and leaves the others. What is read of a blank value says
which parts of it the reader looks at.
-/

namespace WalletResponder.Json

mutual

/-- The value with its texts emptied. -/
def blank : Json → Json
  | .str _ => .str []
  | .arr items => .arr (blankItems items)
  | .obj members => .obj (blankMembers members)
  | .null => .null
  | .bool b => .bool b
  | .int n => .int n
  | .float x => .float x

/-- Items with their texts emptied. -/
def blankItems : List Json → List Json
  | [] => []
  | j :: rest => j.blank :: blankItems rest

/-- Members with their texts emptied; the names stay. -/
def blankMembers : List (Bytes × Json) → List (Bytes × Json)
  | [] => []
  | (name, j) :: rest => (name, j.blank) :: blankMembers rest

end

theorem blankMembers_eq_map : ∀ members : List (Bytes × Json),
    blankMembers members = members.map fun m => (m.1, m.2.blank)
  | [] => rfl
  | (_, _) :: rest => by rw [blankMembers, blankMembers_eq_map rest, List.map_cons]

theorem find?_blank (name : Bytes) (j : Json) : j.blank.find? name = (j.find? name).map blank := by
  have hmembers : ∀ members : List (Bytes × Json),
      ((blankMembers members).find? fun m => m.1 == name).map Prod.snd =
        ((members.find? fun m => m.1 == name).map Prod.snd).map blank := by
    intro members
    induction members with
    | nil => rfl
    | cons m rest ih =>
      rw [blankMembers, List.find?_cons, List.find?_cons]
      cases m.1 == name with
      | true => rfl
      | false => exact ih
  cases j with
  | obj members =>
    rw [blank]
    exact hmembers members
  | _ => rfl

theorem asText_blank (j : Json) : j.blank.asText = j.asText.map fun _ => [] := by
  cases j <;> rfl

theorem asArray_blank (j : Json) : j.blank.asArray = j.asArray.map blankItems := by
  cases j <;> rfl

theorem isNull_blank (j : Json) : j.blank.isNull = j.isNull := by
  cases j <;> rfl

theorem member_blank (name : Bytes) (j : Json) :
    j.blank.member name = (j.member name).map blank := by
  have hfind := find?_blank name j
  cases j with
  | obj members =>
    rw [blank] at hfind ⊢
    rw [member, member, hfind]
    cases (obj members).find? name <;> rfl
  | _ => rfl

end WalletResponder.Json
