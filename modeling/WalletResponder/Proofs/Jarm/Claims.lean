import WalletResponder.Jarm.Claims
import WalletResponder.Proofs.Json.Integers
import WalletResponder.Proofs.Response.Submissions

/-!
# Reading claims back

The claims of a payload survive their JSON form, whichever of them are absent
(`JarmClaims.ofJson_toJson`). The JSON form has its members in order, so its text reads back too.
-/

namespace WalletResponder

namespace JarmClaims

/-- A claim that may be absent, or one of those behind it. -/
theorem find?_optional (name : Bytes) (key : String) (v : Option Json)
    (rest : List (Bytes × Json)) :
    (Json.obj (optional key v ++ rest)).find? name =
      if utf8 key = name then v.or ((Json.obj rest).find? name)
      else (Json.obj rest).find? name := by
  cases v with
  | none => simp [optional]
  | some j => rw [optional, List.singleton_append, Json.find?_cons]; split <;> rfl

theorem find?_optional_last (name : Bytes) (key : String) (v : Option Json) :
    (Json.obj (optional key v)).find? name = if utf8 key = name then v else none := by
  have h := find?_optional name key v []
  rw [List.append_nil, Json.find?_nil, Option.or_none] at h
  exact h

/-- The members of claims, one group behind the other. -/
theorem toJson_eq (c : JarmClaims) : c.toJson = .obj ((utf8 "aud", .str c.audience) ::
    (optional "error" (c.error.map .str) ++
      (optional "error_description" (c.errorDescription.map .str) ++
        (utf8 "iat", .int c.issuedAt) :: (optional "id_token" (c.idToken.map .str) ++
          (optional "iss" (c.issuer.map .str) ++
            (optional "presentation_submission" (c.submission.map PresentationSubmission.toJson) ++
              (optional "state" (c.state.map .str) ++
                optional "vp_token" (c.vpToken.map .str)))))))) := by
  simp [toJson]

theorem find?_toJson (c : JarmClaims) :
    c.toJson.find? (utf8 "aud") = some (.str c.audience) ∧
    c.toJson.find? (utf8 "error") = c.error.map .str ∧
    c.toJson.find? (utf8 "error_description") = c.errorDescription.map .str ∧
    c.toJson.find? (utf8 "iat") = some (.int c.issuedAt) ∧
    c.toJson.find? (utf8 "id_token") = c.idToken.map .str ∧
    c.toJson.find? (utf8 "iss") = c.issuer.map .str ∧
    c.toJson.find? (utf8 "presentation_submission") =
      c.submission.map PresentationSubmission.toJson ∧
    c.toJson.find? (utf8 "state") = c.state.map .str ∧
    c.toJson.find? (utf8 "vp_token") = c.vpToken.map .str := by
  rw [toJson_eq]
  refine ⟨?_, ?_, ?_, ?_, ?_, ?_, ?_, ?_, ?_⟩ <;>
    simp +decide [find?_optional, find?_optional_last, Json.find?_cons]

theorem text?_of_find? {j : Json} {name : String} {v : Option Bytes}
    (h : j.find? (utf8 name) = v.map .str) : text? j name = .ok v := by
  rw [text?, h]
  cases v <;> rfl

/-- **Claims read back**, whichever of them are absent. -/
theorem ofJson_toJson (c : JarmClaims) (hlow : -2 ^ 63 ≤ c.issuedAt) (hhigh : c.issuedAt < 2 ^ 63) :
    ofJson c.toJson = .ok c := by
  obtain ⟨haud, herror, hdescription, hiat, hid, hiss, hsubmission, hstate, hvp⟩ := find?_toJson c
  have hissuedAt : readIssuedAt c.toJson = .ok c.issuedAt := by
    have hsame := Json.signed64_eq_self.mpr ⟨hlow, hhigh⟩
    rw [readIssuedAt, hiat]
    simp only [hsame]
  have hread : readSubmission c.toJson = .ok c.submission := by
    rw [readSubmission, hsubmission]
    cases hs : c.submission with
    | none => rfl
    | some s =>
      have hobj : s.toJson.isNull = false := rfl
      simp only [Option.map_some]
      split
      · next h => cases h
      · next h => rw [Option.some.inj h] at hobj; cases hobj
      · next j _ h =>
        cases h
        rw [PresentationSubmission.ofJson_toJson]
  have hisObject : c.toJson.isObject = true := by rw [toJson_eq]; rfl
  rw [ofJson, if_pos hisObject, text?_of_find? hiss, hissuedAt,
    text?_of_find? (v := some c.audience) haud, text?_of_find? hstate, text?_of_find? hid,
    text?_of_find? hvp, text?_of_find? herror, text?_of_find? hdescription, hread]
  rfl

/-- The names of all claims. -/
def names : List Bytes :=
  [utf8 "aud", utf8 "error", utf8 "error_description", utf8 "iat", utf8 "id_token", utf8 "iss",
    utf8 "presentation_submission", utf8 "state", utf8 "vp_token"]

theorem sublist_optional (key : String) (v : Option Json) :
    ((optional key v).map Prod.fst).Sublist [utf8 key] := by
  cases v <;> simp [optional]

theorem sublist_optional_append {key : String} {v : Option Json} {l l' : List Bytes}
    (h : l.Sublist l') : ((optional key v).map Prod.fst ++ l).Sublist (utf8 key :: l') :=
  (sublist_optional key v).append h

theorem membersArePlain_append {l l' : List (Bytes × Json)} (h : Json.MembersArePlain l)
    (h' : Json.MembersArePlain l') : Json.MembersArePlain (l ++ l') := by
  rw [Json.membersArePlain_iff] at h h' ⊢
  intro m hm
  exact (List.mem_append.mp hm).elim (h m) (h' m)

theorem membersArePlain_optional {key : String} {v : Option Json} (h : ∀ j ∈ v, j.IsPlain) :
    Json.MembersArePlain (optional key v) := by
  cases v with
  | none => trivial
  | some j => exact ⟨h j rfl, trivial⟩

theorem membersArePlain_text (key : String) (v : Option Bytes) :
    Json.MembersArePlain (optional key (v.map .str)) :=
  membersArePlain_optional fun j hj => by
    obtain ⟨s, -, rfl⟩ := Option.map_eq_some_iff.mp hj
    trivial

/-- The names that are there stand in the order of all names. -/
theorem inOrder_of_names {members : List (Bytes × Json)}
    (h : (members.map Prod.fst).Sublist names) : Json.InOrder members := by
  have hnames : names.Pairwise fun a b => Bytes.lt a b = true := by decide
  exact List.pairwise_map.mp (hnames.sublist h)

/-- **The text of claims reads back as their JSON form.** -/
theorem isPlain_toJson (c : JarmClaims) (hlow : -2 ^ 63 ≤ c.issuedAt)
    (hhigh : c.issuedAt < 2 ^ 63) : c.toJson.IsPlain := by
  rw [toJson_eq, Json.IsPlain]
  constructor
  · refine inOrder_of_names ?_
    simp only [List.map_cons, List.map_append]
    refine List.Sublist.cons_cons _ ?_
    refine sublist_optional_append ?_
    refine sublist_optional_append ?_
    refine List.Sublist.cons_cons _ ?_
    refine sublist_optional_append ?_
    refine sublist_optional_append ?_
    refine sublist_optional_append ?_
    refine sublist_optional_append ?_
    exact sublist_optional _ _
  · refine ⟨trivial, ?_⟩
    refine membersArePlain_append (membersArePlain_text _ _) ?_
    refine membersArePlain_append (membersArePlain_text _ _) ?_
    refine ⟨⟨hlow, by omega⟩, ?_⟩
    refine membersArePlain_append (membersArePlain_text _ _) ?_
    refine membersArePlain_append (membersArePlain_text _ _) ?_
    refine membersArePlain_append (membersArePlain_optional fun j hj => ?_) ?_
    · obtain ⟨s, -, rfl⟩ := Option.map_eq_some_iff.mp hj
      exact s.isPlain_toJson
    exact membersArePlain_append (membersArePlain_text _ _) (membersArePlain_text _ _)

/-- **Claims survive their text.** -/
theorem ofJson_parse? (c : JarmClaims) {text : Bytes} (hlow : -2 ^ 63 ≤ c.issuedAt)
    (hhigh : c.issuedAt < 2 ^ 63) (h : c.toJson.dump = .ok text) :
    ∃ j, Json.parse? text = some j ∧ ofJson j = .ok c :=
  ⟨_, Json.parse?_dump (c.isPlain_toJson hlow hhigh) h, c.ofJson_toJson hlow hhigh⟩

theorem issuedAt_ofPayload (p : Payload) (issuer : Option Bytes) (issuedAt : Int)
    (cancelled : Bytes) : (ofPayload p issuer issuedAt cancelled).issuedAt = issuedAt := by
  rw [ofPayload]
  cases p.answer <;> rfl

end JarmClaims
end WalletResponder
