import WalletResponder.Proofs.Response.Texts

/-!
# The text of a submission

The text of a submission is its JSON form, which reads back
(`PresentationSubmission.ofJson_parse?`). So two submissions with one text are equal, and that is
what comparing them member by member finds out, too (`PresentationSubmission.same_iff`).
-/

namespace WalletResponder

/-! ### Equality -/

theorem Place.same_iff {p q : Place} : p.same q = true ↔ p = q := by
  obtain ⟨id, format, path⟩ := p
  obtain ⟨id', format', path'⟩ := q
  simp [same, and_assoc]

namespace Descriptor

theorem same_iff : ∀ {d e : Descriptor}, d.same e = true ↔ d = e
  | last p, last q => by rw [same, Place.same_iff, last.injEq]
  | within p d, within q e => by
    rw [same, Bool.and_eq_true, Place.same_iff, same_iff, within.injEq]
  | last _, within _ _ => ⟨nofun, nofun⟩
  | within _ _, last _ => ⟨nofun, nofun⟩

theorem isEqv_same_iff : ∀ {ds es : List Descriptor}, ds.isEqv es same = true ↔ ds = es
  | [], [] => by simp
  | d :: ds, e :: es => by
    rw [List.isEqv_cons_cons, Bool.and_eq_true, same_iff, isEqv_same_iff, List.cons.injEq]
  | [], _ :: _ => ⟨nofun, nofun⟩
  | _ :: _, [] => ⟨nofun, nofun⟩

end Descriptor

namespace PresentationSubmission

/-- **Comparing submissions member by member finds out whether they are equal.** -/
theorem same_iff {s t : PresentationSubmission} : s.same t = true ↔ s = t := by
  obtain ⟨id, definition, ds⟩ := s
  obtain ⟨id', definition', es⟩ := t
  simp [same, Descriptor.isEqv_same_iff, and_assoc]

/-! ### Texts -/

/-- **The text of a submission reads back.** -/
theorem ofJson_parse? {s : PresentationSubmission} {text : Bytes} (h : s.canonical = .ok text) :
    ∃ j, Json.parse? text = some j ∧ ofJson j = .ok s :=
  ⟨_, Json.parse?_dump s.isPlain_toJson h, s.ofJson_toJson⟩

/-- Submissions with one text are one submission. -/
theorem eq_of_canonical {s t : PresentationSubmission} {text : Bytes} (hs : s.canonical = .ok text)
    (ht : t.canonical = .ok text) : s = t := by
  obtain ⟨j, hj, hjs⟩ := ofJson_parse? hs
  obtain ⟨j', hj', hjt⟩ := ofJson_parse? ht
  rw [hj] at hj'
  cases hj'
  exact Except.ok.inj (hjs.symm.trans hjt)

/-- **The text of a submission says what the submission is.** Each submission that is text has one,
and it reads back as a submission that is the same member by member; so two submissions have one
text if and only if they are the same. A submission is read from the values that have two texts and
an array of descriptors in them and from no others, and what else is in a value, at any level, makes
no difference to the result. -/
theorem canonical_is_faithful :
    (∀ s t : PresentationSubmission, s.same t = true ↔ s = t) ∧
    (∀ s : PresentationSubmission, s.IsText → ∃ text j t, s.canonical = .ok text ∧
      Json.parse? text = some j ∧ ofJson j = .ok t ∧ s.same t = true) ∧
    (∀ s t : PresentationSubmission, s.IsText → t.IsText →
      (s.canonical = t.canonical ↔ s.same t = true)) ∧
    (∀ j : Json, (∃ s, ofJson j = .ok s) ↔ IsForm j) ∧
    ∀ j j' : Json, Agree j j' → ofJson j' = ofJson j := by
  refine ⟨fun s t => same_iff, fun s hs => ?_, fun s t hs _ => ⟨fun h => ?_, fun h => ?_⟩,
    fun j => exists_ofJson, fun j j' h => h.ofJson_eq⟩
  · obtain ⟨text, htext⟩ := exists_canonical.mpr hs
    obtain ⟨j, hj, hread⟩ := ofJson_parse? htext
    exact ⟨text, j, s, htext, hj, hread, same_iff.mpr rfl⟩
  · obtain ⟨text, htext⟩ := exists_canonical.mpr hs
    exact same_iff.mpr (eq_of_canonical htext (h ▸ htext))
  · rw [same_iff.mp h]

/-- A submission of a credential that is within a presentation. -/
def nestedCredential : PresentationSubmission where
  id := utf8 "Zürich"
  definitionId := utf8 ""
  descriptors := [
    .within ⟨utf8 "1", utf8 "jwt_vp", utf8 "$"⟩ (.last ⟨utf8 "2", utf8 "jwt_vc", utf8 "$.vc"⟩)]

/-- Its JSON form with a member more, and with null within the credential. -/
def annotatedCredential : Json := .obj [(utf8 "definition_id", .str []),
  (utf8 "descriptor_map", .arr [.obj [(utf8 "format", .text "jwt_vp"), (utf8 "id", .text "1"),
    (utf8 "path", .text "$"), (utf8 "path_nested", .obj [(utf8 "format", .text "jwt_vc"),
      (utf8 "id", .text "2"), (utf8 "path", .text "$.vc"), (utf8 "path_nested", .null)])]]),
  (utf8 "id", .text "Zürich"), (utf8 "version", .int 1)]

/-- The submission reads back from its own text, and from the value with more in it. -/
theorem nestedCredential_reads_back :
    (∃ text j t, nestedCredential.canonical = .ok text ∧ Json.parse? text = some j ∧
      ofJson j = .ok t ∧ nestedCredential.same t = true) ∧
    ofJson annotatedCredential = .ok nestedCredential := by
  obtain ⟨-, hread, -, -, hagree⟩ := canonical_is_faithful
  have htext : nestedCredential.IsText := by
    refine ⟨by decide, by decide, fun d hd => ?_⟩
    obtain rfl := List.mem_singleton.mp hd
    exact ⟨⟨by decide, by decide, by decide⟩, by decide, by decide, by decide⟩
  refine ⟨hread nestedCredential htext, ?_⟩
  have hannotated : Agree nestedCredential.toJson annotatedCredential := by
    refine .descriptors (forall_mem_names.mpr ⟨rfl, rfl⟩) rfl rfl (.cons ?_ .nil)
    refine .within (Place.forall_mem_names.mpr ⟨rfl, rfl, rfl⟩) rfl rfl ?_
    exact .last (Place.forall_mem_names.mpr ⟨rfl, rfl, rfl⟩) rfl rfl
  rw [hagree _ _ hannotated, ofJson_toJson]

end PresentationSubmission
end WalletResponder
