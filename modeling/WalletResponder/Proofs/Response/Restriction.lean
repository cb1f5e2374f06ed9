import WalletResponder.Proofs.Response.Submissions

/-!
# What a reader knows of a submission

A reader looks at the members that it knows, and takes null for absent. `restrict` is a value with
these members and no others, at every level, in the order in which they are written. It is all that
a reader keeps: a submission is read from a value if and only if the JSON form of the submission is
the restriction of the value (`PresentationSubmission.ofJson_eq_ok_iff_restrict`).
-/

namespace WalletResponder

namespace Json

variable {j : Json} {name : Bytes}

/-- The member called `name`, unless it is null. -/
def given? (name : Bytes) (j : Json) : Option Json := (j.find? name).filter fun v => !v.isNull

theorem given?_eq_some {v : Json} :
    j.given? name = some v ↔ j.find? name = some v ∧ v.isNull = false := by
  simp [given?]

theorem given?_eq_str {s : Bytes} :
    j.given? name = some (.str s) ↔ j.find? name = some (.str s) := by
  rw [given?_eq_some]
  exact and_iff_left rfl

/-- A member of which everything is known. -/
def whole (j : Json) : Json := j

theorem map_whole (v : Option Json) : v.map whole = v := by
  cases v <;> rfl

/-- The members that are known and given, each in the form that is known of it. -/
def pick (known : List (Bytes × (Json → Json))) (j : Json) : List (Bytes × Json) :=
  known.filterMap fun m => (j.given? m.1).map fun v => (m.1, m.2 v)

theorem pick_nil (j : Json) : pick [] j = [] := rfl

theorem pick_cons (name : Bytes) (f : Json → Json) (known : List (Bytes × (Json → Json)))
    (j : Json) : pick ((name, f) :: known) j =
      ((j.given? name).map fun v => (name, f v)).toList ++ pick known j := by
  rw [pick, List.filterMap_cons]
  cases j.given? name <;> rfl

/-- **What is known and given is picked.** -/
theorem find?_pick (name : Bytes) (j : Json) : ∀ known : List (Bytes × (Json → Json)),
    (obj (pick known j)).find? name = (known.lookup name).bind fun f => (j.given? name).map f
  | [] => rfl
  | (k, f) :: known => by
    rw [pick_cons, find?_append, find?_pick name j known, List.lookup_cons]
    by_cases hk : name = k
    · subst hk
      cases h : j.given? name with
      | none => simp [find?_nil]
      | some v => simp [find?_cons]
    · have hne : (name == k) = false := by simpa using hk
      rw [hne]
      cases j.given? k with
      | none => rfl
      | some v => simp [find?_cons, find?_nil, Ne.symm hk]

/-- A picked value is found if its name is known. -/
theorem find?_pick_of_lookup {known : List (Bytes × (Json → Json))} {f : Json → Json}
    (h : known.lookup name = some f) :
    (obj (pick known j)).find? name = (j.given? name).map f := by
  rw [find?_pick, h]
  rfl

/-- **What is picked was given**, and is in the form that is known of it. -/
theorem given?_of_find?_pick {known : List (Bytes × (Json → Json))} {v : Json}
    (h : (obj (pick known j)).find? name = some v) :
    ∃ f w, (name, f) ∈ known ∧ j.given? name = some w ∧ v = f w := by
  rw [find?_pick, Option.bind_eq_some_iff] at h
  obtain ⟨f, hf, hv⟩ := h
  obtain ⟨w, hw, rfl⟩ := Option.map_eq_some_iff.mp hv
  obtain ⟨before, after, hknown, -⟩ := List.lookup_eq_some_iff.mp hf
  exact ⟨f, w, by simp [hknown], hw, rfl⟩

end Json

open Json

/-! ### Descriptors -/

namespace Descriptor

mutual

/-- A descriptor with the members that are known and given, at every level. -/
def restrict : Json → Json
  | .obj members => .obj (pick [(utf8 "format", whole), (utf8 "id", whole), (utf8 "path", whole)]
      (.obj members) ++ restrictNested members)
  | j => j

/-- The nested descriptor among the members of an object, if it is given. -/
def restrictNested : List (Bytes × Json) → List (Bytes × Json)
  | [] => []
  | (name, j) :: rest =>
    if name = nestedName then if j.isNull then [] else [(nestedName, restrict j)]
    else restrictNested rest

end

theorem restrictNested_eq (members : List (Bytes × Json)) : restrictNested members =
    (((obj members).given? nestedName).map fun v => (nestedName, restrict v)).toList := by
  induction members with
  | nil => rfl
  | cons m rest ih =>
    obtain ⟨name, j⟩ := m
    rw [restrictNested, given?, find?_cons]
    by_cases hname : name = nestedName
    · rw [if_pos hname, if_pos hname]
      cases hnull : j.isNull <;> simp [Option.filter, hnull]
    · rw [if_neg hname, if_neg hname, ih, given?]

/-- The members that are known of a descriptor. -/
def known : List (Bytes × (Json → Json)) :=
  [(utf8 "format", whole), (utf8 "id", whole), (utf8 "path", whole), (nestedName, restrict)]

theorem restrict_obj (members : List (Bytes × Json)) :
    restrict (.obj members) = .obj (pick known (.obj members)) := by
  rw [restrict, restrictNested_eq]
  simp only [known, pick_cons, pick_nil, List.append_nil, List.append_assoc]

/-- What is known of a descriptor is its place and what is known of the nested one. -/
theorem restrict_obj_eq_toJson {members : List (Bytes × Json)} {d : Descriptor} :
    restrict (.obj members) = d.toJson ↔ Place.ofJson (.obj members) = .ok d.place ∧
      (inner? (.obj members)).map restrict = inner? d.toJson := by
  rw [Place.ofJson_eq_ok, restrict_obj]
  constructor
  · intro h
    have hfind (name : Bytes) {f : Json → Json} (hname : known.lookup name = some f) :
        ((obj members).given? name).map f = d.toJson.find? name := by
      rw [← find?_pick_of_lookup hname, h]
    have hid := hfind (utf8 "id") rfl
    have hformat := hfind (utf8 "format") rfl
    have hpath := hfind (utf8 "path") rfl
    have hnested := hfind nestedName rfl
    obtain ⟨hid', hformat', hpath'⟩ := Place.ofJson_eq_ok.mp d.placeOfJson_toJson
    simp only [map_whole] at hid hformat hpath
    refine ⟨⟨given?_eq_str.mp (hid.trans hid'), given?_eq_str.mp (hformat.trans hformat'),
      given?_eq_str.mp (hpath.trans hpath')⟩, ?_⟩
    cases d with
    | last p => exact hnested
    | within p d => exact hnested.trans (inner?_toJson_within p d).symm
  · rintro ⟨⟨hid, hformat, hpath⟩, hnested⟩
    have hmember : ∀ {name s}, (obj members).find? name = some (.str s) →
        ((obj members).given? name).map (fun v => (name, whole v)) = some (name, .str s) :=
      fun h => by rw [given?_eq_str.mpr h]; rfl
    have htail : ((obj members).given? nestedName).map (fun v => (nestedName, restrict v)) =
        (inner? d.toJson).map fun v => (nestedName, v) := by
      rw [← hnested, Option.map_map]
      rfl
    rw [known, pick_cons, pick_cons, pick_cons, pick_cons, pick_nil, hmember hformat, hmember hid,
      hmember hpath, htail]
    cases d with
    | last p => rfl
    | within p d => rw [inner?_toJson_within]; rfl

/-- **A descriptor is read from a value if its JSON form is all that is known of the value.** -/
theorem ofJson_eq_ok_iff_restrict {d : Descriptor} {j : Json} :
    ofJson j = .ok d ↔ restrict j = d.toJson := by
  induction d generalizing j with
  | last p =>
    cases j with
    | obj members =>
      rw [ofJson_eq_last, restrict_obj_eq_toJson, inner?_toJson_last, Option.map_eq_none_iff, place]
    | _ => exact ⟨fun h => (nomatch (ofJson_eq_last.mp h).1), nofun⟩
  | within p d ih =>
    cases j with
    | obj members =>
      simp only [ofJson_eq_within, restrict_obj_eq_toJson, inner?_toJson_within,
        Option.map_eq_some_iff, place, ih]
    | _ => exact ⟨fun h => (nomatch (ofJson_eq_within.mp h).1), nofun⟩

theorem readAll_eq_ok_iff_restrict : ∀ {items : List Json} {ds : List Descriptor},
    readAll items = .ok ds ↔ items.map restrict = ds.map toJson
  | [], ds => by simp [readAll, eq_comm]
  | j :: rest, ds => by
    simp only [readAll, bind_eq_ok, ofJson_eq_ok_iff_restrict,
      readAll_eq_ok_iff_restrict, List.map_cons]
    constructor
    · rintro ⟨d, hd, ds, hds, h⟩
      cases h
      rw [List.map_cons, hd, hds]
    · intro h
      obtain ⟨d, ds, rfl, hd, hds⟩ := List.map_eq_cons_iff.mp h.symm
      exact ⟨d, hd.symm, ds, hds.symm, rfl⟩

end Descriptor

/-! ### Submissions -/

namespace PresentationSubmission

/-- Descriptors with what is known of each. -/
def restrictItems : Json → Json
  | .arr items => .arr (items.map Descriptor.restrict)
  | j => j

/-- The members that are known of a submission. -/
def known : List (Bytes × (Json → Json)) :=
  [(utf8 "definition_id", whole), (utf8 "descriptor_map", restrictItems), (utf8 "id", whole)]

/-- A submission with the members that are known and given, at every level. -/
def restrict : Json → Json
  | .obj members => .obj (pick known (.obj members))
  | j => j

theorem restrictItems_eq {j : Json} {ds : List Descriptor} :
    restrictItems j = .arr (ds.map Descriptor.toJson) ↔
      ∃ items, j = .arr items ∧ Descriptor.readAll items = .ok ds := by
  cases j with
  | arr items =>
    simp only [restrictItems, arr.injEq, ← Descriptor.readAll_eq_ok_iff_restrict]
    exact ⟨fun h => ⟨items, rfl, h⟩, fun ⟨_, hitems, h⟩ => hitems ▸ h⟩
  | _ => exact ⟨fun h => (nomatch h), fun ⟨_, h, _⟩ => (nomatch h)⟩

/-- **A submission is read from a value if its JSON form is all that is known of the value.** -/
theorem ofJson_eq_ok_iff_restrict {s : PresentationSubmission} {j : Json} :
    ofJson j = .ok s ↔ restrict j = s.toJson := by
  rw [ofJson_eq_ok]
  cases j with
  | obj members =>
    rw [restrict]
    constructor
    · rintro ⟨hid, hdefinition, items, hitems, hread⟩
      rw [known, pick_cons, pick_cons, pick_cons, pick_nil, given?_eq_str.mpr hid,
        given?_eq_str.mpr hdefinition, given?_eq_some.mpr ⟨hitems, rfl⟩, Option.map_some,
        Option.map_some, Option.map_some, restrictItems_eq.mpr ⟨items, rfl, hread⟩]
      rfl
    · intro h
      have hfind (name : Bytes) {f : Json → Json} (hname : known.lookup name = some f) :
          ((obj members).given? name).map f = s.toJson.find? name := by
        rw [← find?_pick_of_lookup hname, h]
      have hid := hfind (utf8 "id") rfl
      have hdefinition := hfind (utf8 "definition_id") rfl
      obtain ⟨v, hv, hmap⟩ := Option.map_eq_some_iff.mp (hfind (utf8 "descriptor_map") rfl)
      simp only [map_whole] at hid hdefinition
      obtain ⟨items, rfl, hread⟩ := restrictItems_eq.mp hmap
      exact ⟨given?_eq_str.mp hid, given?_eq_str.mp hdefinition, items, (given?_eq_some.mp hv).1,
        hread⟩
  | _ => exact ⟨fun h => (nomatch h.1), fun h => (nomatch h)⟩

end PresentationSubmission
end WalletResponder
