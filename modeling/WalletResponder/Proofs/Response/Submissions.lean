import WalletResponder.Proofs.Json.RoundTrip
import WalletResponder.Proofs.Result
import WalletResponder.Response.Submission

/-!
# Reading submissions

Reading a descriptor takes its place and goes on with the nested value, unless that is absent or
null (`Descriptor.ofJson_eq`). This tells which values are read (`Descriptor.exists_ofJson`), and
that values which agree on what the reader looks at are read alike, whatever else is in them
(`Descriptor.Agree.ofJson_eq`). A chain of places reads back from its JSON form, however long it is
(`Descriptor.ofJson_toJson`), so it is read from exactly the values that agree with this form
(`Descriptor.ofJson_eq_ok_iff_agree`). A submission does the same for a list of descriptors.
-/

namespace WalletResponder

/-! ### Places -/

namespace Place

/-- The names of the members of a place. -/
def names : List Bytes := [utf8 "id", utf8 "format", utf8 "path"]

theorem ofJson_eq_ok {j : Json} {p : Place} : ofJson j = .ok p ↔
    j.find? (utf8 "id") = some (.str p.id) ∧ j.find? (utf8 "format") = some (.str p.format) ∧
      j.find? (utf8 "path") = some (.str p.path) := by
  simp only [ofJson, bind_eq_ok, Json.member_eq_ok, Json.asText_eq_ok]
  constructor
  · rintro ⟨_, hid, id, rfl, _, hformat, format, rfl, _, hpath, path, rfl, hp⟩
    cases hp
    exact ⟨hid, hformat, hpath⟩
  · rintro ⟨hid, hformat, hpath⟩
    exact ⟨_, hid, _, rfl, _, hformat, _, rfl, _, hpath, _, rfl, rfl⟩

theorem forall_mem_names {P : Bytes → Prop} :
    (∀ name ∈ names, P name) ↔ P (utf8 "id") ∧ P (utf8 "format") ∧ P (utf8 "path") := by
  simp [names]

theorem exists_ofJson {j : Json} :
    (∃ p, ofJson j = .ok p) ↔ ∀ name ∈ names, ∃ s, j.find? name = some (.str s) := by
  rw [forall_mem_names]
  constructor
  · rintro ⟨p, hp⟩
    obtain ⟨hid, hformat, hpath⟩ := ofJson_eq_ok.mp hp
    exact ⟨⟨_, hid⟩, ⟨_, hformat⟩, ⟨_, hpath⟩⟩
  · rintro ⟨⟨id, hid⟩, ⟨format, hformat⟩, ⟨path, hpath⟩⟩
    exact ⟨⟨id, format, path⟩, ofJson_eq_ok.mpr ⟨hid, hformat, hpath⟩⟩

theorem ofJson_congr {members members' : List (Bytes × Json)}
    (h : ∀ name ∈ names, (Json.obj members').find? name = (Json.obj members).find? name) :
    ofJson (.obj members') = ofJson (.obj members) := by
  obtain ⟨hid, hformat, hpath⟩ := forall_mem_names.mp h
  rw [ofJson, ofJson, Json.member_congr hid, Json.member_congr hformat, Json.member_congr hpath]

end Place

/-! ### Descriptors -/

namespace Descriptor

/-- The nested value of a descriptor's JSON form. Null counts as absent. -/
def inner? (j : Json) : Option Json := (j.find? nestedName).filter fun n => !n.isNull

theorem inner?_eq_some {j n : Json} :
    inner? j = some n ↔ j.find? nestedName = some n ∧ n.isNull = false := by
  simp [inner?]

/-- The reader searches the members itself, and finds what is found under the name. -/
theorem nested?_eq (members : List (Bytes × Json)) :
    nested? members = (inner? (.obj members)).map ofJson := by
  induction members with
  | nil => rfl
  | cons m rest ih =>
    obtain ⟨name, j⟩ := m
    unfold inner? at ih ⊢
    rw [nested?, Json.find?_cons]
    split
    · cases hj : j.isNull <;> simp [Option.filter, hj]
    · exact ih

/-- **What reading a descriptor does**, whatever the value is. -/
theorem ofJson_eq (j : Json) : ofJson j = (do
    let place ← Place.ofJson j
    match inner? j with
    | none => pure (last place)
    | some n => (ofJson n).map (within place)) := by
  cases j with
  | obj members =>
    rw [ofJson, nested?_eq]
    refine bind_congr fun place => ?_
    cases inner? (.obj members) with
    | none => rfl
    | some n => cases h : ofJson n <;> simp only [Option.map_some, h] <;> rfl
  | _ =>
    rw [ofJson]
    · rfl
    · nofun

theorem ofJson_eq_last {j : Json} {p : Place} :
    ofJson j = .ok (last p) ↔ Place.ofJson j = .ok p ∧ inner? j = none := by
  rw [ofJson_eq, bind_eq_ok]
  cases inner? j with
  | none => exact ⟨fun ⟨_, hp, h⟩ => by cases h; exact ⟨hp, rfl⟩, fun ⟨hp, _⟩ => ⟨p, hp, rfl⟩⟩
  | some n => simp [map_eq_ok]

theorem ofJson_eq_within {j : Json} {p : Place} {d : Descriptor} :
    ofJson j = .ok (within p d) ↔
      Place.ofJson j = .ok p ∧ ∃ n, inner? j = some n ∧ ofJson n = .ok d := by
  rw [ofJson_eq, bind_eq_ok]
  cases inner? j with
  | none => exact ⟨fun ⟨_, _, h⟩ => (nomatch h), fun ⟨_, _, h, _⟩ => (nomatch h)⟩
  | some n => simp [map_eq_ok]

/-- The JSON forms of descriptors: objects with the texts of a place in them and, where the nested
value is there and not null, another such form in it. There may be anything else. -/
inductive IsForm : Json → Prop
  | intro {members : List (Bytes × Json)}
      (hplace : ∀ name ∈ Place.names, ∃ s, (Json.obj members).find? name = some (.str s))
      (hnested : ∀ n, inner? (.obj members) = some n → IsForm n) : IsForm (.obj members)

theorem isForm_of_ofJson : ∀ {d : Descriptor} {j : Json}, ofJson j = .ok d → IsForm j
  | last p, j, h => by
    obtain ⟨hp, hinner⟩ := ofJson_eq_last.mp h
    cases j with
    | obj members =>
      refine .intro (Place.exists_ofJson.mp ⟨p, hp⟩) fun n hn => ?_
      rw [hinner] at hn
      exact nomatch hn
    | _ => exact nomatch hp
  | within p d, j, h => by
    obtain ⟨hp, n, hinner, hd⟩ := ofJson_eq_within.mp h
    cases j with
    | obj members =>
      refine .intro (Place.exists_ofJson.mp ⟨p, hp⟩) fun n' hn' => ?_
      rw [hinner] at hn'
      cases hn'
      exact isForm_of_ofJson hd
    | _ => exact nomatch hp

/-- **A descriptor is read from exactly the JSON forms of descriptors.** -/
theorem exists_ofJson {j : Json} : (∃ d, ofJson j = .ok d) ↔ IsForm j := by
  refine ⟨fun ⟨d, hd⟩ => isForm_of_ofJson hd, fun h => ?_⟩
  -- By induction on the form, as there is no descriptor yet to follow.
  induction h with
  | @intro members hplace _ ih =>
    obtain ⟨p, hp⟩ := Place.exists_ofJson.mpr hplace
    cases hinner : inner? (.obj members) with
    | none => exact ⟨last p, ofJson_eq_last.mpr ⟨hp, hinner⟩⟩
    | some n =>
      obtain ⟨d, hd⟩ := ih n hinner
      exact ⟨within p d, ofJson_eq_within.mpr ⟨hp, n, hinner, hd⟩⟩

/-- Two values agree on what makes a descriptor: the members of the place are the same, and either
both have no nested value or null for it, or the nested values agree. -/
inductive Agree : Json → Json → Prop
  | refl (j : Json) : Agree j j
  | last {members members' : List (Bytes × Json)}
      (hplace : ∀ name ∈ Place.names,
        (Json.obj members').find? name = (Json.obj members).find? name)
      (hinner : inner? (.obj members) = none) (hinner' : inner? (.obj members') = none) :
      Agree (.obj members) (.obj members')
  | within {members members' : List (Bytes × Json)} {n n' : Json}
      (hplace : ∀ name ∈ Place.names,
        (Json.obj members').find? name = (Json.obj members).find? name)
      (hinner : inner? (.obj members) = some n) (hinner' : inner? (.obj members') = some n')
      (hn : Agree n n') : Agree (.obj members) (.obj members')

/-- **Values that agree are read alike.** -/
theorem Agree.ofJson_eq {j j' : Json} (h : Agree j j') : ofJson j' = ofJson j := by
  induction h with
  | refl => rfl
  | last hplace hinner hinner' =>
    rw [Descriptor.ofJson_eq, Descriptor.ofJson_eq (.obj _), Place.ofJson_congr hplace, hinner,
      hinner']
  | within hplace hinner hinner' _ ih =>
    rw [Descriptor.ofJson_eq, Descriptor.ofJson_eq (.obj _), Place.ofJson_congr hplace, hinner,
      hinner']
    simp only [ih]

/-! ### The JSON form of a descriptor -/

/-- The place that a descriptor begins with. -/
def place : Descriptor → Place
  | last p | within p _ => p

theorem placeOfJson_toJson (d : Descriptor) : Place.ofJson d.toJson = .ok d.place := by
  cases d <;> rfl

/-- A descriptor is no null, so that it is not taken for an absent one. -/
theorem isNull_toJson (d : Descriptor) : d.toJson.isNull = false := by
  cases d <;> rfl

theorem inner?_toJson_last (p : Place) : inner? (last p).toJson = none := rfl

theorem inner?_toJson_within (p : Place) (d : Descriptor) :
    inner? (within p d).toJson = some d.toJson :=
  inner?_eq_some.mpr ⟨rfl, d.isNull_toJson⟩

/-- **A chain of places reads back**, however long it is. -/
theorem ofJson_toJson : ∀ d : Descriptor, ofJson d.toJson = .ok d
  | last p => ofJson_eq_last.mpr ⟨placeOfJson_toJson (last p), inner?_toJson_last p⟩
  | within p d => ofJson_eq_within.mpr
    ⟨placeOfJson_toJson (within p d), d.toJson, inner?_toJson_within p d, ofJson_toJson d⟩

/-- A value has the members of a place as the JSON form of a descriptor has them. -/
theorem find?_toJson {j : Json} (d : Descriptor) (h : Place.ofJson j = .ok d.place) :
    ∀ name ∈ Place.names, j.find? name = d.toJson.find? name := by
  obtain ⟨hid, hformat, hpath⟩ := Place.ofJson_eq_ok.mp h
  obtain ⟨hid', hformat', hpath'⟩ := Place.ofJson_eq_ok.mp d.placeOfJson_toJson
  exact Place.forall_mem_names.mpr
    ⟨hid.trans hid'.symm, hformat.trans hformat'.symm, hpath.trans hpath'.symm⟩

theorem agree_of_ofJson : ∀ {d : Descriptor} {j : Json}, ofJson j = .ok d → Agree d.toJson j
  | last p, j, h => by
    obtain ⟨hp, hinner⟩ := ofJson_eq_last.mp h
    cases j with
    | obj members => exact .last (find?_toJson (last p) hp) (inner?_toJson_last p) hinner
    | _ => exact nomatch hp
  | within p d, j, h => by
    obtain ⟨hp, n, hinner, hd⟩ := ofJson_eq_within.mp h
    cases j with
    | obj members =>
      exact .within (find?_toJson (within p d) hp) (inner?_toJson_within p d) hinner
        (agree_of_ofJson hd)
    | _ => exact nomatch hp

/-- **A descriptor is read from the values that agree with its JSON form**, and from no others. -/
theorem ofJson_eq_ok_iff_agree {j : Json} {d : Descriptor} : ofJson j = .ok d ↔ Agree d.toJson j :=
  ⟨agree_of_ofJson, fun h => by rw [h.ofJson_eq, ofJson_toJson]⟩

theorem inOrder_members (f i p : Json) :
    Json.InOrder [(utf8 "format", f), (utf8 "id", i), (utf8 "path", p)] := by
  unfold Json.InOrder
  simp +decide

theorem inOrder_membersWithin (f i p n : Json) :
    Json.InOrder [(utf8 "format", f), (utf8 "id", i), (utf8 "path", p), (nestedName, n)] := by
  unfold Json.InOrder
  simp +decide

theorem isPlain_toJson : ∀ d : Descriptor, d.toJson.IsPlain
  | last p => by
    rw [toJson, Json.IsPlain]
    exact ⟨inOrder_members _ _ _, by simp [Json.MembersArePlain, Json.IsPlain]⟩
  | within p nested => by
    rw [toJson, Json.IsPlain]
    exact ⟨inOrder_membersWithin _ _ _ _,
      by simp [Json.MembersArePlain, Json.IsPlain, isPlain_toJson nested]⟩

/-! ### Lists of descriptors -/

theorem exists_readAll {items : List Json} :
    (∃ ds, readAll items = .ok ds) ↔ ∀ j ∈ items, IsForm j := by
  induction items with
  | nil => exact ⟨fun _ => List.forall_mem_nil _, fun _ => ⟨[], rfl⟩⟩
  | cons j rest ih =>
    rw [List.forall_mem_cons, ← exists_ofJson, ← ih]
    simp only [readAll, bind_eq_ok]
    constructor
    · rintro ⟨_, d, hd, ds, hds, -⟩
      exact ⟨⟨d, hd⟩, ⟨ds, hds⟩⟩
    · rintro ⟨⟨d, hd⟩, ⟨ds, hds⟩⟩
      exact ⟨_, d, hd, ds, hds, rfl⟩

theorem readAll_congr {items items' : List Json} (h : List.Forall₂ Agree items items') :
    readAll items' = readAll items := by
  induction h with
  | nil => rfl
  | cons hj _ ih => rw [readAll, readAll, hj.ofJson_eq, ih]

theorem readAll_map_toJson : ∀ ds : List Descriptor, readAll (ds.map toJson) = .ok ds
  | [] => rfl
  | d :: ds => by
    rw [List.map_cons, readAll, ofJson_toJson, readAll_map_toJson ds]
    rfl

theorem agree_of_readAll : ∀ {items : List Json} {ds : List Descriptor},
    readAll items = .ok ds → List.Forall₂ Agree (ds.map toJson) items
  | [], ds, h => by cases h; exact .nil
  | j :: rest, ds, h => by
    obtain ⟨d, hd, h⟩ := bind_eq_ok.mp h
    obtain ⟨ds, hds, h⟩ := bind_eq_ok.mp h
    cases h
    exact .cons (agree_of_ofJson hd) (agree_of_readAll hds)

theorem arePlain_map_toJson : ∀ ds : List Descriptor, Json.ArePlain (ds.map toJson)
  | [] => trivial
  | d :: ds => ⟨isPlain_toJson d, arePlain_map_toJson ds⟩

end Descriptor

/-! ### Submissions -/

namespace PresentationSubmission

/-- The names of the members of a submission that are texts. -/
def names : List Bytes := [utf8 "id", utf8 "definition_id"]

theorem forall_mem_names {P : Bytes → Prop} :
    (∀ name ∈ names, P name) ↔ P (utf8 "id") ∧ P (utf8 "definition_id") := by
  simp [names]

theorem ofJson_eq_ok {j : Json} {s : PresentationSubmission} : ofJson j = .ok s ↔
    j.find? (utf8 "id") = some (.str s.id) ∧
    j.find? (utf8 "definition_id") = some (.str s.definitionId) ∧
    ∃ items, j.find? (utf8 "descriptor_map") = some (.arr items) ∧
      Descriptor.readAll items = .ok s.descriptors := by
  simp only [ofJson, bind_eq_ok, Json.member_eq_ok, Json.asText_eq_ok, Json.asArray_eq_ok]
  constructor
  · rintro ⟨_, hid, id, rfl, _, hdefinition, definition, rfl, _, hmap, items, rfl, ds, hds, hs⟩
    cases hs
    exact ⟨hid, hdefinition, items, hmap, hds⟩
  · rintro ⟨hid, hdefinition, items, hmap, hds⟩
    exact ⟨_, hid, _, rfl, _, hdefinition, _, rfl, _, hmap, _, rfl, _, hds, rfl⟩

/-- The JSON forms of submissions: objects with two texts and an array of the JSON forms of
descriptors in them. There may be anything else. -/
structure IsForm (j : Json) : Prop where
  texts : ∀ name ∈ names, ∃ s, j.find? name = some (.str s)
  descriptors : ∃ items, j.find? (utf8 "descriptor_map") = some (.arr items) ∧
    ∀ item ∈ items, Descriptor.IsForm item

/-- **A submission is read from exactly the JSON forms of submissions.** -/
theorem exists_ofJson {j : Json} : (∃ s, ofJson j = .ok s) ↔ IsForm j := by
  constructor
  · rintro ⟨s, hs⟩
    obtain ⟨hid, hdefinition, items, hmap, hds⟩ := ofJson_eq_ok.mp hs
    exact ⟨forall_mem_names.mpr ⟨⟨_, hid⟩, ⟨_, hdefinition⟩⟩,
      items, hmap, Descriptor.exists_readAll.mp ⟨_, hds⟩⟩
  · rintro ⟨htexts, items, hmap, hitems⟩
    obtain ⟨⟨id, hid⟩, ⟨definition, hdefinition⟩⟩ := forall_mem_names.mp htexts
    obtain ⟨ds, hds⟩ := Descriptor.exists_readAll.mpr hitems
    exact ⟨⟨id, definition, ds⟩, ofJson_eq_ok.mpr ⟨hid, hdefinition, items, hmap, hds⟩⟩

/-- Two values agree on what makes a submission: its texts are the same, and its descriptors are
or agree one by one. -/
inductive Agree : Json → Json → Prop
  | refl (j : Json) : Agree j j
  | members {members members' : List (Bytes × Json)}
      (h : ∀ name ∈ utf8 "descriptor_map" :: names,
        (Json.obj members').find? name = (Json.obj members).find? name) :
      Agree (.obj members) (.obj members')
  | descriptors {members members' : List (Bytes × Json)} {items items' : List Json}
      (htexts : ∀ name ∈ names, (Json.obj members').find? name = (Json.obj members).find? name)
      (hmap : (Json.obj members).find? (utf8 "descriptor_map") = some (.arr items))
      (hmap' : (Json.obj members').find? (utf8 "descriptor_map") = some (.arr items'))
      (hitems : List.Forall₂ Descriptor.Agree items items') : Agree (.obj members) (.obj members')

/-- **Values that agree are read alike.** -/
theorem Agree.ofJson_eq {j j' : Json} (h : Agree j j') : ofJson j' = ofJson j := by
  cases h with
  | refl => rfl
  | members h =>
    obtain ⟨hmap, htexts⟩ := List.forall_mem_cons.mp h
    obtain ⟨hid, hdefinition⟩ := forall_mem_names.mp htexts
    rw [ofJson, ofJson, Json.member_congr hid, Json.member_congr hdefinition,
      Json.member_congr hmap]
  | descriptors htexts hmap hmap' hitems =>
    obtain ⟨hid, hdefinition⟩ := forall_mem_names.mp htexts
    rw [ofJson, ofJson, Json.member_congr hid, Json.member_congr hdefinition,
      Json.member_eq_ok.mpr hmap, Json.member_eq_ok.mpr hmap']
    simp only [bind, Except.bind, Json.asArray, Descriptor.readAll_congr hitems]

/-- **A submission reads back.** -/
theorem ofJson_toJson (s : PresentationSubmission) : ofJson s.toJson = .ok s :=
  ofJson_eq_ok.mpr ⟨rfl, rfl, _, rfl, Descriptor.readAll_map_toJson s.descriptors⟩

/-- **A submission is read from the values that agree with its JSON form**, and from no others. -/
theorem ofJson_eq_ok_iff_agree {j : Json} {s : PresentationSubmission} :
    ofJson j = .ok s ↔ Agree s.toJson j := by
  refine ⟨fun h => ?_, fun h => by rw [h.ofJson_eq, ofJson_toJson]⟩
  obtain ⟨hid, hdefinition, items, hmap, hds⟩ := ofJson_eq_ok.mp h
  cases j with
  | obj members =>
    exact .descriptors (forall_mem_names.mpr ⟨hid, hdefinition⟩) rfl hmap
      (Descriptor.agree_of_readAll hds)
  | _ => exact nomatch hid

theorem isPlain_toJson (s : PresentationSubmission) : s.toJson.IsPlain := by
  rw [toJson, Json.IsPlain]
  refine ⟨by unfold Json.InOrder; simp +decide, ?_⟩
  simp [Json.MembersArePlain, Json.IsPlain, Descriptor.arePlain_map_toJson]

end PresentationSubmission
end WalletResponder
