import Mathlib.Algebra.Order.Ring.Int
import WalletResponder.Json.Parser
import WalletResponder.Proofs.Json.Members
import WalletResponder.Proofs.Text.Base64Url
import WalletResponder.Proofs.Text.Utf8

/-!
# Values that can be written

Writing a value fails for nothing but bytes that are not text (`Json.dump_eq_ok`), and setting a
member to a text leaves the rest as it is (`Json.isText_put`). A value that was read from a text can
be written (`Json.isText_of_parse?`): that is one of the properties that parts hand on to the whole
(`Json.HandsOn`), and reading keeps them all, by one induction on the fuel of the three readers.
-/

namespace WalletResponder

theorem Base64Url.character_lt : ∀ v < 64, character v < 0x80 := by decide

/-- Base64url is text. -/
theorem Base64Url.valid_encode (b : Bytes) : Utf8.valid (encode b) = true := by
  refine Utf8.valid_of_ascii fun x hx => ?_
  rw [encode_eq_map] at hx
  obtain ⟨v, hv, rfl⟩ := List.mem_map.mp hx
  exact character_lt v (lt_of_mem_sextets hv)

namespace Json

theorem dump_eq_ok {j : Json} {text : Bytes} :
    j.dump = .ok text ↔ j.isText = true ∧ text = j.render := by
  rw [dump]
  split
  · next h => simp [h, eq_comm]
  · next h => simp [h]

theorem exists_dump {j : Json} : (∃ text, j.dump = .ok text) ↔ j.isText = true := by
  simp [dump_eq_ok]

theorem membersAreText_iff : ∀ members : List (Bytes × Json),
    membersAreText members = true ↔ ∀ m ∈ members, Utf8.valid m.1 = true ∧ m.2.isText = true
  | [] => by simp [membersAreText]
  | (k, v) :: rest => by simp [membersAreText, membersAreText_iff rest, and_assoc]

theorem areText_iff : ∀ items : List Json, areText items = true ↔ ∀ j ∈ items, j.isText = true
  | [] => by simp [areText]
  | j :: rest => by simp [areText, areText_iff rest]

theorem isText_of_find? {j v : Json} {name : Bytes} (hj : j.isText = true)
    (h : j.find? name = some v) : v.isText = true := by
  cases j with
  | obj members =>
    obtain ⟨m, hm, rfl⟩ := Option.map_eq_some_iff.mp h
    exact ((membersAreText_iff members).mp hj m (List.mem_of_find?_eq_some hm)).2
  | _ => exact nomatch h

/-- A member that was not there before is added to the others. -/
theorem mem_put_iff {name : Bytes} {value : Json} : ∀ {members : List (Bytes × Json)},
    (obj members).find? name = none → ∀ {m : Bytes × Json},
      m ∈ put name value members ↔ m = (name, value) ∨ m ∈ members
  | [], _, m => by simp [put]
  | (k, v) :: rest, h, m => by
    rw [find?_cons] at h
    split at h
    · cases h
    next hk =>
    rw [put, if_neg (by simpa using hk)]
    split
    · rw [List.mem_cons]
    · rw [List.mem_cons, mem_put_iff h, List.mem_cons, or_left_comm]

/-- **Whether an object can be written** does not depend on a text that is added to it. -/
theorem isText_put {name : Bytes} {value : Json} {members : List (Bytes × Json)}
    (hfind : (obj members).find? name = none) (hname : Utf8.valid name = true)
    (hvalue : value.isText = true) :
    (obj (put name value members)).isText = (obj members).isText := by
  rw [Bool.eq_iff_iff, isText, isText, membersAreText_iff, membersAreText_iff]
  constructor
  · exact fun h m hm => h m ((mem_put_iff hfind).mpr (Or.inr hm))
  · intro h m hm
    rcases (mem_put_iff hfind).mp hm with rfl | hm
    · exact ⟨hname, hvalue⟩
    · exact h m hm

theorem membersAreText_put {name : Bytes} {value : Json} {members : List (Bytes × Json)}
    (hname : Utf8.valid name = true) (hvalue : value.isText = true)
    (hmembers : membersAreText members = true) :
    membersAreText (put name value members) = true := by
  rw [membersAreText_iff] at hmembers ⊢
  intro m hm
  rcases mem_put hm with rfl | hm
  · exact ⟨hname, hvalue⟩
  · exact hmembers m hm

/-- An object of members that are text is text. -/
theorem isText_object {members : List (Bytes × Json)}
    (h : ∀ m ∈ members, Utf8.valid m.1 = true ∧ m.2.isText = true) :
    (object members).isText = true :=
  List.foldlRecOn (motive := fun acc => membersAreText acc = true) members _ rfl
    fun _ ih m hm => membersAreText_put (h m hm).1 (h m hm).2 ih

/-! ### Reading -/

theorem valid_of_string? {s text r : Bytes} (h : string? s = some (text, r)) :
    Utf8.valid text = true := by
  unfold string? at h
  split at h
  · split at h
    · next hvalid => cases h; exact hvalid
    · exact nomatch h
  · exact nomatch h

theorem valid_of_name? {s name r : Bytes} (h : name? s = some (name, r)) :
    Utf8.valid name = true := by
  unfold name? at h
  split at h
  · split at h
    · next hstring =>
      split at h
      · cases h
        exact valid_of_string? hstring
      · exact nomatch h
    · exact nomatch h
  · exact nomatch h

/-- What literal names and numbers are read as. -/
inductive IsScalar : Json → Prop where
  | null : IsScalar .null
  | bool (b : Bool) : IsScalar (.bool b)
  | int {n : Int} (hlow : -2 ^ 63 ≤ n) (hhigh : n < 2 ^ 64) : IsScalar (.int n)
  | float {negative : Bool} {digits : Nat} {e : Int} {x : Binary64}
    (h : Binary64.ofDecimal negative digits e = some x) : IsScalar (.float x)

theorem isScalar_of_numberValue? {negative : Bool} {whole fraction : Bytes} {e : Option Int}
    {j : Json} (h : numberValue? negative whole fraction e = some j) : IsScalar j := by
  have hdecimal : ∀ {digits : Nat} {e : Int},
      (Binary64.ofDecimal negative digits e).map Json.float = some j → IsScalar j := by
    intro digits e h
    obtain ⟨x, hx, rfl⟩ := Option.map_eq_some_iff.mp h
    exact .float hx
  unfold numberValue? at h
  dsimp only at h
  generalize digitsValue whole = value at h
  split at h
  · split at h
    · split at h
      · next hfits =>
        cases h
        have hfits : value ≤ 2 ^ 63 := hfits
        exact .int (by omega) (by omega)
      · exact hdecimal h
    · split at h
      · next hfits =>
        cases h
        have hfits : value < 2 ^ 64 := hfits
        exact .int (by omega) (by omega)
      · exact hdecimal h
  · exact hdecimal h

theorem isScalar_of_unsigned? {negative : Bool} {s r : Bytes} {j : Json}
    (h : unsigned? negative s = some (j, r)) : IsScalar j := by
  unfold unsigned? at h
  dsimp only at h
  split at h
  · exact nomatch h
  · simp only [Option.bind_eq_bind, Option.bind_eq_some_iff] at h
    obtain ⟨_, -, _, -, value, hv, h⟩ := h
    cases h
    exact isScalar_of_numberValue? hv

theorem isScalar_of_plain? {s r : Bytes} {j : Json} (h : plain? s = some (j, r)) :
    IsScalar j := by
  unfold plain? at h
  split at h
  · cases h; exact .null
  split at h
  · cases h; exact .bool true
  split at h
  · cases h; exact .bool false
  unfold number? at h
  split at h
  · exact isScalar_of_unsigned? h
  · exact isScalar_of_unsigned? h

/-- A property that the parts of a value hand on to the whole, and that every scalar has. -/
structure HandsOn (p : Json → Prop) : Prop where
  scalar : ∀ {j}, IsScalar j → p j
  str : ∀ {text}, Utf8.valid text = true → p (.str text)
  arr : ∀ {items}, (∀ j ∈ items, p j) → p (.arr items)
  obj : ∀ {members}, InOrder members → (∀ m ∈ members, Utf8.valid m.1 = true ∧ p m.2) →
    p (.obj members)

/-- What the three readers give with this much fuel is `p` if what they were given is. -/
structure Reads (p : Json → Prop) (fuel : Nat) : Prop where
  value : ∀ {s j r}, value? fuel s = some (j, r) → p j
  items : ∀ {done s j r}, (∀ i ∈ done, p i) → items? fuel done s = some (j, r) → p j
  members : ∀ {done s j r}, InOrder done → (∀ m ∈ done, Utf8.valid m.1 = true ∧ p m.2) →
    members? fuel done s = some (j, r) → p j

namespace HandsOn

variable {p : Json → Prop} {fuel : Nat} {s r : Bytes} {j : Json}

theorem value_succ (hp : HandsOn p) (ih : Reads p fuel)
    (h : value? (fuel + 1) s = some (j, r)) : p j := by
  rw [value?] at h
  split at h
  · obtain ⟨⟨text, r⟩, hstring, h⟩ := Option.map_eq_some_iff.mp h
    cases h
    exact hp.str (valid_of_string? hstring)
  · split at h
    · cases h
      exact hp.arr (List.forall_mem_nil _)
    · exact ih.items (List.forall_mem_nil _) h
  · split at h
    · cases h
      exact hp.obj List.Pairwise.nil (List.forall_mem_nil _)
    · exact ih.members List.Pairwise.nil (List.forall_mem_nil _) h
  · exact hp.scalar (isScalar_of_plain? h)

theorem items_succ (hp : HandsOn p) (ih : Reads p fuel) {done : List Json}
    (hdone : ∀ i ∈ done, p i) (h : items? (fuel + 1) done s = some (j, r)) : p j := by
  rw [items?] at h
  split at h
  · exact nomatch h
  next item r hitem =>
  have hdone : ∀ i ∈ item :: done, p i := List.forall_mem_cons.mpr ⟨ih.value hitem, hdone⟩
  split at h
  · exact ih.items hdone h
  · cases h
    exact hp.arr fun i hi => hdone i (List.mem_reverse.mp hi)
  · exact nomatch h

theorem members_succ (hp : HandsOn p) (ih : Reads p fuel) {done : List (Bytes × Json)}
    (horder : InOrder done) (hdone : ∀ m ∈ done, Utf8.valid m.1 = true ∧ p m.2)
    (h : members? (fuel + 1) done s = some (j, r)) : p j := by
  rw [members?] at h
  split at h
  · exact nomatch h
  next name r hname =>
  split at h
  · exact nomatch h
  next item r hitem =>
  have hput : ∀ m ∈ put name item done, Utf8.valid m.1 = true ∧ p m.2 := by
    intro m hm
    rcases mem_put hm with rfl | hm
    · exact ⟨valid_of_name? hname, ih.value hitem⟩
    · exact hdone m hm
  split at h
  · exact ih.members horder.put hput h
  · cases h
    exact hp.obj horder.put hput
  · exact nomatch h

theorem reads (hp : HandsOn p) : ∀ fuel : Nat, Reads p fuel
  | 0 => by
    refine ⟨fun h => ?_, fun _ h => ?_, fun _ _ h => ?_⟩
    · rw [value?] at h; exact nomatch h
    · rw [items?] at h; exact nomatch h
    · rw [members?] at h; exact nomatch h
  | fuel + 1 =>
    have ih := hp.reads fuel
    ⟨hp.value_succ ih, hp.items_succ ih, hp.members_succ ih⟩

/-- **What is read has every property that the parts of a value hand on.** -/
theorem of_parse? (hp : HandsOn p) (h : parse? s = some j) : p j := by
  unfold parse? at h
  dsimp only at h
  split at h
  · next hvalue =>
    split_ifs at h
    cases h
    exact (hp.reads _).value hvalue
  · exact nomatch h

end HandsOn

theorem handsOn_isText : HandsOn fun j => j.isText = true where
  scalar h := by cases h <;> rfl
  str h := h
  arr h := (areText_iff _).mpr h
  obj _ h := (membersAreText_iff _).mpr h

/-- **What is read from a text is text.** -/
theorem isText_of_parse? {s : Bytes} {j : Json} (h : parse? s = some j) : j.isText = true :=
  handsOn_isText.of_parse? h

end Json
end WalletResponder
