import Mathlib.Data.List.Basic
import WalletResponder.Json.Basic

/-!
# Members of objects

Names are ordered by their bytes, and setting a member (`Json.put`) keeps members in order. What is
found under a name afterwards is what was set, and under any other name what was there before
(`find?_put`).
-/

namespace WalletResponder

namespace Bytes

/-! ### The order of names -/

theorem lt_irrefl : ∀ a : Bytes, lt a a = false
  | [] => rfl
  | x :: a => by simp [lt, lt_irrefl a]

theorem lt_cons {x y : UInt8} {a b : Bytes} :
    lt (x :: a) (y :: b) = true ↔ x < y ∨ (x = y ∧ lt a b = true) := by
  simp [lt]

theorem lt_trans : ∀ {a b c : Bytes}, lt a b = true → lt b c = true → lt a c = true
  | _, [], _, h, _ => by cases ‹Bytes› <;> simp [lt] at h
  | _, _ :: _, [], _, h => by simp [lt] at h
  | [], _ :: _, _ :: _, _, _ => rfl
  | x :: a, y :: b, z :: c, h, h' => by
    rw [lt_cons] at h h' ⊢
    rcases h with h | ⟨rfl, h⟩
    · rcases h' with h' | ⟨rfl, -⟩
      · exact Or.inl (UInt8.lt_trans h h')
      · exact Or.inl h
    · rcases h' with h' | ⟨rfl, h'⟩
      · exact Or.inl h'
      · exact Or.inr ⟨rfl, lt_trans h h'⟩

theorem ne_of_lt {a b : Bytes} (h : lt a b = true) : a ≠ b := by
  rintro rfl
  rw [lt_irrefl] at h
  cases h

theorem lt_asymm {a b : Bytes} (h : lt a b = true) : lt b a = false := by
  cases h' : lt b a with
  | false => rfl
  | true =>
    have := lt_trans h h'
    rw [lt_irrefl] at this
    cases this

/-- Of two different names one comes first. -/
theorem lt_of_not_lt : ∀ {a b : Bytes}, lt a b = false → a ≠ b → lt b a = true
  | [], [], _, hne => absurd rfl hne
  | [], _ :: _, h, _ => by simp [lt] at h
  | _ :: _, [], _, _ => rfl
  | x :: a, y :: b, h, hne => by
    have h : ¬ (x < y ∨ (x = y ∧ lt a b = true)) := by rw [← lt_cons, h]; simp
    rw [not_or, not_and, UInt8.not_lt] at h
    rw [lt_cons]
    rcases UInt8.lt_or_eq_of_le h.1 with hlt | rfl
    · exact Or.inl hlt
    · refine Or.inr ⟨rfl, lt_of_not_lt (by simpa using h.2 rfl) fun he => hne (by rw [he])⟩

end Bytes

namespace Json

/-- The names of members stand in order, each once. -/
def InOrder (members : List (Bytes × Json)) : Prop :=
  members.Pairwise fun m m' => Bytes.lt m.1 m'.1 = true

/-- Order is a matter of the names. -/
theorem inOrder_iff {members : List (Bytes × Json)} :
    InOrder members ↔ (members.map Prod.fst).Pairwise fun k k' => Bytes.lt k k' = true := by
  rw [InOrder, List.pairwise_map]

/-! ### Setting a member -/

theorem mem_put {name : Bytes} {value : Json} :
    ∀ {members : List (Bytes × Json)} {m : Bytes × Json},
    m ∈ put name value members → m = (name, value) ∨ m ∈ members
  | [], m, h => Or.inl (by simpa [put] using h)
  | (k, v) :: rest, m, h => by
    rw [put] at h
    split at h
    · rcases List.mem_cons.mp h with h | h
      · exact Or.inl h
      · exact Or.inr (List.mem_cons_of_mem _ h)
    split at h
    · exact List.mem_cons.mp h
    · rcases List.mem_cons.mp h with h | h
      · exact Or.inr (by rw [h]; simp)
      · rcases mem_put h with h | h
        · exact Or.inl h
        · exact Or.inr (List.mem_cons_of_mem _ h)

/-- **Setting a member keeps the order.** -/
theorem InOrder.put {name : Bytes} {value : Json} : ∀ {members : List (Bytes × Json)},
    InOrder members → InOrder (Json.put name value members)
  | [], _ => List.pairwise_singleton _ _
  | (k, v) :: rest, h => by
    obtain ⟨hhead, hrest⟩ := List.pairwise_cons.mp h
    rw [Json.put]
    by_cases hk : (k == name) = true
    · rw [if_pos hk]
      rw [beq_iff_eq] at hk
      subst hk
      exact List.pairwise_cons.mpr ⟨hhead, hrest⟩
    · rw [if_neg hk]
      by_cases hlt : Bytes.lt name k = true
      · rw [if_pos hlt]
        refine List.pairwise_cons.mpr ⟨fun m hm => ?_, h⟩
        rcases List.mem_cons.mp hm with rfl | hm
        · exact hlt
        · exact Bytes.lt_trans hlt (hhead m hm)
      · rw [if_neg hlt]
        refine List.pairwise_cons.mpr ⟨fun m hm => ?_, InOrder.put hrest⟩
        rcases mem_put hm with rfl | hm
        · exact Bytes.lt_of_not_lt (by simpa using hlt) fun he => hk (beq_iff_eq.mpr he.symm)
        · exact hhead m hm

/-- Behind smaller names a member is set at the end. -/
theorem put_append {name : Bytes} {value : Json} : ∀ {members : List (Bytes × Json)},
    (∀ m ∈ members, Bytes.lt m.1 name = true) →
      Json.put name value members = members ++ [(name, value)]
  | [], _ => rfl
  | (k, v) :: rest, h => by
    have hk := h (k, v) (by simp)
    have hne : ¬ (k == name) = true := by simpa using Bytes.ne_of_lt hk
    have hlt : ¬ Bytes.lt name k = true := by simp [Bytes.lt_asymm hk]
    rw [Json.put, if_neg hne, if_neg hlt, put_append fun m hm => h m (by simp [hm])]
    rfl

/-! ### Finding a member -/

theorem find?_nil (name : Bytes) : (obj []).find? name = none := rfl

/-- The first member, or one of the others. -/
theorem find?_cons (name k : Bytes) (v : Json) (rest : List (Bytes × Json)) :
    (obj ((k, v) :: rest)).find? name =
      if k = name then some v else (obj rest).find? name := by
  by_cases h : k = name
  · simp [find?, h]
  · have hne : (k == name) = false := by simpa using h
    simp [find?, h, hne]

/-- **What was set is found**, and everything else as before. -/
theorem find?_put (k : Bytes) (v : Json) (name : Bytes) : ∀ members : List (Bytes × Json),
    (obj (Json.put k v members)).find? name =
      if k = name then some v else (obj members).find? name
  | [] => by rw [Json.put, find?_cons]
  | (k', v') :: rest => by
    rw [Json.put]
    by_cases hk : (k' == k) = true
    · rw [if_pos hk, find?_cons, find?_cons, (beq_iff_eq.mp hk : k' = k)]
      split <;> rfl
    · rw [if_neg hk]
      split
      · rw [find?_cons]
      · rw [find?_cons, find?_cons, find?_put k v name rest]
        by_cases hname : k' = name
        · rw [if_pos hname, if_neg fun he => hk (by rw [he, hname]; simp), if_pos hname]
        · rw [if_neg hname, if_neg hname]

/-- Setting members one after the other: with different names, each of them stays. -/
theorem find?_foldl_put (name : Bytes) : ∀ (members acc : List (Bytes × Json)),
    (members.map Prod.fst).Nodup →
      (obj (members.foldl (fun acc m => Json.put m.1 m.2 acc) acc)).find? name =
        (members.lookup name).or ((obj acc).find? name)
  | [], _, _ => rfl
  | (k, v) :: rest, acc, h => by
    obtain ⟨hk, hrest⟩ := List.nodup_cons.mp h
    rw [List.foldl_cons, find?_foldl_put name rest _ hrest, find?_put, List.lookup_cons]
    by_cases hname : k = name
    · subst hname
      have hnone : rest.lookup k = none := List.lookup_eq_none_iff.mpr fun m hm => by
        have hne : k ≠ m.1 := fun he => hk (List.mem_map.mpr ⟨m, hm, he.symm⟩)
        simpa using hne
      simp [hnone]
    · have hne : (name == k) = false := by simpa using Ne.symm hname
      rw [if_neg hname, hne]

/-- **An object of members with different names has each of them.** -/
theorem find?_object {members : List (Bytes × Json)} (h : (members.map Prod.fst).Nodup)
    (name : Bytes) : (object members).find? name = members.lookup name := by
  rw [object, find?_foldl_put name members [] h, find?_nil, Option.or_none]

theorem find?_append (name : Bytes) (l l' : List (Bytes × Json)) :
    (obj (l ++ l')).find? name = ((obj l).find? name).or ((obj l').find? name) := by
  simp only [find?, List.find?_append, Option.map_or]

/-! ### Dropping members -/

/-- Members under other names than those that are dropped are found as before. -/
theorem find?_filter_of_notMem {names : List Bytes} {name : Bytes} (h : name ∉ names)
    (members : List (Bytes × Json)) :
    (obj (members.filter fun m => !names.contains m.1)).find? name = (obj members).find? name := by
  rw [find?, find?, List.find?_filter]
  congr 2
  funext m
  by_cases hm : m.1 = name
  · simp [hm, h]
  · simp [hm]

/-- Members that are dropped are not found. -/
theorem find?_filter_of_mem {names : List Bytes} {name : Bytes} (h : name ∈ names)
    (members : List (Bytes × Json)) :
    (obj (members.filter fun m => !names.contains m.1)).find? name = none := by
  rw [find?, Option.map_eq_none_iff, List.find?_eq_none]
  rintro m hm hname
  have hkept := (List.mem_filter.mp hm).2
  rw [beq_iff_eq.mp hname] at hkept
  simp [h] at hkept

/-- To erase members one after the other is to drop them all. -/
theorem foldl_erase_obj : ∀ (names : List Bytes) (members : List (Bytes × Json)),
    names.foldl (fun j name => j.erase name) (obj members) =
      obj (members.filter fun m => !names.contains m.1)
  | [], members => by simp
  | name :: names, members => by
    rw [List.foldl_cons, erase, foldl_erase_obj names, List.filter_filter]
    congr 2
    funext m
    by_cases hm : m.1 = name <;> simp [hm]

theorem assign_obj (members : List (Bytes × Json)) (name : Bytes) (value : Json) :
    (obj members).assign name value = .ok (obj (Json.put name value members)) := rfl

/-! ### Reading a member -/

theorem member_eq_ok {j v : Json} {name : Bytes} :
    j.member name = .ok v ↔ j.find? name = some v := by
  cases j with
  | obj members =>
    rw [member]
    cases (obj members).find? name <;> simp
  | _ => exact ⟨nofun, nofun⟩

theorem member_congr {members members' : List (Bytes × Json)} {name : Bytes}
    (h : (obj members').find? name = (obj members).find? name) :
    (obj members').member name = (obj members).member name := by
  rw [member, member, h]

theorem asText_eq_ok {j : Json} {s : Bytes} : j.asText = .ok s ↔ j = .str s := by
  cases j <;> simp [asText]

theorem asArray_eq_ok {j : Json} {items : List Json} :
    j.asArray = .ok items ↔ j = .arr items := by
  cases j <;> simp [asArray]

/-! ### Equality of values -/

mutual

/-- A value is equal to itself, also when numbers are compared by value. -/
theorem same_self (j : Json) : j.same j = true := by
  cases j with
  | null => rfl
  | bool b => simp [same]
  | int n => simp [same]
  | float x => simp [same, Binary64.same]
  | str s => simp [same]
  | arr items => rw [same, sameItems_self items]
  | obj members => rw [same, sameMembers_self members]

theorem sameItems_self (items : List Json) : sameItems items items = true := by
  cases items with
  | nil => rfl
  | cons j rest => rw [sameItems, same_self j, sameItems_self rest]; rfl

theorem sameMembers_self (members : List (Bytes × Json)) : sameMembers members members = true := by
  cases members with
  | nil => rfl
  | cons m rest =>
    obtain ⟨name, j⟩ := m
    rw [sameMembers, same_self j, sameMembers_self rest, beq_self_eq_true]
    rfl

end

end Json
end WalletResponder
