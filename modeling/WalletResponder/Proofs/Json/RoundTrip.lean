import WalletResponder.Proofs.Json.Layout
import WalletResponder.Proofs.Json.Texts

/-!
# Reading JSON back

The text of a value reads back as the value (`parse?_render`) when its strings are text, its
integers fit in 64 bits, its binary64 numbers are in normal form and its members are in order
(`IsPlain`). All of that holds of whatever was read (`isPlain_of_parse?`).

The readers have fuel, and twice the length of a text is enough: each of them goes on behind what
the other read, so the induction is on the value, for any rest of the text that does not continue a
number.
-/

namespace WalletResponder

namespace Json

mutual

/-- A value that reads back as it is. -/
def IsPlain : Json → Prop
  | .null | .bool _ | .str _ => True
  | .int n => -2 ^ 63 ≤ n ∧ n < 2 ^ 64
  | .float x => x.IsNormal
  | .arr items => ArePlain items
  | .obj members => InOrder members ∧ MembersArePlain members

/-- All items read back. -/
def ArePlain : List Json → Prop
  | [] => True
  | j :: rest => IsPlain j ∧ ArePlain rest

/-- All members read back. -/
def MembersArePlain : List (Bytes × Json) → Prop
  | [] => True
  | m :: rest => IsPlain m.2 ∧ MembersArePlain rest

end

theorem membersArePlain_iff : ∀ {members : List (Bytes × Json)},
    MembersArePlain members ↔ ∀ m ∈ members, IsPlain m.2
  | [] => by simp [MembersArePlain]
  | m :: rest => by simp [MembersArePlain, @membersArePlain_iff rest]

theorem arePlain_iff : ∀ {items : List Json}, ArePlain items ↔ ∀ j ∈ items, IsPlain j
  | [] => by simp [ArePlain]
  | j :: rest => by simp [ArePlain, @arePlain_iff rest]

theorem isPlain_of_find? {j v : Json} {name : Bytes} (hj : j.IsPlain)
    (h : j.find? name = some v) : v.IsPlain := by
  cases j with
  | obj members =>
    obtain ⟨m, hm, rfl⟩ := Option.map_eq_some_iff.mp h
    exact membersArePlain_iff.mp hj.2 m (List.mem_of_find?_eq_some hm)
  | _ => exact nomatch h

theorem isPlain_str (s : Bytes) : IsPlain (.str s) := trivial

theorem IsPlain.put {name : Bytes} {value : Json} {members : List (Bytes × Json)}
    (h : IsPlain (.obj members)) (hvalue : IsPlain value) :
    IsPlain (.obj (Json.put name value members)) := by
  rw [IsPlain, membersArePlain_iff] at h ⊢
  refine ⟨h.1.put, fun m hm => ?_⟩
  rcases mem_put hm with rfl | hm
  · exact hvalue
  · exact h.2 m hm

/-- An object of plain members is plain, whatever their order was. -/
theorem isPlain_object {members : List (Bytes × Json)} (h : ∀ m ∈ members, m.2.IsPlain) :
    (object members).IsPlain :=
  List.foldlRecOn (motive := fun acc => IsPlain (.obj acc)) members _ ⟨List.Pairwise.nil, trivial⟩
    fun _ ih m hm => ih.put (h m hm)

theorem handsOn_isPlain : HandsOn IsPlain where
  scalar h := by
    cases h with
    | null => trivial
    | bool b => trivial
    | int hlow hhigh => exact ⟨hlow, hhigh⟩
    | float h => exact Binary64.isNormal_of_ofDecimal h
  str _ := trivial
  arr h := arePlain_iff.mpr h
  obj horder h := ⟨horder, membersArePlain_iff.mpr fun m hm => (h m hm).2⟩

/-- **What was read can be written and read again.** -/
theorem isPlain_of_parse? {s : Bytes} {j : Json} (h : parse? s = some j) : j.IsPlain :=
  handsOn_isPlain.of_parse? h

/-! ### The first byte of a text -/

theorem skipBlanks_cons {c : UInt8} (h : isBlank c = false) (s : Bytes) :
    skipBlanks (c :: s) = c :: s := by
  rw [skipBlanks, List.dropWhile_cons_of_neg (by simp [h])]

theorem decimal_cons (n : Int) :
    ∃ c s, Bytes.decimal n = c :: s ∧ (isDigit c = true ∨ c = 0x2d) := by
  cases n with
  | ofNat v =>
    cases h : Bytes.decimalNat v with
    | nil => exact absurd h (decimalNat_ne_nil v)
    | cons c s => exact ⟨c, s, h, Or.inl (isDigit_of_mem_decimalNat v c (by rw [h]; simp))⟩
  | negSucc v => exact ⟨_, _, rfl, Or.inr rfl⟩

/-- Neither a blank nor the beginning of anything but a number. -/
theorem number_head : ∀ c : UInt8, (isDigit c = true ∨ c = 0x2d) →
    isBlank c = false ∧ c ≠ 0x22 ∧ c ≠ 0x5b ∧ c ≠ 0x5d ∧ c ≠ 0x7b ∧ c ≠ 0x6e ∧ c ≠ 0x74 ∧
      c ≠ 0x66 ∧ c ≠ 0xef := by
  intro c h
  have hne : ∀ d : UInt8, isDigit d = false ∧ d ≠ 0x2d → c ≠ d := by
    rintro d ⟨hdigit, hminus⟩ rfl
    rcases h with h | h
    · rw [h] at hdigit; cases hdigit
    · exact hminus h
  have hblank : isBlank c = false := by
    simp only [isBlank, Bool.or_eq_false_iff, beq_eq_false_iff_ne]
    exact ⟨⟨⟨hne _ (by decide), hne _ (by decide)⟩, hne _ (by decide)⟩, hne _ (by decide)⟩
  exact ⟨hblank, hne _ (by decide), hne _ (by decide), hne _ (by decide), hne _ (by decide),
    hne _ (by decide), hne _ (by decide), hne _ (by decide), hne _ (by decide)⟩

theorem utf8_null : utf8 "null" = [0x6e, 0x75, 0x6c, 0x6c] := by decide

theorem utf8_true : utf8 "true" = [0x74, 0x72, 0x75, 0x65] := by decide

theorem utf8_false : utf8 "false" = [0x66, 0x61, 0x6c, 0x73, 0x65] := by decide

/-- A text begins with a byte that is no blank, does not end an array and begins no byte order
mark. -/
theorem render_cons (j : Json) :
    ∃ c s, render j = c :: s ∧ isBlank c = false ∧ c ≠ 0x5d ∧ c ≠ 0xef := by
  cases j with
  | null => exact ⟨_, _, utf8_null, by decide, by decide, by decide⟩
  | bool b =>
    cases b with
    | true => exact ⟨_, _, utf8_true, by decide, by decide, by decide⟩
    | false => exact ⟨_, _, utf8_false, by decide, by decide, by decide⟩
  | int n =>
    obtain ⟨c, s, hs, hc⟩ := decimal_cons n
    obtain ⟨hblank, -, -, hend, -, -, -, -, hmark⟩ := number_head c hc
    exact ⟨c, s, hs, hblank, hend, hmark⟩
  | float x =>
    obtain ⟨c, s, hs, hc⟩ := x.render_cons
    obtain ⟨hblank, -, -, hend, -, -, -, -, hmark⟩ := number_head c hc
    exact ⟨c, s, hs, hblank, hend, hmark⟩
  | str s => exact ⟨_, _, rfl, by decide, by decide, by decide⟩
  | arr items => exact ⟨_, _, rfl, by decide, by decide, by decide⟩
  | obj members => exact ⟨_, _, rfl, by decide, by decide, by decide⟩

/-! ### What the readers do at the first byte -/

theorem after?_append (start r : Bytes) : after? start (start ++ r) = some r := by
  rw [after?, if_pos (List.isPrefixOf_iff_prefix.mpr (List.prefix_append start r)),
    List.drop_left]

theorem after?_cons_ne {c d : UInt8} (h : c ≠ d) (start s : Bytes) :
    after? (c :: start) (d :: s) = none := by
  have hne : (c == d) = false := by simpa using h
  rw [after?, List.isPrefixOf_cons_cons, hne]
  rfl

theorem plain?_null (r : Bytes) : plain? (utf8 "null" ++ r) = some (.null, r) := by
  rw [plain?, after?_append]

theorem plain?_true (r : Bytes) : plain? (utf8 "true" ++ r) = some (.bool true, r) := by
  have hnull : after? (utf8 "null") (utf8 "true" ++ r) = none :=
    after?_cons_ne (by decide : (0x6e : UInt8) ≠ 0x74) _ _
  rw [plain?, hnull, after?_append]

theorem plain?_false (r : Bytes) : plain? (utf8 "false" ++ r) = some (.bool false, r) := by
  have hnull : after? (utf8 "null") (utf8 "false" ++ r) = none :=
    after?_cons_ne (by decide : (0x6e : UInt8) ≠ 0x66) _ _
  have htrue : after? (utf8 "true") (utf8 "false" ++ r) = none :=
    after?_cons_ne (by decide : (0x74 : UInt8) ≠ 0x66) _ _
  rw [plain?, hnull, htrue, after?_append]

/-- What begins with a digit or a minus sign is a number. -/
theorem plain?_number {c : UInt8} (hc : isDigit c = true ∨ c = 0x2d) (s : Bytes) :
    plain? (c :: s) = number? (c :: s) := by
  obtain ⟨-, -, -, -, -, hnull, htrue, hfalse, -⟩ := number_head c hc
  simp only [plain?, utf8_null, utf8_true, utf8_false, after?_cons_ne hnull.symm,
    after?_cons_ne htrue.symm, after?_cons_ne hfalse.symm]

theorem name?_quote {k : Bytes} (h : Utf8.valid k = true) (r : Bytes) :
    name? (quote k ++ 0x3a :: r) = some (k, r) := by
  have hquote : isBlank 0x22 = false := by decide
  have hcolon : isBlank 0x3a = false := by decide
  simp only [name?, quote, List.cons_append, List.append_assoc, List.nil_append,
    skipBlanks_cons hquote, string?_quote h, skipBlanks_cons hcolon]

variable {c : UInt8} {s : Bytes} {fuel : Nat}

theorem value?_plain (hblank : isBlank c = false) (hquote : c ≠ 0x22) (harr : c ≠ 0x5b)
    (hobj : c ≠ 0x7b) : value? (fuel + 1) (c :: s) = plain? (c :: s) := by
  rw [value?.eq_def]
  simp only [skipBlanks_cons hblank]
  split
  · next h => exact absurd (List.cons.inj h).1 hquote
  · next h => exact absurd (List.cons.inj h).1 harr
  · next h => exact absurd (List.cons.inj h).1 hobj
  · rfl

theorem value?_number (hc : isDigit c = true ∨ c = 0x2d) :
    value? (fuel + 1) (c :: s) = number? (c :: s) := by
  obtain ⟨hblank, hquote, harr, -, hobj, -⟩ := number_head c hc
  rw [value?_plain hblank hquote harr hobj, plain?_number hc]

theorem value?_items (hblank : isBlank c = false) (hend : c ≠ 0x5d) :
    value? (fuel + 1) (0x5b :: c :: s) = items? fuel [] (c :: s) := by
  rw [value?, skipBlanks_cons (by decide)]
  simp only [skipBlanks_cons hblank]
  split
  · next h => exact absurd (List.cons.inj h).1 hend
  · rfl

theorem value?_members (hblank : isBlank c = false) (hend : c ≠ 0x7d) :
    value? (fuel + 1) (0x7b :: c :: s) = members? fuel [] (c :: s) := by
  rw [value?, skipBlanks_cons (by decide)]
  simp only [skipBlanks_cons hblank]
  split
  · next h => exact absurd (List.cons.inj h).1 hend
  · rfl

/-! ### Values -/

/-- What may follow a value inside another one. -/
theorem endsNumber_cons (h : c = 0x2c ∨ c = 0x5d ∨ c = 0x7d) (r : Bytes) : EndsNumber (c :: r) := by
  intro d hd
  cases hd
  rcases h with rfl | rfl | rfl <;> decide

/-- What may follow a whole text: blanks, and the end or a zero byte. -/
theorem endsNumber_of_isOver {r : Bytes} (h : isOver r = true) : EndsNumber r := by
  intro d hd
  by_cases hblank : isBlank d = true
  · simp only [isBlank, Bool.or_eq_true, beq_iff_eq] at hblank
    rcases hblank with ((rfl | rfl) | rfl) | rfl <;> decide
  · cases r with
    | nil => cases hd
    | cons c r =>
      cases hd
      rw [isOver, skipBlanks_cons (by simpa using hblank)] at h
      cases eq_of_beq h
      decide

theorem one_le_length_render (j : Json) : 1 ≤ (render j).length := by
  obtain ⟨c, s, hs, -⟩ := render_cons j
  simp [hs]

theorem commas_cons_cons (x : Bytes) (rest : List Bytes) (h : x = c :: s) :
    ∃ t, commas (x :: rest) = c :: t := by
  rw [h]
  cases rest with
  | nil => exact ⟨s, rfl⟩
  | cons y rest => exact ⟨_, rfl⟩

mutual

/-- **The text of a value reads back**, whatever stands behind it. -/
theorem value?_render : ∀ (j : Json), IsPlain j → j.isText = true → ∀ (fuel : Nat) (r : Bytes),
    2 * (render j).length ≤ fuel → EndsNumber r → value? fuel (render j ++ r) = some (j, r)
  | j, _, _, 0, _, hf, _ => by
    have := one_le_length_render j
    omega
  | .null, _, _, fuel + 1, r, _, _ => by
    refine Eq.trans ?_ (plain?_null r)
    exact value?_plain (by decide) (by decide) (by decide) (by decide)
  | .bool true, _, _, fuel + 1, r, _, _ => by
    refine Eq.trans ?_ (plain?_true r)
    exact value?_plain (by decide) (by decide) (by decide) (by decide)
  | .bool false, _, _, fuel + 1, r, _, _ => by
    refine Eq.trans ?_ (plain?_false r)
    exact value?_plain (by decide) (by decide) (by decide) (by decide)
  | .int n, hp, _, fuel + 1, r, _, hr => by
    obtain ⟨c, s, hs, hc⟩ := decimal_cons n
    rw [← number?_decimal hp.1 hp.2 hr, render, renderWith, hs]
    exact value?_number hc
  | .float x, hp, _, fuel + 1, r, _, hr => by
    obtain ⟨c, s, hs, hc⟩ := x.render_cons
    rw [← Binary64.number?_render hp hr, render, renderWith, hs]
    exact value?_number hc
  | .str s, _, ht, fuel + 1, r, _, _ => by
    have hs : Utf8.valid s = true := ht
    rw [render, renderWith, id, quote, List.cons_append, value?, skipBlanks_cons (by decide)]
    simp only [List.append_assoc, List.singleton_append, string?_quote hs, Option.map_some]
  | .arr [], _, _, fuel + 1, r, _, _ => by
    rw [render, renderWith, renderItems, commas, List.cons_append, value?,
      skipBlanks_cons (by decide)]
    simp only [List.nil_append, List.singleton_append,
      skipBlanks_cons (by decide : isBlank 0x5d = false)]
  | .arr (j :: rest), hp, ht, fuel + 1, r, hf, _ => by
    rw [IsPlain, ArePlain] at hp
    rw [isText, areText, Bool.and_eq_true] at ht
    have hlen : 2 * (commas (renderItems id (j :: rest))).length + 1 ≤ fuel := by
      simp only [render, renderWith, List.length_cons, List.length_append, List.length_nil] at hf
      omega
    have hitems := items?_render j rest hp.1 hp.2 ht.1 ht.2 fuel [] r hlen
    obtain ⟨c, s, hs, hblank, hend, -⟩ := render_cons j
    obtain ⟨t, ht⟩ := commas_cons_cons (renderWith id j) (renderItems id rest) hs
    rw [renderItems, ht] at hitems
    rw [render, renderWith, renderItems, ht, List.cons_append, List.append_assoc]
    exact (value?_items hblank hend).trans hitems
  | .obj [], _, _, fuel + 1, r, _, _ => by
    rw [render, renderWith, renderMembers, commas, List.cons_append, value?,
      skipBlanks_cons (by decide)]
    simp only [List.nil_append, List.singleton_append,
      skipBlanks_cons (by decide : isBlank 0x7d = false)]
  | .obj ((k, j) :: rest), hp, ht, fuel + 1, r, hf, _ => by
    rw [IsPlain, MembersArePlain] at hp
    rw [isText, membersAreText, Bool.and_eq_true, Bool.and_eq_true] at ht
    have hlen : 2 * (commas (renderMembers id ((k, j) :: rest))).length + 1 ≤ fuel := by
      simp only [render, renderWith, List.length_cons, List.length_append, List.length_nil] at hf
      omega
    have hmembers := members?_render k j rest hp.2.1 hp.2.2 ht.1.1 ht.1.2 ht.2 fuel [] r hlen hp.1
    obtain ⟨t, ht⟩ := commas_cons_cons (quote k ++ 0x3a :: renderWith id j) (renderMembers id rest)
      rfl
    rw [renderMembers, id, ht] at hmembers
    rw [render, renderWith, renderMembers, id, ht, List.cons_append, List.append_assoc]
    exact (value?_members (by decide) (by decide)).trans hmembers

/-- The texts of items read back, up to the end of the array. -/
theorem items?_render : ∀ (j : Json) (rest : List Json), IsPlain j → ArePlain rest →
    j.isText = true → areText rest = true → ∀ (fuel : Nat) (done : List Json) (r : Bytes),
    2 * (commas (renderItems id (j :: rest))).length + 1 ≤ fuel →
      items? fuel done (commas (renderItems id (j :: rest)) ++ 0x5d :: r) =
        some (.arr (done.reverse ++ j :: rest), r)
  | j, [], hp, _, ht, _, fuel + 1, done, r, hf => by
    have hvalue := value?_render j hp ht fuel (0x5d :: r) (by
      rw [renderItems, renderItems, commas] at hf; rw [render]; omega)
      (endsNumber_cons (by simp) r)
    rw [renderItems, renderItems, commas, items?]
    rw [render] at hvalue
    simp only [hvalue, skipBlanks_cons (by decide : isBlank 0x5d = false)]
    simp
  | j, j' :: rest, hp, hps, ht, hts, fuel + 1, done, r, hf => by
    rw [ArePlain] at hps
    rw [areText, Bool.and_eq_true] at hts
    have hsplit : commas (renderItems id (j :: j' :: rest)) =
        render j ++ 0x2c :: commas (renderItems id (j' :: rest)) := rfl
    rw [hsplit, List.length_append, List.length_cons] at hf
    have hvalue := value?_render j hp ht fuel
      (0x2c :: (commas (renderItems id (j' :: rest)) ++ 0x5d :: r)) (by omega)
      (endsNumber_cons (by simp) _)
    have hone := one_le_length_render j
    have hitems := items?_render j' rest hps.1 hps.2 hts.1 hts.2 fuel (j :: done) r (by omega)
    rw [hsplit, List.append_assoc, List.cons_append, items?]
    simp only [hvalue, skipBlanks_cons (by decide : isBlank 0x2c = false), hitems]
    simp

/-- The texts of members read back, up to the end of the object: each is put behind those before
it. -/
theorem members?_render : ∀ (k : Bytes) (j : Json) (rest : List (Bytes × Json)), IsPlain j →
    MembersArePlain rest → Utf8.valid k = true → j.isText = true → membersAreText rest = true →
    ∀ (fuel : Nat) (done : List (Bytes × Json)) (r : Bytes),
    2 * (commas (renderMembers id ((k, j) :: rest))).length + 1 ≤ fuel →
    InOrder (done ++ (k, j) :: rest) →
      members? fuel done (commas (renderMembers id ((k, j) :: rest)) ++ 0x7d :: r) =
        some (.obj (done ++ (k, j) :: rest), r)
  | k, j, [], hp, _, hk, ht, _, fuel + 1, done, r, hf, ho => by
    have hput : put k j done = done ++ [(k, j)] :=
      put_append fun m hm => (List.pairwise_append.mp ho).2.2 m hm (k, j) (by simp)
    have hvalue := value?_render j hp ht fuel (0x7d :: r) (by
      rw [renderMembers, renderMembers, commas, List.length_append, List.length_cons] at hf
      rw [render]
      omega) (endsNumber_cons (by simp) r)
    rw [render] at hvalue
    rw [renderMembers, renderMembers, commas, members?, id, List.append_assoc, List.cons_append]
    simp only [name?_quote hk, hvalue, skipBlanks_cons (by decide : isBlank 0x7d = false), hput]
  | k, j, (k', j') :: rest, hp, hps, hk, ht, hts, fuel + 1, done, r, hf, ho => by
    rw [MembersArePlain] at hps
    rw [membersAreText, Bool.and_eq_true, Bool.and_eq_true] at hts
    have hput : put k j done = done ++ [(k, j)] :=
      put_append fun m hm => (List.pairwise_append.mp ho).2.2 m hm (k, j) (by simp)
    have hsplit : commas (renderMembers id ((k, j) :: (k', j') :: rest)) =
        quote k ++ 0x3a :: render j ++ 0x2c :: commas (renderMembers id ((k', j') :: rest)) := rfl
    rw [hsplit, List.length_append, List.length_append, List.length_cons, List.length_cons] at hf
    have hvalue := value?_render j hp ht fuel
      (0x2c :: (commas (renderMembers id ((k', j') :: rest)) ++ 0x7d :: r)) (by omega)
      (endsNumber_cons (by simp) _)
    have hmembers := members?_render k' j' rest hps.1 hps.2 hts.1.1 hts.1.2 hts.2 fuel
      (done ++ [(k, j)]) r (by omega) (by simpa using ho)
    rw [hsplit, List.append_assoc, List.append_assoc, List.cons_append, List.cons_append, members?]
    simp only [name?_quote hk, hvalue, skipBlanks_cons (by decide : isBlank 0x2c = false), hput,
      hmembers]
    simp

end

/-- **What is written of a value reads back as the value**, also in front of blanks and in front of
a zero byte, whatever is behind that. -/
theorem parse?_render_append {j : Json} (hp : IsPlain j) (ht : j.isText = true) {r : Bytes}
    (hr : isOver r = true) : parse? (render j ++ r) = some j := by
  obtain ⟨c, s, hs, -, -, hmark⟩ := render_cons j
  have hdrop : dropMark (render j ++ r) = render j ++ r := by
    rw [hs, List.cons_append]
    unfold dropMark
    split
    · next h => exact absurd (List.cons.inj h).1 hmark
    · rfl
  have hlength : (render j).length ≤ (render j ++ r).length := by
    rw [List.length_append]
    exact Nat.le_add_right _ _
  have hvalue := value?_render j hp ht (2 * (render j ++ r).length + 2) r (by omega)
    (endsNumber_of_isOver hr)
  rw [parse?, hdrop]
  simp only [hvalue, hr, if_true]

/-- Nothing behind a zero byte is looked at. -/
example : parse? (utf8 "5 " ++ [0x00, 0xff]) = some (.int 5) := rfl

/-- The text of a value reads back as the value. -/
theorem parse?_render {j : Json} (hp : IsPlain j) (ht : j.isText = true) :
    parse? (render j) = some j := by
  have h := parse?_render_append hp ht (r := []) rfl
  rwa [List.append_nil] at h

/-- A text that was written reads back. -/
theorem parse?_dump {j : Json} {text : Bytes} (hp : IsPlain j) (h : j.dump = .ok text) :
    parse? text = some j := by
  unfold dump at h
  split at h
  · next ht => cases h; exact parse?_render hp ht
  · cases h

end Json
end WalletResponder
