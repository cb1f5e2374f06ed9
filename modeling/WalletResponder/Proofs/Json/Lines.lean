import WalletResponder.Proofs.Json.Blank
import WalletResponder.Proofs.Json.RoundTrip

/-!
# JSON texts are lines

Whatever is in a value, its text is one line: a control character inside a string is escaped, and
there is none outside of strings (`Json.newline_notMem_renderWith`). If the strings are text, so is
the text of the value (`Json.valid_render`).

Writing a value with its texts repaired is writing another value, whose texts are repaired
(`Json.mapTexts`). So the text that comes of it is always valid, and it reads back if the names in
the value are text (`Json.parse?_dumpRepaired`).
-/

namespace WalletResponder

namespace Json

variable {c : UInt8} {s : Bytes} {fix : Bytes → Bytes}

mutual

/-- The value with `fix` applied to every string and name. -/
def mapTexts (fix : Bytes → Bytes) : Json → Json
  | .str s => .str (fix s)
  | .arr items => .arr (mapItems fix items)
  | .obj members => .obj (mapMembers fix members)
  | .null => .null
  | .bool b => .bool b
  | .int n => .int n
  | .float x => .float x

/-- The items with `fix` applied to every string and name. -/
def mapItems (fix : Bytes → Bytes) : List Json → List Json
  | [] => []
  | j :: rest => j.mapTexts fix :: mapItems fix rest

/-- The members with `fix` applied to every string and name. -/
def mapMembers (fix : Bytes → Bytes) : List (Bytes × Json) → List (Bytes × Json)
  | [] => []
  | (k, j) :: rest => (fix k, j.mapTexts fix) :: mapMembers fix rest

end

mutual

/-- Fixing texts while writing is writing the fixed value. -/
theorem render_mapTexts (fix : Bytes → Bytes) : ∀ j : Json,
    (j.mapTexts fix).render = renderWith fix j
  | .null | .bool true | .bool false | .int _ | .float _ | .str _ => rfl
  | .arr items => by
    rw [mapTexts, render, renderWith, renderWith, renderItems_mapItems fix items]
  | .obj members => by
    rw [mapTexts, render, renderWith, renderWith, renderMembers_mapMembers fix members]

theorem renderItems_mapItems (fix : Bytes → Bytes) : ∀ items : List Json,
    renderItems id (mapItems fix items) = renderItems fix items
  | [] => rfl
  | j :: rest => by
    rw [mapItems, renderItems, renderItems, renderItems_mapItems fix rest, ← render_mapTexts fix j]
    rfl

theorem renderMembers_mapMembers (fix : Bytes → Bytes) : ∀ members : List (Bytes × Json),
    renderMembers id (mapMembers fix members) = renderMembers fix members
  | [] => rfl
  | (k, j) :: rest => by
    rw [mapMembers, renderMembers, renderMembers, renderMembers_mapMembers fix rest,
      ← render_mapTexts fix j]
    rfl

end

mutual

/-- What is fixed is text, if fixing makes it text. -/
theorem isText_mapTexts (h : ∀ s, Utf8.valid (fix s) = true) : ∀ j : Json,
    (j.mapTexts fix).isText = true
  | .null | .bool _ | .int _ | .float _ => rfl
  | .str s => h s
  | .arr items => areText_mapItems h items
  | .obj members => membersAreText_mapMembers h members

theorem areText_mapItems (h : ∀ s, Utf8.valid (fix s) = true) : ∀ items : List Json,
    areText (mapItems fix items) = true
  | [] => rfl
  | j :: rest => by
    rw [mapItems, areText, isText_mapTexts h j, areText_mapItems h rest]
    rfl

theorem membersAreText_mapMembers (h : ∀ s, Utf8.valid (fix s) = true) :
    ∀ members : List (Bytes × Json), membersAreText (mapMembers fix members) = true
  | [] => rfl
  | (k, j) :: rest => by
    rw [mapMembers, membersAreText, h k, isText_mapTexts h j, membersAreText_mapMembers h rest]
    rfl

end

/-! ### No control characters -/

/-- The pieces of a text, and the commas between them. -/
theorem forall_mem_commas {p : UInt8 → Prop} (hcomma : p 0x2c) : ∀ {texts : List Bytes},
    (∀ t ∈ texts, ∀ c ∈ t, p c) → ∀ c ∈ commas texts, p c
  | [], _ => List.forall_mem_nil _
  | [t], h => by
    rw [commas]
    exact h t List.mem_cons_self
  | t :: t' :: rest, h => by
    obtain ⟨ht, hrest⟩ := List.forall_mem_cons.mp h
    rw [commas]
    exact List.forall_mem_append.mpr
      ⟨ht, List.forall_mem_cons.mpr ⟨hcomma, forall_mem_commas hcomma hrest⟩⟩

/-- What holds of the bytes of a known text is checked for one after another. -/
theorem forall_mem_of_all {p : UInt8 → Prop} [DecidablePred p] (h : s.all (p ·) = true) :
    ∀ c ∈ s, p c := by
  simpa using h

theorem hexDigit_printable : ∀ n < 16, 0x20 ≤ hexDigit n := by decide

theorem escapeByte_printable (b : UInt8) : ∀ c ∈ escapeByte b, 0x20 ≤ c := by
  unfold escapeByte
  repeat' split
  all_goals try exact forall_mem_of_all (by decide)
  · have hb := b.toNat_lt
    have hlow := hexDigit_printable (b.toNat % 16) (Nat.mod_lt _ (by decide))
    have hhigh := hexDigit_printable (b.toNat / 16) (by omega)
    simp [hlow, hhigh]
  · next h => simpa using h

theorem quote_printable (s : Bytes) : ∀ c ∈ quote s, 0x20 ≤ c := by
  refine List.forall_mem_cons.mpr ⟨by decide, List.forall_mem_append.mpr ⟨fun c hc => ?_, by simp⟩⟩
  obtain ⟨b, -, hc⟩ := List.mem_flatMap.mp hc
  exact escapeByte_printable b c hc

theorem isNumeric_decimal (n : Int) : ∀ c ∈ Bytes.decimal n, Binary64.IsNumeric c := by
  have hdigits := fun v => Binary64.isNumeric_of_digits (isDigit_of_mem_decimalNat v)
  cases n with
  | ofNat v => exact hdigits v
  | negSucc v => exact List.forall_mem_cons.mpr ⟨.inr (by decide), hdigits (v + 1)⟩

/-- Numbers are written with printable ASCII characters. -/
theorem printable_of_isNumeric (h : Binary64.IsNumeric c) : 0x20 ≤ c ∧ c < 0x80 := by
  rcases h with h | h
  · simp only [isDigit, Bool.and_eq_true, decide_eq_true_eq] at h
    exact ⟨UInt8.le_trans (by decide) h.1, UInt8.lt_of_le_of_lt h.2 (by decide)⟩
  · have hsigns : ∀ c ∈ ([0x2b, 0x2d, 0x2e, 0x65] : Bytes), 0x20 ≤ c ∧ c < 0x80 :=
      forall_mem_of_all (by decide)
    exact hsigns c h

mutual

/-- **There is no control character in the text of a value.** -/
theorem renderWith_printable (fix : Bytes → Bytes) : ∀ (j : Json), ∀ c ∈ renderWith fix j, 0x20 ≤ c
  | .null => forall_mem_of_all (s := utf8 "null") (by decide)
  | .bool true => forall_mem_of_all (s := utf8 "true") (by decide)
  | .bool false => forall_mem_of_all (s := utf8 "false") (by decide)
  | .int n => fun c hc => (printable_of_isNumeric (isNumeric_decimal n c hc)).1
  | .float x => fun c hc => (printable_of_isNumeric (x.isNumeric_render c hc)).1
  | .str s => quote_printable (fix s)
  | .arr items => List.forall_mem_cons.mpr ⟨by decide, List.forall_mem_append.mpr
      ⟨forall_mem_commas (by decide) (renderItems_printable fix items), by simp⟩⟩
  | .obj members => List.forall_mem_cons.mpr ⟨by decide, List.forall_mem_append.mpr
      ⟨forall_mem_commas (by decide) (renderMembers_printable fix members), by simp⟩⟩

theorem renderItems_printable (fix : Bytes → Bytes) : ∀ (items : List Json),
    ∀ t ∈ renderItems fix items, ∀ c ∈ t, 0x20 ≤ c
  | [] => List.forall_mem_nil _
  | j :: rest => List.forall_mem_cons.mpr
      ⟨renderWith_printable fix j, renderItems_printable fix rest⟩

theorem renderMembers_printable (fix : Bytes → Bytes) : ∀ (members : List (Bytes × Json)),
    ∀ t ∈ renderMembers fix members, ∀ c ∈ t, 0x20 ≤ c
  | [] => List.forall_mem_nil _
  | (k, j) :: rest => List.forall_mem_cons.mpr
      ⟨List.forall_mem_append.mpr ⟨quote_printable (fix k), List.forall_mem_cons.mpr
        ⟨by decide, renderWith_printable fix j⟩⟩, renderMembers_printable fix rest⟩

end

/-- **The text of a value is one line.** -/
theorem newline_notMem_renderWith (fix : Bytes → Bytes) (j : Json) : 0x0a ∉ renderWith fix j :=
  fun h => absurd (renderWith_printable fix j _ h) (by decide)

/-! ### The text of a value is text -/

theorem hexDigit_ascii : ∀ n < 16, hexDigit n < 0x80 := by decide

theorem escapeByte_ascii {b : UInt8} (hb : b < 0x80) : ∀ c ∈ escapeByte b, c < 0x80 := by
  unfold escapeByte
  repeat' split
  all_goals try exact forall_mem_of_all (by decide)
  · have hlt := b.toNat_lt
    have hlow := hexDigit_ascii (b.toNat % 16) (Nat.mod_lt _ (by decide))
    have hhigh := hexDigit_ascii (b.toNat / 16) (by omega)
    simp [hlow, hhigh]
  · simpa using hb

theorem escapeByte_of_le {b : UInt8} (hb : 0x80 ≤ b) : escapeByte b = [b] := by
  have hne : ∀ d : UInt8, d < 0x80 → (b == d) = false := fun d hd =>
    beq_eq_false_iff_ne.mpr fun he => UInt8.not_lt.mpr (he ▸ hb) hd
  have hcontrol : ¬ b < 0x20 := UInt8.not_lt.mpr (UInt8.le_trans (by decide) hb)
  simp only [escapeByte, hne 0x22 (by decide), hne 0x5c (by decide), hne 0x08 (by decide),
    hne 0x0c (by decide), hne 0x0a (by decide), hne 0x0d (by decide), hne 0x09 (by decide),
    hcontrol, Bool.false_eq_true, if_false]

theorem flatMap_escapeByte_of_le : ∀ {s : Bytes}, (∀ b ∈ s, 0x80 ≤ b) → s.flatMap escapeByte = s
  | [], _ => rfl
  | b :: s, h => by
    obtain ⟨hb, hs⟩ := List.forall_mem_cons.mp h
    rw [List.flatMap_cons, escapeByte_of_le hb, flatMap_escapeByte_of_le hs]
    rfl

/-- A text is still one when it is escaped, whatever stands behind it. -/
theorem valid_flatMap_escapeByte (hs : Utf8.valid s = true) (r : Bytes) :
    Utf8.valid (s.flatMap escapeByte ++ r) = Utf8.valid r := by
  refine Utf8.valid_induction (p := fun s => Utf8.valid (s.flatMap escapeByte ++ r) = Utf8.valid r)
    rfl (fun c s hc _ ih => ?_) s hs
  rw [List.flatMap_append, List.append_assoc]
  rcases hc.ascii_or with ⟨a, rfl, ha⟩ | hhigh
  · rw [List.flatMap_singleton, Utf8.valid_append_of_ascii (escapeByte_ascii ha), ih]
  · rw [flatMap_escapeByte_of_le hhigh, Utf8.valid_character_append hc, ih]

theorem valid_quote_append (hs : Utf8.valid s = true) (r : Bytes) :
    Utf8.valid (quote s ++ r) = Utf8.valid r := by
  rw [quote, List.cons_append, Utf8.valid_cons_of_lt (by decide), List.append_assoc,
    valid_flatMap_escapeByte hs, List.singleton_append, Utf8.valid_cons_of_lt (by decide)]

theorem valid_commas : ∀ {texts : List Bytes}, (∀ t ∈ texts, Utf8.valid t = true) →
    Utf8.valid (commas texts) = true
  | [], _ => rfl
  | [t], h => by
    rw [commas]
    exact h t List.mem_cons_self
  | t :: t' :: rest, h => by
    obtain ⟨ht, hrest⟩ := List.forall_mem_cons.mp h
    rw [commas]
    refine Utf8.valid_append ht ?_
    rw [Utf8.valid_cons_of_lt (by decide), valid_commas hrest]

/-- Brackets around a text. -/
theorem valid_enclosed {first last : UInt8} (hfirst : first < 0x80) (hlast : last < 0x80)
    (hs : Utf8.valid s = true) : Utf8.valid (first :: (s ++ [last])) = true := by
  rw [Utf8.valid_cons_of_lt hfirst]
  refine Utf8.valid_append hs ?_
  rw [Utf8.valid_cons_of_lt hlast]
  rfl

theorem valid_of_isNumeric (h : ∀ c ∈ s, Binary64.IsNumeric c) : Utf8.valid s = true :=
  Utf8.valid_of_ascii fun c hc => (printable_of_isNumeric (h c hc)).2

mutual

/-- **The text of a value whose strings are text is text.** -/
theorem valid_render : ∀ {j : Json}, j.isText = true → Utf8.valid (render j) = true
  | .null, _ | .bool true, _ | .bool false, _ => rfl
  | .int n, _ => valid_of_isNumeric (isNumeric_decimal n)
  | .float x, _ => valid_of_isNumeric x.isNumeric_render
  | .str s, h => by
    rw [render, renderWith, ← List.append_nil (quote _)]
    exact valid_quote_append h []
  | .arr items, h =>
    valid_enclosed (by decide) (by decide) (valid_commas (valid_renderItems h))
  | .obj members, h =>
    valid_enclosed (by decide) (by decide) (valid_commas (valid_renderMembers h))

theorem valid_renderItems : ∀ {items : List Json}, areText items = true →
    ∀ t ∈ renderItems id items, Utf8.valid t = true
  | [], _ => List.forall_mem_nil _
  | j :: rest, h => by
    rw [areText, Bool.and_eq_true] at h
    exact List.forall_mem_cons.mpr ⟨valid_render h.1, valid_renderItems h.2⟩

theorem valid_renderMembers : ∀ {members : List (Bytes × Json)}, membersAreText members = true →
    ∀ t ∈ renderMembers id members, Utf8.valid t = true
  | [], _ => List.forall_mem_nil _
  | (k, j) :: rest, h => by
    rw [membersAreText, Bool.and_eq_true, Bool.and_eq_true] at h
    refine List.forall_mem_cons.mpr ⟨?_, valid_renderMembers h.2⟩
    rw [id, valid_quote_append h.1.1, Utf8.valid_cons_of_lt (by decide)]
    exact valid_render h.1.2

end

/-! ### Fixing texts where names are text -/

/-- Texts are left as they are. -/
def Spares (fix : Bytes → Bytes) : Prop := ∀ s, Utf8.valid s = true → fix s = s

/-- The names of an object are text. -/
theorem isText_blank_obj {members : List (Bytes × Json)} :
    (obj members).blank.isText = true ↔
      ∀ m ∈ members, Utf8.valid m.1 = true ∧ m.2.blank.isText = true := by
  rw [blank, isText, blankMembers_eq_map, membersAreText_iff, List.forall_mem_map]

theorem isText_blank_object {members : List (Bytes × Json)}
    (h : ∀ m ∈ members, Utf8.valid m.1 = true ∧ m.2.blank.isText = true) :
    (object members).blank.isText = true := by
  refine List.foldlRecOn (motive := fun acc => (obj acc).blank.isText = true) members _ rfl
    fun acc ih m hm => ?_
  rw [isText_blank_obj] at ih ⊢
  intro m' hm'
  rcases mem_put hm' with rfl | hm'
  · exact h m hm
  · exact ih m' hm'

theorem names_mapMembers (hfix : Spares fix) : ∀ {members : List (Bytes × Json)},
    membersAreText (blankMembers members) = true →
      (mapMembers fix members).map Prod.fst = members.map Prod.fst
  | [], _ => rfl
  | (k, j) :: rest, h => by
    rw [blankMembers, membersAreText, Bool.and_eq_true, Bool.and_eq_true] at h
    rw [mapMembers, List.map_cons, List.map_cons, names_mapMembers hfix h.2, hfix k h.1.1]

mutual

/-- **A plain value whose names are text is still plain when its texts are fixed.** -/
theorem isPlain_mapTexts (hfix : Spares fix) : ∀ {j : Json}, j.IsPlain → j.blank.isText = true →
    (j.mapTexts fix).IsPlain
  | .null, _, _ | .bool _, _, _ | .str _, _, _ => trivial
  | .int _, h, _ => h
  | .float _, h, _ => h
  | .arr _, h, ht => arePlain_mapItems hfix h ht
  | .obj members, h, ht => by
    refine ⟨?_, membersArePlain_mapMembers hfix h.2 ht⟩
    rw [inOrder_iff, names_mapMembers hfix ht]
    exact inOrder_iff.mp h.1

theorem arePlain_mapItems (hfix : Spares fix) : ∀ {items : List Json}, ArePlain items →
    areText (blankItems items) = true → ArePlain (mapItems fix items)
  | [], _, _ => trivial
  | _ :: _, h, ht => by
    rw [blankItems, areText, Bool.and_eq_true] at ht
    exact ⟨isPlain_mapTexts hfix h.1 ht.1, arePlain_mapItems hfix h.2 ht.2⟩

theorem membersArePlain_mapMembers (hfix : Spares fix) : ∀ {members : List (Bytes × Json)},
    MembersArePlain members → membersAreText (blankMembers members) = true →
      MembersArePlain (mapMembers fix members)
  | [], _, _ => trivial
  | _ :: _, h, ht => by
    rw [blankMembers, membersAreText, Bool.and_eq_true, Bool.and_eq_true] at ht
    exact ⟨isPlain_mapTexts hfix h.1 ht.1.2, membersArePlain_mapMembers hfix h.2 ht.2⟩

end

/-- Members are found as before, with their texts fixed. -/
theorem find?_mapTexts (hfix : Spares fix) {j : Json} (h : j.blank.isText = true) (name : Bytes) :
    (j.mapTexts fix).find? name = (j.find? name).map (mapTexts fix) := by
  cases j with
  | obj members =>
    rw [mapTexts]
    rw [blank, isText] at h
    induction members with
    | nil => rfl
    | cons m rest ih =>
      rw [blankMembers, membersAreText, Bool.and_eq_true, Bool.and_eq_true] at h
      rw [mapMembers, find?_cons, find?_cons, hfix m.1 h.1.1, ih h.2]
      split <;> rfl
  | _ => rfl

/-! ### Repaired texts -/

theorem spares_repair : Spares Utf8.repair := fun _ => Utf8.repair_of_valid

theorem dumpRepaired_eq (j : Json) : j.dumpRepaired = (j.mapTexts Utf8.repair).render :=
  (render_mapTexts Utf8.repair j).symm

/-- **What is written with repaired texts is text**, and one line. -/
theorem valid_dumpRepaired (j : Json) : Utf8.valid j.dumpRepaired = true := by
  rw [dumpRepaired_eq]
  exact valid_render (isText_mapTexts Utf8.valid_repair j)

/-- **What is written with repaired texts reads back with repaired texts.** -/
theorem parse?_dumpRepaired {j : Json} (h : j.IsPlain) (hnames : j.blank.isText = true) :
    parse? j.dumpRepaired = some (j.mapTexts Utf8.repair) := by
  rw [dumpRepaired_eq]
  exact parse?_render (isPlain_mapTexts spares_repair h hnames)
    (isText_mapTexts Utf8.valid_repair j)

end Json
end WalletResponder
