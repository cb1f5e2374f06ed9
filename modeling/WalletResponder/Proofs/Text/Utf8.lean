import WalletResponder.Proofs.Bytes.Splitting
import WalletResponder.Text.Utf8

/-!
# Text, character by character

A byte string is text exactly if it is a sequence of characters (`Utf8.valid_append_character`,
`Utf8.valid_induction`). So texts can be joined (`Utf8.valid_append`), and what is repaired is text
(`Utf8.valid_repair`), because each round of repairing writes a character.
-/

namespace WalletResponder.Utf8

/-- One character. -/
inductive IsCharacter : Bytes → Prop where
  | one {a : UInt8} (h : a < 0x80) : IsCharacter [a]
  | two {a b : UInt8} (h : pair a b = true) : IsCharacter [a, b]
  | three {a b c : UInt8} (h : triple a b c = true) : IsCharacter [a, b, c]
  | four {a b c d : UInt8} (h : quad a b c d = true) : IsCharacter [a, b, c, d]

variable {a b c d : UInt8} {s t : Bytes}

/-! ### How many bytes a character has -/

theorem span_of_lt (h : a < 0x80) : span a = 1 := by rw [span, if_pos h]

theorem lt_of_span (h : span a = 1) : a < 0x80 := by
  unfold span at h
  split at h
  · assumption
  · repeat' split at h
    all_goals cases h

theorem not_lt_of_span {n : Nat} (hn : n ≠ 1) (h : span a = n) : ¬ a < 0x80 := fun hlt =>
  hn (h.symm.trans (span_of_lt hlt))

theorem span_of_pair (h : pair a b = true) : span a = 2 := by
  simp only [pair, Bool.and_eq_true, beq_iff_eq] at h
  exact h.1

theorem span_of_triple (h : triple a b c = true) : span a = 3 := by
  simp only [triple, Bool.and_eq_true, beq_iff_eq] at h
  exact h.1.1

theorem span_of_quad (h : quad a b c d = true) : span a = 4 := by
  simp only [quad, Bool.and_eq_true, beq_iff_eq] at h
  exact h.1.1.1

theorem pair_eq_false {n : Nat} (hn : n ≠ 2) (h : span a = n) : pair a b = false := by
  cases hpair : pair a b with
  | false => rfl
  | true => exact absurd (h.symm.trans (span_of_pair hpair)) hn

theorem triple_eq_false {n : Nat} (hn : n ≠ 3) (h : span a = n) : triple a b c = false := by
  cases htriple : triple a b c with
  | false => rfl
  | true => exact absurd (h.symm.trans (span_of_triple htriple)) hn

/-! ### Characters in front -/

/-- An ASCII byte in front does not matter. -/
theorem valid_cons_of_lt (h : a < 0x80) : ∀ s : Bytes, valid (a :: s) = valid s
  | [] => by rw [valid, valid]; exact decide_eq_true h
  | [_] => by simp only [valid, h, if_true]
  | [_, _] => by simp only [valid, h, if_true]
  | _ :: _ :: _ :: _ => by rw [valid, if_pos h]

theorem valid_pair_append (h : pair a b = true) (s : Bytes) : valid (a :: b :: s) = valid s := by
  have hlow := not_lt_of_span (by decide) (span_of_pair h)
  match s with
  | [] => simp only [valid, hlow, h, if_false]
  | [_] => simp only [valid, hlow, h, if_false, if_true]
  | _ :: _ :: _ => rw [valid, if_neg hlow, if_pos h]

theorem valid_triple_append (h : triple a b c = true) (s : Bytes) :
    valid (a :: b :: c :: s) = valid s := by
  have hlow := not_lt_of_span (by decide) (span_of_triple h)
  have hpair : ¬ pair a b = true := by simp [pair_eq_false (by decide) (span_of_triple h)]
  match s with
  | [] => simp only [valid, hlow, if_neg hpair, h, if_false]
  | _ :: _ => rw [valid, if_neg hlow, if_neg hpair, if_pos h]

theorem valid_quad_append (h : quad a b c d = true) (s : Bytes) :
    valid (a :: b :: c :: d :: s) = valid s := by
  have hlow := not_lt_of_span (by decide) (span_of_quad h)
  have hpair : ¬ pair a b = true := by simp [pair_eq_false (by decide) (span_of_quad h)]
  have htriple : ¬ triple a b c = true := by simp [triple_eq_false (by decide) (span_of_quad h)]
  rw [valid, if_neg hlow, if_neg hpair, if_neg htriple, if_pos h]

/-- **A character in front does not matter.** -/
theorem valid_character_append (h : IsCharacter s) (t : Bytes) : valid (s ++ t) = valid t := by
  cases h with
  | one h => exact valid_cons_of_lt h t
  | two h => exact valid_pair_append h t
  | three h => exact valid_triple_append h t
  | four h => exact valid_quad_append h t

theorem valid_character (h : IsCharacter s) : valid s = true := by
  have happend := valid_character_append h []
  rwa [List.append_nil] at happend

/-- **A text is nothing, or a character in front of a text.** -/
theorem valid_induction {p : Bytes → Prop} (nil : p [])
    (append : ∀ s t, IsCharacter s → valid t = true → p t → p (s ++ t)) (s : Bytes)
    (h : valid s = true) : p s := by
  have one : ∀ {a t}, a < 0x80 → valid t = true → p t → p (a :: t) := fun hlow =>
    append _ _ (.one hlow)
  have two : ∀ {a b t}, pair a b = true → valid t = true → p t → p (a :: b :: t) := fun hpair =>
    append _ _ (.two hpair)
  have three : ∀ {a b c t}, triple a b c = true → valid t = true → p t → p (a :: b :: c :: t) :=
    fun htriple => append _ _ (.three htriple)
  have four : ∀ {a b c d t}, quad a b c d = true → valid t = true → p t →
      p (a :: b :: c :: d :: t) := fun hquad => append _ _ (.four hquad)
  fun_induction valid s with
  | case1 => exact nil
  | case2 a => exact one (of_decide_eq_true h) rfl nil
  | case3 a b hlow ih => exact one hlow h (ih h)
  | case4 a b hlow => exact two h rfl nil
  | case5 a b c hlow ih => exact one hlow h (ih h)
  | case6 a b c hlow hpair ih => exact two hpair h (ih h)
  | case7 a b c hlow hpair => exact three h rfl nil
  | case8 a b c d r hlow ih => exact one hlow h (ih h)
  | case9 a b c d r hlow hpair ih => exact two hpair h (ih h)
  | case10 a b c d r hlow hpair htriple ih => exact three htriple h (ih h)
  | case11 a b c d r hlow hpair htriple hquad ih => exact four hquad h (ih h)
  | case12 => cases h

/-! ### Bytes of a character -/

theorem le_of_continues (h : continues b = true) : 0x80 ≤ b := by
  simp only [continues, Bool.and_eq_true, decide_eq_true_eq] at h
  exact h.1

theorem le_of_second (h : second a b = true) : 0x80 ≤ b := by
  unfold second at h
  split at h
  · simp only [Bool.and_eq_true, decide_eq_true_eq] at h
    exact UInt8.le_trans (by decide) h.1
  split at h
  · simp only [Bool.and_eq_true, decide_eq_true_eq] at h
    exact h.1
  split at h
  · simp only [Bool.and_eq_true, decide_eq_true_eq] at h
    exact UInt8.le_trans (by decide) h.1
  split at h
  · simp only [Bool.and_eq_true, decide_eq_true_eq] at h
    exact h.1
  · exact le_of_continues h

/-- **A character is an ASCII byte, or has none.** -/
theorem IsCharacter.ascii_or (h : IsCharacter s) :
    (∃ a, s = [a] ∧ a < 0x80) ∨ ∀ b ∈ s, 0x80 ≤ b := by
  cases h with
  | one h => exact .inl ⟨_, rfl, h⟩
  | two h =>
    have hlead := UInt8.not_lt.mp (not_lt_of_span (by decide) (span_of_pair h))
    simp only [pair, Bool.and_eq_true] at h
    right
    simp [hlead, le_of_second h.2]
  | three h =>
    have hlead := UInt8.not_lt.mp (not_lt_of_span (by decide) (span_of_triple h))
    simp only [triple, Bool.and_eq_true] at h
    right
    simp [hlead, le_of_second h.1.2, le_of_continues h.2]
  | four h =>
    have hlead := UInt8.not_lt.mp (not_lt_of_span (by decide) (span_of_quad h))
    simp only [quad, Bool.and_eq_true] at h
    right
    simp [hlead, le_of_second h.1.1.2, le_of_continues h.1.2, le_of_continues h.2]

/-! ### Joining texts -/

theorem valid_append (hs : valid s = true) (ht : valid t = true) : valid (s ++ t) = true := by
  refine valid_induction (p := fun s => valid (s ++ t) = true) ht (fun c s hc _ ih => ?_) s hs
  rw [List.append_assoc, valid_character_append hc, ih]

theorem valid_append_of_ascii : ∀ {s : Bytes}, (∀ b ∈ s, b < 0x80) → ∀ t : Bytes,
    valid (s ++ t) = valid t
  | [], _, t => rfl
  | a :: s, h, t => by
    have hs : ∀ b ∈ s, b < 0x80 := fun b hb => h b (List.mem_cons_of_mem _ hb)
    rw [List.cons_append, valid_cons_of_lt (h a List.mem_cons_self), valid_append_of_ascii hs t]

theorem valid_of_ascii (h : ∀ b ∈ s, b < 0x80) : valid s = true := by
  rw [← List.append_nil s, valid_append_of_ascii h]
  rfl

/-- A text cut off at an ASCII byte is text. -/
theorem valid_upTo {c : UInt8} (hc : c < 0x80) (hs : valid s = true) :
    valid (Bytes.upTo c s) = true := by
  refine valid_induction (p := fun s => valid (Bytes.upTo c s) = true) rfl
    (fun s t hchar _ ih => ?_) s hs
  by_cases hmem : c ∈ s
  · rcases hchar.ascii_or with ⟨a, rfl, -⟩ | hhigh
    · obtain rfl := List.mem_singleton.mp hmem
      have hnil : Bytes.upTo c ([c] ++ t) = [] := Bytes.upTo_append_cons List.not_mem_nil t
      rw [hnil]
      rfl
    · exact absurd hc (UInt8.not_lt.mpr (hhigh c hmem))
  · rw [Bytes.upTo_append_of_notMem hmem, valid_character_append hchar, ih]

/-! ### Repairing -/

theorem isCharacter_replacement : IsCharacter replacement := .three (by decide)

/-- What is written for the beginning of a byte string is a character. -/
theorem isCharacter_lead (a : UInt8) (s : Bytes) : IsCharacter (lead (a :: s)).1 := by
  unfold lead
  dsimp only
  split
  · next h => exact .one (lt_of_span h)
  · next b _ h =>
    split
    · next hb => exact .two (by simp [pair, h, hb])
    · exact isCharacter_replacement
  · next b c _ h =>
    split
    · next hb =>
      split
      · next hc => exact .three (by simp [triple, h, hb, hc])
      · exact isCharacter_replacement
    · exact isCharacter_replacement
  · split <;> exact isCharacter_replacement
  · next b c d _ h =>
    split
    · next hb =>
      split
      · next hc =>
        split
        · next hd => exact .four (by simp [quad, h, hb, hc, hd])
        · exact isCharacter_replacement
      · exact isCharacter_replacement
    · exact isCharacter_replacement
  · split
    · split <;> exact isCharacter_replacement
    · exact isCharacter_replacement
  · split <;> exact isCharacter_replacement
  · exact isCharacter_replacement

theorem valid_repairFrom : ∀ (fuel : Nat) {done : Bytes}, valid done.reverse = true → ∀ s : Bytes,
    valid (repairFrom fuel done s) = true
  | 0, _, hdone, _ => hdone
  | _ + 1, _, hdone, [] => hdone
  | fuel + 1, done, hdone, a :: s => by
    rw [repairFrom.eq_3 _ _ _ (by simp)]
    refine valid_repairFrom fuel ?_ _
    rw [List.reverse_append, List.reverse_reverse]
    exact valid_append hdone (valid_character (isCharacter_lead a s))

/-- **What is repaired is text.** -/
theorem valid_repair (s : Bytes) : valid (repair s) = true := by
  unfold repair
  split
  · next h => exact h
  · exact valid_repairFrom _ rfl s

/-- Text is left as it is. -/
theorem repair_of_valid (h : valid s = true) : repair s = s := if_pos h

end WalletResponder.Utf8
