import WalletResponder.Proofs.Json.Binary64

/-!
# Reading the layout of a number

A binary64 number reads back from its text (`number?_render`). Its digits do, and where the point
stands among them, how many zeros fill the gap and whether there is an exponent comes to the same
decimal: a point moves into the exponent (`numberValue?_decimal`), zeros in front count for nothing
and zeros behind for a power of ten.
-/

namespace WalletResponder

open Json Binary64

namespace Json

variable {negative : Bool} {digits whole fraction r : Bytes} {e : Option Int}

/-! ### Parts of a number -/

theorem digitsValue_cons_zero (digits : Bytes) :
    digitsValue (0x30 :: digits) = digitsValue digits := rfl

theorem digitsValue_zeros_append (digits : Bytes) : ∀ k : Nat,
    digitsValue (List.replicate k 0x30 ++ digits) = digitsValue digits
  | 0 => rfl
  | k + 1 => by
    rw [List.replicate_succ, List.cons_append, digitsValue_cons_zero,
      digitsValue_zeros_append digits k]

theorem digitsValue_append_zeros (digits : Bytes) : ∀ k : Nat,
    digitsValue (digits ++ List.replicate k 0x30) = digitsValue digits * 10 ^ k
  | 0 => by simp
  | k + 1 => by
    rw [List.replicate_succ', ← List.append_assoc, digitsValue_append,
      digitsValue_append_zeros digits k, Nat.pow_succ]
    have hzero : (0x30 : UInt8).toNat - 48 = 0 := rfl
    rw [hzero, Nat.add_zero, Nat.mul_comm 10, Nat.mul_assoc]

/-- A number with a fraction or an exponent is a decimal. -/
theorem numberValue?_decimal (h : fraction ≠ [] ∨ e ≠ none) :
    numberValue? negative whole fraction e =
      (ofDecimal negative (digitsValue (whole ++ fraction)) (e.getD 0 - fraction.length)).map
        Json.float := by
  have hdecimal : ¬ (fraction.isEmpty && e.isNone) = true := by
    rw [Bool.and_eq_true, List.isEmpty_iff, Option.isNone_iff_eq_none]
    exact fun hboth => h.elim (· hboth.1) (· hboth.2)
  unfold numberValue?
  dsimp only
  rw [if_neg hdecimal]

theorem unsigned?_decimal {r' r'' : Bytes} (hwhole : IsWhole whole)
    (hr : ∀ c ∈ r.head?, isDigit c = false) (hfraction : fraction? r = some (fraction, r'))
    (hscale : scale? r' = some (e, r'')) (h : fraction ≠ [] ∨ e ≠ none) :
    unsigned? negative (whole ++ r) =
      ((ofDecimal negative (digitsValue (whole ++ fraction)) (e.getD 0 - fraction.length)).map
        Json.float).map (·, r'') := by
  rw [unsigned?_parts hwhole hr hfraction hscale, numberValue?_decimal h]

theorem fraction?_point (hne : digits ≠ []) (hdigits : ∀ c ∈ digits, isDigit c = true)
    (hr : ∀ c ∈ r.head?, isDigit c = false) :
    fraction? (0x2e :: (digits ++ r)) = some (digits, r) := by
  obtain ⟨htake, hdrop⟩ := span_digits hdigits hr
  obtain ⟨c, rest, rfl⟩ := List.exists_cons_of_ne_nil hne
  rw [fraction?, htake, hdrop]

/-- An exponent is read with its sign. -/
theorem scale?_renderExponent (n : Int) (hr : EndsNumber r) :
    scale? (renderExponent n ++ r) = some (some n, r) := by
  have hpadded : ∃ digits, renderExponent n =
      0x65 :: (if n < 0 then 0x2d else 0x2b) :: digits ∧ digits ≠ [] ∧
        (∀ c ∈ digits, isDigit c = true) ∧ digitsValue digits = n.natAbs := by
    have hdigits := isDigit_of_mem_decimalNat n.natAbs
    have hvalue := digitsValue_decimalNat n.natAbs
    unfold renderExponent
    dsimp only
    by_cases hshort : (Bytes.decimalNat n.natAbs).length < 2
    · rw [if_pos hshort]
      refine ⟨48 :: Bytes.decimalNat n.natAbs, by split <;> rfl, by simp, fun c hc => ?_, hvalue⟩
      rcases List.mem_cons.mp hc with rfl | hc
      · rfl
      · exact hdigits c hc
    · rw [if_neg hshort]
      exact ⟨_, by split <;> rfl, decimalNat_ne_nil _, hdigits, hvalue⟩
  obtain ⟨digits, htext, hne, hdigits, hvalue⟩ := hpadded
  obtain ⟨htake, hdrop⟩ := span_digits hdigits fun c hc => (hr c hc).1
  obtain ⟨c, rest, rfl⟩ := List.exists_cons_of_ne_nil hne
  rw [htext, List.cons_append, List.cons_append, scale?]
  by_cases hn : n < 0
  · rw [if_pos hn]
    simp only [exponent?, htake, hdrop, hvalue, Option.map_some, if_true]
    congr 3
    omega
  · rw [if_neg hn]
    simp only [exponent?, htake, hdrop, hvalue, Option.map_some, Bool.false_eq_true, if_false]
    congr 3
    omega

/-! ### Layouts -/

section Layouts

variable {point : Int} (hne : digits ≠ []) (hdigits : ∀ c ∈ digits, isDigit c = true)
  (hhead : digits.head? ≠ some 0x30) (hr : EndsNumber r)

theorem not_isDigit_point : ∀ c ∈ (0x2e :: r).head?, isDigit c = false := by
  rintro c ⟨⟩
  rfl

theorem isWhole_zero : IsWhole [0x30] := ⟨by simp, by simp [isDigit], by simp⟩

include hne hdigits hhead in
/-- Zeros fill the gap up to the point. -/
theorem isWhole_append_zeros (k : Nat) : IsWhole (digits ++ List.replicate k 0x30) := by
  refine ⟨by simp [hne], fun c hc => ?_, fun _ => ?_⟩
  · rcases List.mem_append.mp hc with hc | hc
    · exact hdigits c hc
    · rw [List.eq_of_mem_replicate hc]
      rfl
  · rwa [List.head?_append_of_ne_nil _ hne]

include hne hdigits hhead in
theorem isWhole_take {n : Nat} (hn : n ≠ 0) : IsWhole (digits.take n) := by
  refine ⟨by simp [hne, hn], fun c hc => hdigits c (List.mem_of_mem_take hc), fun _ => ?_⟩
  rwa [List.head?_take, if_neg hn]

include hne hdigits hhead hr

theorem unsigned?_integral (negative : Bool) (k : Nat) :
    unsigned? negative (digits ++ List.replicate k 0x30 ++ 0x2e :: 0x30 :: r) =
      ((ofDecimal negative (digitsValue digits) k).map Json.float).map (·, r) := by
  have hmove := ofDecimal_mul_pow negative (digitsValue digits) k (k + 1)
  have hpoint : (k : Int) - ((k + 1 : Nat) : Int) = -1 := by omega
  rw [hpoint, ← digitsValue_append_zeros, List.replicate_succ', ← List.append_assoc] at hmove
  have hfraction : fraction? (0x2e :: 0x30 :: r) = some ([0x30], r) :=
    fraction?_point (List.cons_ne_nil _ _) isWhole_zero.isDigit fun c hc => (hr c hc).1
  rw [← hmove, unsigned?_decimal (isWhole_append_zeros hne hdigits hhead k) not_isDigit_point
    hfraction (scale?_of_endsNumber hr) (.inl (List.cons_ne_nil _ _))]
  rfl

theorem unsigned?_inside (negative : Bool) {n : Nat} (hn : n ≠ 0) (hlt : n < digits.length) :
    unsigned? negative (digits.take n ++ 0x2e :: (digits.drop n ++ r)) =
      ((ofDecimal negative (digitsValue digits) (n - digits.length)).map Json.float).map
        (·, r) := by
  have hfraction : digits.drop n ≠ [] := by simpa using hlt
  have hmem : ∀ c ∈ digits.drop n, isDigit c = true := fun c hc =>
    hdigits c (List.mem_of_mem_drop hc)
  rw [unsigned?_decimal (isWhole_take hne hdigits hhead hn) not_isDigit_point
    (fraction?_point hfraction hmem fun c hc => (hr c hc).1) (scale?_of_endsNumber hr)
    (.inl hfraction), List.take_append_drop, List.length_drop, Option.getD_none,
    Nat.cast_sub hlt.le, Int.zero_sub, Int.neg_sub]

omit hhead in
theorem unsigned?_small (negative : Bool) (k : Nat) :
    unsigned? negative (0x30 :: 0x2e :: (List.replicate k 0x30 ++ digits ++ r)) =
      ((ofDecimal negative (digitsValue digits) (-k - digits.length)).map Json.float).map
        (·, r) := by
  have hfraction : List.replicate k 0x30 ++ digits ≠ [] := by simp [hne]
  have hmem : ∀ c ∈ List.replicate k 0x30 ++ digits, isDigit c = true := by
    intro c hc
    rcases List.mem_append.mp hc with hc | hc
    · rw [List.eq_of_mem_replicate hc]
      rfl
    · exact hdigits c hc
  have hpoint : (0 : Int) - ((k + digits.length : Nat) : Int) = -k - digits.length := by omega
  refine (unsigned?_decimal isWhole_zero not_isDigit_point
    (fraction?_point hfraction hmem fun c hc => (hr c hc).1) (scale?_of_endsNumber hr)
    (.inl hfraction)).trans ?_
  rw [List.singleton_append, digitsValue_cons_zero, digitsValue_zeros_append, List.length_append,
    List.length_replicate, Option.getD_none, hpoint]

theorem unsigned?_scaled (negative : Bool) (n : Int) :
    unsigned? negative (digits.take 1 ++
      ((if digits.length > 1 then utf8 "." ++ digits.drop 1 else []) ++ (renderExponent n ++ r))) =
      ((ofDecimal negative (digitsValue digits) (n + 1 - digits.length)).map Json.float).map
        (·, r) := by
  have hmem : ∀ c ∈ digits.drop 1, isDigit c = true := fun c hc =>
    hdigits c (List.mem_of_mem_drop hc)
  have hexponent : ∃ s, renderExponent n ++ r = 0x65 :: s := ⟨_, rfl⟩
  obtain ⟨s, hs⟩ := hexponent
  have hparts : ∃ rest, (if digits.length > 1 then utf8 "." ++ digits.drop 1 else []) ++
      (renderExponent n ++ r) = rest ∧ (∀ c ∈ rest.head?, isDigit c = false) ∧
        fraction? rest = some (digits.drop 1, renderExponent n ++ r) := by
    refine ⟨_, rfl, ?_⟩
    rw [hs]
    by_cases hlong : digits.length > 1
    · rw [if_pos hlong]
      have hdrop : digits.drop 1 ≠ [] := by
        rw [ne_eq, List.drop_eq_nil_iff]
        omega
      refine ⟨not_isDigit_point, fraction?_point hdrop hmem ?_⟩
      rintro c ⟨⟩
      rfl
    · rw [if_neg hlong, List.drop_of_length_le (by omega)]
      refine ⟨?_, rfl⟩
      rintro c ⟨⟩
      rfl
  obtain ⟨rest, hrest, hhead', hfraction⟩ := hparts
  have hlen := List.length_pos_iff.mpr hne
  have hpoint : n - ((digits.length - 1 : Nat) : Int) = n + 1 - digits.length := by omega
  rw [hrest, unsigned?_decimal (isWhole_take hne hdigits hhead (by decide)) hhead' hfraction
    (scale?_renderExponent n hr) (.inr (by simp)), List.take_append_drop, List.length_drop,
    Option.getD_some, hpoint]

/-- **A layout reads back as the decimal that it lays out**, wherever the point stands. -/
theorem unsigned?_layOut (negative : Bool) (point : Int) :
    unsigned? negative (layOut digits point ++ r) =
      ((ofDecimal negative (digitsValue digits) (point - digits.length)).map Json.float).map
        (·, r) := by
  unfold layOut
  dsimp only
  split
  · next h =>
    simp only [Bool.and_eq_true, decide_eq_true_eq] at h
    have hread := unsigned?_integral hne hdigits hhead hr negative (point - digits.length).toNat
    rw [Int.toNat_of_nonneg (by omega)] at hread
    rw [← hread, List.append_assoc]
    rfl
  next hlong =>
  split
  · next h =>
    simp only [Bool.and_eq_true, decide_eq_true_eq] at h hlong
    have hread := unsigned?_inside hne hdigits hhead hr negative (n := point.toNat) (by omega)
      (by omega)
    rw [Int.toNat_of_nonneg (by omega)] at hread
    rw [← hread, List.append_assoc, List.append_assoc]
    rfl
  split
  · next h =>
    simp only [Bool.and_eq_true, decide_eq_true_eq] at h
    have hread := unsigned?_small hne hdigits hr negative (-point).toNat
    rw [Int.toNat_of_nonneg (by omega), Int.neg_neg] at hread
    rw [← hread, List.append_assoc, List.append_assoc, List.append_assoc]
    rfl
  · have hread := unsigned?_scaled hne hdigits hhead hr negative (point - 1)
    rw [Int.sub_add_cancel] at hread
    rw [← hread, List.append_assoc, List.append_assoc]

end Layouts

end Json

namespace Binary64

variable {x : Binary64} {r digits : Bytes} {point : Int}

/-! ### The text of a number -/

/-- What a number is written with. -/
def IsNumeric (c : UInt8) : Prop := isDigit c = true ∨ c ∈ [0x2b, 0x2d, 0x2e, 0x65]

theorem isNumeric_of_digits (hdigits : ∀ c ∈ digits, isDigit c = true) :
    ∀ c ∈ digits, IsNumeric c := fun c hc => .inl (hdigits c hc)

theorem isNumeric_zeros (k : Nat) : ∀ c ∈ List.replicate k 0x30, IsNumeric c := fun c hc => by
  rw [List.eq_of_mem_replicate hc]
  exact .inl rfl

theorem isNumeric_point : ∀ c ∈ utf8 ".", IsNumeric c := fun c hc => by
  rw [List.mem_singleton.mp hc]
  exact .inr (by decide)

theorem isNumeric_renderExponent (n : Int) : ∀ c ∈ renderExponent n, IsNumeric c := by
  have hletter : ∀ c ∈ utf8 "e", IsNumeric c := fun c hc => by
    rw [List.mem_singleton.mp hc]
    exact .inr (by decide)
  have hsign : ∀ c ∈ if n < 0 then utf8 "-" else utf8 "+", IsNumeric c := fun c hc => by
    split at hc
    · rw [List.mem_singleton.mp hc]
      exact .inr (by decide)
    · rw [List.mem_singleton.mp hc]
      exact .inr (by decide)
  have hdigits := isNumeric_of_digits (isDigit_of_mem_decimalNat n.natAbs)
  refine List.forall_mem_append.mpr ⟨List.forall_mem_append.mpr ⟨hletter, hsign⟩, ?_⟩
  split
  · exact List.forall_mem_cons.mpr ⟨.inl rfl, hdigits⟩
  · exact hdigits

/-- A layout is made of digits, points and an exponent. -/
theorem isNumeric_layOut (hdigits : ∀ c ∈ digits, isDigit c = true) :
    ∀ c ∈ layOut digits point, IsNumeric c := by
  have hmem := isNumeric_of_digits hdigits
  have htake : ∀ n, ∀ c ∈ digits.take n, IsNumeric c := fun n c hc =>
    hmem c (List.mem_of_mem_take hc)
  have hdrop : ∀ n, ∀ c ∈ digits.drop n, IsNumeric c := fun n c hc =>
    hmem c (List.mem_of_mem_drop hc)
  have hzero : ∀ c ∈ utf8 "0", IsNumeric c := isNumeric_zeros 1
  unfold layOut
  dsimp only
  split
  · exact List.forall_mem_append.mpr ⟨List.forall_mem_append.mpr ⟨hmem, isNumeric_zeros _⟩,
      List.forall_mem_append.mpr ⟨isNumeric_point, hzero⟩⟩
  split
  · exact List.forall_mem_append.mpr
      ⟨List.forall_mem_append.mpr ⟨htake _, isNumeric_point⟩, hdrop _⟩
  split
  · exact List.forall_mem_append.mpr ⟨List.forall_mem_append.mpr
      ⟨List.forall_mem_append.mpr ⟨hzero, isNumeric_point⟩, isNumeric_zeros _⟩, hmem⟩
  · refine List.forall_mem_append.mpr
      ⟨List.forall_mem_append.mpr ⟨htake _, ?_⟩, isNumeric_renderExponent _⟩
    split
    · exact List.forall_mem_append.mpr ⟨isNumeric_point, hdrop _⟩
    · simp

/-- A layout begins with a digit. -/
theorem layOut_cons (hne : digits ≠ []) (hdigits : ∀ c ∈ digits, isDigit c = true) :
    ∃ c s, layOut digits point = c :: s ∧ isDigit c = true := by
  obtain ⟨d, rest, rfl⟩ := List.exists_cons_of_ne_nil hne
  have hd := hdigits d List.mem_cons_self
  unfold layOut
  dsimp only
  split
  · exact ⟨d, _, rfl, hd⟩
  split
  · next h =>
    simp only [Bool.and_eq_true, decide_eq_true_eq] at h
    obtain ⟨n, hn⟩ : ∃ n, point.toNat = n + 1 := ⟨point.toNat - 1, by omega⟩
    rw [hn, List.take_succ_cons]
    exact ⟨d, _, rfl, hd⟩
  split
  · exact ⟨0x30, _, rfl, rfl⟩
  · exact ⟨d, _, rfl, hd⟩

/-- The text of a number without its sign. -/
def unsignedText (x : Binary64) : Bytes :=
  if x.significand = 0 then utf8 "0.0"
  else
    let (digits, exponent) := x.shortest
    let text := Bytes.decimalNat digits
    layOut text (text.length + exponent)

theorem render_eq (x : Binary64) :
    x.render = if x.negative then 0x2d :: x.unsignedText else x.unsignedText := rfl

theorem unsignedText_cons (x : Binary64) : ∃ c s, x.unsignedText = c :: s ∧ isDigit c = true := by
  unfold unsignedText
  split
  · exact ⟨0x30, _, rfl, rfl⟩
  · exact layOut_cons (decimalNat_ne_nil _) (isDigit_of_mem_decimalNat _)

/-- A number is written with digits, points, signs and exponents. -/
theorem isNumeric_render (x : Binary64) : ∀ c ∈ x.render, IsNumeric c := by
  have hunsigned : ∀ c ∈ x.unsignedText, IsNumeric c := by
    unfold unsignedText
    split
    · exact List.forall_mem_append.mpr ⟨isNumeric_zeros 1,
        List.forall_mem_append.mpr ⟨isNumeric_point, isNumeric_zeros 1⟩⟩
    · exact isNumeric_layOut (isDigit_of_mem_decimalNat _)
  rw [render_eq]
  split
  · exact List.forall_mem_cons.mpr ⟨.inr (by decide), hunsigned⟩
  · exact hunsigned

/-- The text of a number begins with a digit or a minus sign. -/
theorem render_cons (x : Binary64) :
    ∃ c s, x.render = c :: s ∧ (isDigit c = true ∨ c = 0x2d) := by
  obtain ⟨c, s, hs, hc⟩ := x.unsignedText_cons
  rw [render_eq]
  split
  · exact ⟨0x2d, _, rfl, .inr rfl⟩
  · exact ⟨c, s, hs, .inl hc⟩

theorem unsigned?_unsignedText (hx : x.IsNormal) (hr : EndsNumber r) :
    unsigned? x.negative (x.unsignedText ++ r) = some (.float x, r) := by
  by_cases hne : x.significand = 0
  · have hscale : x.scale = 0 := hx.normal.resolve_left (by rw [hne]; decide)
    have hread := unsigned?_small (List.cons_ne_nil 0x30 []) isWhole_zero.isDigit hr x.negative 0
    have hvalue : digitsValue [0x30] = 0 := rfl
    have hzero : x = ⟨x.negative, 0, 0⟩ := by
      obtain ⟨negative, significand, scale⟩ := x
      subst hne hscale
      rfl
    rw [hvalue, ofDecimal_zero, ← hzero] at hread
    rw [unsignedText, if_pos hne]
    exact hread
  · have hdigits := shortest_ne_zero hx hne
    have hread := unsigned?_layOut (decimalNat_ne_nil x.shortest.1)
      (isDigit_of_mem_decimalNat x.shortest.1) (head?_decimalNat hdigits) hr x.negative
      ((Bytes.decimalNat x.shortest.1).length + x.shortest.2)
    rw [digitsValue_decimalNat, add_sub_cancel_left, ofDecimal_shortest hx hne] at hread
    rw [unsignedText, if_neg hne]
    exact hread

/-- **A number in normal form reads back.** -/
theorem number?_render (hx : x.IsNormal) (hr : EndsNumber r) :
    number? (x.render ++ r) = some (.float x, r) := by
  have hread := unsigned?_unsignedText hx hr
  rw [render_eq]
  cases hnegative : x.negative with
  | true =>
    rw [hnegative] at hread
    exact hread
  | false =>
    rw [hnegative] at hread
    obtain ⟨c, s, hs, hc⟩ := x.unsignedText_cons
    rw [if_neg Bool.false_ne_true, ← hread, hs]
    unfold number?
    split
    · next h =>
      rw [(List.cons.inj h).1] at hc
      cases hc
    · rfl

end Binary64
end WalletResponder
