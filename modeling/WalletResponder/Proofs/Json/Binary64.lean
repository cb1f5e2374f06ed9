import Mathlib.Algebra.Order.Ring.Nat
import Mathlib.Tactic.Ring
import WalletResponder.Proofs.Json.Scalars

/-!
# Reading binary64 numbers back

A decimal is read as the binary64 number nearest to it, in normal form (`isNormal_of_ofDecimal`).
That hangs on its value alone, and not on how it is written (`ofRatio_mul`, `ofDecimal_mul_pow`),
and the value of a number in normal form is read as the number itself (`ofDecimal_exact`). So the
digits that are written for a number read back (`ofDecimal_shortest`).
-/

namespace WalletResponder

open Json

namespace Binary64

/-- The normal form of a finite number. -/
structure IsNormal (x : Binary64) : Prop where
  lt : x.significand < 2 ^ 53
  normal : 2 ^ 52 ≤ x.significand ∨ x.scale = 0
  scale_le : x.scale ≤ 2045

/-! ### Rounding -/

variable {negative : Bool} {num den m s k v : Nat} {x : Binary64}

theorem nearest_mul (value unit : Nat) (hk : 0 < k) :
    nearest (value * k) (unit * k) = nearest value unit := by
  have hgt : (2 * (value % unit * k) > unit * k) ↔ 2 * (value % unit) > unit := by
    rw [← Nat.mul_assoc]
    exact Nat.mul_lt_mul_right hk
  have heq : (2 * (value % unit * k) == unit * k) = (2 * (value % unit) == unit) := by
    rw [Bool.eq_iff_iff, beq_iff_eq, beq_iff_eq, ← Nat.mul_assoc]
    exact Nat.mul_left_inj hk.ne'
  simp only [nearest, Nat.mul_div_mul_right _ _ hk, Nat.mul_mod_mul_right, hgt, heq]

theorem nearest_exact (m : Nat) {unit : Nat} (h : 0 < unit) : nearest (unit * m) unit = m := by
  have hne : (0 == unit) = false := beq_eq_false_iff_ne.mpr h.ne
  simp [nearest, Nat.mul_div_cancel_left _ h, hne]

theorem nearest_bounds (value unit : Nat) :
    value / unit ≤ nearest value unit ∧ nearest value unit ≤ value / unit + 1 := by
  unfold nearest
  dsimp only
  split <;> omega

theorem bits_le : bits v ≤ k ↔ v < 2 ^ k := by
  unfold bits
  split
  · next h => simp [h]
  · next h => rw [Nat.succ_le_iff, Nat.log2_lt h]

theorem settle_of_lt (hm : m < 2 ^ 53) (hs : s ≤ 2045) :
    settle negative m s = some ⟨negative, m, s⟩ := by
  have hne : (m == Nat.pow 2 53) = false := beq_eq_false_iff_ne.mpr hm.ne
  have hle : ¬ s > 2045 := by omega
  simp only [settle, hne, Bool.false_eq_true, if_false, if_neg hle]

/-- What is settled is in normal form. -/
theorem isNormal_of_settle (hm : m ≤ 2 ^ 53) (hnormal : 2 ^ 52 ≤ m ∨ s = 0)
    (h : settle negative m s = some x) : x.IsNormal ∧ x.negative = negative := by
  rcases Nat.lt_or_eq_of_le hm with hlt | rfl
  · by_cases hs : s ≤ 2045
    · rw [settle_of_lt hlt hs] at h
      cases h
      exact ⟨⟨hlt, hnormal, hs⟩, rfl⟩
    · have hne : (m == Nat.pow 2 53) = false := beq_eq_false_iff_ne.mpr hlt.ne
      have hgt : s > 2045 := by omega
      simp only [settle, hne, Bool.false_eq_true, if_false, if_pos hgt] at h
      cases h
  · have heq : ((2 ^ 53 : Nat) == Nat.pow 2 53) = true := beq_self_eq_true _
    simp only [settle, heq, if_true] at h
    split at h
    · cases h
    · next hs =>
      cases h
      have hle : s + 1 ≤ 2045 := by omega
      exact ⟨⟨Nat.pow_lt_pow_right (by decide) (by decide), .inl (Nat.le_refl _), hle⟩, rfl⟩

/-- **What is read is in normal form.** -/
theorem isNormal_of_ofRatio (h : ofRatio negative num den = some x) :
    x.IsNormal ∧ x.negative = negative := by
  unfold ofRatio at h
  dsimp only at h
  generalize num * parts = shifted at h
  generalize hscale : bits (shifted / den) - 53 = scale at h
  obtain ⟨hlow, hhigh⟩ := nearest_bounds shifted (den * Nat.pow 2 scale)
  rw [← Nat.div_div_eq_div_mul] at hlow hhigh
  have hpos : 0 < Nat.pow 2 scale := Nat.two_pow_pos _
  have hlt : shifted / den / Nat.pow 2 scale < 2 ^ 53 := by
    rw [Nat.div_lt_iff_lt_mul hpos, Nat.pow_eq, ← Nat.pow_add]
    exact bits_le.mp (by omega)
  refine isNormal_of_settle (by omega) ?_ h
  by_cases hzero : scale = 0
  · exact .inr hzero
  · left
    refine Nat.le_trans ?_ hlow
    rw [Nat.le_div_iff_mul_le hpos, Nat.pow_eq, ← Nat.pow_add]
    by_contra hsmall
    have := bits_le.mpr (Nat.not_le.mp hsmall)
    omega

/-- **Reading hangs on the value alone**, and not on the fraction that has it. -/
theorem ofRatio_mul (negative : Bool) (num den : Nat) (hk : 0 < k) :
    ofRatio negative (num * k) (den * k) = ofRatio negative num den := by
  have hnum : num * k * parts = num * parts * k := Nat.mul_right_comm ..
  simp only [ofRatio, hnum, Nat.mul_div_mul_right _ _ hk, Nat.mul_right_comm den k,
    nearest_mul _ _ hk]

/-- **The value of a number in normal form is read as the number.** -/
theorem ofRatio_exact (hx : x.IsNormal) (hden : 0 < den)
    (h : num * parts = den * (x.significand * 2 ^ x.scale)) :
    ofRatio x.negative num den = some x := by
  obtain ⟨hlt, hnormal, hle⟩ := hx
  have hscale : bits (x.significand * 2 ^ x.scale) - 53 = x.scale := by
    have hhigh : bits (x.significand * 2 ^ x.scale) ≤ 53 + x.scale := by
      rw [bits_le, Nat.pow_add]
      exact Nat.mul_lt_mul_of_pos_right hlt (Nat.two_pow_pos _)
    rcases hnormal with hnormal | hzero
    · have hlow : ¬ bits (x.significand * 2 ^ x.scale) ≤ 52 + x.scale := by
        rw [bits_le, Nat.pow_add, Nat.not_lt]
        exact Nat.mul_le_mul_right _ hnormal
      omega
    · omega
  have hunit : den * (x.significand * 2 ^ x.scale) = den * 2 ^ x.scale * x.significand := by
    rw [Nat.mul_comm x.significand, Nat.mul_assoc]
  unfold ofRatio
  dsimp only
  rw [h, Nat.mul_div_cancel_left _ hden, hscale, Nat.pow_eq, hunit,
    nearest_exact _ (Nat.mul_pos hden (Nat.two_pow_pos _)), settle_of_lt hlt hle]

/-! ### Decimals -/

theorem lt_places (v : Nat) : v < 10 ^ places v := by
  refine decimalNat_induction (p := fun v s => v < 10 ^ s.length) (fun v h => ?_)
    (fun v _ ih => ?_) v
  · simpa using h
  · rw [List.length_append, List.length_singleton, Nat.pow_succ]
    omega

theorem places_ten (hv : v ≠ 0) : places (10 * v) = places v + 1 := by
  have hdiv : 10 * v / 10 = v := by omega
  rw [places, decimalNat_of_le (by omega), hdiv, List.length_append]
  rfl

theorem places_le (hv : v ≠ 0) : 10 ^ (places v - 1) ≤ v := by
  refine decimalNat_induction (p := fun v s => v ≠ 0 → 10 ^ (s.length - 1) ≤ v) (fun v h hv => ?_)
    (fun v h ih _ => ?_) v hv
  · exact Nat.pos_of_ne_zero hv
  · have hne := List.length_pos_iff.mpr (decimalNat_ne_nil (v / 10))
    have ih := ih (by omega)
    rw [List.length_append, List.length_singleton, Nat.add_sub_cancel]
    calc 10 ^ (Bytes.decimalNat (v / 10)).length
        = 10 ^ ((Bytes.decimalNat (v / 10)).length - 1) * 10 := by
          rw [← Nat.pow_succ, Nat.succ_eq_add_one, Nat.sub_add_cancel hne]
      _ ≤ v / 10 * 10 := Nat.mul_le_mul_right _ ih
      _ ≤ v := Nat.div_mul_le_self v 10

variable {digits : Nat} {e : Int}

theorem ofDecimal_zero (negative : Bool) (e : Int) :
    ofDecimal negative 0 e = some ⟨negative, 0, 0⟩ := by
  simp [ofDecimal]

/-- A decimal that is neither too large nor too small is read as a fraction. -/
theorem ofDecimal_eq (negative : Bool) (hdigits : digits ≠ 0) (e : Int) :
    ofDecimal negative digits e =
      if places digits + e < -400 then some ⟨negative, 0, 0⟩
      else if 310 < places digits + e then none
      else ofRatio negative (digits * 10 ^ e.toNat) (10 ^ (-e).toNat) := by
  have hratio : (if 0 ≤ e then ofRatio negative (digits * Nat.pow 10 e.toNat) 1
      else ofRatio negative digits (Nat.pow 10 (-e).toNat)) =
        ofRatio negative (digits * 10 ^ e.toNat) (10 ^ (-e).toNat) := by
    split
    · next h =>
      have hneg : (-e).toNat = 0 := by omega
      rw [hneg, Nat.pow_zero, Nat.pow_eq]
    · next h =>
      have hpos : e.toNat = 0 := by omega
      rw [hpos, Nat.pow_zero, Nat.mul_one, Nat.pow_eq]
  unfold ofDecimal
  dsimp only
  rw [hratio]
  simp [hdigits]

theorem isNormal_zero (negative : Bool) : IsNormal ⟨negative, 0, 0⟩ :=
  ⟨Nat.two_pow_pos _, .inr rfl, Nat.zero_le _⟩

theorem isNormal_of_ofDecimal (h : ofDecimal negative digits e = some x) : x.IsNormal := by
  by_cases hdigits : digits = 0
  · rw [hdigits, ofDecimal_zero] at h
    cases h
    exact isNormal_zero negative
  · rw [ofDecimal_eq _ hdigits] at h
    split at h
    · cases h
      exact isNormal_zero negative
    split at h
    · cases h
    · exact (isNormal_of_ofRatio h).1

/-- A zero behind the digits moves the point. -/
theorem ofDecimal_ten (negative : Bool) (digits : Nat) (e : Int) :
    ofDecimal negative (10 * digits) (e - 1) = ofDecimal negative digits e := by
  by_cases hdigits : digits = 0
  · rw [hdigits, ofDecimal_zero, ofDecimal_zero]
  have htop : ((places digits + 1 : Nat) : Int) + (e - 1) = places digits + e := by omega
  have hratio : ofRatio negative (10 * digits * 10 ^ (e - 1).toNat) (10 ^ (-(e - 1)).toNat) =
      ofRatio negative (digits * 10 ^ e.toNat) (10 ^ (-e).toNat) := by
    by_cases he : 0 < e
    · have hnum : e.toNat = (e - 1).toNat + 1 := by omega
      have hden : (-(e - 1)).toNat = (-e).toNat := by omega
      rw [hnum, hden, Nat.pow_succ, Nat.mul_comm 10 digits, Nat.mul_assoc, Nat.mul_comm 10]
    · have hnum : (e - 1).toNat = e.toNat := by omega
      have hden : (-(e - 1)).toNat = (-e).toNat + 1 := by omega
      rw [hnum, hden, Nat.pow_succ, Nat.mul_assoc, Nat.mul_comm 10, ofRatio_mul _ _ _ (by decide)]
  rw [ofDecimal_eq _ (by omega), ofDecimal_eq _ hdigits, places_ten hdigits, htop, hratio]

/-- **Zeros behind the digits move the point.** -/
theorem ofDecimal_mul_pow (negative : Bool) (digits : Nat) (e : Int) : ∀ k : Nat,
    ofDecimal negative (digits * 10 ^ k) (e - k) = ofDecimal negative digits e
  | 0 => by rw [Nat.pow_zero, Nat.mul_one, Nat.cast_zero, Int.sub_zero]
  | k + 1 => by
    have hdigits : digits * 10 ^ (k + 1) = 10 * (digits * 10 ^ k) := by ring
    have he : e - ((k + 1 : Nat) : Int) = e - k - 1 := by omega
    rw [hdigits, he, ofDecimal_ten, ofDecimal_mul_pow negative digits e k]

theorem parts_pos : 0 < parts := by decide +kernel

theorem parts_eq {k j : Nat} (h : k + j = 1074) : parts = 2 ^ k * 2 ^ j := by
  unfold parts
  rw [← h]
  exact Nat.pow_add 2 k j

theorem parts_lt : parts < 10 ^ 400 := by decide +kernel

theorem pow_le_parts (h : k ≤ 2098) : 2 ^ k ≤ 10 ^ 310 * parts := by
  have hlast : 2 ^ 2098 ≤ 10 ^ 310 * parts := by decide +kernel
  obtain ⟨j, hj⟩ := Nat.exists_eq_add_of_le h
  rw [hj, Nat.pow_add] at hlast
  exact Nat.le_trans (Nat.le_mul_of_pos_right _ (Nat.two_pow_pos j)) hlast

/-- A decimal with the value of a number is neither too large nor too small. -/
theorem top_of_exact (hx : x.IsNormal) (hne : x.significand ≠ 0)
    (h : digits * 10 ^ e.toNat * parts = 10 ^ (-e).toNat * (x.significand * 2 ^ x.scale)) :
    -400 ≤ places digits + e ∧ places digits + e ≤ 310 := by
  have hten : ∀ k, 0 < 10 ^ k := fun k => Nat.pow_pos (by decide)
  have hpos : 0 < x.significand * 2 ^ x.scale :=
    Nat.mul_pos (Nat.pos_of_ne_zero hne) (Nat.two_pow_pos _)
  have hdigits : digits ≠ 0 := by
    rintro rfl
    rw [Nat.zero_mul, Nat.zero_mul] at h
    exact (Nat.mul_pos (hten _) hpos).ne h
  constructor
  · by_contra htop
    have hexp : places digits + e.toNat + 400 ≤ (-e).toNat := by omega
    refine Nat.lt_irrefl (digits * 10 ^ e.toNat * parts) ?_
    calc digits * 10 ^ e.toNat * parts
        < 10 ^ places digits * 10 ^ e.toNat * parts :=
          Nat.mul_lt_mul_of_pos_right (Nat.mul_lt_mul_of_pos_right (lt_places digits) (hten _))
            parts_pos
      _ ≤ 10 ^ places digits * 10 ^ e.toNat * 10 ^ 400 := Nat.mul_le_mul_left _ parts_lt.le
      _ = 10 ^ (places digits + e.toNat + 400) := by rw [Nat.pow_add, Nat.pow_add]
      _ ≤ 10 ^ (-e).toNat := Nat.pow_le_pow_right (by decide) hexp
      _ ≤ 10 ^ (-e).toNat * (x.significand * 2 ^ x.scale) := Nat.le_mul_of_pos_right _ hpos
      _ = digits * 10 ^ e.toNat * parts := h.symm
  · by_contra htop
    have hexp : (-e).toNat + 310 ≤ places digits - 1 + e.toNat := by omega
    have hscale : 53 + x.scale ≤ 2098 := Nat.add_le_add_left hx.scale_le 53
    refine Nat.lt_irrefl (digits * 10 ^ e.toNat * parts) ?_
    calc digits * 10 ^ e.toNat * parts
        = 10 ^ (-e).toNat * (x.significand * 2 ^ x.scale) := h
      _ < 10 ^ (-e).toNat * (2 ^ 53 * 2 ^ x.scale) :=
          Nat.mul_lt_mul_of_pos_left (Nat.mul_lt_mul_of_pos_right hx.lt (Nat.two_pow_pos _))
            (hten _)
      _ = 10 ^ (-e).toNat * 2 ^ (53 + x.scale) := by rw [Nat.pow_add]
      _ ≤ 10 ^ (-e).toNat * (10 ^ 310 * parts) := Nat.mul_le_mul_left _ (pow_le_parts hscale)
      _ = 10 ^ ((-e).toNat + 310) * parts := by rw [Nat.pow_add, Nat.mul_assoc]
      _ ≤ 10 ^ (places digits - 1 + e.toNat) * parts :=
          Nat.mul_le_mul_right _ (Nat.pow_le_pow_right (by decide) hexp)
      _ = 10 ^ (places digits - 1) * 10 ^ e.toNat * parts := by rw [Nat.pow_add]
      _ ≤ digits * 10 ^ e.toNat * parts :=
          Nat.mul_le_mul_right _ (Nat.mul_le_mul_right _ (places_le hdigits))

/-- **A decimal with the value of a number is read as the number.** -/
theorem ofDecimal_exact (hx : x.IsNormal) (hne : x.significand ≠ 0)
    (h : digits * 10 ^ e.toNat * parts = 10 ^ (-e).toNat * (x.significand * 2 ^ x.scale)) :
    ofDecimal x.negative digits e = some x := by
  obtain ⟨hlow, hhigh⟩ := top_of_exact hx hne h
  have hten : 0 < 10 ^ (-e).toNat := Nat.pow_pos (by decide)
  have hdigits : digits ≠ 0 := by
    rintro rfl
    rw [Nat.zero_mul, Nat.zero_mul] at h
    exact (Nat.mul_pos hten (Nat.mul_pos (Nat.pos_of_ne_zero hne) (Nat.two_pow_pos _))).ne h
  rw [ofDecimal_eq _ hdigits, if_neg (Int.not_lt.mpr hlow), if_neg (Int.not_lt.mpr hhigh),
    ofRatio_exact hx hten h]

/-! ### The digits that are written -/

theorem ofDecimal_of_withPlaces {n : Nat} {d : Nat × Int} (h : x.withPlaces n = some d) :
    ofDecimal x.negative d.1 d.2 = some x := by
  unfold withPlaces at h
  dsimp only at h
  split at h
  · next hlow hhigh =>
    cases h
    split
    · exact eq_of_beq hhigh
    · exact eq_of_beq hlow
  · next hlow _ => cases h; exact eq_of_beq hlow
  · next _ hhigh => cases h; exact eq_of_beq hhigh
  · cases h

theorem ofDecimal_of_exact (hx : x.IsNormal) (hne : x.significand ≠ 0) :
    ofDecimal x.negative x.exact.1 x.exact.2 = some x := by
  unfold exact
  split
  · next h =>
    refine ofDecimal_exact hx hne ?_
    have hpow : 2 ^ x.scale = 2 ^ (x.scale - 1074) * parts := by
      rw [parts_eq (Nat.add_zero 1074), Nat.pow_zero, Nat.mul_one, ← Nat.pow_add,
        Nat.sub_add_cancel h]
    simp only [Int.toNat_zero, Int.neg_zero, Nat.pow_zero, Nat.mul_one, Nat.one_mul, Nat.pow_eq]
    rw [hpow, Nat.mul_assoc]
  · next h =>
    refine ofDecimal_exact hx hne ?_
    have hpow : parts = 2 ^ (1074 - x.scale) * 2 ^ x.scale := parts_eq (by omega)
    have hten : 10 ^ (1074 - x.scale) = 5 ^ (1074 - x.scale) * 2 ^ (1074 - x.scale) := by
      rw [← Nat.mul_pow]
    have hnum : (-((1074 - x.scale : Nat) : Int)).toNat = 0 := by omega
    simp only [hnum, Int.neg_neg, Int.toNat_natCast, Nat.pow_zero, Nat.mul_one, Nat.pow_eq]
    rw [hpow, hten]
    ring

/-- Trimming keeps the value. -/
theorem ofDecimal_trim (negative : Bool) : ∀ (fuel : Nat) (d : Nat × Int),
    ofDecimal negative (trim fuel d).1 (trim fuel d).2 = ofDecimal negative d.1 d.2
  | 0, _ => by rw [trim]
  | fuel + 1, (digits, e) => by
    rw [trim]
    split
    · next h =>
      simp only [ne_eq, Bool.and_eq_true, decide_eq_true_eq, beq_iff_eq] at h
      have hten : digits = 10 * (digits / 10) := by omega
      have hmove := ofDecimal_ten negative (digits / 10) (e + 1)
      rw [← hten, Int.add_sub_cancel] at hmove
      rw [ofDecimal_trim negative fuel, hmove]
    · rfl

/-- **The digits that are written read back.** -/
theorem ofDecimal_shortest (hx : x.IsNormal) (hne : x.significand ≠ 0) :
    ofDecimal x.negative x.shortest.1 x.shortest.2 = some x := by
  rw [shortest, ofDecimal_trim]
  cases h : (List.range 17).findSome? fun n => x.withPlaces (n + 1) with
  | none => exact ofDecimal_of_exact hx hne
  | some d =>
    obtain ⟨n, -, hn⟩ := List.exists_of_findSome?_eq_some h
    exact ofDecimal_of_withPlaces hn

theorem shortest_ne_zero (hx : x.IsNormal) (hne : x.significand ≠ 0) : x.shortest.1 ≠ 0 := by
  intro h
  have hread := ofDecimal_shortest hx hne
  rw [h, ofDecimal_zero, Option.some.injEq] at hread
  rw [← hread] at hne
  exact hne rfl

end Binary64
end WalletResponder
