import Mathlib.Algebra.Order.Ring.Int
import WalletResponder.Json.Basic

/-!
# Numbers in 64 bits

What is left of a JSON number that is read into an integer of 64 bits (`Json.IsFitted`): a number
that is an integer between the bounds stays what it is, and no other does. An integer beyond them
wraps around, and a fraction between them is cut off; neither is refused.
-/

namespace WalletResponder

/-- A number that has the value of an integer is not changed by rounding. -/
theorem Binary64.truncate_of_isInt {x : Binary64} {m : Int} (h : x.isInt m = true) :
    x.truncate = m := by
  have hden : 0 < x.ratio.2 := by
    unfold ratio
    split
    · exact Nat.one_pos
    · exact Nat.pow_pos Nat.two_pos
  simp only [isInt, Bool.and_eq_true, Bool.or_eq_true, beq_iff_eq] at h
  obtain ⟨hvalue, hsign⟩ := h
  have hquotient : x.ratio.1 / x.ratio.2 = m.natAbs := by
    rw [hvalue, Nat.mul_div_cancel _ hden]
  simp only [truncate, hquotient]
  rcases hsign with hzero | hsign
  · have hm : m.natAbs = 0 := by
      rw [← hquotient, hzero, Nat.zero_div]
    split <;> omega
  · rw [hsign]
    split
    · next hneg =>
      have hneg := of_decide_eq_true hneg
      omega
    · next hneg =>
      have hneg : ¬ m < 0 := fun hm => hneg (decide_eq_true hm)
      omega

namespace Json

variable {n low high : Int} {v : Json}

/-! ### Wrapping around -/

/-- The integers of JSON that need a bit too many wrap around. -/
theorem signed64_eq (hlow : -2 ^ 63 ≤ n) (hhigh : n < 2 ^ 64) :
    signed64 n = if n < 2 ^ 63 then n else n - 2 ^ 64 := by
  rw [signed64, Int.bmod_def]
  simp only [show Nat.pow 2 64 = 18446744073709551616 from rfl]
  split <;> split <;> omega

theorem signed64_range (n : Int) : -2 ^ 63 ≤ signed64 n ∧ signed64 n < 2 ^ 63 := by
  rw [signed64, Int.bmod_def]
  simp only [show Nat.pow 2 64 = 18446744073709551616 from rfl]
  split <;> omega

/-- **The integers of 64 bits stay what they are**, and no others. -/
theorem signed64_eq_self : signed64 n = n ↔ -2 ^ 63 ≤ n ∧ n < 2 ^ 63 := by
  constructor
  · intro h
    exact h ▸ signed64_range n
  · rintro ⟨hlow, hhigh⟩
    rw [signed64_eq hlow (by omega), if_pos hhigh]

theorem unsigned64_range (n : Int) : 0 ≤ unsigned64 n ∧ unsigned64 n < 2 ^ 64 := by
  rw [unsigned64]
  simp only [show Nat.pow 2 64 = 18446744073709551616 from rfl]
  omega

theorem unsigned64_eq_self : unsigned64 n = n ↔ 0 ≤ n ∧ n < 2 ^ 64 := by
  constructor
  · intro h
    exact h ▸ unsigned64_range n
  · rintro ⟨hlow, hhigh⟩
    rw [unsigned64]
    simp only [show Nat.pow 2 64 = 18446744073709551616 from rfl]
    omega

theorem fitted64_range (n : Int) : -2 ^ 63 ≤ fitted64 n ∧ fitted64 n < 2 ^ 63 := by
  unfold fitted64
  simp only [show Nat.pow 2 63 = 9223372036854775808 from rfl]
  split <;> omega

theorem fitted64_eq_self (hlow : -2 ^ 63 ≤ n) (hhigh : n < 2 ^ 63) : fitted64 n = n := by
  unfold fitted64
  simp only [show Nat.pow 2 63 = 9223372036854775808 from rfl]
  exact if_pos (by omega)

/-! ### Reading a number -/

/-- What is read of a number between two bounds. -/
structure IsFitted (low high : Int) (v : Json) (n : Int) : Prop where
  bounds : low ≤ n ∧ n < high
  /-- It has the value of the number exactly if that is an integer between the bounds. -/
  same_iff : (int n).same v = true ↔ ∃ m, low ≤ m ∧ m < high ∧ (int m).same v = true
  /-- Integers wrap around. -/
  wraps : ∀ m, v = .int m → n % 2 ^ 64 = m % 2 ^ 64
  /-- Fractions are cut off. -/
  cut : ∀ x, v = .float x → low ≤ x.truncate → x.truncate < high → n = x.truncate

theorem isFitted_int {m : Int} (hbounds : low ≤ n ∧ n < high)
    (hself : low ≤ m → m < high → n = m) (hwraps : n % 2 ^ 64 = m % 2 ^ 64) :
    IsFitted low high (.int m) n where
  bounds := hbounds
  same_iff := by
    simp only [same, beq_iff_eq]
    constructor
    · rintro rfl
      exact ⟨n, hbounds.1, hbounds.2, rfl⟩
    · rintro ⟨_, hlow, hhigh, rfl⟩
      exact hself hlow hhigh
  wraps := by
    rintro _ ⟨⟩
    exact hwraps
  cut := nofun

theorem isFitted_float {x : Binary64} (hbounds : low ≤ n ∧ n < high)
    (hcut : low ≤ x.truncate → x.truncate < high → n = x.truncate) :
    IsFitted low high (.float x) n where
  bounds := hbounds
  same_iff := by
    simp only [same]
    constructor
    · exact fun h => ⟨n, hbounds.1, hbounds.2, h⟩
    · rintro ⟨m, hlow, hhigh, h⟩
      have hm := Binary64.truncate_of_isInt h
      rw [hm] at hcut
      rw [hcut hlow hhigh, h]
  wraps := nofun
  cut := by
    rintro _ ⟨⟩
    exact hcut

/-- **What is read of a number with a sign.** -/
theorem isFitted_of_asSigned64 (h : v.asSigned64 = .ok n) :
    IsFitted (-2 ^ 63) (2 ^ 63) v n := by
  cases v with
  | int m =>
    cases h
    exact isFitted_int (signed64_range m) (fun hlow hhigh => signed64_eq_self.mpr ⟨hlow, hhigh⟩)
      Int.bmod_emod
  | float x =>
    cases h
    exact isFitted_float (fitted64_range _) fitted64_eq_self
  | _ => cases h

/-- **What is read of a number without a sign.** -/
theorem isFitted_of_asUnsigned64 (h : v.asUnsigned64 = .ok n) : IsFitted 0 (2 ^ 64) v n := by
  cases v with
  | int m =>
    cases h
    exact isFitted_int (unsigned64_range m)
      (fun hlow hhigh => unsigned64_eq_self.mpr ⟨hlow, hhigh⟩) (Int.emod_emod_of_dvd _ (dvd_refl _))
  | float x =>
    have hfit := fitted64_range (x.truncate - 2 ^ 63)
    have hnat : ((Nat.pow 2 63 : Nat) : Int) = 2 ^ 63 := rfl
    simp only [asUnsigned64, hnat] at h
    split at h
    · next hlt =>
      cases h
      refine isFitted_float (unsigned64_range _) fun hlow _ => ?_
      rw [fitted64_eq_self (by omega) hlt]
      exact unsigned64_eq_self.mpr ⟨hlow, by omega⟩
    · next hge =>
      cases h
      refine isFitted_float ?_ fun _ hhigh => ?_
      · unfold fitted64 at hfit ⊢
        simp only [hnat] at hfit ⊢
        split <;> omega
      · rw [fitted64_eq_self (by omega) (by omega)]
        omega
  | _ => cases h

end Json
end WalletResponder
