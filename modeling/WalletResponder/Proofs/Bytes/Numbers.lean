import Mathlib.Algebra.Order.Ring.Nat
import WalletResponder.Bytes

/-!
# Numbers in bytes

The two ways between byte strings and numbers lead back to where they start: bytes that are as many
as before (`Bytes.ofNat_toNat`), and a number that fits (`Bytes.toNat_ofNat_of_lt`).
-/

namespace WalletResponder.Bytes

theorem foldl_toNat (b : Bytes) (v : Nat) :
    b.foldl (fun v x => 256 * v + x.toNat) v = 256 ^ b.length * v + toNat b := by
  induction b generalizing v with
  | nil => simp [toNat]
  | cons x b ih =>
    have h : toNat (x :: b) = 256 ^ b.length * x.toNat + toNat b := by
      rw [toNat, List.foldl_cons, ih]; simp
    rw [List.foldl_cons, ih, h, List.length_cons, Nat.pow_succ, Nat.mul_add, Nat.mul_assoc,
      Nat.add_assoc]

theorem toNat_cons (x : UInt8) (b : Bytes) :
    toNat (x :: b) = 256 ^ b.length * x.toNat + toNat b := by
  rw [toNat, List.foldl_cons, foldl_toNat]
  simp

/-- Reading back the `n` byte form gives the number modulo `256 ^ n`. -/
theorem toNat_ofNat (n v : Nat) : toNat (ofNat n v) = v % 256 ^ n := by
  induction n with
  | zero => simp [ofNat, toNat, Nat.mod_one]
  | succ n ih =>
    rw [ofNat, toNat_cons, ih, length_ofNat, UInt8.toNat_ofNat', Nat.shiftRight_eq_div_pow,
      Nat.pow_mul]
    have h : (256 : Nat) ^ (n + 1) = 256 ^ n * 256 := Nat.pow_succ ..
    rw [h, Nat.mod_mul]
    simp only [Nat.reducePow]
    omega

theorem toNat_lt (b : Bytes) : toNat b < 256 ^ b.length := by
  induction b with
  | nil => decide
  | cons x b ih =>
    have hx : x.toNat + 1 ≤ 256 := x.toNat_lt
    rw [toNat_cons, List.length_cons, Nat.pow_succ]
    calc 256 ^ b.length * x.toNat + toNat b
        < 256 ^ b.length * x.toNat + 256 ^ b.length := Nat.add_lt_add_left ih _
      _ = 256 ^ b.length * (x.toNat + 1) := (Nat.mul_succ _ _).symm
      _ ≤ 256 ^ b.length * 256 := Nat.mul_le_mul_left _ hx

theorem toNat_ofNat_of_lt {n v : Nat} (h : v < 256 ^ n) : toNat (ofNat n v) = v := by
  rw [toNat_ofNat, Nat.mod_eq_of_lt h]

theorem toNat_inj {a b : Bytes} (hlen : a.length = b.length) (h : toNat a = toNat b) : a = b := by
  induction a generalizing b with
  | nil => exact (List.eq_nil_of_length_eq_zero hlen.symm).symm
  | cons x a ih =>
    cases b with
    | nil => cases hlen
    | cons y b =>
      have hlen : a.length = b.length := Nat.succ.inj hlen
      have ha := toNat_lt a
      have hb := toNat_lt b
      rw [toNat_cons, toNat_cons, hlen] at h
      rw [hlen] at ha
      have hpos : 0 < 256 ^ b.length := Nat.pow_pos (by decide)
      -- The first byte is the quotient, and the rest is the remainder.
      have hxy : x.toNat = y.toNat := by
        have hdiv := congrArg (· / 256 ^ b.length) h
        simpa only [Nat.mul_add_div hpos, Nat.div_eq_of_lt ha, Nat.div_eq_of_lt hb,
          Nat.add_zero] using hdiv
      rw [hxy] at h
      rw [UInt8.toNat_inj.mp hxy, ih hlen (Nat.add_left_cancel h)]

theorem ofNat_toNat (b : Bytes) : ofNat b.length (toNat b) = b :=
  toNat_inj (length_ofNat _ _) (toNat_ofNat_of_lt (toNat_lt b))

/-- `n` bytes that write a number, and all of it. -/
structure Writes (n : Nat) (b : Bytes) (v : Nat) : Prop where
  length : b.length = n
  toNat : toNat b = v

theorem writes_ofNat {n v : Nat} (h : v < 256 ^ n) : Writes n (ofNat n v) v :=
  ⟨length_ofNat n v, toNat_ofNat_of_lt h⟩

/-- Numbers that fit are told apart by their bytes. -/
theorem ofNat_inj {n v w : Nat} (hv : v < 256 ^ n) (hw : w < 256 ^ n) (h : ofNat n v = ofNat n w) :
    v = w := by
  rw [← toNat_ofNat_of_lt hv, h, toNat_ofNat_of_lt hw]

/-- A number fits in the bytes that it needs. -/
theorem lt_width (v : Nat) : v < 256 ^ width v := by
  unfold width
  split
  · next h => rw [h]; decide
  · have hpow : (256 : Nat) ^ (Nat.log2 v / 8 + 1) = 2 ^ (8 * (Nat.log2 v / 8 + 1)) := by
      rw [Nat.pow_mul]
    rw [hpow]
    calc v < 2 ^ (Nat.log2 v + 1) := Nat.lt_log2_self
      _ ≤ 2 ^ (8 * (Nat.log2 v / 8 + 1)) := Nat.pow_le_pow_right (by decide) (by omega)

/-- It fits in no fewer. -/
theorem width_le {v : Nat} (h : v ≠ 0) : 256 ^ (width v - 1) ≤ v := by
  have hpow : (256 : Nat) ^ (width v - 1) = 2 ^ (8 * (Nat.log2 v / 8)) := by
    rw [width, if_neg h, Nat.add_sub_cancel, Nat.pow_mul]
  rw [hpow]
  calc 2 ^ (8 * (Nat.log2 v / 8)) ≤ 2 ^ Nat.log2 v := Nat.pow_le_pow_right (by decide) (by omega)
    _ ≤ v := Nat.log2_self_le h

/-- **The shortest form has no leading zero byte.** -/
theorem head?_ofNatMin (v : Nat) : (ofNatMin v).head? ≠ some 0 := by
  by_cases hv : v = 0
  · subst hv
    decide
  · have hlow := width_le hv
    have hhigh := lt_width v
    rw [ofNatMin]
    generalize width v = w at hlow hhigh
    cases w with
    | zero => simp [ofNat]
    | succ n =>
      have hquotient : v / 256 ^ n < 256 := by
        rw [Nat.div_lt_iff_lt_mul (Nat.pow_pos (by decide)), Nat.mul_comm, ← Nat.pow_succ]
        exact hhigh
      have hpos : 0 < v / 256 ^ n := Nat.div_pos hlow (Nat.pow_pos (by decide))
      have hshift : v >>> (8 * n) = v / 256 ^ n := by
        rw [Nat.shiftRight_eq_div_pow, Nat.pow_mul]
      rw [ofNat, List.head?_cons, ne_eq, Option.some.injEq, ← UInt8.toNat_inj, UInt8.toNat_ofNat',
        hshift, Nat.mod_eq_of_lt hquotient]
      exact Nat.ne_of_gt hpos

end WalletResponder.Bytes
