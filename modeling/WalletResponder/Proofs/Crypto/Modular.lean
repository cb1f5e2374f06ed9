import Mathlib.Algebra.Order.Ring.Nat
import WalletResponder.Crypto.Modular

/-!
# Powers by squaring

Squaring and multiplying along the bits of an exponent computes the power (`Modular.pow_eq`).
-/

namespace WalletResponder.Modular

/-- If the accumulator is the power whose exponent is the bits already read, the result is the power
whose exponent is all of them. -/
theorem powFrom_eq (b e n k : Nat) : powFrom b e n k (b ^ (e / 2 ^ k) % n) = b ^ e % n := by
  induction k with
  | zero => rw [powFrom, Nat.pow_zero, Nat.div_one]
  | succ k ih =>
    have hhalf : e / 2 ^ k / 2 = e / 2 ^ (k + 1) := by rw [Nat.div_div_eq_div_mul, Nat.pow_succ]
    have hbit : e.testBit k = decide (e / 2 ^ k % 2 = 1) := by
      rw [Nat.testBit_eq_decide_div_mod_eq]
    have hsplit := Nat.div_add_mod (e / 2 ^ k) 2
    have hmod := Nat.mod_two_eq_zero_or_one (e / 2 ^ k)
    rw [powFrom, ← Nat.mul_mod, ← Nat.pow_add, ← Nat.two_mul, ← hhalf, hbit]
    rcases hmod with hmod | hmod
    · rw [hmod, Nat.add_zero] at hsplit
      rw [hmod, hsplit]
      exact ih
    · rw [hmod] at hsplit
      rw [hmod]
      simp only [decide_true, if_true, Nat.mod_mul_mod]
      rw [← Nat.pow_succ, Nat.succ_eq_add_one, hsplit]
      exact ih

/-- **Squaring and multiplying computes the power.** -/
theorem pow_eq (b e n : Nat) : pow b e n = b ^ e % n := by
  have hstart : (b % n) ^ (e / 2 ^ (Nat.log2 e + 1)) % n = 1 % n := by
    rw [Nat.div_eq_of_lt Nat.lt_log2_self, Nat.pow_zero]
  rw [pow, ← hstart, powFrom_eq, ← Nat.pow_mod]

end WalletResponder.Modular
