import Mathlib.Algebra.BigOperators.Associated
import Mathlib.Algebra.Squarefree.Basic
import Mathlib.Data.Nat.Squarefree
import Mathlib.FieldTheory.Finite.Basic
import Mathlib.NumberTheory.LucasLehmer
import WalletResponder.Crypto.Rsa.Basic
import WalletResponder.Proofs.Bytes.Numbers
import WalletResponder.Proofs.Crypto.Modular
import WalletResponder.Proofs.Result

/-!
# The two powers of an RSA key

Each power undoes the other (`RsaKey.raise_lower`, `RsaKey.lower_raise`), for keys whose halves
belong together (`RsaKey.IsPair`): the modulus is a product of different primes, and the exponents
are inverse modulo the predecessor of each. It does not matter what the holder believes about the
factors, because the outcome is checked.
-/

namespace WalletResponder

/-- A private half belongs to a public one. -/
structure RsaSecret.BelongsTo (s : RsaSecret) (k : RsaKey) : Prop where
  squarefree : Squarefree k.modulus
  inverse : ∀ r, r.Prime → r ∣ k.modulus → k.publicExponent * s.exponent ≡ 1 [MOD r - 1]
  factors : ∀ f ∈ s.factors, f.areUsable = true ∧ f.p * f.q ≤ k.modulus

/-- The halves of a key belong together, and the public one is of use. -/
structure RsaKey.IsPair (k : RsaKey) (s : RsaSecret) : Prop where
  secret : k.secret = some s
  belongs : s.BelongsTo k
  odd : k.modulus % 2 = 1
  usable : k.hasUsableExponent = true

/-! ### Powers -/

/-- A power whose exponent is one modulo the predecessor of a prime is nothing new modulo it. -/
theorem pow_modEq_self_of_prime {r a : Nat} (hr : r.Prime) (hpos : a ≠ 0) (ha : a ≡ 1 [MOD r - 1])
    (x : Nat) : x ^ a ≡ x [MOD r] := by
  have : Fact r.Prime := ⟨hr⟩
  obtain ⟨m, hm⟩ := (Nat.modEq_iff_dvd' (Nat.one_le_iff_ne_zero.mpr hpos)).mp ha.symm
  have ha : a = (r - 1) * m + 1 := by omega
  rw [← ZMod.natCast_eq_natCast_iff, Nat.cast_pow, ha, pow_succ, pow_mul]
  by_cases hx : (x : ZMod r) = 0
  · rw [hx, mul_zero]
  · rw [ZMod.pow_card_sub_one_eq_one hx, one_pow, one_mul]

/-- What holds modulo each prime factor holds modulo a product of different primes. -/
theorem modEq_of_squarefree {n a b : Nat} (hn : Squarefree n) (hle : a ≤ b)
    (h : ∀ r, r.Prime → r ∣ n → a ≡ b [MOD r]) : a ≡ b [MOD n] := by
  rw [Nat.modEq_iff_dvd' hle, ← Nat.prod_primeFactors_of_squarefree hn]
  refine Finset.prod_primes_dvd _ (fun r hr => (Nat.prime_of_mem_primeFactors hr).prime) ?_
  intro r hr
  exact (Nat.modEq_iff_dvd' hle).mp
    (h r (Nat.prime_of_mem_primeFactors hr) (Nat.dvd_of_mem_primeFactors hr))

namespace RsaKey

variable {k pub : RsaKey} {s : RsaSecret} {x y : Nat}

/-- Some prime factor is odd, so that the exponents are inverse modulo more than one. -/
theorem IsPair.exponents_ne_zero (h : k.IsPair s) (hone : k.modulus ≠ 1) :
    k.publicExponent * s.exponent ≠ 0 := by
  intro hzero
  obtain ⟨r, hr, hdvd⟩ := Nat.exists_prime_and_dvd hone
  have hinv := h.belongs.inverse r hr hdvd
  rw [hzero] at hinv
  have hone : r - 1 = 1 := Nat.dvd_one.mp ((Nat.modEq_iff_dvd' (by decide)).mp hinv)
  have htwo : r = 2 := by have := hr.two_le; omega
  have hodd := h.odd
  rw [htwo] at hdvd
  omega

/-- **One power after the other is nothing.** -/
theorem IsPair.pow_pow (h : k.IsPair s) (hx : x < k.modulus) :
    x ^ (k.publicExponent * s.exponent) % k.modulus = x := by
  have hself : x ≡ x ^ (k.publicExponent * s.exponent) [MOD k.modulus] := by
    by_cases hone : k.modulus = 1
    · rw [hone]
      exact Nat.modEq_one
    have hpos := h.exponents_ne_zero hone
    exact modEq_of_squarefree h.belongs.squarefree (Nat.le_self_pow hpos x) fun r hr hdvd =>
      (pow_modEq_self_of_prime hr hpos (h.belongs.inverse r hr hdvd) x).symm
  rw [← hself, Nat.mod_eq_of_lt hx]

/-- What is known of the factors yields a number below the modulus. -/
theorem power_lt {f : RsaFactors} (h : f.areUsable = true) : f.power x < f.p * f.q := by
  simp only [RsaFactors.areUsable, Bool.and_eq_true, beq_iff_eq] at h
  obtain ⟨⟨hp, hq⟩, -⟩ := h
  have hp : 0 < f.p := by omega
  have hq : 0 < f.q := by omega
  have hsecond : Modular.pow x f.dq f.q < f.q := by
    rw [Modular.pow_eq]
    exact Nat.mod_lt _ hq
  unfold RsaFactors.power
  dsimp only
  generalize Modular.pow x f.dq f.q = second at hsecond ⊢
  generalize Modular.sub f.p (Modular.pow x f.dp f.p) (second % f.p) * f.inverse = product
  have hfirst : product % f.p + 1 ≤ f.p := Nat.mod_lt _ hp
  calc product % f.p * f.q + second < product % f.p * f.q + f.q := Nat.add_lt_add_left hsecond _
    _ = (product % f.p + 1) * f.q := (Nat.succ_mul _ _).symm
    _ ≤ f.p * f.q := Nat.mul_le_mul_right _ hfirst

/-- **The public power undoes the private one**, and the private one exists for each number below
the modulus. -/
theorem IsPair.lower_spec (h : k.IsPair s) (hx : x < k.modulus) :
    ∃ y, k.lower? x = some y ∧ y < k.modulus ∧ y ^ k.publicExponent % k.modulus = x := by
  have hpower : Modular.pow x s.exponent k.modulus < k.modulus ∧
      Modular.pow x s.exponent k.modulus ^ k.publicExponent % k.modulus = x := by
    rw [Modular.pow_eq, ← Nat.pow_mod, ← Nat.pow_mul, Nat.mul_comm]
    exact ⟨Nat.mod_lt _ (by omega), h.pow_pow hx⟩
  have hguard : (k.modulus % 2 == 1 && decide (x < k.modulus)) = true := by
    rw [h.odd, decide_eq_true hx]
    rfl
  unfold lower?
  rw [h.secret]
  simp only [hguard, if_true]
  cases hf : s.factors with
  | none => exact ⟨_, rfl, hpower⟩
  | some f =>
    obtain ⟨husable, hle⟩ := h.belongs.factors f hf
    simp only [lowerWith?, husable, if_true]
    split
    · next hundoes =>
      rw [undoes, beq_iff_eq, Modular.pow_eq] at hundoes
      exact ⟨_, rfl, (power_lt husable).trans_le hle, hundoes⟩
    · exact ⟨_, rfl, hpower⟩

theorem IsPair.raise_eq (h : k.IsPair s) (hx : x < k.modulus) :
    k.publicHalf.raise? x = some (x ^ k.publicExponent % k.modulus) := by
  have hraise : k.publicHalf.raise? x = k.raise? x := rfl
  rw [hraise, raise?, h.usable, h.odd, decide_eq_true hx, Modular.pow_eq]
  rfl

/-- **The private power undoes the public one.** -/
theorem IsPair.lower_raise (h : k.IsPair s) (hx : x < k.modulus) :
    k.lower? (x ^ k.publicExponent % k.modulus) = some x := by
  obtain ⟨y, hlower, hy, hpow⟩ := h.lower_spec (Nat.mod_lt (x ^ k.publicExponent) (by omega))
  -- Both numbers have the same public power, and the private exponent takes it back.
  have heq : y = x := by
    rw [← h.pow_pow hy, ← h.pow_pow hx, Nat.pow_mul, Nat.pow_mul, Nat.pow_mod, hpow, ← Nat.pow_mod]
  rw [hlower, heq]

/-! ### Success -/

/-- The private operation is possible. -/
def CanLower (k : RsaKey) : Prop :=
  ∃ s, k.secret = some s ∧ k.modulus % 2 = 1 ∧ ∀ f ∈ s.factors, f.areUsable = true

theorem CanLower.odd (h : k.CanLower) : k.modulus % 2 = 1 :=
  let ⟨_, _, hodd, _⟩ := h
  hodd

/-- The public operation is possible. -/
def CanRaise (k : RsaKey) : Prop := k.hasUsableExponent = true ∧ k.modulus % 2 = 1

theorem IsPair.canLower (h : k.IsPair s) : k.CanLower :=
  ⟨s, h.secret, h.odd, fun f hf => (h.belongs.factors f hf).1⟩

theorem IsPair.canRaise (h : k.IsPair s) : k.publicHalf.CanRaise := ⟨h.usable, h.odd⟩

/-- Whether the private operation succeeds does not depend on the number, if that is below the
modulus. -/
theorem isSome_lower? : (k.lower? x).isSome ↔ k.CanLower ∧ x < k.modulus := by
  unfold lower? CanLower
  cases hs : k.secret with
  | none => simp
  | some s =>
    simp only [Option.some.injEq, exists_eq_left', Bool.and_eq_true, beq_iff_eq, decide_eq_true_eq]
    split
    · next hguard =>
      cases hf : s.factors with
      | none => simp [hguard]
      | some f =>
        simp only [lowerWith?]
        split <;> simp [*]
    · next hguard =>
      refine iff_of_false (by simp) fun h => hguard ⟨h.1.1, h.2⟩

theorem isSome_raise? : (k.raise? x).isSome ↔ k.CanRaise ∧ x < k.modulus := by
  unfold raise? CanRaise
  simp only [Bool.and_eq_true, beq_iff_eq, decide_eq_true_eq]
  split <;> simp [*]

/-! ### Powers of bytes -/

theorem isSome_lowerBytes? {b : Bytes} (hlen : b.length = k.size) :
    (k.lowerBytes? b).isSome ↔ k.CanLower ∧ Bytes.toNat b < k.modulus := by
  rw [lowerBytes?, if_pos hlen.le, Option.isSome_map, isSome_lower?]

theorem isSome_raiseBytes? {b : Bytes} (hlen : b.length = k.size) :
    (k.raiseBytes? b).isSome ↔ k.CanRaise ∧ Bytes.toNat b < k.modulus := by
  rw [raiseBytes?, if_pos hlen.le, Option.isSome_map, isSome_raise?]

theorem toNat_lt_modulus {b : Bytes} (hodd : k.modulus % 2 = 1) (hlen : b.length + 1 = k.size) :
    Bytes.toNat (0 :: b) < k.modulus := by
  rw [Bytes.toNat_cons, UInt8.toNat_zero, Nat.mul_zero, Nat.zero_add]
  calc Bytes.toNat b < 256 ^ b.length := Bytes.toNat_lt b
    _ = 256 ^ (Bytes.width k.modulus - 1) := by rw [← size, ← hlen, Nat.add_sub_cancel]
    _ ≤ k.modulus := Bytes.width_le (by omega)

theorem IsPair.lowerBytes_spec (h : k.IsPair s) {b : Bytes} (hlen : b.length = k.size)
    (hb : Bytes.toNat b < k.modulus) :
    ∃ c, k.lowerBytes? b = some c ∧ c.length = k.size ∧ k.publicHalf.raiseBytes? c = some b := by
  obtain ⟨y, hlower, hy, hpow⟩ := h.lower_spec hb
  have hread : Bytes.toNat (Bytes.ofNat k.size y) = y :=
    Bytes.toNat_ofNat_of_lt (hy.trans (Bytes.lt_width _))
  refine ⟨Bytes.ofNat k.size y, ?_, Bytes.length_ofNat _ _, ?_⟩
  · rw [lowerBytes?, if_pos hlen.le, hlower]
    rfl
  · have hraise : k.publicHalf.raise? y = some (Bytes.toNat b) := hpow ▸ h.raise_eq hy
    have hsize : k.publicHalf.size = k.size := rfl
    rw [raiseBytes?, hsize, if_pos (Bytes.length_ofNat _ _).le, hread, hraise, ← hlen]
    exact congrArg some (Bytes.ofNat_toNat b)

theorem IsPair.lowerBytes_raiseBytes (h : k.IsPair s) {b : Bytes} (hlen : b.length = k.size)
    (hb : Bytes.toNat b < k.modulus) :
    ∃ c, k.publicHalf.raiseBytes? b = some c ∧ k.lowerBytes? c = some b ∧
      k.undoes (Bytes.toNat c) (Bytes.toNat b) = true := by
  have hpos : 0 < k.modulus := by omega
  have hread : Bytes.toNat (Bytes.ofNat k.size (Bytes.toNat b ^ k.publicExponent % k.modulus)) =
      Bytes.toNat b ^ k.publicExponent % k.modulus :=
    Bytes.toNat_ofNat_of_lt ((Nat.mod_lt _ hpos).trans (Bytes.lt_width _))
  refine ⟨Bytes.ofNat k.size (Bytes.toNat b ^ k.publicExponent % k.modulus), ?_, ?_, ?_⟩
  · have hsize : k.publicHalf.size = k.size := rfl
    rw [raiseBytes?, hsize, if_pos hlen.le, h.raise_eq hb]
    rfl
  · rw [lowerBytes?, if_pos (Bytes.length_ofNat _ _).le, hread, h.lower_raise hb, ← hlen]
    exact congrArg some (Bytes.ofNat_toNat b)
  · rw [undoes, hread, Modular.pow_eq, beq_iff_eq]

/-! ### Keys of two primes -/

/-- **The textbook key is a pair**: two different odd primes, and exponents that are inverse modulo
the predecessor of each. -/
theorem isPair_of_primes {p q e d : Nat} (hp : p.Prime) (hq : q.Prime) (hne : p ≠ q)
    (hodd : p * q % 2 = 1) (hdp : e * d ≡ 1 [MOD p - 1]) (hdq : e * d ≡ 1 [MOD q - 1])
    (husable : hasUsableExponent ⟨p * q, e, none⟩ = true) :
    IsPair ⟨p * q, e, some ⟨d, none⟩⟩ ⟨d, none⟩ where
  secret := rfl
  odd := hodd
  usable := husable
  belongs := {
    squarefree := (Nat.squarefree_mul ((Nat.coprime_primes hp hq).mpr hne)).mpr
      ⟨hp.squarefree, hq.squarefree⟩
    inverse := fun r hr hdvd => by
      rcases (Nat.Prime.dvd_mul hr).mp hdvd with h | h
      · rw [(Nat.prime_dvd_prime_iff_eq hr hp).mp h]
        exact hdp
      · rw [(Nat.prime_dvd_prime_iff_eq hr hq).mp h]
        exact hdq
    factors := fun f hf => nomatch hf }

/-- A key of two Mersenne primes. -/
def ofMersenne : RsaKey :=
  ⟨mersenne 521 * mersenne 607, 65537,
    some ⟨(10880 * ((mersenne 521 - 1) * (mersenne 607 - 1)) + 1) / 65537, none⟩⟩

theorem isPair_ofMersenne : ∃ s, ofMersenne.IsPair s :=
  ⟨_, isPair_of_primes (lucas_lehmer_sufficiency _ (by norm_num) (by norm_num))
    (lucas_lehmer_sufficiency _ (by norm_num) (by norm_num)) (by decide +kernel)
    (by decide +kernel) (by decide +kernel) (by decide +kernel) (by decide +kernel)⟩

end RsaKey
end WalletResponder
