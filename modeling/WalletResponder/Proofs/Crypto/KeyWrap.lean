import WalletResponder.Crypto.KeyWrap
import WalletResponder.Proofs.Crypto.ContentCipher

/-!
# Unwrapping a key

A wrapped key comes back under the same wrapping key (`KeyWrap.unwrap_wrap`): each step is undone by
its counterpart with the same number, so passes are undone from the last step to the first, and the
check value comes back with the registers.

Since encryption is a permutation of the blocks, the counterparts are undone by the steps as well.
So whatever is unwrapped was made by wrapping, and there is one wrapped form of a key and no other
(`KeyWrap.unwraps_iff_wraps`).
-/

namespace WalletResponder.KeyWrap

variable (keys : List Block)

/-- Registers that a step can work on: each has eight bytes. -/
def AreWhole (rs : List Bytes) : Prop := ∀ r ∈ rs, r.length = 8

theorem areWhole_nil : AreWhole [] := List.forall_mem_nil _

theorem areWhole_cons {r : Bytes} {rs : List Bytes} :
    AreWhole (r :: rs) ↔ r.length = 8 ∧ AreWhole rs :=
  List.forall_mem_cons

theorem exists_step (t : Nat) {a r : Bytes} (ha : a.length = 8) (hr : r.length = 8) :
    ∃ a' r', step keys t a r = (a', r') ∧ a'.length = 8 ∧ r'.length = 8 ∧
      unstep keys t a' r' = (a, r) := by
  have har : (a ++ r).length = 16 := by rw [List.length_append]; omega
  have hlen := Block.length_toBytes (Aes.encrypt keys (Block.first (a ++ r)))
  refine ⟨_, _, rfl, ?_, ?_, ?_⟩
  · rw [Bytes.length_xor, Bytes.length_ofNat, List.length_take, hlen]
    rfl
  · rw [List.length_drop, hlen]
  · have hback : ∀ b : Bytes, b.length = 16 →
        Bytes.xor (Bytes.xor (b.take 8) (Bytes.ofNat 8 t)) (Bytes.ofNat 8 t) ++ b.drop 8 = b := by
      intro b hb
      rw [Bytes.xor_xor (by rw [List.length_take, Bytes.length_ofNat]; omega),
        List.take_append_drop]
    rw [unstep, hback _ hlen, Block.first_toBytes, Aes.decrypt_encrypt, Block.toBytes_first har,
      List.take_left' ha, List.drop_left' ha]

theorem exists_pass : ∀ (rs : List Bytes) (t : Nat) (a : Bytes), a.length = 8 → AreWhole rs →
    ∃ a' rs', pass keys t a rs = (a', rs') ∧ a'.length = 8 ∧ AreWhole rs' ∧
      rs'.length = rs.length ∧ unpass keys t a' rs' = (a, rs)
  | [], t, a, ha, _ => ⟨a, [], rfl, ha, areWhole_nil, rfl, rfl⟩
  | r :: rs, t, a, ha, hrs => by
    obtain ⟨hr, hrs⟩ := areWhole_cons.mp hrs
    obtain ⟨a₁, r', hstep, ha₁, hr', hback⟩ := exists_step keys t ha hr
    obtain ⟨a', rs', hpass, ha', hrs', hlen, hunpass⟩ := exists_pass rs (t + 1) a₁ ha₁ hrs
    refine ⟨a', r' :: rs', ?_, ha', areWhole_cons.mpr ⟨hr', hrs'⟩, ?_, ?_⟩
    · simp only [pass, hstep, hpass]
    · rw [List.length_cons, hlen, List.length_cons]
    · simp only [unpass, hunpass, hback]

/-- **Passes are undone**, from the last to the first. -/
theorem exists_passes : ∀ (k t : Nat) (a : Bytes) (rs : List Bytes), a.length = 8 → AreWhole rs →
    ∃ a' rs', passes keys k t a rs = (a', rs') ∧ a'.length = 8 ∧ AreWhole rs' ∧
      rs'.length = rs.length ∧ unpasses keys k t a' rs' = (a, rs)
  | 0, t, a, rs, ha, hrs => ⟨a, rs, rfl, ha, hrs, rfl, rfl⟩
  | k + 1, t, a, rs, ha, hrs => by
    obtain ⟨a₁, rs₁, hpass, ha₁, hrs₁, hlen₁, hunpass⟩ := exists_pass keys rs t a ha hrs
    obtain ⟨a', rs', hpasses, ha', hrs', hlen, hunpasses⟩ :=
      exists_passes k (t + rs₁.length) a₁ rs₁ ha₁ hrs₁
    refine ⟨a', rs', ?_, ha', hrs', hlen.trans hlen₁, ?_⟩
    · simp only [passes, hpass, hpasses]
    · rw [← hlen] at hunpasses
      simp only [unpasses, hunpasses, hunpass]

/-! ### The other way round -/

/-- A block comes back from its decryption, so steps undo their counterparts. -/
theorem exists_unstep (t : Nat) {a r : Bytes} (ha : a.length = 8) (hr : r.length = 8) :
    ∃ a' r', unstep keys t a r = (a', r') ∧ a'.length = 8 ∧ r'.length = 8 ∧
      step keys t a' r' = (a, r) := by
  have hmasked : (Bytes.xor a (Bytes.ofNat 8 t)).length = 8 := by
    rw [Bytes.length_xor, Bytes.length_ofNat]
    omega
  have hwhole : (Bytes.xor a (Bytes.ofNat 8 t) ++ r).length = 16 := by
    rw [List.length_append]
    omega
  have hlen := Block.length_toBytes
    (Aes.decrypt keys (Block.first (Bytes.xor a (Bytes.ofNat 8 t) ++ r)))
  refine ⟨_, _, rfl, ?_, ?_, ?_⟩
  · rw [List.length_take, hlen]
    rfl
  · rw [List.length_drop, hlen]
  · rw [step, List.take_append_drop, Block.first_toBytes, Aes.encrypt_decrypt,
      Block.toBytes_first hwhole]
    rw [List.take_left' hmasked, List.drop_left' hmasked,
      Bytes.xor_xor (by rw [Bytes.length_ofNat]; omega)]

theorem exists_unpass : ∀ (rs : List Bytes) (t : Nat) (a : Bytes), a.length = 8 → AreWhole rs →
    ∃ a' rs', unpass keys t a rs = (a', rs') ∧ a'.length = 8 ∧ AreWhole rs' ∧
      rs'.length = rs.length ∧ pass keys t a' rs' = (a, rs)
  | [], t, a, ha, _ => ⟨a, [], rfl, ha, areWhole_nil, rfl, rfl⟩
  | r :: rs, t, a, ha, hrs => by
    obtain ⟨hr, hrs⟩ := areWhole_cons.mp hrs
    obtain ⟨a₁, rs', hunpass, ha₁, hrs', hlen, hpass⟩ := exists_unpass rs (t + 1) a ha hrs
    obtain ⟨a', r', hunstep, ha', hr', hstep⟩ := exists_unstep keys t ha₁ hr
    refine ⟨a', r' :: rs', ?_, ha', areWhole_cons.mpr ⟨hr', hrs'⟩, ?_, ?_⟩
    · simp only [unpass, hunpass, hunstep]
    · rw [List.length_cons, hlen, List.length_cons]
    · simp only [pass, hstep, hpass]

/-- **Passes undo what undoes them**, from the first to the last. -/
theorem exists_unpasses : ∀ (k t : Nat) (a : Bytes) (rs : List Bytes), a.length = 8 →
    AreWhole rs → ∃ a' rs', unpasses keys k t a rs = (a', rs') ∧ a'.length = 8 ∧ AreWhole rs' ∧
      rs'.length = rs.length ∧ passes keys k t a' rs' = (a, rs)
  | 0, t, a, rs, ha, hrs => ⟨a, rs, rfl, ha, hrs, rfl, rfl⟩
  | k + 1, t, a, rs, ha, hrs => by
    obtain ⟨a₁, rs₁, hunpasses, ha₁, hrs₁, hlen₁, hpasses⟩ :=
      exists_unpasses k (t + rs.length) a rs ha hrs
    obtain ⟨a', rs', hunpass, ha', hrs', hlen, hpass⟩ := exists_unpass keys rs₁ t a₁ ha₁ hrs₁
    refine ⟨a', rs', ?_, ha', hrs', hlen.trans hlen₁, ?_⟩
    · simp only [unpasses, hunpasses, hunpass]
    · rw [← hlen₁] at hpasses
      simp only [passes, hpass, hpasses]

/-! ### Registers -/

theorem registers_append {r : Bytes} (h : r.length = 8) (s : Bytes) :
    registers (r ++ s) = r :: registers s := by
  match r, h with
  | [a, b, c, d, e, f, g, i], _ => rfl

theorem registers_flatten : ∀ {rs : List Bytes}, AreWhole rs → registers rs.flatten = rs
  | [], _ => rfl
  | r :: rs, h => by
    obtain ⟨hr, hrs⟩ := areWhole_cons.mp h
    rw [List.flatten_cons, registers_append hr, registers_flatten hrs]

theorem length_flatten : ∀ {rs : List Bytes}, AreWhole rs → rs.flatten.length = 8 * rs.length
  | [], _ => rfl
  | r :: rs, h => by
    obtain ⟨hr, hrs⟩ := areWhole_cons.mp h
    rw [List.flatten_cons, List.length_append, hr, length_flatten hrs, List.length_cons]
    omega

/-- A byte string of a multiple of eight bytes is that of its registers. -/
theorem exists_registers : ∀ (n : Nat) {s : Bytes}, s.length = 8 * n →
    AreWhole (registers s) ∧ (registers s).flatten = s ∧ (registers s).length = n
  | 0, s, h => by
    rw [List.eq_nil_of_length_eq_zero h]
    exact ⟨areWhole_nil, rfl, rfl⟩
  | n + 1, s, h => by
    have hhead : (s.take 8).length = 8 := by rw [List.length_take]; omega
    obtain ⟨hwhole, hflat, hlen⟩ :=
      exists_registers n (s := s.drop 8) (by rw [List.length_drop]; omega)
    rw [← List.take_append_drop 8 s, registers_append hhead]
    refine ⟨areWhole_cons.mpr ⟨hhead, hwhole⟩, ?_, ?_⟩
    · rw [List.flatten_cons, hflat]
    · rw [List.length_cons, hlen]

/-! ### What is wrapped and unwrapped -/

variable {kek key wrapped : Bytes}

theorem isKeySize_iff {n : Nat} : isKeySize n = true ↔ n = 16 ∨ n = 24 ∨ n = 32 := by
  simp [isKeySize, or_assoc]

/-- Wrapping a key that is there: what it asks for, and what it makes. -/
theorem wrap_eq_ok (hkey : key ≠ []) : wrap kek key = .ok wrapped ↔
    isKeySize kek.length = true ∧ 16 ≤ key.length ∧ key.length % 8 = 0 ∧
      ∃ a rs, passes (Aes.roundKeys kek) 6 1 check (registers key) = (a, rs) ∧
        wrapped = a ++ rs.flatten := by
  have hempty : key.isEmpty = false := by simpa using hkey
  rw [wrap, hempty]
  cases hkek : isKeySize kek.length with
  | false => simp
  | true =>
    by_cases hlen : 16 ≤ key.length ∧ key.length % 8 = 0
    · obtain ⟨hlow, hmod⟩ := hlen
      obtain ⟨a, rs⟩ := passes (Aes.roundKeys kek) 6 1 check (registers key)
      simp [hmod, Nat.not_lt.mpr hlow, hlow, eq_comm]
    · have hrefused : (key.length < 16 || key.length % 8 != 0) = true := by
        simp only [Bool.or_eq_true, decide_eq_true_eq, bne_iff_ne]
        omega
      simp only [hrefused]
      constructor
      · rintro ⟨⟩
      · rintro ⟨-, hlow, hmod, -⟩
        exact absurd ⟨hlow, hmod⟩ hlen

theorem unwrap_of_size (h : wrapped.length < 24 ∨ wrapped.length % 8 ≠ 0) :
    unwrap kek wrapped = .error .wrappedSize := by
  have hrefused : (wrapped.length < 24 || wrapped.length % 8 != 0) = true := by
    simpa only [Bool.or_eq_true, decide_eq_true_eq, bne_iff_ne] using h
  rw [unwrap, hrefused]
  rfl

/-- Unwrapping: what it asks for, and what it makes. -/
theorem unwrap_eq_ok : unwrap kek wrapped = .ok key ↔
    24 ≤ wrapped.length ∧ wrapped.length % 8 = 0 ∧ isKeySize kek.length = true ∧
      ∃ rs, unpasses (Aes.roundKeys kek) 6 1 (wrapped.take 8) (registers (wrapped.drop 8)) =
        (check, rs) ∧ key = rs.flatten := by
  by_cases hlen : 24 ≤ wrapped.length ∧ wrapped.length % 8 = 0
  · obtain ⟨hlow, hmod⟩ := hlen
    cases hkek : isKeySize kek.length with
    | false => simp [unwrap, hkek, hmod, Nat.not_lt.mpr hlow]
    | true =>
      rw [unwrap]
      obtain ⟨a, rs⟩ :=
        unpasses (Aes.roundKeys kek) 6 1 (wrapped.take 8) (registers (wrapped.drop 8))
      by_cases ha : a = check
      · simp [hkek, hmod, Nat.not_lt.mpr hlow, hlow, ha, eq_comm]
      · simp [hkek, hmod, Nat.not_lt.mpr hlow, ha]
  · rw [unwrap_of_size (by omega)]
    constructor
    · rintro ⟨⟩
    · rintro ⟨hlow, hmod, -⟩
      exact absurd ⟨hlow, hmod⟩ hlen

/-- **A wrapped key comes back.** -/
theorem unwrap_wrap (hkey : key ≠ []) (h : wrap kek key = .ok wrapped) :
    unwrap kek wrapped = .ok key := by
  obtain ⟨hsize, hlow, hmod, a, rs, hpasses, rfl⟩ := (wrap_eq_ok hkey).mp h
  obtain ⟨hwhole, hflat, hcount⟩ := exists_registers (key.length / 8) (s := key) (by omega)
  obtain ⟨a', rs', hpasses', ha, hrs, hcount', hback⟩ :=
    exists_passes (Aes.roundKeys kek) 6 1 check (registers key) rfl hwhole
  rw [hpasses] at hpasses'
  cases hpasses'
  have hlen : (a ++ rs.flatten).length = 8 + 8 * (key.length / 8) := by
    rw [List.length_append, ha, length_flatten hrs, hcount', hcount]
  refine unwrap_eq_ok.mpr ⟨by omega, by omega, hsize, registers key, ?_, hflat.symm⟩
  rw [List.take_left' ha, List.drop_left' ha, registers_flatten hrs, hback]

/-- **What is unwrapped was wrapped**: nothing else has the check value in its first register. -/
theorem wrap_of_unwrap (h : unwrap kek wrapped = .ok key) :
    16 ≤ key.length ∧ key.length % 8 = 0 ∧ wrapped.length = key.length + 8 ∧
      wrap kek key = .ok wrapped := by
  obtain ⟨hlow, hmod, hsize, rs, hunpasses, rfl⟩ := unwrap_eq_ok.mp h
  have hfirst : (wrapped.take 8).length = 8 := by
    rw [List.length_take]
    omega
  obtain ⟨hwhole, hflat, hcount⟩ := exists_registers (wrapped.length / 8 - 1) (s := wrapped.drop 8)
    (by rw [List.length_drop]; omega)
  obtain ⟨a, rs', hunpasses', -, hrs, hcount', hback⟩ :=
    exists_unpasses (Aes.roundKeys kek) 6 1 (wrapped.take 8) (registers (wrapped.drop 8)) hfirst
      hwhole
  rw [hunpasses] at hunpasses'
  cases hunpasses'
  have hlen : rs.flatten.length = 8 * (wrapped.length / 8 - 1) := by
    rw [length_flatten hrs, hcount', hcount]
  have hkey : rs.flatten ≠ [] := List.ne_nil_of_length_pos (by omega)
  refine ⟨by omega, by omega, by omega, (wrap_eq_ok hkey).mpr
    ⟨hsize, by omega, by omega, wrapped.take 8, registers (wrapped.drop 8), ?_, ?_⟩⟩
  · rw [registers_flatten hrs, hback]
  · rw [hflat, List.take_append_drop]

/-- Wrapping refuses nothing but the wrong sizes. -/
theorem wrap_isOk (hkek : isKeySize kek.length = true) (hlow : 16 ≤ key.length)
    (hmod : key.length % 8 = 0) : ∃ wrapped, wrap kek key = .ok wrapped :=
  ⟨_, (wrap_eq_ok (List.ne_nil_of_length_pos (by omega))).mpr ⟨hkek, hlow, hmod, _, _, rfl, rfl⟩⟩

/-- **Unwrapping accepts exactly what wrapping makes.** A wrapping key has sixteen, twenty-four or
thirty-two bytes. A key of two or more registers is then wrapped in one register more, and comes
back. Whatever is unwrapped to a key is the wrapped form of this key. And everything is refused that
has fewer than three registers or no whole number of them, or comes with a wrapping key of another
size. -/
theorem unwraps_iff_wraps (kek : Bytes) :
    (kek.length = 16 ∨ kek.length = 24 ∨ kek.length = 32 →
      ∀ key : Bytes, 16 ≤ key.length → key.length % 8 = 0 →
        ∃ wrapped, wrap kek key = .ok wrapped ∧ wrapped.length = key.length + 8 ∧
          unwrap kek wrapped = .ok key) ∧
    (∀ key wrapped, unwrap kek wrapped = .ok key ↔
      16 ≤ key.length ∧ key.length % 8 = 0 ∧ wrap kek key = .ok wrapped) ∧
    (∀ wrapped : Bytes, wrapped.length < 24 ∨ wrapped.length % 8 ≠ 0 →
      unwrap kek wrapped = .error .wrappedSize) ∧
    (¬ (kek.length = 16 ∨ kek.length = 24 ∨ kek.length = 32) → ∀ s,
      wrap kek s = .error .wrappingKeySize ∧ ∃ fault, unwrap kek s = .error fault) := by
  have hne : ∀ {key : Bytes}, 16 ≤ key.length → key ≠ [] := fun hlow =>
    List.ne_nil_of_length_pos (by omega)
  refine ⟨fun hkek key hlow hmod => ?_, fun key wrapped => ?_, fun _ => unwrap_of_size, ?_⟩
  · obtain ⟨wrapped, hwrapped⟩ := wrap_isOk (isKeySize_iff.mpr hkek) hlow hmod
    have hback := unwrap_wrap (hne hlow) hwrapped
    exact ⟨wrapped, hwrapped, (wrap_of_unwrap hback).2.2.1, hback⟩
  · constructor
    · intro h
      obtain ⟨hlow, hmod, -, hwrapped⟩ := wrap_of_unwrap h
      exact ⟨hlow, hmod, hwrapped⟩
    · rintro ⟨hlow, -, hwrapped⟩
      exact unwrap_wrap (hne hlow) hwrapped
  · intro hkek s
    have hsize : isKeySize kek.length = false :=
      Bool.eq_false_iff.mpr fun h => hkek (isKeySize_iff.mp h)
    refine ⟨by rw [wrap, hsize]; rfl, ?_⟩
    cases hs : unwrap kek s with
    | error fault => exact ⟨fault, rfl⟩
    | ok key =>
      obtain ⟨-, -, hsize', -⟩ := unwrap_eq_ok.mp hs
      rw [hsize] at hsize'
      cases hsize'

/-- A key of three registers under a wrapping key of thirty-two bytes; two registers are no wrapped
form of any key, and a wrapping key of fifteen bytes is none. -/
theorem unwraps_three_registers : ∃ wrapped,
    wrap (List.replicate 32 0x2a) (List.replicate 24 0x0d) = .ok wrapped ∧
    wrapped.length = 32 ∧
    unwrap (List.replicate 32 0x2a) wrapped = .ok (List.replicate 24 0x0d) ∧
    unwrap (List.replicate 32 0x2a) (wrapped.take 16) = .error .wrappedSize ∧
    ∃ fault, unwrap (List.replicate 15 0x2a) wrapped = .error fault := by
  obtain ⟨hwraps, haccepts, hsizes, -⟩ := unwraps_iff_wraps (List.replicate 32 0x2a)
  obtain ⟨-, -, -, hrefuses⟩ := unwraps_iff_wraps (List.replicate 15 0x2a)
  obtain ⟨wrapped, hwrapped, hlen, -⟩ :=
    hwraps (by decide) (List.replicate 24 0x0d) (by decide) (by decide)
  have hback := (haccepts _ wrapped).mpr ⟨by decide, by decide, hwrapped⟩
  refine ⟨wrapped, hwrapped, hlen, hback, hsizes _ (Or.inl ?_), (hrefuses (by decide) wrapped).2⟩
  rw [List.length_take, hlen]
  decide

end WalletResponder.KeyWrap
