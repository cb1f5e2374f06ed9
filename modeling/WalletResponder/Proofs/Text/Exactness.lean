import WalletResponder.Proofs.Text.Base64Url

/-!
# What base64url reads

A text is read exactly if its characters are in the alphabet and do not leave one over after the
groups of four (`Base64Url.decode_isOk_iff`). It need not be a text that was written: the last
character of an unfinished group has bits that no byte uses (`Base64Url.spareBits`), and reading
does not look at them. Written again, the bytes have these bits at zero and are otherwise the text
that was read (`Base64Url.sextets_ofSextets`), so that two texts for the same bytes differ in spare
bits only.

The alphabet is written out here, and a character stands for its place in it.
-/

namespace WalletResponder.Base64Url

/-! ### The alphabet -/

/-- The alphabet, in the order of the numbers that its characters stand for. -/
def alphabet : Bytes :=
  utf8 "ABCDEFGHIJKLMNOPQRSTUVWXYZabcdefghijklmnopqrstuvwxyz0123456789-_"

theorem alphabet_eq : alphabet = (List.range 64).map character := by decide

theorem getElem?_alphabet {v : Nat} (h : v < 64) : alphabet[v]? = some (character v) := by
  rw [alphabet_eq, List.getElem?_map, List.getElem?_range h, Option.map_some]

theorem idxOf_character : ∀ v < 64, alphabet.idxOf (character v) = v := by decide

theorem mem_alphabet {c : UInt8} : c ∈ alphabet ↔ ∃ v < 64, character v = c := by
  simp only [alphabet_eq, List.mem_map, List.mem_range]

theorem inRange_iff {low high c : UInt8} :
    (decide (low ≤ c) && decide (c ≤ high)) = true ↔
      low.toNat ≤ c.toNat ∧ c.toNat ≤ high.toNat := by
  rw [Bool.and_eq_true, decide_eq_true_eq, decide_eq_true_eq, UInt8.le_iff_toNat_le,
    UInt8.le_iff_toNat_le]

/-- What is read as a number is the character for it. -/
theorem character_of_sextet? {c : UInt8} {v : Nat} (h : sextet? c = some v) :
    v < 64 ∧ character v = c := by
  simp only [sextet?, inRange_iff, UInt8.reduceToNat] at h
  split at h
  · cases h
    have hv : c.toNat - 65 < 26 := by omega
    refine ⟨by omega, ?_⟩
    rw [character, if_pos hv]
    exact ofNat_eq (by omega)
  split at h
  · cases h
    have hv : ¬ c.toNat - 71 < 26 ∧ c.toNat - 71 < 52 := by omega
    refine ⟨by omega, ?_⟩
    rw [character, if_neg hv.1, if_pos hv.2]
    exact ofNat_eq (by omega)
  split at h
  · cases h
    have hv : ¬ c.toNat + 4 < 26 ∧ ¬ c.toNat + 4 < 52 ∧ c.toNat + 4 < 62 := by omega
    refine ⟨by omega, ?_⟩
    rw [character, if_neg hv.1, if_neg hv.2.1, if_pos hv.2.2]
    exact ofNat_eq (by omega)
  split at h
  · next hminus =>
    cases h
    exact ⟨by decide, (beq_iff_eq.mp hminus).symm⟩
  split at h
  · next hunderscore =>
    cases h
    exact ⟨by decide, (beq_iff_eq.mp hunderscore).symm⟩
  · exact nomatch h

/-- **The characters that are read** are those of the alphabet. -/
theorem isCharacter_iff {c : UInt8} : isCharacter c = true ↔ c ∈ alphabet := by
  rw [isCharacter, Option.isSome_iff_exists, mem_alphabet]
  constructor
  · rintro ⟨v, hv⟩
    exact ⟨v, character_of_sextet? hv⟩
  · rintro ⟨v, hv, rfl⟩
    exact ⟨v, sextet?_character v hv⟩

/-- A text in the alphabet writes sextets. -/
theorem exists_sextets : ∀ {s : Bytes}, (∀ c ∈ s, c ∈ alphabet) →
    ∃ vs : List Nat, (∀ v ∈ vs, v < 64) ∧ vs.map character = s
  | [], _ => ⟨[], List.forall_mem_nil _, rfl⟩
  | c :: s, h => by
    obtain ⟨hc, hs⟩ := List.forall_mem_cons.mp h
    obtain ⟨v, hv, rfl⟩ := mem_alphabet.mp hc
    obtain ⟨vs, hvs, rfl⟩ := exists_sextets hs
    exact ⟨v :: vs, List.forall_mem_cons.mpr ⟨hv, hvs⟩, rfl⟩

/-! ### Which texts are read -/

theorem decode_eq_ok {s b : Bytes} : decode s = .ok b ↔
    s.length % 4 ≠ 1 ∧ ∃ vs, (∀ v ∈ vs, v < 64) ∧ vs.map character = s ∧ ofSextets vs = b := by
  constructor
  · intro h
    rw [decode] at h
    split at h
    · cases h
    next hlength =>
    split at h
    · next hall =>
      cases h
      have hs : ∀ c ∈ s, c ∈ alphabet := fun c hc =>
        isCharacter_iff.mp (List.all_eq_true.mp hall c hc)
      obtain ⟨vs, hvs, rfl⟩ := exists_sextets hs
      exact ⟨hlength, vs, hvs, rfl, by rw [filterMap_character hvs]⟩
    · cases h
  · rintro ⟨hlength, vs, hvs, rfl, rfl⟩
    rw [List.length_map] at hlength
    rw [decode_map_character hvs, if_neg hlength]

/-- **A text is read** if it is in the alphabet and no character is left over. -/
theorem decode_isOk_iff {s : Bytes} :
    (∃ b, decode s = .ok b) ↔ (∀ c ∈ s, c ∈ alphabet) ∧ s.length % 4 ≠ 1 := by
  constructor
  · rintro ⟨b, hb⟩
    obtain ⟨hlength, vs, hvs, rfl, -⟩ := decode_eq_ok.mp hb
    refine ⟨fun c hc => ?_, hlength⟩
    obtain ⟨v, hv, rfl⟩ := List.mem_map.mp hc
    exact mem_alphabet.mpr ⟨v, hvs v hv, rfl⟩
  · rintro ⟨hs, hlength⟩
    obtain ⟨vs, hvs, rfl⟩ := exists_sextets hs
    exact ⟨_, decode_eq_ok.mpr ⟨hlength, vs, hvs, rfl, rfl⟩⟩

theorem decode_eq_badLength {s : Bytes} : decode s = .error .badLength ↔ s.length % 4 = 1 := by
  rw [decode]
  split
  · next h => simp [h]
  · next h => split <;> simp [h]

theorem decode_eq_badCharacter {s : Bytes} :
    decode s = .error .badCharacter ↔ s.length % 4 ≠ 1 ∧ ∃ c ∈ s, c ∉ alphabet := by
  have hall : s.all isCharacter = true ↔ ∀ c ∈ s, c ∈ alphabet := by
    simp only [List.all_eq_true, isCharacter_iff]
  rw [decode]
  split
  · next h => simp [h]
  next h =>
  split
  · next hs => simpa [h] using hall.mp hs
  · next hs =>
    rw [hall] at hs
    simpa [h] using hs

/-! ### Writing again what was read -/

/-- How many bits of the last character no byte uses. -/
def spareBits (length : Nat) : Nat :=
  if length % 4 = 2 then 4 else if length % 4 = 3 then 2 else 0

/-- A number with its `k` last bits at zero. -/
def cleared (k v : Nat) : Nat := v >>> k <<< k

theorem spareBits_add_four (n : Nat) : spareBits (n + 4) = spareBits n := by
  simp only [spareBits, Nat.add_mod_right]

theorem cleared_lt {k v n : Nat} (h : v < n) : cleared k v < n := by
  rw [cleared, Nat.shiftLeft_eq, Nat.shiftRight_eq_div_pow]
  exact Nat.lt_of_le_of_lt (Nat.div_mul_le_self v _) h

/-- Clearing bits changes nothing if they are zero. -/
theorem cleared_eq_self_iff {k v : Nat} :
    cleared k v = v ↔ ∀ i < k, v.testBit i = false := by
  have hbit : ∀ i, (cleared k v).testBit i = (decide (k ≤ i) && v.testBit i) := by
    intro i
    rw [cleared, Nat.testBit_shiftLeft, Nat.testBit_shiftRight]
    by_cases h : k ≤ i
    · rw [Nat.add_sub_cancel' h]
    · simp [h]
  constructor
  · intro h i hi
    have hlow := hbit i
    rw [h, decide_eq_false (by omega), Bool.false_and] at hlow
    exact hlow
  · intro h
    refine Nat.eq_of_testBit_eq fun i => ?_
    rw [hbit]
    by_cases hi : k ≤ i
    · rw [decide_eq_true hi, Bool.true_and]
    · rw [h i (by omega), Bool.and_false]

theorem sextets_ofSextets : ∀ (init : List Nat) (last : Nat), (∀ v ∈ init, v < 64) → last < 64 →
    init.length % 4 ≠ 0 → sextets (ofSextets (init ++ [last])) =
      init ++ [cleared (spareBits (init.length + 1)) last]
  | [], _, _, _, h => absurd rfl h
  | [a], v, hinit, hv, _ => by
    have ha : a < 64 := hinit a List.mem_cons_self
    have hspare : spareBits ([a].length + 1) = 4 := rfl
    simp only [List.cons_append, List.nil_append, ofSextets, sextets, UInt8.toNat_ofNat', hspare,
      cleared, List.cons.injEq, and_true]
    omega
  | [a, b], v, hinit, hv, _ => by
    have ha : a < 64 := hinit a (by simp)
    have hb : b < 64 := hinit b (by simp)
    have hspare : spareBits ([a, b].length + 1) = 2 := rfl
    simp only [List.cons_append, List.nil_append, ofSextets, sextets, UInt8.toNat_ofNat', hspare,
      cleared, List.cons.injEq, and_true]
    omega
  | [a, b, c], v, hinit, hv, _ => by
    have ha : a < 64 := hinit a (by simp)
    have hb : b < 64 := hinit b (by simp)
    have hc : c < 64 := hinit c (by simp)
    have hspare : spareBits ([a, b, c].length + 1) = 0 := by simp [spareBits]
    simp only [List.cons_append, List.nil_append, ofSextets, sextets, UInt8.toNat_ofNat', hspare,
      cleared, List.cons.injEq, and_true]
    omega
  | a :: b :: c :: d :: r, v, hinit, hv, h => by
    have ha : a < 64 := hinit a (by simp)
    have hb : b < 64 := hinit b (by simp)
    have hc : c < 64 := hinit c (by simp)
    have hd : d < 64 := hinit d (by simp)
    have hr : r.length % 4 ≠ 0 := by
      simp only [List.length_cons] at h
      omega
    have ih := sextets_ofSextets r v (fun u hu => hinit u (by simp [hu])) hv hr
    have hspare : spareBits ((a :: b :: c :: d :: r).length + 1) = spareBits (r.length + 1) :=
      spareBits_add_four (r.length + 1)
    simp only [List.cons_append, ofSextets, sextets, UInt8.toNat_ofNat', ih, List.cons.injEq,
      hspare, and_true]
    omega

/-- **What was read, written again**: the last sextet has its spare bits at zero. -/
theorem encode_ofSextets {init : List Nat} {last : Nat} (hinit : ∀ v ∈ init, v < 64)
    (hlast : last < 64) (hlength : init.length % 4 ≠ 0) :
    encode (ofSextets (init ++ [last])) =
      init.map character ++ [character (cleared (spareBits (init.length + 1)) last)] := by
  rw [encode_eq_map, sextets_ofSextets init last hinit hlast hlength, List.map_append,
    List.map_singleton]

/-- A text is another one but for the spare bits of its last character, which are zero. -/
structure IsRounded (s t : Bytes) : Prop where
  length : t.length = s.length
  init : t.dropLast = s.dropLast
  last : ∀ c ∈ s.getLast?,
    t.getLast? = alphabet[cleared (spareBits s.length) (alphabet.idxOf c)]?

/-- The spare bits of a text are zero. -/
def SpareBitsZero (s : Bytes) : Prop :=
  ∀ c ∈ s.getLast?, ∀ i < spareBits s.length, (alphabet.idxOf c).testBit i = false

section Last

variable (chars : Bytes) {last : Nat} (hlast : last < 64)
include hlast

theorem isRounded_concat : IsRounded (chars ++ [character last])
    (chars ++ [character (cleared (spareBits (chars.length + 1)) last)]) where
  length := by simp only [List.length_append, List.length_singleton]
  init := by rw [List.dropLast_concat, List.dropLast_concat]
  last := by
    intro c hc
    rw [List.getLast?_concat] at hc
    cases hc
    rw [List.getLast?_concat, List.length_append, List.length_singleton, idxOf_character last hlast,
      getElem?_alphabet (cleared_lt hlast)]

theorem spareBitsZero_concat : SpareBitsZero (chars ++ [character last]) ↔
    cleared (spareBits (chars.length + 1)) last = last := by
  simp only [SpareBitsZero, List.getLast?_concat, List.length_append, List.length_singleton,
    Option.mem_def, Option.some.injEq, forall_eq', idxOf_character last hlast, cleared_eq_self_iff]

theorem concat_cleared_eq_iff (k : Nat) :
    chars ++ [character (cleared k last)] = chars ++ [character last] ↔ cleared k last = last := by
  rw [List.append_cancel_left_eq, List.singleton_inj]
  constructor
  · intro h
    rw [← idxOf_character _ (cleared_lt hlast), h, idxOf_character last hlast]
  · intro h
    rw [h]

end Last

/-- **Only the spare bits of the last character are lost.** -/
theorem isRounded_of_decode {s b : Bytes} (h : decode s = .ok b) :
    IsRounded s (encode b) ∧ (encode b = s ↔ SpareBitsZero s) := by
  obtain ⟨hlength, vs, hvs, rfl, rfl⟩ := decode_eq_ok.mp h
  rcases List.eq_nil_or_concat vs with rfl | ⟨init, last, rfl⟩
  · exact ⟨⟨rfl, rfl, nofun⟩, fun _ => nofun, fun _ => rfl⟩
  rw [List.concat_eq_append] at hvs hlength ⊢
  have hinit : ∀ v ∈ init, v < 64 := fun v hv => hvs v (List.mem_append_left _ hv)
  have hlast : last < 64 := hvs last (List.mem_append_right _ (List.mem_singleton_self last))
  have hwhole : init.length % 4 ≠ 0 := by
    rw [List.length_map, List.length_append, List.length_singleton] at hlength
    omega
  have hrounded := isRounded_concat (init.map character) hlast
  have hzero := spareBitsZero_concat (init.map character) hlast
  rw [List.length_map] at hrounded hzero
  rw [encode_ofSextets hinit hlast hwhole, List.map_append, List.map_singleton, hzero]
  exact ⟨hrounded, concat_cleared_eq_iff _ hlast _⟩

/-! ### Both directions -/

theorem length_encode : ∀ b : Bytes, (encode b).length = (4 * b.length + 2) / 3
  | [] => rfl
  | [_] => by simp [encode]
  | [_, _] => by simp [encode]
  | _ :: _ :: _ :: r => by
    have ih := length_encode r
    simp only [encode, List.length_cons, ih]
    omega

theorem mem_alphabet_of_mem_encode {b : Bytes} {c : UInt8} (h : c ∈ encode b) : c ∈ alphabet := by
  rw [encode_eq_map] at h
  obtain ⟨v, hv, rfl⟩ := List.mem_map.mp h
  exact mem_alphabet.mpr ⟨v, lt_of_mem_sextets hv, rfl⟩

end WalletResponder.Base64Url
