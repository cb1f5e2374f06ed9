import Mathlib.Algebra.Order.Ring.Int
import Mathlib.Data.List.Basic
import WalletResponder.Json.Parser

/-!
# Reading texts and integers back

A quoted string reads back as its content, one escape at a time (`string?_quote`). An integer in
decimal reads back when it fits in 64 bits and no digit, point or exponent follows it
(`number?_decimal`).
-/

namespace WalletResponder.Json

/-! ### Quoted strings -/

theorem hexValue?_hexDigit : ∀ n < 16, hexValue? (hexDigit n) = some n := by decide

theorem escape?_control {b : UInt8} (h : b < 0x20) (r : Bytes) :
    escape? (0x75 :: 0x30 :: 0x30 :: hexDigit (b.toNat / 16) :: hexDigit (b.toNat % 16) :: r) =
      some ([b], r) := by
  have hb : b.toNat < 32 := UInt8.lt_iff_toNat_lt.mp h
  have hquad : hexQuad? (0x30 :: 0x30 :: hexDigit (b.toNat / 16) :: hexDigit (b.toNat % 16) :: r) =
      some (b.toNat, r) := by
    have h0 : hexValue? 0x30 = some 0 := by decide
    have hsum : ((0 * 16 + 0) * 16 + b.toNat / 16) * 16 + b.toNat % 16 = b.toNat := by omega
    simp only [hexQuad?, h0, hexValue?_hexDigit (b.toNat / 16) (by omega),
      hexValue?_hexDigit (b.toNat % 16) (by omega), Option.bind_eq_bind, Option.bind_some, hsum]
    rfl
  have hscalar : scalar? (0x30 :: 0x30 :: hexDigit (b.toNat / 16) :: hexDigit (b.toNat % 16) :: r) =
      some (b.toNat, r) := by
    have hhigh : (decide (0xd800 ≤ b.toNat) && decide (b.toNat ≤ 0xdbff)) = false := by
      rw [decide_eq_false (by omega : ¬ 0xd800 ≤ b.toNat)]; rfl
    have hlow : (decide (0xdc00 ≤ b.toNat) && decide (b.toNat ≤ 0xdfff)) = false := by
      rw [decide_eq_false (by omega : ¬ 0xdc00 ≤ b.toNat)]; rfl
    simp only [scalar?, hquad, Option.bind_eq_bind, Option.bind_some, hhigh, hlow]
    rfl
  have hencode : Utf8.encode b.toNat = [b] := by
    rw [Utf8.encode, if_pos (by omega), UInt8.ofNat_toNat]
  simp only [escape?, hscalar, Option.map_some, hencode]
  rfl

/-- A byte of a quoted string reads back: raw, or by its escape. -/
theorem stringBody_escapeByte (fuel : Nat) (done : Bytes) (b : UInt8) (r : Bytes) :
    stringBody (fuel + 1) done (escapeByte b ++ r) = stringBody fuel (b :: done) r := by
  unfold escapeByte
  split
  · next h => rw [eq_of_beq h]; rfl
  split
  · next h => rw [eq_of_beq h]; rfl
  split
  · next h => rw [eq_of_beq h]; rfl
  split
  · next h => rw [eq_of_beq h]; rfl
  split
  · next h => rw [eq_of_beq h]; rfl
  split
  · next h => rw [eq_of_beq h]; rfl
  split
  · next h => rw [eq_of_beq h]; rfl
  split
  · next h =>
    have hne : ((0x5c : UInt8) == 0x22) = false := by decide
    have heq : ((0x5c : UInt8) == 0x5c) = true := by decide
    simp only [List.cons_append, List.nil_append, stringBody, hne, heq, escape?_control h]
    rfl
  · next hquote hslash _ _ _ _ _ hcontrol =>
    rw [List.singleton_append, stringBody, if_neg hquote, if_neg hslash, if_neg hcontrol]

theorem stringBody_flatMap (r : Bytes) : ∀ (s : Bytes) (fuel : Nat) (done : Bytes),
    s.length < fuel →
      stringBody fuel done (s.flatMap escapeByte ++ 0x22 :: r) = some (done.reverse ++ s, r)
  | [], fuel + 1, done, _ => by
    have heq : ((0x22 : UInt8) == 0x22) = true := by decide
    simp [stringBody]
  | b :: s, fuel + 1, done, h => by
    rw [List.flatMap_cons, List.append_assoc, stringBody_escapeByte,
      stringBody_flatMap r s fuel (b :: done) (by simpa using h)]
    simp

theorem length_le_flatMap_escapeByte : ∀ s : Bytes, s.length ≤ (s.flatMap escapeByte).length
  | [] => by simp
  | b :: s => by
    have ih := length_le_flatMap_escapeByte s
    have hb : 1 ≤ (escapeByte b).length := by
      unfold escapeByte
      repeat' split
      all_goals simp
    rw [List.flatMap_cons, List.length_append, List.length_cons]
    omega

/-- **A quoted text reads back.** -/
theorem string?_quote {s : Bytes} (h : Utf8.valid s = true) (r : Bytes) :
    string? (s.flatMap escapeByte ++ 0x22 :: r) = some (s, r) := by
  have hlen := length_le_flatMap_escapeByte s
  rw [string?, stringBody_flatMap r s _ [] (by rw [List.length_append]; omega)]
  simp [h]

/-! ### Integers -/

theorem isDigit_digit : ∀ d < 10, isDigit (UInt8.ofNat (48 + d)) = true := by decide

theorem toNat_digit : ∀ d < 10, (UInt8.ofNat (48 + d)).toNat - 48 = d := by decide

theorem digit_ne_zero : ∀ d < 10, d ≠ 0 → UInt8.ofNat (48 + d) ≠ 0x30 := by decide

/-- The digits of a number: its last digit behind the digits of the rest. -/
theorem decimalDigits_eq : ∀ (fuel v : Nat) (rest : Bytes), v < fuel →
    Bytes.decimalDigits fuel v rest = Bytes.decimalNat v ++ rest
  | fuel + 1, v, rest, h => by
    rw [Bytes.decimalNat, Bytes.decimalDigits, Bytes.decimalDigits]
    split
    · rfl
    · have hlt : v / 10 < v := by omega
      rw [decimalDigits_eq fuel (v / 10) _ (by omega), decimalDigits_eq v (v / 10) _ hlt]
      simp

theorem decimalNat_of_lt {v : Nat} (h : v < 10) : Bytes.decimalNat v = [UInt8.ofNat (48 + v)] := by
  rw [Bytes.decimalNat, Bytes.decimalDigits, if_pos h, Nat.mod_eq_of_lt h]

theorem decimalNat_of_le {v : Nat} (h : 10 ≤ v) :
    Bytes.decimalNat v = Bytes.decimalNat (v / 10) ++ [UInt8.ofNat (48 + v % 10)] := by
  rw [Bytes.decimalNat, Bytes.decimalDigits, if_neg (by omega), decimalDigits_eq _ _ _ (by omega)]

/-- A property of all digit strings, by the last digit. -/
theorem decimalNat_induction {p : Nat → Bytes → Prop}
    (last : ∀ v < 10, p v [UInt8.ofNat (48 + v)])
    (more : ∀ v, 10 ≤ v → p (v / 10) (Bytes.decimalNat (v / 10)) →
      p v (Bytes.decimalNat (v / 10) ++ [UInt8.ofNat (48 + v % 10)])) (v : Nat) :
    p v (Bytes.decimalNat v) := by
  induction v using Nat.strongRecOn with
  | ind v ih =>
    by_cases h : v < 10
    · rw [decimalNat_of_lt h]; exact last v h
    · rw [decimalNat_of_le (by omega)]; exact more v (by omega) (ih (v / 10) (by omega))

theorem isDigit_of_mem_decimalNat (v : Nat) : ∀ c ∈ Bytes.decimalNat v, isDigit c = true := by
  refine decimalNat_induction (p := fun _ s => ∀ c ∈ s, isDigit c = true) (fun v h c hc => ?_)
    (fun v _ ih c hc => ?_) v
  · rw [List.mem_singleton.mp hc]; exact isDigit_digit v h
  · rcases List.mem_append.mp hc with hc | hc
    · exact ih c hc
    · rw [List.mem_singleton.mp hc]; exact isDigit_digit _ (Nat.mod_lt _ (by decide))

theorem digitsValue_append (s : Bytes) (c : UInt8) :
    digitsValue (s ++ [c]) = 10 * digitsValue s + (c.toNat - 48) := by
  simp [digitsValue]

theorem digitsValue_decimalNat (v : Nat) : digitsValue (Bytes.decimalNat v) = v := by
  refine decimalNat_induction (p := fun v s => digitsValue s = v) (fun v h => ?_)
    (fun v _ ih => ?_) v
  · have := digitsValue_append [] (UInt8.ofNat (48 + v))
    rw [List.nil_append] at this
    rw [this, toNat_digit v h]
    simp [digitsValue]
  · rw [digitsValue_append, ih, toNat_digit _ (Nat.mod_lt _ (by decide))]
    omega

theorem decimalNat_ne_nil (v : Nat) : Bytes.decimalNat v ≠ [] :=
  decimalNat_induction (p := fun _ s => s ≠ []) (fun _ _ => by simp) (fun _ _ _ => by simp) v

/-- No zero stands in front, but for zero itself. -/
theorem head?_decimalNat {v : Nat} : v ≠ 0 → (Bytes.decimalNat v).head? ≠ some 0x30 := by
  refine decimalNat_induction (p := fun v s => v ≠ 0 → s.head? ≠ some 0x30) (fun v h hv => ?_)
    (fun v h ih hv => ?_) v
  · simpa using digit_ne_zero v h hv
  · rw [List.head?_append_of_ne_nil _ (decimalNat_ne_nil _)]
    exact ih (by omega)

/-- The whole part of a number: digits, and no zero in front of others. -/
structure IsWhole (digits : Bytes) : Prop where
  ne_nil : digits ≠ []
  isDigit : ∀ c ∈ digits, isDigit c = true
  head? : digits.length > 1 → digits.head? ≠ some 0x30

theorem isWhole_decimalNat (v : Nat) : IsWhole (Bytes.decimalNat v) := by
  refine ⟨decimalNat_ne_nil v, isDigit_of_mem_decimalNat v,
    fun hlen => head?_decimalNat fun hv => ?_⟩
  rw [hv] at hlen
  revert hlen
  decide

/-- What may follow a number: neither a digit nor a point nor an exponent. -/
def EndsNumber (r : Bytes) : Prop :=
  ∀ c ∈ r.head?, isDigit c = false ∧ c ≠ 0x2e ∧ c ≠ 0x65 ∧ c ≠ 0x45

theorem span_digits {digits r : Bytes} (hdigits : ∀ c ∈ digits, isDigit c = true)
    (hr : ∀ c ∈ r.head?, isDigit c = false) :
    (digits ++ r).takeWhile isDigit = digits ∧ (digits ++ r).dropWhile isDigit = r := by
  rw [List.takeWhile_append_of_pos hdigits, List.dropWhile_append_of_pos hdigits]
  cases r with
  | nil => simp
  | cons c r =>
    have hc := hr c rfl
    simp [hc]

theorem numberValue?_nat {v : Nat} (h : v < 2 ^ 64) :
    numberValue? false (Bytes.decimalNat v) [] none = some (.int v) := by
  have hwhole : (([] : Bytes).isEmpty && (none : Option Int).isNone) = true := rfl
  unfold numberValue?
  dsimp only
  have hfits : v < Nat.pow 2 64 := h
  rw [digitsValue_decimalNat, if_pos hwhole, if_neg Bool.false_ne_true, if_pos hfits]

theorem numberValue?_neg {v : Nat} (h : v ≤ 2 ^ 63) :
    numberValue? true (Bytes.decimalNat v) [] none = some (.int (-(v : Int))) := by
  have hwhole : (([] : Bytes).isEmpty && (none : Option Int).isNone) = true := rfl
  unfold numberValue?
  dsimp only
  have hfits : v ≤ Nat.pow 2 63 := h
  rw [digitsValue_decimalNat, if_pos hwhole, if_pos rfl, if_pos hfits]

theorem fraction?_of_endsNumber {r : Bytes} (h : EndsNumber r) : fraction? r = some ([], r) := by
  unfold fraction?
  split
  · exact absurd rfl (h 0x2e rfl).2.1
  · rfl

theorem scale?_of_endsNumber {r : Bytes} (h : EndsNumber r) : scale? r = some (none, r) := by
  unfold scale?
  split
  · exact absurd rfl (h 0x65 rfl).2.2.1
  · exact absurd rfl (h 0x45 rfl).2.2.2
  · rfl

/-- A number is read part by part. -/
theorem unsigned?_parts {negative : Bool} {whole fraction r r' r'' : Bytes} {e : Option Int}
    (hwhole : IsWhole whole) (hr : ∀ c ∈ r.head?, isDigit c = false)
    (hfraction : fraction? r = some (fraction, r')) (hscale : scale? r' = some (e, r'')) :
    unsigned? negative (whole ++ r) = (numberValue? negative whole fraction e).map (·, r'') := by
  obtain ⟨htake, hdrop⟩ := span_digits hwhole.isDigit hr
  have hfits : (whole.isEmpty || (decide (whole.length > 1) && whole.head? == some 0x30)) =
      false := by
    have hne := hwhole.ne_nil
    by_cases h : whole.length > 1
    · simp [hne, hwhole.head? h]
    · simp [hne, h]
  simp only [unsigned?, htake, hdrop, hfits, hfraction, hscale, Option.bind_eq_bind,
    Option.bind_some]
  cases numberValue? negative whole fraction e <;> rfl

/-- Digits that nothing continues are read as a whole number. -/
theorem unsigned?_decimalNat (negative : Bool) (v : Nat) {r : Bytes} (hr : EndsNumber r) :
    unsigned? negative (Bytes.decimalNat v ++ r) =
      (numberValue? negative (Bytes.decimalNat v) [] none).map (·, r) :=
  unsigned?_parts (isWhole_decimalNat v) (fun c hc => (hr c hc).1) (fraction?_of_endsNumber hr)
    (scale?_of_endsNumber hr)

theorem decimalNat_ne_minus (v : Nat) (r s : Bytes) : Bytes.decimalNat v ++ r ≠ 0x2d :: s := by
  intro h
  cases hd : Bytes.decimalNat v with
  | nil => exact decimalNat_ne_nil v hd
  | cons c ds =>
    have hc := isDigit_of_mem_decimalNat v c (by rw [hd]; simp)
    rw [hd, List.cons_append, List.cons.injEq] at h
    rw [h.1] at hc
    cases hc

/-- **An integer that fits in 64 bits reads back**, with or without a sign. -/
theorem number?_decimal {n : Int} (hlow : -2 ^ 63 ≤ n) (hhigh : n < 2 ^ 64) {r : Bytes}
    (hr : EndsNumber r) : number? (Bytes.decimal n ++ r) = some (.int n, r) := by
  cases n with
  | ofNat v =>
    have hv : v < 2 ^ 64 := by
      have : (v : Int) < 2 ^ 64 := hhigh
      omega
    rw [Bytes.decimal]
    unfold number?
    split
    · next h => exact absurd h (decimalNat_ne_minus v r _)
    · rw [unsigned?_decimalNat false v hr, numberValue?_nat hv]
      rfl
  | negSucc v =>
    have hv : v + 1 ≤ 2 ^ 63 := by omega
    rw [Bytes.decimal, List.cons_append, number?, unsigned?_decimalNat true (v + 1) hr,
      numberValue?_neg hv]
    rfl

end WalletResponder.Json
