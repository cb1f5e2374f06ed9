import WalletResponder.Text.Base64Url

/-!
# Reading base64url back

What is written reads back (`decode_encode`). The characters of a text are those of a list of
sextets, each below 64, and the alphabet tells sextets apart. The dot is not in the alphabet, so
parts in base64url can be joined by dots and found again.
-/

namespace WalletResponder.Base64Url

theorem sextet?_character : ∀ v < 64, sextet? (character v) = some v := by decide

/-- The characters of the alphabet are neither dots nor anything else that is not in it. -/
theorem character_ne_dot : ∀ v < 64, character v ≠ 0x2e := by decide

/-- The sextets that bytes are written with. -/
def sextets : Bytes → List Nat
  | [] => []
  | [a] => [a.toNat / 4, a.toNat % 4 * 16]
  | [a, b] => [a.toNat / 4, a.toNat % 4 * 16 + b.toNat / 16, b.toNat % 16 * 4]
  | a :: b :: c :: r =>
    a.toNat / 4 :: (a.toNat % 4 * 16 + b.toNat / 16) :: (b.toNat % 16 * 4 + c.toNat / 64) ::
      c.toNat % 64 :: sextets r

theorem encode_eq_map : ∀ b, encode b = (sextets b).map character
  | [] => rfl
  | [_] => rfl
  | [_, _] => rfl
  | _ :: _ :: _ :: r => by simp [encode, sextets, encode_eq_map r]

theorem lt_of_mem_sextets : ∀ {b : Bytes} {v : Nat}, v ∈ sextets b → v < 64
  | [], _, h => by simp [sextets] at h
  | [a], _, h => by
    have ha := a.toNat_lt
    simp only [sextets, List.mem_cons, List.not_mem_nil, or_false] at h
    omega
  | [a, b], _, h => by
    have ha := a.toNat_lt
    have hb := b.toNat_lt
    simp only [sextets, List.mem_cons, List.not_mem_nil, or_false] at h
    omega
  | a :: b :: c :: r, _, h => by
    have ha := a.toNat_lt
    have hb := b.toNat_lt
    have hc := c.toNat_lt
    simp only [sextets, List.mem_cons] at h
    rcases h with h | h | h | h | h
    · omega
    · omega
    · omega
    · omega
    · exact lt_of_mem_sextets h

theorem length_sextets_mod : ∀ b, (sextets b).length % 4 ≠ 1
  | [] => by decide
  | [_] => by simp [sextets]
  | [_, _] => by simp [sextets]
  | _ :: _ :: _ :: r => by
    have := length_sextets_mod r
    simp only [sextets, List.length_cons]
    omega

theorem ofNat_eq {v : Nat} {a : UInt8} (h : v % 256 = a.toNat) : UInt8.ofNat v = a := by
  rw [← UInt8.toNat_inj, UInt8.toNat_ofNat']; exact h

/-- The sextets make up the bytes again: the first two bits of a byte end one sextet, the others
begin the next. -/
theorem ofSextets_sextets : ∀ b, ofSextets (sextets b) = b
  | [] => rfl
  | [a] => by
    have ha := a.toNat_lt
    rw [sextets, ofSextets, ofNat_eq (a := a) (by omega)]
  | [a, b] => by
    have ha := a.toNat_lt
    have hb := b.toNat_lt
    rw [sextets, ofSextets, ofNat_eq (a := a) (by omega), ofNat_eq (a := b) (by omega)]
  | a :: b :: c :: r => by
    have ha := a.toNat_lt
    have hb := b.toNat_lt
    have hc := c.toNat_lt
    rw [sextets, ofSextets, ofSextets_sextets r, ofNat_eq (a := a) (by omega),
      ofNat_eq (a := b) (by omega), ofNat_eq (a := c) (by omega)]

theorem filterMap_character : ∀ {l : List Nat}, (∀ v ∈ l, v < 64) →
    (l.map character).filterMap sextet? = l
  | [], _ => rfl
  | v :: l, h => by
    rw [List.map_cons, List.filterMap_cons_some (sextet?_character v (h v (by simp))),
      filterMap_character fun u hu => h u (by simp [hu])]

/-- A text of characters is read by their sextets. -/
theorem decode_map_character {l : List Nat} (h : ∀ v ∈ l, v < 64) :
    decode (l.map character) =
      if l.length % 4 = 1 then .error .badLength else .ok (ofSextets l) := by
  have hall : (l.map character).all isCharacter = true := by
    rw [List.all_eq_true]
    intro c hc
    obtain ⟨v, hv, rfl⟩ := List.mem_map.mp hc
    rw [isCharacter, sextet?_character v (h v hv)]
    rfl
  rw [decode, List.length_map, if_pos hall, filterMap_character h]

/-- **What is written reads back.** -/
theorem decode_encode (b : Bytes) : decode (encode b) = .ok b := by
  rw [encode_eq_map, decode_map_character fun v => lt_of_mem_sextets, if_neg (length_sextets_mod b),
    ofSextets_sextets]

theorem encode_ne_dot (b : Bytes) : 0x2e ∉ encode b := by
  rw [encode_eq_map]
  intro h
  obtain ⟨v, hv, hdot⟩ := List.mem_map.mp h
  exact character_ne_dot v (lt_of_mem_sextets hv) hdot

end WalletResponder.Base64Url
