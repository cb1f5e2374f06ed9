import Mathlib.Data.Finite.Prod
import Mathlib.Data.Fintype.Card
import Mathlib.Data.List.Basic
import WalletResponder.Crypto.Aes
import WalletResponder.Proofs.Bytes.Pieces

/-!
# Undoing AES

Each step of a round is undone by its counterpart: the substitution by its table read backwards, the
shift by a shift, and the mix by the inverse matrix, which is a matter of doubling being additive.
So a block comes back from its encryption under the same round keys, whatever they are
(`Aes.decrypt_encrypt`). As there are finitely many blocks, encryption is a permutation of them, and
a block comes back from its decryption as well (`Aes.encrypt_decrypt`).
-/

namespace WalletResponder

namespace Column

instance : Finite Column := by
  refine Finite.of_injective (fun x : Column => (x.a.toFin, x.b.toFin, x.c.toFin, x.d.toFin)) ?_
  rintro ⟨a, b, c, d⟩ ⟨a', b', c', d'⟩ h
  simpa [UInt8.toFin_inj] using h

theorem xor_xor (x y : Column) : (x.xor y).xor y = x := by
  simp only [xor, UInt8.xor_assoc, UInt8.xor_self, UInt8.xor_zero]

theorem map_map_of_inverse {f g : UInt8 → UInt8} (h : ∀ b, g (f b) = b) (x : Column) :
    (x.map f).map g = x := by
  simp [map, h]

end Column

namespace Block

instance : Finite Block := by
  refine Finite.of_injective (fun x : Block => (x.p, x.q, x.r, x.s)) ?_
  rintro ⟨p, q, r, s⟩ ⟨p', q', r', s'⟩ h
  simpa using h

theorem xor_xor (x y : Block) : (x.xor y).xor y = x := by
  simp [xor, Column.xor_xor]

theorem map_map_of_inverse {f g : UInt8 → UInt8} (h : ∀ b, g (f b) = b) (x : Block) :
    (x.map f).map g = x := by
  simp [map, Column.map_map_of_inverse h]

theorem length_toBytes (x : Block) : x.toBytes.length = 16 := rfl

/-! ### Blocks and their bytes -/

theorem ofBytes_append (x : Block) (s : Bytes) : ofBytes (x.toBytes ++ s) = x :: ofBytes s := rfl

theorem ofBytes_flatMap_toBytes : ∀ xs : List Block, ofBytes (xs.flatMap toBytes) = xs
  | [] => rfl
  | x :: xs => by rw [List.flatMap_cons, ofBytes_append, ofBytes_flatMap_toBytes xs]

theorem length_flatMap_toBytes (xs : List Block) : (xs.flatMap toBytes).length = 16 * xs.length :=
  Bytes.length_flatMap_of_size length_toBytes xs

/-- Sixteen bytes are those of a block. -/
theorem exists_of_length {s : Bytes} (h : s.length = 16) : ∃ x : Block, s = x.toBytes := by
  match s, h with
  | [a, b, c, d, e, f, g, i, j, k, l, m, n, o, p, q], _ =>
    exact ⟨⟨⟨a, b, c, d⟩, ⟨e, f, g, i⟩, ⟨j, k, l, m⟩, ⟨n, o, p, q⟩⟩, rfl⟩

/-- The bytes of whole blocks come back. -/
theorem flatMap_toBytes_ofBytes : ∀ (n : Nat) (s : Bytes), s.length = 16 * n →
    (ofBytes s).flatMap toBytes = s
  | 0, s, h => by
    rw [List.eq_nil_of_length_eq_zero h]
    rfl
  | n + 1, s, h => by
    obtain ⟨x, hx⟩ := exists_of_length (s := s.take 16) (by rw [List.length_take]; omega)
    have hs : s = x.toBytes ++ s.drop 16 := by rw [← hx, List.take_append_drop]
    rw [hs, ofBytes_append, List.flatMap_cons,
      flatMap_toBytes_ofBytes n (s.drop 16) (by rw [List.length_drop]; omega)]

theorem toBytes_first {s : Bytes} (h : s.length = 16) : (first s).toBytes = s := by
  obtain ⟨x, rfl⟩ := exists_of_length h
  rfl

theorem first_toBytes (x : Block) : first x.toBytes = x := rfl

end Block

namespace Aes

/-! ### The steps of a round -/

theorem unsub_sub (b : UInt8) : unsub (sub b) = b := by
  have h : ∀ n < 256, unsub (sub (UInt8.ofNat n)) = UInt8.ofNat n := by decide +kernel
  rw [← UInt8.ofNat_toNat (x := b)]
  exact h b.toNat b.toNat_lt

theorem unshift_shift (x : Block) : unshift (shift x) = x := rfl

/-- What the top bit of a byte adds to its double. -/
def carry (b : UInt8) : UInt8 := if b = 0 then 0 else 0x1b

theorem double_eq (b : UInt8) : double b = (b <<< 1) ^^^ carry (b >>> 7) := by
  have h : ∀ n < 256, double (UInt8.ofNat n) =
      (UInt8.ofNat n <<< 1) ^^^ carry (UInt8.ofNat n >>> 7) := by decide +kernel
  rw [← UInt8.ofNat_toNat (x := b)]
  exact h b.toNat b.toNat_lt

theorem topBit (b : UInt8) : b >>> 7 = 0 ∨ b >>> 7 = 1 := by
  have h : ∀ n < 256, UInt8.ofNat n >>> 7 = 0 ∨ UInt8.ofNat n >>> 7 = 1 := by decide +kernel
  rw [← UInt8.ofNat_toNat (x := b)]
  exact h b.toNat b.toNat_lt

theorem carry_xor {a b : UInt8} (ha : a = 0 ∨ a = 1) (hb : b = 0 ∨ b = 1) :
    carry (a ^^^ b) = carry a ^^^ carry b := by
  rcases ha with rfl | rfl <;> rcases hb with rfl | rfl <;> decide

/-- Doubling is additive. -/
theorem double_xor (a b : UInt8) : double (a ^^^ b) = double a ^^^ double b := by
  rw [double_eq, double_eq, double_eq, UInt8.shiftLeft_xor, UInt8.shiftRight_xor,
    carry_xor (topBit a) (topBit b)]
  ac_rfl

theorem mixColumn_xor (x y : Column) : mixColumn (x.xor y) = (mixColumn x).xor (mixColumn y) := by
  simp only [mixColumn, Column.xor, double_xor, Column.mk.injEq]
  refine ⟨?_, ?_, ?_, ?_⟩ <;> ac_rfl

theorem times_xor (a b : UInt8) : times9 (a ^^^ b) = times9 a ^^^ times9 b ∧
    times11 (a ^^^ b) = times11 a ^^^ times11 b ∧ times13 (a ^^^ b) = times13 a ^^^ times13 b ∧
    times14 (a ^^^ b) = times14 a ^^^ times14 b := by
  simp only [times9, times11, times13, times14, double_xor]
  refine ⟨?_, ?_, ?_, ?_⟩ <;> ac_rfl

theorem unmixColumn_xor (x y : Column) :
    unmixColumn (x.xor y) = (unmixColumn x).xor (unmixColumn y) := by
  simp only [unmixColumn, Column.xor, times_xor, Column.mk.injEq]
  refine ⟨?_, ?_, ?_, ?_⟩ <;> ac_rfl

theorem double_zero : double 0 = 0 := by decide

theorem xor_left_comm (a b c : UInt8) : a ^^^ (b ^^^ c) = b ^^^ (a ^^^ c) := by
  rw [← UInt8.xor_assoc, UInt8.xor_comm a b, UInt8.xor_assoc]

theorem xor_cancel_left (a b : UInt8) : a ^^^ (a ^^^ b) = b := by
  rw [← UInt8.xor_assoc, UInt8.xor_self, UInt8.zero_xor]

/-- The two matrices are inverse to each other on a column with one byte: in its place all multiples
of it but one cancel, elsewhere all of them. -/
theorem unmixColumn_mixColumn_single (a : UInt8) :
    unmixColumn (mixColumn ⟨a, 0, 0, 0⟩) = ⟨a, 0, 0, 0⟩ ∧
    unmixColumn (mixColumn ⟨0, a, 0, 0⟩) = ⟨0, a, 0, 0⟩ ∧
    unmixColumn (mixColumn ⟨0, 0, a, 0⟩) = ⟨0, 0, a, 0⟩ ∧
    unmixColumn (mixColumn ⟨0, 0, 0, a⟩) = ⟨0, 0, 0, a⟩ := by
  simp only [unmixColumn, mixColumn, times9, times11, times13, times14, double_xor, double_zero,
    UInt8.zero_xor, UInt8.xor_zero, Column.mk.injEq]
  simp only [UInt8.xor_assoc, UInt8.xor_comm, xor_left_comm, UInt8.xor_self, xor_cancel_left,
    UInt8.xor_zero, UInt8.zero_xor, and_self]

/-- The two matrices are inverse to each other. -/
theorem unmixColumn_mixColumn (x : Column) : unmixColumn (mixColumn x) = x := by
  have hx : x = (Column.xor ⟨x.a, 0, 0, 0⟩ ⟨0, x.b, 0, 0⟩).xor
      (Column.xor ⟨0, 0, x.c, 0⟩ ⟨0, 0, 0, x.d⟩) := by
    simp [Column.xor]
  rw [hx]
  simp only [mixColumn_xor, unmixColumn_xor]
  rw [(unmixColumn_mixColumn_single x.a).1, (unmixColumn_mixColumn_single x.b).2.1,
    (unmixColumn_mixColumn_single x.c).2.2.1, (unmixColumn_mixColumn_single x.d).2.2.2]

theorem unmix_mix (x : Block) : unmix (mix x) = x := by
  simp [unmix, mix, unmixColumn_mixColumn]

/-! ### The cipher -/

theorem unrounds_rounds : ∀ (keys : List Block) (x : Block), unrounds (rounds x keys) keys = x
  | [], x => rfl
  | [k], x => by
    rw [rounds, unrounds, Block.xor_xor, unshift_shift, Block.map_map_of_inverse unsub_sub]
  | k :: k' :: ks, x => by
    rw [rounds, unrounds, unrounds_rounds (k' :: ks), Block.xor_xor, unmix_mix, unshift_shift,
      Block.map_map_of_inverse unsub_sub]

/-- **A block comes back from its encryption.** -/
theorem decrypt_encrypt (keys : List Block) (x : Block) : decrypt keys (encrypt keys x) = x := by
  cases keys with
  | nil => rfl
  | cons k ks => rw [encrypt, decrypt, unrounds_rounds, Block.xor_xor]

/-- **Encryption is a permutation of the blocks**, so a block comes back from its decryption. -/
theorem encrypt_decrypt (keys : List Block) (y : Block) : encrypt keys (decrypt keys y) = y := by
  have hleft : Function.LeftInverse (decrypt keys) (encrypt keys) := decrypt_encrypt keys
  have hsurjective : Function.Surjective (encrypt keys) :=
    Finite.injective_iff_surjective.mp hleft.injective
  exact hleft.rightInverse_of_surjective hsurjective y

end Aes
end WalletResponder
