import WalletResponder.Crypto.Rsa.Basic
import WalletResponder.Proofs.Bytes.Pieces

/-!
# Hashes and masks

The sizes of hashes and of what is made of them, and what is put over bytes and taken off again.
-/

namespace WalletResponder

namespace Bytes

theorem length_xor (a b : Bytes) : (Bytes.xor a b).length = min a.length b.length :=
  List.length_zipWith

/-- **A mask that is put on twice is off**, if it covers all of the bytes. -/
theorem xor_xor : ∀ {a b : Bytes}, a.length ≤ b.length → Bytes.xor (Bytes.xor a b) b = a
  | [], _, _ => rfl
  | x :: a, y :: b, h => by
    have ih := xor_xor (a := a) (b := b) (by simpa using h)
    simp only [Bytes.xor, List.zipWith_cons_cons] at ih ⊢
    rw [ih, UInt8.xor_assoc, UInt8.xor_self, UInt8.xor_zero]

end Bytes

namespace Hash

theorem length_digest (h : Hash) (m : Bytes) : (h.digest m).length = h.size := by
  cases h <;> rfl

theorem length_hmac (h : Hash) (key message : Bytes) : (h.hmac key message).length = h.size :=
  h.length_digest _

theorem size_pos (h : Hash) : 0 < h.size := by
  cases h <;> decide

/-- A mask has as many bytes as are asked for. -/
theorem length_mask (h : Hash) (seed : Bytes) (n : Nat) : (h.mask seed n).length = n := by
  have hsize : ∀ i, (h.digest (seed ++ Bytes.ofNat 4 i)).length = h.size := fun i =>
    h.length_digest _
  rw [mask, List.length_take, Bytes.length_flatMap_of_size hsize, List.length_range,
    Nat.min_eq_left]
  have hround := Nat.div_add_mod (n + h.size - 1) h.size
  have hmod := Nat.mod_lt (n + h.size - 1) h.size_pos
  omega

end Hash
end WalletResponder
