import WalletResponder.Bytes

/-!
# Pieces of one size

A byte string that is joined from pieces of `n` bytes each is as long as they are together
(`Bytes.length_flatMap_of_size`), and a piece is found where the pieces before it end
(`Bytes.piece_flatMap_of_size`).
-/

namespace WalletResponder.Bytes

variable {α : Type} {f : α → Bytes} {n : Nat} (h : ∀ a, (f a).length = n)

include h

theorem length_flatMap_of_size : ∀ l : List α, (l.flatMap f).length = n * l.length
  | [] => rfl
  | a :: l => by
    rw [List.flatMap_cons, List.length_append, h, length_flatMap_of_size l, List.length_cons,
      Nat.mul_succ, Nat.add_comm]

/-- Pieces are left out by leaving out their bytes. -/
theorem drop_flatMap_of_size : ∀ (k : Nat) (l : List α),
    (l.flatMap f).drop (n * k) = (l.drop k).flatMap f
  | 0, _ => rfl
  | _ + 1, [] => List.drop_nil
  | k + 1, a :: l => by
    rw [List.flatMap_cons, Nat.mul_succ, Nat.add_comm, ← List.drop_drop, List.drop_left' (h a),
      drop_flatMap_of_size k l, List.drop_succ_cons]

/-- **Where a piece is.** -/
theorem piece_flatMap_of_size {l : List α} {k : Nat} (hk : k < l.length) :
    ((l.flatMap f).drop (n * k)).take n = f l[k] := by
  rw [drop_flatMap_of_size h, List.drop_eq_getElem_cons hk, List.flatMap_cons,
    List.take_left' (h _)]

end WalletResponder.Bytes
