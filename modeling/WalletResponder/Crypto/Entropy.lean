import WalletResponder.Crypto.Hash

/-!
# Randomness

Every operation that draws random numbers takes them from an argument: an endless sequence of bytes.
`Entropy.left` and `Entropy.right` share one sequence out between two operations, which then never
read the same byte; `Entropy.part` shares it out among any number of them. What is stated for every
sequence holds whatever is drawn.
-/

namespace WalletResponder

/-- An endless sequence of random bytes. -/
abbrev Entropy := Nat → UInt8

namespace Entropy

/-- The bytes at even places. -/
def left (e : Entropy) : Entropy := fun i => e (2 * i)

/-- The bytes at odd places. -/
def right (e : Entropy) : Entropy := fun i => e (2 * i + 1)

/-- The sequence with number `i` of endlessly many: the bytes on the diagonals of a square, of which
each sequence is a row. -/
def part (i : Nat) (e : Entropy) : Entropy := fun j => e ((i + j) * (i + j + 1) / 2 + j)

/-- The first `n` bytes. -/
def take (n : Nat) (e : Entropy) : Bytes := (List.range n).map e

/-- A number from `1` to `bound - 1`, from eight bytes more than the bound has. -/
def below (bound : Nat) (e : Entropy) : Nat :=
  Bytes.toNat (e.take (Bytes.width bound + 8)) % (bound - 1) + 1

/-- The sequence that a seed expands to: the hashes of the seed and a counter. -/
def ofSeed (seed : Bytes) : Entropy := fun i =>
  (Sha256.digest (seed ++ Bytes.ofNatMin (i / 32 + 1))).getD (i % 32) 0

theorem length_take (n : Nat) (e : Entropy) : (e.take n).length = n := by simp [take]

end Entropy
end WalletResponder
