import WalletResponder.Bytes

/-!
# Words and blocks of a message

Hash functions read a message as big-endian words, sixteen to a block, after padding it to whole
blocks: a one bit, zeros, and the length of the message in bits.
-/

namespace WalletResponder

/-- The first `k` pieces of `n` items. -/
def pieces {α : Type} (n : Nat) : Nat → List α → List (List α)
  | 0, _ => []
  | k + 1, s => s.take n :: pieces n k (s.drop n)

/-- Big-endian words of 32 bits. -/
def words32 : Bytes → List UInt32
  | a :: b :: c :: d :: r =>
    ((a.toUInt32 <<< 24) ||| (b.toUInt32 <<< 16) ||| (c.toUInt32 <<< 8) ||| d.toUInt32) :: words32 r
  | _ => []

/-- The bytes of a word of 32 bits. -/
def bytes32 (w : UInt32) : Bytes :=
  [(w >>> 24).toUInt8, (w >>> 16).toUInt8, (w >>> 8).toUInt8, w.toUInt8]

/-- The message with a one bit, zeros and its length in bits, up to whole blocks of 64 bytes. -/
def padTo64 (m : Bytes) : Bytes :=
  m ++ 0x80 :: (List.replicate ((119 - m.length % 64) % 64) 0 ++ Bytes.ofNat 8 (8 * m.length))

/-- Big-endian words of 64 bits. -/
def words64 : Bytes → List UInt64
  | a :: b :: c :: d :: e :: f :: g :: h :: r =>
    ((a.toUInt64 <<< 56) ||| (b.toUInt64 <<< 48) ||| (c.toUInt64 <<< 40) ||| (d.toUInt64 <<< 32) |||
      (e.toUInt64 <<< 24) ||| (f.toUInt64 <<< 16) ||| (g.toUInt64 <<< 8) ||| h.toUInt64) ::
      words64 r
  | _ => []

/-- The bytes of a word of 64 bits. -/
def bytes64 (w : UInt64) : Bytes :=
  [(w >>> 56).toUInt8, (w >>> 48).toUInt8, (w >>> 40).toUInt8, (w >>> 32).toUInt8,
    (w >>> 24).toUInt8, (w >>> 16).toUInt8, (w >>> 8).toUInt8, w.toUInt8]

/-- The message with a one bit, zeros and its length in bits, up to whole blocks of 128 bytes. -/
def padTo128 (m : Bytes) : Bytes :=
  m ++ 0x80 :: (List.replicate ((239 - m.length % 128) % 128) 0 ++ Bytes.ofNat 16 (8 * m.length))

end WalletResponder
