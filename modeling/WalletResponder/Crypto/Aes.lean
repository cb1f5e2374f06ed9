import WalletResponder.Bytes

/-!
# AES

The block cipher on sixteen bytes, written as four columns of four. A round substitutes each byte,
shifts the rows, mixes the columns and adds a round key; the last round does not mix.

**Decryption is the encryption read backwards.** `Aes.unrounds` peels off the rounds in the opposite
order, each step by the step that undoes it, so that a block encrypted with a list of round keys and
decrypted with the same list is the block itself, whatever the keys are.
-/

namespace WalletResponder

/-- Four bytes. -/
structure Column where
  (a b c d : UInt8)
  deriving DecidableEq, Repr, Inhabited

/-- Sixteen bytes. -/
structure Block where
  (p q r s : Column)
  deriving DecidableEq, Repr, Inhabited

namespace Column

/-- Applies a function to each byte. -/
def map (f : UInt8 → UInt8) (x : Column) : Column := ⟨f x.a, f x.b, f x.c, f x.d⟩

/-- Bytewise exclusive or. -/
def xor (x y : Column) : Column := ⟨x.a ^^^ y.a, x.b ^^^ y.b, x.c ^^^ y.c, x.d ^^^ y.d⟩

/-- The bytes in order. -/
def toBytes (x : Column) : Bytes := [x.a, x.b, x.c, x.d]

/-- Groups of four bytes; what is left over is dropped. -/
def ofBytes : Bytes → List Column
  | a :: b :: c :: d :: r => ⟨a, b, c, d⟩ :: ofBytes r
  | _ => []

end Column

namespace Block

/-- Applies a function to each byte. -/
def map (f : UInt8 → UInt8) (x : Block) : Block := ⟨x.p.map f, x.q.map f, x.r.map f, x.s.map f⟩

/-- Bytewise exclusive or. -/
def xor (x y : Block) : Block := ⟨x.p.xor y.p, x.q.xor y.q, x.r.xor y.r, x.s.xor y.s⟩

/-- Sixteen zeros. -/
def zero : Block := ⟨⟨0, 0, 0, 0⟩, ⟨0, 0, 0, 0⟩, ⟨0, 0, 0, 0⟩, ⟨0, 0, 0, 0⟩⟩

/-- The bytes in order. -/
def toBytes (x : Block) : Bytes := x.p.toBytes ++ (x.q.toBytes ++ (x.r.toBytes ++ x.s.toBytes))

/-- Groups of four columns; what is left over is dropped. -/
def ofColumns : List Column → List Block
  | p :: q :: r :: s :: rest => ⟨p, q, r, s⟩ :: ofColumns rest
  | _ => []

/-- The whole blocks of a byte string; what is left over is dropped. -/
def ofBytes (b : Bytes) : List Block := ofColumns (Column.ofBytes b)

/-- The first block of a byte string, filled with zeros when it is shorter. -/
def first (b : Bytes) : Block := (ofBytes (b ++ List.replicate (16 - b.length) 0)).headD zero

end Block

namespace Aes

/-- The substitution of bytes. -/
def substitution : Array UInt8 :=
  #[0x63, 0x7c, 0x77, 0x7b, 0xf2, 0x6b, 0x6f, 0xc5, 0x30, 0x01, 0x67, 0x2b, 0xfe, 0xd7,
    0xab, 0x76, 0xca, 0x82, 0xc9, 0x7d, 0xfa, 0x59, 0x47, 0xf0, 0xad, 0xd4, 0xa2, 0xaf,
    0x9c, 0xa4, 0x72, 0xc0, 0xb7, 0xfd, 0x93, 0x26, 0x36, 0x3f, 0xf7, 0xcc, 0x34, 0xa5,
    0xe5, 0xf1, 0x71, 0xd8, 0x31, 0x15, 0x04, 0xc7, 0x23, 0xc3, 0x18, 0x96, 0x05, 0x9a,
    0x07, 0x12, 0x80, 0xe2, 0xeb, 0x27, 0xb2, 0x75, 0x09, 0x83, 0x2c, 0x1a, 0x1b, 0x6e,
    0x5a, 0xa0, 0x52, 0x3b, 0xd6, 0xb3, 0x29, 0xe3, 0x2f, 0x84, 0x53, 0xd1, 0x00, 0xed,
    0x20, 0xfc, 0xb1, 0x5b, 0x6a, 0xcb, 0xbe, 0x39, 0x4a, 0x4c, 0x58, 0xcf, 0xd0, 0xef,
    0xaa, 0xfb, 0x43, 0x4d, 0x33, 0x85, 0x45, 0xf9, 0x02, 0x7f, 0x50, 0x3c, 0x9f, 0xa8,
    0x51, 0xa3, 0x40, 0x8f, 0x92, 0x9d, 0x38, 0xf5, 0xbc, 0xb6, 0xda, 0x21, 0x10, 0xff,
    0xf3, 0xd2, 0xcd, 0x0c, 0x13, 0xec, 0x5f, 0x97, 0x44, 0x17, 0xc4, 0xa7, 0x7e, 0x3d,
    0x64, 0x5d, 0x19, 0x73, 0x60, 0x81, 0x4f, 0xdc, 0x22, 0x2a, 0x90, 0x88, 0x46, 0xee,
    0xb8, 0x14, 0xde, 0x5e, 0x0b, 0xdb, 0xe0, 0x32, 0x3a, 0x0a, 0x49, 0x06, 0x24, 0x5c,
    0xc2, 0xd3, 0xac, 0x62, 0x91, 0x95, 0xe4, 0x79, 0xe7, 0xc8, 0x37, 0x6d, 0x8d, 0xd5,
    0x4e, 0xa9, 0x6c, 0x56, 0xf4, 0xea, 0x65, 0x7a, 0xae, 0x08, 0xba, 0x78, 0x25, 0x2e,
    0x1c, 0xa6, 0xb4, 0xc6, 0xe8, 0xdd, 0x74, 0x1f, 0x4b, 0xbd, 0x8b, 0x8a, 0x70, 0x3e,
    0xb5, 0x66, 0x48, 0x03, 0xf6, 0x0e, 0x61, 0x35, 0x57, 0xb9, 0x86, 0xc1, 0x1d, 0x9e,
    0xe1, 0xf8, 0x98, 0x11, 0x69, 0xd9, 0x8e, 0x94, 0x9b, 0x1e, 0x87, 0xe9, 0xce, 0x55,
    0x28, 0xdf, 0x8c, 0xa1, 0x89, 0x0d, 0xbf, 0xe6, 0x42, 0x68, 0x41, 0x99, 0x2d, 0x0f,
    0xb0, 0x54, 0xbb, 0x16]

/-- The substitution read backwards. -/
def inverseSubstitution : Array UInt8 :=
  #[0x52, 0x09, 0x6a, 0xd5, 0x30, 0x36, 0xa5, 0x38, 0xbf, 0x40, 0xa3, 0x9e, 0x81, 0xf3,
    0xd7, 0xfb, 0x7c, 0xe3, 0x39, 0x82, 0x9b, 0x2f, 0xff, 0x87, 0x34, 0x8e, 0x43, 0x44,
    0xc4, 0xde, 0xe9, 0xcb, 0x54, 0x7b, 0x94, 0x32, 0xa6, 0xc2, 0x23, 0x3d, 0xee, 0x4c,
    0x95, 0x0b, 0x42, 0xfa, 0xc3, 0x4e, 0x08, 0x2e, 0xa1, 0x66, 0x28, 0xd9, 0x24, 0xb2,
    0x76, 0x5b, 0xa2, 0x49, 0x6d, 0x8b, 0xd1, 0x25, 0x72, 0xf8, 0xf6, 0x64, 0x86, 0x68,
    0x98, 0x16, 0xd4, 0xa4, 0x5c, 0xcc, 0x5d, 0x65, 0xb6, 0x92, 0x6c, 0x70, 0x48, 0x50,
    0xfd, 0xed, 0xb9, 0xda, 0x5e, 0x15, 0x46, 0x57, 0xa7, 0x8d, 0x9d, 0x84, 0x90, 0xd8,
    0xab, 0x00, 0x8c, 0xbc, 0xd3, 0x0a, 0xf7, 0xe4, 0x58, 0x05, 0xb8, 0xb3, 0x45, 0x06,
    0xd0, 0x2c, 0x1e, 0x8f, 0xca, 0x3f, 0x0f, 0x02, 0xc1, 0xaf, 0xbd, 0x03, 0x01, 0x13,
    0x8a, 0x6b, 0x3a, 0x91, 0x11, 0x41, 0x4f, 0x67, 0xdc, 0xea, 0x97, 0xf2, 0xcf, 0xce,
    0xf0, 0xb4, 0xe6, 0x73, 0x96, 0xac, 0x74, 0x22, 0xe7, 0xad, 0x35, 0x85, 0xe2, 0xf9,
    0x37, 0xe8, 0x1c, 0x75, 0xdf, 0x6e, 0x47, 0xf1, 0x1a, 0x71, 0x1d, 0x29, 0xc5, 0x89,
    0x6f, 0xb7, 0x62, 0x0e, 0xaa, 0x18, 0xbe, 0x1b, 0xfc, 0x56, 0x3e, 0x4b, 0xc6, 0xd2,
    0x79, 0x20, 0x9a, 0xdb, 0xc0, 0xfe, 0x78, 0xcd, 0x5a, 0xf4, 0x1f, 0xdd, 0xa8, 0x33,
    0x88, 0x07, 0xc7, 0x31, 0xb1, 0x12, 0x10, 0x59, 0x27, 0x80, 0xec, 0x5f, 0x60, 0x51,
    0x7f, 0xa9, 0x19, 0xb5, 0x4a, 0x0d, 0x2d, 0xe5, 0x7a, 0x9f, 0x93, 0xc9, 0x9c, 0xef,
    0xa0, 0xe0, 0x3b, 0x4d, 0xae, 0x2a, 0xf5, 0xb0, 0xc8, 0xeb, 0xbb, 0x3c, 0x83, 0x53,
    0x99, 0x61, 0x17, 0x2b, 0x04, 0x7e, 0xba, 0x77, 0xd6, 0x26, 0xe1, 0x69, 0x14, 0x63,
    0x55, 0x21, 0x0c, 0x7d]

/-- Substitutes a byte. -/
def sub (b : UInt8) : UInt8 := substitution.getD b.toNat 0

/-- Undoes `sub`. -/
def unsub (b : UInt8) : UInt8 := inverseSubstitution.getD b.toNat 0

/-- Moves row `i` by `i` columns to the left. -/
def shift (x : Block) : Block :=
  ⟨⟨x.p.a, x.q.b, x.r.c, x.s.d⟩, ⟨x.q.a, x.r.b, x.s.c, x.p.d⟩,
    ⟨x.r.a, x.s.b, x.p.c, x.q.d⟩, ⟨x.s.a, x.p.b, x.q.c, x.r.d⟩⟩

/-- Moves row `i` by `i` columns to the right. -/
def unshift (x : Block) : Block :=
  ⟨⟨x.p.a, x.s.b, x.r.c, x.q.d⟩, ⟨x.q.a, x.p.b, x.s.c, x.r.d⟩,
    ⟨x.r.a, x.q.b, x.p.c, x.s.d⟩, ⟨x.s.a, x.r.b, x.q.c, x.p.d⟩⟩

/-- Doubles a byte, read as a polynomial modulo `x ^ 8 + x ^ 4 + x ^ 3 + x + 1`. -/
def double (b : UInt8) : UInt8 := (b <<< 1) ^^^ (if b < 0x80 then 0 else 0x1b)

/-- Multiplies a column by the matrix of rotations of 2, 3, 1, 1. -/
def mixColumn (x : Column) : Column :=
  ⟨double x.a ^^^ double x.b ^^^ x.b ^^^ x.c ^^^ x.d,
    x.a ^^^ double x.b ^^^ double x.c ^^^ x.c ^^^ x.d,
    x.a ^^^ x.b ^^^ double x.c ^^^ double x.d ^^^ x.d,
    double x.a ^^^ x.a ^^^ x.b ^^^ x.c ^^^ double x.d⟩

/-- Nine times a byte. -/
def times9 (b : UInt8) : UInt8 := double (double (double b)) ^^^ b

/-- Eleven times a byte. -/
def times11 (b : UInt8) : UInt8 := double (double (double b)) ^^^ double b ^^^ b

/-- Thirteen times a byte. -/
def times13 (b : UInt8) : UInt8 := double (double (double b)) ^^^ double (double b) ^^^ b

/-- Fourteen times a byte. -/
def times14 (b : UInt8) : UInt8 := double (double (double b)) ^^^ double (double b) ^^^ double b

/-- Multiplies a column by the matrix of rotations of 14, 11, 13, 9, the inverse of `mixColumn`. -/
def unmixColumn (x : Column) : Column :=
  ⟨times14 x.a ^^^ times11 x.b ^^^ times13 x.c ^^^ times9 x.d,
    times9 x.a ^^^ times14 x.b ^^^ times11 x.c ^^^ times13 x.d,
    times13 x.a ^^^ times9 x.b ^^^ times14 x.c ^^^ times11 x.d,
    times11 x.a ^^^ times13 x.b ^^^ times9 x.c ^^^ times14 x.d⟩

/-- Mixes each column. -/
def mix (x : Block) : Block := ⟨mixColumn x.p, mixColumn x.q, mixColumn x.r, mixColumn x.s⟩

/-- Undoes `mix`. -/
def unmix (x : Block) : Block :=
  ⟨unmixColumn x.p, unmixColumn x.q, unmixColumn x.r, unmixColumn x.s⟩

/-- The rounds after the first key was added. -/
def rounds (x : Block) : List Block → Block
  | [] => x
  | [k] => (shift (x.map sub)).xor k
  | k :: k' :: ks => rounds ((mix (shift (x.map sub))).xor k) (k' :: ks)

/-- Undoes `rounds` with the same keys. -/
def unrounds (x : Block) : List Block → Block
  | [] => x
  | [k] => (unshift (x.xor k)).map unsub
  | k :: k' :: ks => (unshift (unmix ((unrounds x (k' :: ks)).xor k))).map unsub

/-- Encrypts a block with a list of round keys. -/
def encrypt (keys : List Block) (x : Block) : Block :=
  match keys with
  | [] => x
  | k :: ks => rounds (x.xor k) ks

/-- Decrypts a block with the round keys that encrypted it. -/
def decrypt (keys : List Block) (x : Block) : Block :=
  match keys with
  | [] => x
  | k :: ks => (unrounds x ks).xor k

/-- Adds `n` words to a key of `size` words; the newest comes first, `i` is its number and `rc` the
round constant. -/
def extendKey (size : Nat) : Nat → Nat → UInt8 → List Column → List Column
  | 0, _, _, ws => ws
  | n + 1, i, rc, ws =>
    let last := ws.headD default
    let old := ws.getD (size - 1) default
    if i % size = 0 then
      let turned : Column := ⟨sub last.b ^^^ rc, sub last.c, sub last.d, sub last.a⟩
      extendKey size n (i + 1) (double rc) (old.xor turned :: ws)
    else if size > 6 && i % size == 4 then
      extendKey size n (i + 1) rc (old.xor (last.map sub) :: ws)
    else extendKey size n (i + 1) rc (old.xor last :: ws)

/-- The round keys of a key of 16, 24 or 32 bytes: eleven, thirteen or fifteen. -/
def roundKeys (key : Bytes) : List Block :=
  let ws := Column.ofBytes key
  let size := ws.length
  Block.ofColumns (extendKey size (3 * size + 28) size 1 ws.reverse).reverse

end Aes
end WalletResponder
