import WalletResponder.Crypto.Aes

/-!
# AES in Galois/Counter mode

The mode with an initial value of twelve bytes and a tag of sixteen. The text is added to a key
stream of encrypted counters; the tag is the encrypted first counter plus a polynomial, evaluated in
the field of `2 ^ 128` elements, whose coefficients are the additional data, the ciphertext and
their lengths.
-/

namespace WalletResponder.Gcm

/-- An element of the field, most significant bits first. -/
structure Element where
  (hi lo : UInt64)
  deriving DecidableEq

/-- The sum of two elements. -/
def Element.add (x y : Element) : Element := ⟨x.hi ^^^ y.hi, x.lo ^^^ y.lo⟩

/-- Multiplies by the generator: a shift to the right, reduced. -/
def Element.shift (x : Element) : Element :=
  let hi := x.hi >>> 1
  let lo := (x.lo >>> 1) ||| (x.hi <<< 63)
  if x.lo &&& 1 == 0 then ⟨hi, lo⟩ else ⟨hi ^^^ 0xe100000000000000, lo⟩

/-- Adds to `sum` the multiples of `y` that the `n` upper bits of `x` ask for. -/
def addMultiples : Nat → UInt64 → Element → Element → Element × Element
  | 0, _, sum, y => (sum, y)
  | n + 1, x, sum, y =>
    addMultiples n (x <<< 1) (if x >>> 63 == 0 then sum else sum.add y) y.shift

/-- The product of two elements. -/
def Element.mul (x y : Element) : Element :=
  let (sum, y) := addMultiples 64 x.hi ⟨0, 0⟩ y
  (addMultiples 64 x.lo sum y).1

/-- The element that a block writes. -/
def Element.ofBlock (b : Block) : Element :=
  ⟨UInt64.ofNat (Bytes.toNat (b.p.toBytes ++ b.q.toBytes)),
    UInt64.ofNat (Bytes.toNat (b.r.toBytes ++ b.s.toBytes))⟩

/-- The bytes of an element. -/
def Element.toBytes (x : Element) : Bytes := Bytes.ofNat 8 x.hi.toNat ++ Bytes.ofNat 8 x.lo.toNat

/-- Fills up with zeros to whole blocks. -/
def fill (s : Bytes) : Bytes := s ++ List.replicate ((16 - s.length % 16) % 16) 0

/-- What the tag authenticates: additional data and ciphertext, filled up, and their lengths in
bits. -/
def authenticated (aad ciphertext : Bytes) : Bytes :=
  fill aad ++ fill ciphertext ++ Bytes.ofNat 8 (8 * aad.length) ++
    Bytes.ofNat 8 (8 * ciphertext.length)

/-- The polynomial with the blocks of `s` as coefficients, at `h`. -/
def hash (h : Element) (s : Bytes) : Bytes :=
  ((Block.ofBytes s).foldl (fun (y : Element) b => (y.add (Element.ofBlock b)).mul h)
    ⟨0, 0⟩).toBytes

/-- The block of counter `i`. -/
def counter (iv : Bytes) (i : Nat) : Block := Block.first (iv ++ Bytes.ofNat 4 i)

/-- The key stream for a text of `n` bytes; counter one is kept for the tag. -/
def stream (keys : List Block) (iv : Bytes) (n : Nat) : Bytes :=
  (List.range ((n + 15) / 16)).flatMap fun i => (Aes.encrypt keys (counter iv (i + 2))).toBytes

/-- Adds the key stream to a text; twice is nothing. -/
def crypt (keys : List Block) (iv text : Bytes) : Bytes :=
  Bytes.xor text (stream keys iv text.length)

/-- The tag of a ciphertext. -/
def tag (keys : List Block) (iv aad ciphertext : Bytes) : Bytes :=
  let h := Element.ofBlock (Aes.encrypt keys Block.zero)
  Bytes.xor (Aes.encrypt keys (counter iv 1)).toBytes (hash h (authenticated aad ciphertext))

end WalletResponder.Gcm
