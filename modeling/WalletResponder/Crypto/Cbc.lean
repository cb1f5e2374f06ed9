import WalletResponder.Crypto.Aes

/-!
# AES in cipher block chaining mode

Each block is added to the encrypted block before it and then encrypted; the initial value stands
before the first. The text is padded to whole blocks by one to sixteen bytes that each say how many
they are.
-/

namespace WalletResponder.Cbc

/-- Encrypts blocks after the block `before`. -/
def encryptBlocks (keys : List Block) : Block → List Block → List Block
  | _, [] => []
  | before, x :: xs =>
    let y := Aes.encrypt keys (x.xor before)
    y :: encryptBlocks keys y xs

/-- Decrypts blocks after the block `before`. -/
def decryptBlocks (keys : List Block) : Block → List Block → List Block
  | _, [] => []
  | before, y :: ys => (Aes.decrypt keys y).xor before :: decryptBlocks keys y ys

/-- The text with its padding. -/
def pad (text : Bytes) : Bytes :=
  let n := 16 - text.length % 16
  text ++ List.replicate n (UInt8.ofNat n)

/-- The text without its padding, if it has one. -/
def unpad? (padded : Bytes) : Option Bytes :=
  let n := (padded.getLast?.getD 0).toNat
  let text := padded.take (padded.length - n)
  if 1 ≤ n && n ≤ 16 && padded == text ++ List.replicate n (UInt8.ofNat n) then some text else none

/-- Encrypts a text. -/
def encrypt (keys : List Block) (iv text : Bytes) : Bytes :=
  (encryptBlocks keys (Block.first iv) (Block.ofBytes (pad text))).flatMap Block.toBytes

/-- Decrypts a ciphertext of whole blocks with a padding inside. -/
def decrypt? (keys : List Block) (iv ciphertext : Bytes) : Option Bytes :=
  if ciphertext.length % 16 = 0 then
    unpad? ((decryptBlocks keys (Block.first iv) (Block.ofBytes ciphertext)).flatMap Block.toBytes)
  else none

end WalletResponder.Cbc
