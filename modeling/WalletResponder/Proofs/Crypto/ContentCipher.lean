import WalletResponder.Crypto.ContentCipher
import WalletResponder.Proofs.Crypto.Aes
import WalletResponder.Proofs.Crypto.Mask

/-!
# Decrypting a content

A text comes back from each of the six methods (`ContentEncryption.decrypt_encrypt`): the tag is
computed from the same bytes on both sides and has the size that is checked, and each mode is undone
block by block.

**Nothing else is decrypted** (`ContentEncryption.decrypts_iff_encrypts`). A key stream that is
added twice is nothing, whichever side is first, and AES is a permutation; so a ciphertext that is
decrypted is the encryption of what it gave. In cipher block chaining mode that hangs on the padding
as well: there is one padding for each length (`Cbc.pad_of_unpad?`).
-/

namespace WalletResponder

/-! ### Galois/Counter mode -/

namespace Gcm

theorem length_tag (keys : List Block) (iv aad ciphertext : Bytes) :
    (tag keys iv aad ciphertext).length = 16 := by
  have hhash : ∀ h s, (hash h s).length = 16 := fun h s => by
    rw [hash, Element.toBytes, List.length_append, Bytes.length_ofNat, Bytes.length_ofNat]
  rw [tag, Bytes.length_xor, Block.length_toBytes, hhash]
  rfl

theorem le_length_stream (keys : List Block) (iv : Bytes) (n : Nat) :
    n ≤ (stream keys iv n).length := by
  have hsize : ∀ i, (Aes.encrypt keys (counter iv (i + 2))).toBytes.length = 16 := fun i =>
    Block.length_toBytes _
  rw [stream, Bytes.length_flatMap_of_size hsize, List.length_range]
  omega

/-- **Adding the key stream twice is nothing.** -/
theorem crypt_crypt (keys : List Block) (iv text : Bytes) :
    crypt keys iv (crypt keys iv text) = text := by
  have hle := le_length_stream keys iv text.length
  have hlen : (crypt keys iv text).length = text.length := by
    rw [crypt, Bytes.length_xor]
    omega
  rw [crypt, hlen, crypt, Bytes.xor_xor hle]

end Gcm

/-! ### Cipher block chaining mode -/

namespace Cbc

theorem decryptBlocks_encryptBlocks (keys : List Block) : ∀ (xs : List Block) (before : Block),
    decryptBlocks keys before (encryptBlocks keys before xs) = xs
  | [], _ => rfl
  | x :: xs, before => by
    rw [encryptBlocks, decryptBlocks, Aes.decrypt_encrypt, Block.xor_xor,
      decryptBlocks_encryptBlocks keys xs]

theorem length_pad (text : Bytes) : (pad text).length = 16 * (text.length / 16 + 1) := by
  rw [pad, List.length_append, List.length_replicate]
  omega

/-- **The padding comes off again**: its last byte tells how long it is. -/
theorem unpad?_pad (text : Bytes) : unpad? (pad text) = some text := by
  have hlow : 1 ≤ 16 - text.length % 16 := by omega
  have hhigh : 16 - text.length % 16 ≤ 16 := by omega
  have hlen := length_pad text
  unfold pad at hlen ⊢
  revert hlen
  generalize 16 - text.length % 16 = n at *
  intro hlen
  have hlast : (text ++ List.replicate n (UInt8.ofNat n)).getLast? = some (UInt8.ofNat n) := by
    rw [List.getLast?_append, List.getLast?_replicate, if_neg (by omega)]
    rfl
  have hvalue : (UInt8.ofNat n).toNat = n := by
    rw [UInt8.toNat_ofNat']
    omega
  have htake : (text ++ List.replicate n (UInt8.ofNat n)).take
      ((text ++ List.replicate n (UInt8.ofNat n)).length - n) = text := by
    rw [List.length_append, List.length_replicate, Nat.add_sub_cancel, List.take_left]
  rw [unpad?, hlast]
  simp only [Option.getD_some, hvalue, htake, hlow, hhigh]
  simp

/-- **A text comes back from its blocks.** -/
theorem decrypt?_encrypt (keys : List Block) (iv text : Bytes) :
    decrypt? keys iv (encrypt keys iv text) = some text := by
  have hmod : (encrypt keys iv text).length % 16 = 0 := by
    rw [encrypt, Block.length_flatMap_toBytes]
    omega
  rw [decrypt?, if_pos hmod, encrypt, Block.ofBytes_flatMap_toBytes, decryptBlocks_encryptBlocks,
    Block.flatMap_toBytes_ofBytes _ _ (length_pad text), unpad?_pad]

theorem encryptBlocks_decryptBlocks (keys : List Block) : ∀ (ys : List Block) (before : Block),
    encryptBlocks keys before (decryptBlocks keys before ys) = ys
  | [], _ => rfl
  | y :: ys, before => by
    rw [decryptBlocks, encryptBlocks, Block.xor_xor, Aes.encrypt_decrypt,
      encryptBlocks_decryptBlocks keys ys]

/-- **A padding that comes off is the one that was put on**: there is one for each length. -/
theorem pad_of_unpad? {padded text : Bytes} (hlen : padded.length % 16 = 0)
    (h : unpad? padded = some text) : pad text = padded := by
  unfold unpad? at h
  dsimp only at h
  generalize (padded.getLast?.getD 0).toNat = n at h
  split at h
  · next hpad =>
    simp only [Bool.and_eq_true, decide_eq_true_eq, beq_iff_eq] at hpad
    obtain ⟨⟨hlow, hhigh⟩, hsplit⟩ := hpad
    cases h
    have hcount : 16 - (padded.take (padded.length - n)).length % 16 = n := by
      have htotal := congrArg List.length hsplit
      rw [List.length_append, List.length_replicate] at htotal
      omega
    rw [pad, hcount, ← hsplit]
  · cases h

/-- **What is decrypted was encrypted.** -/
theorem encrypt_of_decrypt? {keys : List Block} {iv ciphertext text : Bytes}
    (h : decrypt? keys iv ciphertext = some text) : encrypt keys iv text = ciphertext := by
  unfold decrypt? at h
  split at h
  · next hmod =>
    have hpad := pad_of_unpad? (by rw [Block.length_flatMap_toBytes]; omega) h
    have hwhole : ciphertext.length = 16 * (ciphertext.length / 16) := by omega
    rw [encrypt, hpad, Block.ofBytes_flatMap_toBytes, encryptBlocks_decryptBlocks,
      Block.flatMap_toBytes_ofBytes _ _ hwhole]
  · cases h

end Cbc

/-! ### All methods -/

namespace ContentEncryption

theorem length_macTag {enc : ContentEncryption} (h : enc.isGcm = false) (cek iv aad ct : Bytes) :
    (enc.macTag cek iv aad ct).length = enc.tagSize := by
  rw [macTag, List.length_take, Hash.length_hmac]
  cases enc <;> first | rfl | cases h

/-- **What a method encrypts it decrypts**, with the same key, initial value and additional
data. -/
theorem decrypt_encrypt {enc : ContentEncryption} {cek iv aad text ciphertext tag : Bytes}
    (h : enc.encrypt cek iv aad text = .ok (ciphertext, tag)) :
    enc.decrypt cek iv aad ciphertext tag = .ok text := by
  unfold encrypt at h
  dsimp only at h
  split at h
  · cases h
  next hsizes =>
  rw [not_or, not_not, not_not] at hsizes
  obtain ⟨hcek, hiv⟩ := hsizes
  split at h
  · next hgcm =>
    cases h
    have htag : (Gcm.tag (enc.cipherKeys cek) iv aad
        (Gcm.crypt (enc.cipherKeys cek) iv text)).length = enc.tagSize := by
      rw [Gcm.length_tag, tagSize, if_pos hgcm]
    rw [decrypt, if_neg (by simp [hcek, hiv, htag]), if_pos hgcm, if_pos rfl, Gcm.crypt_crypt]
  · next hgcm =>
    cases h
    have htag := length_macTag (by simpa using hgcm) cek iv aad
      (Cbc.encrypt (enc.cipherKeys cek) iv text)
    rw [decrypt, if_neg (by simp [hcek, hiv, htag]), if_neg hgcm, if_pos rfl, Cbc.decrypt?_encrypt]

/-- A method refuses nothing but the wrong sizes. -/
theorem encrypt_isOk {enc : ContentEncryption} {cek iv : Bytes} (hcek : cek.length = enc.keySize)
    (hiv : iv.length = enc.ivSize) (aad text : Bytes) :
    ∃ ciphertext tag, enc.encrypt cek iv aad text = .ok (ciphertext, tag) := by
  rw [encrypt, if_neg (by simp [hcek, hiv])]
  split
  · exact ⟨_, _, rfl⟩
  · exact ⟨_, _, rfl⟩

/-- The tag of a ciphertext. -/
def tagFor (enc : ContentEncryption) (cek iv aad ciphertext : Bytes) : Bytes :=
  if enc.isGcm then Gcm.tag (enc.cipherKeys cek) iv aad ciphertext
  else enc.macTag cek iv aad ciphertext

variable {enc : ContentEncryption} {cek iv aad text ciphertext tag : Bytes}

theorem encrypt_of_sizes (hsizes : cek.length ≠ enc.keySize ∨ iv.length ≠ enc.ivSize) :
    enc.encrypt cek iv aad text = .error (if enc.isGcm then .gcmSizes else .cbcSizes) := by
  rw [encrypt, if_pos hsizes]

theorem decrypt_of_sizes
    (hsizes : cek.length ≠ enc.keySize ∨ iv.length ≠ enc.ivSize ∨ tag.length ≠ enc.tagSize) :
    enc.decrypt cek iv aad ciphertext tag =
      .error (if enc.isGcm then .gcmSizesWithTag else .cbcSizesWithTag) := by
  rw [decrypt, if_pos hsizes]

theorem tag_of_encrypt (h : enc.encrypt cek iv aad text = .ok (ciphertext, tag)) :
    enc.tagFor cek iv aad ciphertext = tag := by
  unfold encrypt at h
  dsimp only at h
  split at h
  · cases h
  split at h
  · next hgcm =>
    cases h
    rw [tagFor, if_pos hgcm]
  · next hgcm =>
    cases h
    rw [tagFor, if_neg hgcm]

/-- **What a method decrypts it encrypted**, with the tag that it was given. -/
theorem encrypt_of_decrypt (h : enc.decrypt cek iv aad ciphertext tag = .ok text) :
    enc.encrypt cek iv aad text = .ok (ciphertext, tag) := by
  unfold decrypt at h
  dsimp only at h
  split at h
  · cases h
  next hsizes =>
  rw [not_or, not_or, not_not, not_not, not_not] at hsizes
  obtain ⟨hcek, hiv, -⟩ := hsizes
  have hfits : ¬ (cek.length ≠ enc.keySize ∨ iv.length ≠ enc.ivSize) := by simp [hcek, hiv]
  unfold encrypt
  dsimp only
  rw [if_neg hfits]
  split at h
  · next hgcm =>
    split at h
    · next htag =>
      cases h
      rw [if_pos hgcm, Gcm.crypt_crypt, htag]
    · cases h
  · next hgcm =>
    split at h
    · next htag =>
      split at h
      · next hcbc =>
        cases h
        rw [if_neg hgcm, Cbc.encrypt_of_decrypt? hcbc, htag]
      · cases h
    · cases h

/-- A padding is looked at under the right tag only. -/
theorem tag_of_cbcPadding (h : enc.decrypt cek iv aad ciphertext tag = .error .cbcPadding) :
    enc.isGcm = false ∧ enc.tagFor cek iv aad ciphertext = tag := by
  unfold decrypt at h
  dsimp only at h
  split at h
  · split at h <;> cases h
  split at h
  · split at h <;> cases h
  next hgcm =>
  split at h
  · next htag =>
    rw [tagFor, if_neg hgcm]
    exact ⟨by simpa using hgcm, htag⟩
  · cases h

/-- **A method decrypts exactly what it encrypts.** It takes no key, initial value or tag of another
size than its own. No text comes of a ciphertext with another tag than the one that was computed
with it, and if it is the padding that is found wrong, the tag was right. -/
theorem decrypts_iff_encrypts (enc : ContentEncryption) (cek iv aad ciphertext tag : Bytes) :
    (∀ text, enc.decrypt cek iv aad ciphertext tag = .ok text ↔
      enc.encrypt cek iv aad text = .ok (ciphertext, tag)) ∧
    (cek.length ≠ enc.keySize ∨ iv.length ≠ enc.ivSize → ∀ text,
      enc.encrypt cek iv aad text = .error (if enc.isGcm then .gcmSizes else .cbcSizes)) ∧
    (cek.length ≠ enc.keySize ∨ iv.length ≠ enc.ivSize ∨ tag.length ≠ enc.tagSize →
      enc.decrypt cek iv aad ciphertext tag =
        .error (if enc.isGcm then .gcmSizesWithTag else .cbcSizesWithTag)) ∧
    (∀ text computed, enc.encrypt cek iv aad text = .ok (ciphertext, computed) →
      enc.tagFor cek iv aad ciphertext = computed ∧
      (tag ≠ computed → ∀ text', enc.decrypt cek iv aad ciphertext tag ≠ .ok text')) ∧
    (enc.decrypt cek iv aad ciphertext tag = .error .cbcPadding →
      enc.isGcm = false ∧ enc.tagFor cek iv aad ciphertext = tag) := by
  refine ⟨fun text => ⟨encrypt_of_decrypt, decrypt_encrypt⟩, fun hsizes _ =>
    encrypt_of_sizes hsizes, decrypt_of_sizes, fun text computed hencrypt => ?_, tag_of_cbcPadding⟩
  have hcomputed := tag_of_encrypt hencrypt
  refine ⟨hcomputed, fun hne text' hdecrypt => hne ?_⟩
  have htag := tag_of_encrypt (encrypt_of_decrypt hdecrypt)
  rw [← htag, hcomputed]

/-- `n` zeros. -/
def zeros (n : Nat) : Bytes := List.replicate n 0

/-- The tag of nothing under a key of zeros in Galois/Counter mode. -/
def tagOfNothing : Bytes :=
  [0x58, 0xe2, 0xfc, 0xce, 0xfa, 0x7e, 0x30, 0x61, 0x36, 0x7f, 0x1d, 0x57, 0xa4, 0xe7, 0x45, 0x5a]

/-- The tag of no ciphertext at all under a key of zeros with a keyed hash. -/
def tagOfNoBlocks : Bytes := a128cbcHs256.macTag (zeros 32) (zeros 16) [] []

/-- Nothing is encrypted to its tag, and decrypted with no other tag and under no shorter key. No
blocks at all have no padding, which shows under their tag. -/
theorem decrypts_iff_encrypts_zeros :
    a128gcm.encrypt (zeros 16) (zeros 12) [] [] = .ok ([], tagOfNothing) ∧
    a128gcm.decrypt (zeros 16) (zeros 12) [] [] tagOfNothing = .ok [] ∧
    (∀ text, a128gcm.decrypt (zeros 16) (zeros 12) [] [] (zeros 16) ≠ .ok text) ∧
    a128gcm.encrypt (zeros 15) (zeros 12) [] [] = .error .gcmSizes ∧
    a128gcm.decrypt (zeros 16) (zeros 12) [] [] (zeros 15) = .error .gcmSizesWithTag ∧
    a128cbcHs256.decrypt (zeros 32) (zeros 16) [] [] tagOfNoBlocks = .error .cbcPadding ∧
    a128cbcHs256.tagFor (zeros 32) (zeros 16) [] [] = tagOfNoBlocks := by
  have hencrypt : a128gcm.encrypt (zeros 16) (zeros 12) [] [] = .ok ([], tagOfNothing) := by
    decide +kernel
  have hpadding : a128cbcHs256.decrypt (zeros 32) (zeros 16) [] [] tagOfNoBlocks =
      .error .cbcPadding := by decide +kernel
  refine ⟨hencrypt, ?_, ?_, ?_, ?_, hpadding, ?_⟩
  · exact ((decrypts_iff_encrypts a128gcm (zeros 16) (zeros 12) [] [] tagOfNothing).1 []).mpr
      hencrypt
  · exact ((decrypts_iff_encrypts a128gcm (zeros 16) (zeros 12) [] [] (zeros 16)).2.2.2.1 []
      tagOfNothing hencrypt).2 (by decide)
  · exact (decrypts_iff_encrypts a128gcm (zeros 15) (zeros 12) [] [] tagOfNothing).2.1
      (Or.inl (by decide)) []
  · exact (decrypts_iff_encrypts a128gcm (zeros 16) (zeros 12) [] [] (zeros 15)).2.2.1
      (Or.inr (Or.inr (by decide)))
  · exact ((decrypts_iff_encrypts a128cbcHs256 (zeros 32) (zeros 16) [] [] tagOfNoBlocks).2.2.2.2
      hpadding).2

end ContentEncryption
end WalletResponder
