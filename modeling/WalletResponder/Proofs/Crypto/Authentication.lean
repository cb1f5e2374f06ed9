import WalletResponder.Proofs.Bytes.Numbers
import WalletResponder.Proofs.Crypto.ContentCipher

/-!
# What a keyed hash authenticates

The three methods with a keyed hash authenticate additional data, initial value and ciphertext as
one byte string, and the length of the additional data behind it. **The byte string tells the three
apart** (`ContentEncryption.macInput_inj`): the length is what the last eight bytes write, it says
where the additional data ends, and the initial value has one size. So no byte can be moved from one
of the three to another under the same tag (`ContentEncryption.authenticates_unambiguously`).
-/

namespace WalletResponder.ContentEncryption

open Bytes

variable {enc : ContentEncryption} {hash : Hash} {half : Nat}
  {cek iv iv' aad aad' ciphertext ciphertext' tag : Bytes}

/-! ### The input of the hash -/

/-- **The input of the keyed hash tells its parts**, read from its end. -/
theorem macInput_inj (hiv : iv.length = iv'.length) (haad : aad.length < 2 ^ 61)
    (haad' : aad'.length < 2 ^ 61)
    (h : macInput aad iv ciphertext = macInput aad' iv' ciphertext') :
    aad = aad' ∧ iv = iv' ∧ ciphertext = ciphertext' := by
  unfold macInput at h
  obtain ⟨h, hbits⟩ := List.append_inj' h (by rw [length_ofNat, length_ofNat])
  have hlen : 8 * aad.length = 8 * aad'.length := ofNat_inj (by omega) (by omega) hbits
  rw [List.append_assoc, List.append_assoc] at h
  obtain ⟨haad, h⟩ := List.append_inj h (by omega)
  exact ⟨haad, List.append_inj h hiv⟩

/-- What stands behind the ciphertext is the length of the additional data in bits. -/
theorem exists_macInput (iv ciphertext : Bytes) (haad : aad.length < 2 ^ 61) :
    ∃ bits, Writes 8 bits (8 * aad.length) ∧
      macInput aad iv ciphertext = aad ++ iv ++ ciphertext ++ bits :=
  ⟨_, writes_ofNat (by omega), rfl⟩

/-! ### The tag -/

/-- The methods with a keyed hash, each with its hash function and with the size of the tag and of
either half of the content key. -/
inductive IsKeyed : ContentEncryption → Hash → Nat → Prop
  | a128 : IsKeyed a128cbcHs256 .sha256 16
  | a192 : IsKeyed a192cbcHs384 .sha384 24
  | a256 : IsKeyed a256cbcHs512 .sha512 32

theorem IsKeyed.sizes (h : enc.IsKeyed hash half) : enc.isGcm = false ∧ enc.keySize = 2 * half ∧
    enc.ivSize = 16 ∧ enc.tagSize = half := by
  cases h <;> exact ⟨rfl, rfl, rfl, rfl⟩

/-- **The tag** is the first half of a hash that is keyed with the first half of the content
key. -/
theorem IsKeyed.macTag_eq (h : enc.IsKeyed hash half) (cek iv aad ciphertext : Bytes) :
    enc.macTag cek iv aad ciphertext =
      (hash.hmac (cek.take half) (macInput aad iv ciphertext)).take half := by
  cases h <;> rfl

/-- A method with a keyed hash refuses the tags that it does not compute. -/
theorem decrypt_eq_cbcTag (hgcm : enc.isGcm = false) (hcek : cek.length = enc.keySize)
    (hiv : iv.length = enc.ivSize) (htag : tag.length = enc.tagSize) :
    enc.decrypt cek iv aad ciphertext tag = .error .cbcTag ↔
      tag ≠ enc.macTag cek iv aad ciphertext := by
  rw [decrypt, if_neg (by simp [hcek, hiv, htag]), if_neg (by simp [hgcm])]
  split
  · next hmatch =>
    refine iff_of_false (fun h => ?_) fun hne => hne hmatch.symm
    split at h <;> cases h
  · next hmatch => exact iff_of_true rfl fun he => hmatch he.symm

/-- **A keyed hash authenticates what it is given, and nothing else.** Additional data, initial
value and ciphertext are told apart by the input of the hash, which is all three and behind them the
length of the additional data in bits. Each of the three methods computes its tag from that input
and the first half of the content key, when it encrypts and when it decrypts. -/
theorem authenticates_unambiguously :
    (∀ aad iv ciphertext aad' iv' ciphertext' : Bytes, iv.length = 16 → iv'.length = 16 →
      aad.length < 2 ^ 61 → aad'.length < 2 ^ 61 →
      (macInput aad iv ciphertext = macInput aad' iv' ciphertext' ↔
        aad = aad' ∧ iv = iv' ∧ ciphertext = ciphertext')) ∧
    (∀ aad iv ciphertext : Bytes, aad.length < 2 ^ 61 → ∃ bits, Writes 8 bits (8 * aad.length) ∧
      macInput aad iv ciphertext = aad ++ iv ++ ciphertext ++ bits) ∧
    ∀ (enc : ContentEncryption) (hash : Hash) (half : Nat), enc.IsKeyed hash half →
      ∀ cek iv aad : Bytes, cek.length = 2 * half → iv.length = 16 →
        (∀ text, ∃ ciphertext, enc.encrypt cek iv aad text = .ok (ciphertext,
          (hash.hmac (cek.take half) (macInput aad iv ciphertext)).take half)) ∧
        ∀ ciphertext tag, tag.length = half →
          (enc.decrypt cek iv aad ciphertext tag = .error .cbcTag ↔
            tag ≠ (hash.hmac (cek.take half) (macInput aad iv ciphertext)).take half) := by
  refine ⟨fun aad iv ciphertext aad' iv' ciphertext' hiv hiv' haad haad' =>
      ⟨macInput_inj (hiv.trans hiv'.symm) haad haad', ?_⟩,
    fun aad iv ciphertext => exists_macInput iv ciphertext,
    fun enc hash half h cek iv aad hcek hiv => ⟨fun text => ?_, fun ciphertext tag htag => ?_⟩⟩
  · rintro ⟨rfl, rfl, rfl⟩
    rfl
  all_goals obtain ⟨hgcm, hkeySize, hivSize, htagSize⟩ := h.sizes
  · obtain ⟨ciphertext, tag, hencrypt⟩ :=
      encrypt_isOk (hcek.trans hkeySize.symm) (hiv.trans hivSize.symm) aad text
    have htag := tag_of_encrypt hencrypt
    rw [tagFor, if_neg (by simp [hgcm]), h.macTag_eq] at htag
    exact ⟨ciphertext, by rw [htag, hencrypt]⟩
  · rw [decrypt_eq_cbcTag hgcm (hcek.trans hkeySize.symm) (hiv.trans hivSize.symm)
      (htag.trans htagSize.symm), h.macTag_eq]

/-- A zero that is moved from the additional data into the ciphertext, past an initial value of
zeros, makes another input of the hash. The longest of the methods makes tags of half a hash with
half of its key. -/
theorem authenticates_zeros :
    macInput (zeros 1) (zeros 16) (zeros 16) ≠ macInput [] (zeros 16) (zeros 17) ∧
    ∃ ciphertext, a256cbcHs512.encrypt (zeros 64) (zeros 16) (zeros 1) [] = .ok (ciphertext,
      (Hash.sha512.hmac (zeros 32) (macInput (zeros 1) (zeros 16) ciphertext)).take 32) := by
  obtain ⟨htells, -, hmethods⟩ := authenticates_unambiguously
  refine ⟨fun h => ?_, ?_⟩
  · obtain ⟨hmoved, -⟩ := (htells (zeros 1) (zeros 16) (zeros 16) [] (zeros 16) (zeros 17)
      (by decide) (by decide) (by decide) (by decide)).mp h
    cases hmoved
  · exact (hmethods _ _ _ .a256 (zeros 64) (zeros 16) (zeros 1) (by decide) (by decide)).1 []

end WalletResponder.ContentEncryption
