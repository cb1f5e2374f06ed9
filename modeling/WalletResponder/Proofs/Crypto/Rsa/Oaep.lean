import WalletResponder.Crypto.Rsa.Oaep
import WalletResponder.Proofs.Crypto.Mask
import WalletResponder.Proofs.Crypto.Rsa.Powers

/-!
# Decrypting a content key with RSA

The block for a message is taken apart again (`Oaep.decode?_encode`), and with the private power
after the public one the message comes back (`RsaKey.IsPair.decrypt_encrypt`).
-/

namespace WalletResponder

namespace Oaep

variable {h : Hash} {size : Nat} {seed message : Bytes}

theorem length_dataPart (hfits : message.length + 2 * h.size + 2 ≤ size) :
    (dataPart h size message).length = size - h.size - 1 := by
  rw [dataPart, List.length_append, List.length_append, Hash.length_digest, List.length_replicate,
    List.length_cons]
  omega

theorem message?_dataPart : message? h (dataPart h size message) = some message := by
  have hzeros : ∀ n : Nat, (List.replicate n (0 : UInt8) ++ 1 :: message).dropWhile (· == 0) =
      1 :: message := by
    intro n
    induction n with
    | zero => rfl
    | succ n ih => rw [List.replicate_succ, List.cons_append, List.dropWhile_cons_of_pos rfl, ih]
  have htake : (dataPart h size message).take h.size = h.digest [] := by
    rw [dataPart, List.append_assoc, List.take_append_of_le_length (Hash.length_digest _ _).ge,
      List.take_of_length_le (Hash.length_digest _ _).le]
  have hdrop : (dataPart h size message).drop h.size =
      List.replicate (size - message.length - 2 * h.size - 2) 0 ++ 1 :: message := by
    rw [dataPart, List.append_assoc, List.drop_left' (Hash.length_digest _ _)]
  rw [message?, if_pos htake, hdrop, hzeros]
  rfl

theorem length_encode (hseed : seed.length = h.size)
    (hfits : message.length + 2 * h.size + 2 ≤ size) :
    (encode h size seed message).length = size := by
  rw [encode, List.length_cons, List.length_append, Bytes.length_xor, Bytes.length_xor,
    Hash.length_mask, Hash.length_mask, length_dataPart hfits, hseed]
  omega

/-- **The message in a block is the one that it was made for.** -/
theorem decode?_encode (hseed : seed.length = h.size)
    (hfits : message.length + 2 * h.size + 2 ≤ size) :
    decode? h (encode h size seed message) = some message := by
  have hcapacity : (capacity? h (encode h size seed message).length).isSome = true := by
    rw [length_encode hseed hfits, capacity?, if_pos (by omega)]
    rfl
  unfold decode?
  rw [encode] at hcapacity ⊢
  set data := dataPart h size message with hdata
  set masked := Bytes.xor data (h.mask seed data.length) with hmasked
  have hlen : masked.length = data.length := by
    rw [hmasked, Bytes.length_xor, Hash.length_mask, Nat.min_self]
  have hover : (Bytes.xor seed (h.mask masked h.size)).length = h.size := by
    rw [Bytes.length_xor, Hash.length_mask, hseed, Nat.min_self]
  simp only [List.drop_left' hover, List.take_left' hover]
  have hseed' : Bytes.xor (Bytes.xor seed (h.mask masked h.size)) (h.mask masked h.size) = seed :=
    Bytes.xor_xor (by rw [Hash.length_mask, hseed])
  have hdata' : Bytes.xor masked (h.mask seed masked.length) = data := by
    rw [hlen, hmasked]
    exact Bytes.xor_xor (by rw [Hash.length_mask])
  rw [if_pos hcapacity, hseed', hdata', hdata]
  exact message?_dataPart

end Oaep

namespace RsaKey

variable {k : RsaKey} {s : RsaSecret}

/-- **What a key pair encrypts it decrypts.** -/
theorem IsPair.decrypt_encrypt (hpair : k.IsPair s) {alg : JweAlgorithm}
    {message ciphertext : Bytes} {e : Entropy} (h : k.publicHalf.encrypt alg message e = .ok ciphertext) :
    k.decrypt alg ciphertext = .ok message := by
  unfold encrypt at h
  split at h
  · cases h
  next hash hhash =>
  split at h
  · cases h
  split at h
  · cases h
  next most hmost =>
  split at h
  case isFalse => cases h
  next hle =>
  have hsize : k.publicHalf.size = k.size := rfl
  rw [hsize] at h hmost
  have hfits : message.length + 2 * hash.size + 2 ≤ k.size := by
    unfold Oaep.capacity? at hmost
    split at hmost
    · cases hmost
      omega
    · cases hmost
  have hseed : (e.take hash.size).length = hash.size := Entropy.length_take _ _
  have hlen := Oaep.length_encode hseed hfits
  have hblock : Bytes.toNat (Oaep.encode hash k.size (e.take hash.size) message) < k.modulus :=
    toNat_lt_modulus hpair.odd hlen
  obtain ⟨c, hraise, hlower, hundoes⟩ := hpair.lowerBytes_raiseBytes hlen hblock
  rw [hraise] at h
  cases h
  rw [decrypt, hhash]
  simp only [block?, hlower, Option.filter, hundoes, if_true, Option.bind_some,
    Oaep.decode?_encode hseed hfits]

/-- Whether a message can be encrypted depends on nothing but its length. -/
theorem encrypt_isOk {alg : JweAlgorithm} {message : Bytes} {e : Entropy} :
    (∃ c, k.encrypt alg message e = .ok c) ↔
      k.CanRaise ∧ ∃ h, Oaep.hash? alg = some h ∧ message.length + 2 * h.size + 2 ≤ k.size := by
  unfold encrypt
  cases hhash : Oaep.hash? alg with
  | none => simp
  | some h =>
    simp only [Option.some.injEq, exists_eq_left']
    by_cases hfits : message.length + 2 * h.size + 2 ≤ k.size
    · have hsize : k.size ≠ 0 := by omega
      have hcapacity : Oaep.capacity? h k.size = some (k.size - 2 * h.size - 2) :=
        if_pos (by omega)
      have hle : message.length ≤ k.size - 2 * h.size - 2 := by omega
      have hseed : (e.take h.size).length = h.size := Entropy.length_take _ _
      have hlen := Oaep.length_encode hseed hfits
      rw [if_neg hsize, hcapacity]
      simp only [if_pos hle, hfits, and_true]
      constructor
      · rintro ⟨c, hc⟩
        split at hc
        · next c' hraise => exact ((isSome_raiseBytes? hlen).mp (by rw [hraise]; rfl)).1
        · cases hc
      · intro hcan
        obtain ⟨c, hc⟩ := Option.isSome_iff_exists.mp
          ((isSome_raiseBytes? hlen).mpr ⟨hcan, toNat_lt_modulus hcan.2 hlen⟩)
        exact ⟨c, by rw [hc]⟩
    · refine iff_of_false ?_ fun h => hfits h.2
      rintro ⟨c, hc⟩
      split at hc
      · cases hc
      split at hc
      · cases hc
      next most hmost =>
      split at hc
      · next hle =>
        unfold Oaep.capacity? at hmost
        split at hmost
        · cases hmost
          omega
        · cases hmost
      · cases hc

end RsaKey
end WalletResponder
