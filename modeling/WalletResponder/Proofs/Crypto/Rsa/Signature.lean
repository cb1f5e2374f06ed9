import WalletResponder.Crypto.Rsa.Signature
import WalletResponder.Proofs.Crypto.Mask
import WalletResponder.Proofs.Crypto.Rsa.Powers

/-!
# Checking RSA signatures

What a key pair signs its public half accepts, in the fixed layout and in the salted one
(`RsaKey.IsPair.verifyFixed_signFixed`, `RsaKey.IsPair.verifySalted_signSalted`). Both blocks are as
long as the modulus and write a number below it, and the salt stands in the block where the reader
looks for it.
-/

namespace WalletResponder

namespace RsaBlock

variable {h : Hash} {size bits : Nat} {digest salt block : Bytes}

/-! ### Blocks -/

theorem fixed?_eq_some (hblock : fixed? h size digest = some block) :
    ∃ rest, block = 0 :: rest ∧ rest.length + 1 = size := by
  unfold fixed? at hblock
  dsimp only at hblock
  split at hblock
  · next hfits =>
    cases hblock
    refine ⟨_, rfl, ?_⟩
    rw [List.length_cons, List.length_append, List.length_replicate, List.length_cons]
    omega
  · cases hblock

/-- The data part of a salted block: zeros, a one and the salt. -/
def dataPart (h : Hash) (size : Nat) (salt : Bytes) : Bytes :=
  List.replicate (size - salt.length - h.size - 2) 0 ++ 1 :: salt

theorem length_dataPart (hfits : h.size + salt.length + 2 ≤ size) :
    (dataPart h size salt).length = size - h.size - 1 := by
  rw [dataPart, List.length_append, List.length_replicate, List.length_cons]
  omega

/-- The parts of a salted block: the data part under its mask, without the bits of its first byte
that do not fit, the seed, and a last byte. -/
theorem salted?_eq_some (hblock : salted? h bits digest salt = some block) :
    h.size + salt.length + 2 ≤ (bits + 6) / 8 ∧ ∃ seed first rest, seed.length = h.size ∧
      Bytes.xor (dataPart h ((bits + 6) / 8) salt)
        (h.mask seed (dataPart h ((bits + 6) / 8) salt).length) = first :: rest ∧
      block = List.replicate ((bits + 7) / 8 - (bits + 6) / 8) 0 ++
        ((first &&& topMask bits) :: (rest ++ seed ++ [0xbc])) := by
  unfold salted? at hblock
  dsimp only at hblock
  split at hblock
  case isFalse => cases hblock
  next hfits =>
  split at hblock
  · cases hblock
  · next first rest hmasked =>
    cases hblock
    exact ⟨hfits, _, first, rest, Hash.length_digest _ _, hmasked, by simp⟩

/-- A salted block exists if there is room for it. -/
theorem isSome_salted? : (salted? h bits digest salt).isSome ↔
    h.size + salt.length + 2 ≤ (bits + 6) / 8 := by
  unfold salted?
  dsimp only
  split
  · next hfits =>
    refine iff_of_true ?_ hfits
    split
    · next hnil =>
      have hlen := congrArg List.length hnil
      rw [Bytes.length_xor, Hash.length_mask, Nat.min_self] at hlen
      have hdata := (length_dataPart hfits).symm.trans hlen
      rw [List.length_nil] at hdata
      omega
    · rfl
  · next hfits => exact iff_of_false (by simp) hfits

theorem length_body {seed rest : Bytes} {first : UInt8}
    (hfits : h.size + salt.length + 2 ≤ size) (hseed : seed.length = h.size)
    (hmasked : Bytes.xor (dataPart h size salt) (h.mask seed (dataPart h size salt).length) =
      first :: rest) : rest.length + 1 = size - h.size - 1 ∧
      (rest ++ seed ++ [0xbc]).length + 1 = size := by
  have hlen := congrArg List.length hmasked
  rw [Bytes.length_xor, Hash.length_mask, Nat.min_self, length_dataPart hfits,
    List.length_cons] at hlen
  refine ⟨hlen.symm, ?_⟩
  rw [List.length_append, List.length_append, hseed]
  simp only [List.length_cons, List.length_nil]
  omega

/-- **The reader finds the salt.** Clearing bits of the first byte does not touch it. -/
theorem salt_salted? (hblock : salted? h bits digest salt = some block)
    (hsalt : salt.length = h.size) : RsaBlock.salt h bits block = salt := by
  obtain ⟨hfits, seed, first, rest, hseed, hmasked, rfl⟩ := salted?_eq_some hblock
  obtain ⟨hrest, hbody⟩ := length_body hfits hseed hmasked
  set size := (bits + 6) / 8 with hsize
  set data := dataPart h size salt with hdata
  have hlen : data.length = rest.length + 1 := (length_dataPart hfits).trans hrest.symm
  -- The body of the block, its masked data part and its seed.
  have hdrop : (List.replicate ((bits + 7) / 8 - size) (0 : UInt8) ++
      ((first &&& topMask bits) :: (rest ++ seed ++ [0xbc]))).drop
        ((List.replicate ((bits + 7) / 8 - size) (0 : UInt8) ++
          ((first &&& topMask bits) :: (rest ++ seed ++ [0xbc]))).length - size) =
      ((first &&& topMask bits) :: rest) ++ (seed ++ [0xbc]) := by
    rw [List.length_append, List.length_replicate, List.length_cons, hbody, Nat.add_sub_cancel,
      List.drop_left' List.length_replicate, List.append_assoc, List.cons_append]
  have hleft : ((first &&& topMask bits) :: rest).length = size - h.size - 1 := hrest
  have hunmask : Bytes.xor (first :: rest) (h.mask seed data.length) = data := by
    rw [← hmasked]
    exact Bytes.xor_xor (by rw [Hash.length_mask])
  unfold RsaBlock.salt
  simp only [← hsize, hdrop, List.take_left' hleft, List.drop_left' hleft, List.take_left' hseed]
  rw [List.length_cons, ← hlen]
  -- Behind the first byte, taking the mask off gives the data part, which ends in the salt.
  cases hmask : h.mask seed data.length with
  | nil =>
    have hnil := congrArg List.length hmask
    rw [Hash.length_mask, hlen] at hnil
    cases hnil
  | cons m ms =>
    rw [hmask] at hunmask
    have hdata' : data = (first ^^^ m) :: Bytes.xor rest ms := hunmask.symm
    obtain ⟨j, hj⟩ : ∃ j, data.length - h.size = j + 1 :=
      ⟨data.length - h.size - 1, by rw [length_dataPart hfits]; omega⟩
    have hend : data.drop (j + 1) = salt := by
      rw [← hj, length_dataPart hfits, hdata, dataPart, ← List.singleton_append,
        ← List.append_assoc, List.drop_left']
      rw [List.length_append, List.length_replicate, List.length_singleton]
      omega
    rw [hj]
    rw [hdata', List.drop_succ_cons] at hend
    exact hend

/-! ### Sizes -/

/-- How many bits the first byte of a block has left, and how many they are with the other bytes. -/
theorem exists_topMask (hbits : 2 ≤ bits) :
    ∃ j, (topMask bits).toNat + 1 = 2 ^ j ∧ 8 * ((bits + 6) / 8 - 1) + j = bits - 1 := by
  have hmask : ∀ m < 8, (UInt8.ofNat (0xff >>> ((8 - m) % 8))).toNat + 1 =
      2 ^ (if m = 0 then 8 else m) := by decide
  refine ⟨_, hmask ((bits - 1) % 8) (Nat.mod_lt _ (by decide)), ?_⟩
  split <;> omega

theorem salted?_bounds (hblock : salted? h bits digest salt = some block) :
    block.length = (bits + 7) / 8 ∧ Bytes.toNat block < 2 ^ (bits - 1) := by
  obtain ⟨hfits, seed, first, rest, hseed, hmasked, rfl⟩ := salted?_eq_some hblock
  obtain ⟨-, hbody⟩ := length_body hfits hseed hmasked
  have hzeros : ∀ (n : Nat) (b : Bytes),
      Bytes.toNat (List.replicate n 0 ++ b) = Bytes.toNat b := by
    intro n b
    induction n with
    | zero => rfl
    | succ n ih =>
      rw [List.replicate_succ, List.cons_append, Bytes.toNat_cons, ih, UInt8.toNat_zero,
        Nat.mul_zero, Nat.zero_add]
  constructor
  · rw [List.length_append, List.length_replicate, List.length_cons, hbody]
    omega
  · obtain ⟨j, hj, hsum⟩ : ∃ j, (topMask bits).toNat + 1 = 2 ^ j ∧
        8 * ((bits + 6) / 8 - 1) + j = bits - 1 := exists_topMask (by omega)
    have hrest : (rest ++ seed ++ [0xbc]).length = (bits + 6) / 8 - 1 := by omega
    have hlow := Bytes.toNat_lt (rest ++ seed ++ [0xbc])
    have hfirst : (first &&& topMask bits).toNat + 1 ≤ 2 ^ j := by
      rw [← hj, UInt8.toNat_and]
      exact Nat.succ_le_succ Nat.and_le_right
    rw [hrest] at hlow
    rw [hzeros, Bytes.toNat_cons, hrest]
    calc 256 ^ ((bits + 6) / 8 - 1) * (first &&& topMask bits).toNat +
          Bytes.toNat (rest ++ seed ++ [0xbc])
        < 256 ^ ((bits + 6) / 8 - 1) * (first &&& topMask bits).toNat +
          256 ^ ((bits + 6) / 8 - 1) := Nat.add_lt_add_left hlow _
      _ = 256 ^ ((bits + 6) / 8 - 1) * ((first &&& topMask bits).toNat + 1) :=
        (Nat.mul_succ _ _).symm
      _ ≤ 256 ^ ((bits + 6) / 8 - 1) * 2 ^ j := Nat.mul_le_mul_left _ hfirst
      _ = 2 ^ (bits - 1) := by
        rw [← hsum, Nat.pow_add, Nat.pow_mul]

end RsaBlock

namespace RsaKey

variable {k : RsaKey} {s : RsaSecret} {h : Hash} {message signature salt : Bytes}

/-- A salted block for a modulus is as long as it, and writes a number below it. -/
theorem salted?_fits {block digest : Bytes} (hodd : k.modulus % 2 = 1)
    (hblock : RsaBlock.salted? h (bitLength k.modulus) digest salt = some block) :
    block.length = k.size ∧ Bytes.toNat block < k.modulus := by
  have hne : k.modulus ≠ 0 := by omega
  obtain ⟨hlen, hlt⟩ := RsaBlock.salted?_bounds hblock
  rw [bitLength, if_neg hne] at hlen hlt
  constructor
  · rw [hlen, size, Bytes.width, if_neg hne]
    omega
  · exact hlt.trans_le (Nat.log2_self_le hne)

/-! ### Signatures -/

/-- **A signature with the fixed layout is accepted.** -/
theorem IsPair.verifyFixed_signFixed (hpair : k.IsPair s)
    (hsign : k.signFixed? h message = some signature) :
    k.publicHalf.verifyFixed h message signature = true := by
  obtain ⟨block, hblock, hsign⟩ := Option.bind_eq_some_iff.mp hsign
  obtain ⟨rest, hzero, hlen⟩ := RsaBlock.fixed?_eq_some hblock
  have hblocklen : block.length = k.size := by rw [hzero]; exact hlen
  have hlt : Bytes.toNat block < k.modulus := by
    rw [hzero]
    exact toNat_lt_modulus hpair.odd hlen
  obtain ⟨c, hlower, hsize, hraise⟩ := hpair.lowerBytes_spec hblocklen hlt
  rw [hlower] at hsign
  cases hsign
  have hpub : k.publicHalf.size = k.size := rfl
  rw [verifyFixed, hpub, hblock]
  simp only [hsize, hraise, beq_self_eq_true, Bool.and_self]

/-- **A signature with the salted layout is accepted.** -/
theorem IsPair.verifySalted_signSalted (hpair : k.IsPair s) (hsalt : salt.length = h.size)
    (hsign : k.signSalted? h message salt = some signature) :
    k.publicHalf.verifySalted h message signature = true := by
  obtain ⟨block, hblock, hsign⟩ := Option.bind_eq_some_iff.mp hsign
  obtain ⟨hlen, hlt⟩ := salted?_fits hpair.odd hblock
  obtain ⟨c, hlower, -, hraise⟩ := hpair.lowerBytes_spec hlen hlt
  rw [hlower] at hsign
  cases hsign
  have hpub : k.publicHalf.modulus = k.modulus := rfl
  rw [verifySalted, hraise]
  simp only [hpub, RsaBlock.salt_salted? hblock hsalt, hblock, beq_self_eq_true]

/-! ### Success -/

/-- A block that is laid out for a modulus is signed by whoever can. -/
theorem isSome_bind_lowerBytes? {layout : Option Bytes}
    (hfits : k.modulus % 2 = 1 → ∀ block, layout = some block →
      block.length = k.size ∧ Bytes.toNat block < k.modulus) :
    (layout.bind k.lowerBytes?).isSome ↔ k.CanLower ∧ layout.isSome := by
  cases layout with
  | none => simp
  | some block =>
    rw [Option.bind_some]
    constructor
    · intro hsome
      rw [lowerBytes?] at hsome
      split at hsome
      · rw [Option.isSome_map, isSome_lower?] at hsome
        exact ⟨hsome.1, rfl⟩
      · cases hsome
    · rintro ⟨hcan, -⟩
      obtain ⟨hlen, hlt⟩ := hfits hcan.odd block rfl
      exact (isSome_lowerBytes? hlen).mpr ⟨hcan, hlt⟩

/-- Whether a signature with the fixed layout comes about does not depend on the message. -/
theorem isSome_signFixed? : (k.signFixed? h message).isSome ↔
    k.CanLower ∧ (RsaBlock.hashName h).length + h.size + 11 ≤ k.size := by
  have hroom : (RsaBlock.fixed? h k.size (h.digest message)).isSome ↔
      (RsaBlock.hashName h).length + h.size + 11 ≤ k.size := by
    simp only [RsaBlock.fixed?, List.length_append, Hash.length_digest]
    split <;> simp [*]
  rw [signFixed?, isSome_bind_lowerBytes?, hroom]
  intro hodd block hblock
  obtain ⟨rest, hzero, hlen⟩ := RsaBlock.fixed?_eq_some hblock
  rw [hzero]
  exact ⟨hlen, toNat_lt_modulus hodd hlen⟩

/-- Whether a signature with the salted layout comes about depends neither on the message nor on
the salt. -/
theorem isSome_signSalted? (hsalt : salt.length = h.size) :
    (k.signSalted? h message salt).isSome ↔
      k.CanLower ∧ 2 * h.size + 2 ≤ (bitLength k.modulus + 6) / 8 := by
  have hroom : (RsaBlock.salted? h (bitLength k.modulus) (h.digest message) salt).isSome ↔
      2 * h.size + 2 ≤ (bitLength k.modulus + 6) / 8 := by
    rw [RsaBlock.isSome_salted?, hsalt, ← Nat.two_mul]
  rw [signSalted?, isSome_bind_lowerBytes?, hroom]
  exact fun hodd block hblock => salted?_fits hodd hblock

end RsaKey
end WalletResponder
