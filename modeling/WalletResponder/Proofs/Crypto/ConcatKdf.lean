import WalletResponder.Crypto.ConcatKdf
import WalletResponder.Proofs.Bytes.Numbers
import WalletResponder.Proofs.Bytes.Pieces

/-!
# Deriving keys

A derived key is cut from the hashes of the rounds, one after another: each of its blocks is the
hash with the counter of its round, and the last one is cut off where the key ends
(`ConcatKdf.block_derive`).

**No two purposes share a derivation.** A text behind its length comes off from the front
(`ConcatKdf.framed_append_inj`), so the other information tells what the key is for
(`ConcatKdf.Purpose.info_inj`), and what is hashed in a round tells that and the round.
-/

namespace WalletResponder.ConcatKdf

open Bytes

/-- What a key is derived for: an algorithm, what is known of the two parties, and how many bytes
the key is to have. -/
@[ext]
structure Purpose where
  algorithm : Bytes
  apu : Bytes
  apv : Bytes
  size : Nat

/-- The other information of a purpose. -/
def Purpose.info (p : Purpose) : Bytes := otherInfo p.algorithm p.apu p.apv p.size

/-- A purpose whose lengths are small enough to be written down. -/
structure Purpose.Fits (p : Purpose) : Prop where
  algorithm : p.algorithm.length < 2 ^ 28
  apu : p.apu.length < 2 ^ 28
  apv : p.apv.length < 2 ^ 28
  size : p.size < 2 ^ 29

/-! ### What the other information says -/

/-- **A text behind its length comes off from the front.** -/
theorem framed_append_inj {s s' t t' : Bytes} (hs : s.length < 256 ^ 4) (hs' : s'.length < 256 ^ 4)
    (h : framed s ++ t = framed s' ++ t') : s = s' ∧ t = t' := by
  unfold framed at h
  rw [List.append_assoc, List.append_assoc] at h
  obtain ⟨hlen, h⟩ := List.append_inj h (by rw [length_ofNat, length_ofNat])
  exact List.append_inj h (ofNat_inj hs hs' hlen)

namespace Purpose

variable {p q : Purpose}

/-- **The other information tells the purpose.** -/
theorem info_inj (hp : p.Fits) (hq : q.Fits) (h : p.info = q.info) : p = q := by
  have hbound : (2 : Nat) ^ 28 ≤ 256 ^ 4 := by decide
  unfold info otherInfo at h
  rw [List.append_assoc, List.append_assoc, List.append_assoc, List.append_assoc] at h
  obtain ⟨halgorithm, h⟩ := framed_append_inj (hp.algorithm.trans_le hbound)
    (hq.algorithm.trans_le hbound) h
  obtain ⟨hapu, h⟩ := framed_append_inj (hp.apu.trans_le hbound) (hq.apu.trans_le hbound) h
  obtain ⟨hapv, h⟩ := framed_append_inj (hp.apv.trans_le hbound) (hq.apv.trans_le hbound) h
  have hpsize := hp.size
  have hqsize := hq.size
  have hsize : 8 * p.size = 8 * q.size := ofNat_inj (by omega) (by omega) h
  exact Purpose.ext halgorithm hapu hapv (by omega)

/-- The lengths in the other information are those of the texts, and the last number is the size of
the key in bits. -/
theorem Fits.exists_info (hp : p.Fits) : ∃ a u v n : Bytes,
    Writes 4 a p.algorithm.length ∧ Writes 4 u p.apu.length ∧ Writes 4 v p.apv.length ∧
    Writes 4 n (8 * p.size) ∧
    p.info = a ++ p.algorithm ++ (u ++ p.apu) ++ (v ++ p.apv) ++ n := by
  have hbound : (2 : Nat) ^ 28 ≤ 256 ^ 4 := by decide
  have hsize := hp.size
  exact ⟨_, _, _, _, writes_ofNat (hp.algorithm.trans_le hbound),
    writes_ofNat (hp.apu.trans_le hbound), writes_ofNat (hp.apv.trans_le hbound),
    writes_ofNat (by omega), rfl⟩

end Purpose

/-! ### The rounds -/

variable {secret secret' info info' : Bytes}

theorem length_round (secret info : Bytes) (i : Nat) : (round secret info i).length = 32 := rfl

/-- What is hashed in a round tells the round, the secret and the other information, if the secrets
are of one size. -/
theorem round_input_inj {c c' : Bytes} {i i' : Nat} (hc : Writes 4 c i) (hc' : Writes 4 c' i')
    (hlen : secret.length = secret'.length) (h : c ++ secret ++ info = c' ++ secret' ++ info') :
    i = i' ∧ secret = secret' ∧ info = info' := by
  rw [List.append_assoc, List.append_assoc] at h
  obtain ⟨hcount, h⟩ := List.append_inj h (hc.length.trans hc'.length.symm)
  refine ⟨?_, List.append_inj h hlen⟩
  rw [← hc.toNat, hcount, hc'.toNat]

variable {p : Purpose} {key : Bytes}

theorem derive_eq_ok (hsecret : secret ≠ []) (hsize : 0 < p.size) :
    derive secret p.algorithm p.size p.apu p.apv =
      .ok (((List.range ((p.size + 31) / 32)).flatMap
        fun i => round secret p.info (i + 1)).take p.size) := by
  have hempty : secret.isEmpty = false := by simpa using hsecret
  have hzero : (p.size == 0) = false := by simpa using Nat.ne_of_gt hsize
  rw [derive, hempty, hzero]
  rfl

/-- A derived key has the size that is asked for. -/
theorem length_derive {algorithm apu apv : Bytes} {size : Nat}
    (h : derive secret algorithm size apu apv = .ok key) : key.length = size := by
  unfold derive at h
  split at h
  · cases h
  · cases h
    rw [List.length_take, length_flatMap_of_size fun i => length_round secret _ (i + 1),
      List.length_range, Nat.min_eq_left]
    omega

/-- **Each block of a derived key is the hash of its round**, and the last one is cut off. -/
theorem block_derive (h : derive secret p.algorithm p.size p.apu p.apv = .ok key) {k : Nat}
    (hk : 32 * k < p.size) :
    (key.drop (32 * k)).take 32 = (round secret p.info (k + 1)).take (p.size - 32 * k) := by
  have hsecret : secret ≠ [] := by
    rintro rfl
    cases h
  rw [derive_eq_ok hsecret (by omega)] at h
  cases h
  have hrounds : k < (List.range ((p.size + 31) / 32)).length := by
    rw [List.length_range]
    omega
  have hpiece := piece_flatMap_of_size (fun i => length_round secret p.info (i + 1)) hrounds
  rw [List.getElem_range] at hpiece
  rw [List.drop_take, List.take_take, Nat.min_comm, ← List.take_take, hpiece]

/-- **A key is derived for one purpose only.** For every purpose that can be written down a key of
its size is derived. Its blocks are the hashes of the rounds, counted from one, each over its
counter, the secret and the other information, which has every text behind its length and the size
of the key in bits at its end. Other information is told apart by what it is for, and so is what the
rounds hash, whatever secrets of one size they hash it with. -/
theorem derives_for_one_purpose :
    (∀ (secret : Bytes) (p : Purpose), secret ≠ [] → secret.length < 2 ^ 28 → p.Fits →
      0 < p.size → ∃ key, derive secret p.algorithm p.size p.apu p.apv = .ok key ∧
        key.length = p.size ∧
        (∃ a u v n : Bytes, Writes 4 a p.algorithm.length ∧ Writes 4 u p.apu.length ∧
          Writes 4 v p.apv.length ∧ Writes 4 n (8 * p.size) ∧
          p.info = a ++ p.algorithm ++ (u ++ p.apu) ++ (v ++ p.apv) ++ n) ∧
        ∀ k, 32 * k < p.size → ∃ counter, Writes 4 counter (k + 1) ∧
          (key.drop (32 * k)).take 32 =
            (Sha256.digest (counter ++ secret ++ p.info)).take (p.size - 32 * k)) ∧
    (∀ p q : Purpose, p.Fits → q.Fits → p.info = q.info → p = q) ∧
    ∀ p q : Purpose, p.Fits → q.Fits → ∀ (secret secret' c c' : Bytes) (i i' : Nat),
      Writes 4 c i → Writes 4 c' i' → secret.length = secret'.length →
      c ++ secret ++ p.info = c' ++ secret' ++ q.info → i = i' ∧ secret = secret' ∧ p = q := by
  refine ⟨fun secret p hsecret _ hp hsize => ?_, fun p q hp hq => Purpose.info_inj hp hq,
    fun p q hp hq secret secret' c c' i i' hc hc' hlen h => ?_⟩
  · have hderive := derive_eq_ok hsecret hsize
    refine ⟨_, hderive, length_derive hderive, hp.exists_info, fun k hk => ?_⟩
    have hfits := hp.size
    exact ⟨_, writes_ofNat (by omega), block_derive hderive hk⟩
  · obtain ⟨hcount, hsecret, hinfo⟩ := round_input_inj hc hc' hlen h
    exact ⟨hcount, hsecret, Purpose.info_inj hp hq hinfo⟩

/-- What a key for Alice and Bob is derived for. -/
def betweenTwo : Purpose := ⟨utf8 "ECDH-ES+A128KW", utf8 "Alice", utf8 "Bob", 40⟩

/-- The same texts, cut in another place. -/
def cutElsewhere : Purpose := ⟨utf8 "ECDH-ES+A128KWAlice", [], utf8 "Bob", 40⟩

/-- A key of forty bytes ends with eight bytes of the second round. The same texts, cut in another
place, make another purpose. -/
theorem derives_forty_bytes :
    (∃ key, derive [7] betweenTwo.algorithm 40 betweenTwo.apu betweenTwo.apv = .ok key ∧
      key.length = 40 ∧ ∃ counter, Writes 4 counter 2 ∧ (key.drop 32).take 32 =
        (Sha256.digest (counter ++ [7] ++ betweenTwo.info)).take 8) ∧
    betweenTwo.info ≠ cutElsewhere.info := by
  have htwo : betweenTwo.Fits := ⟨by decide, by decide, by decide, by decide⟩
  have hcut : cutElsewhere.Fits := ⟨by decide, by decide, by decide, by decide⟩
  obtain ⟨hderives, htells, -⟩ := derives_for_one_purpose
  refine ⟨?_, fun h => absurd (htells _ _ htwo hcut h) fun he => ?_⟩
  · obtain ⟨key, hkey, hlen, -, hblocks⟩ :=
      hderives [7] betweenTwo (by decide) (by decide) htwo (by decide)
    exact ⟨key, hkey, hlen, hblocks 1 (by decide)⟩
  · cases congrArg Purpose.apu he

end WalletResponder.ConcatKdf
