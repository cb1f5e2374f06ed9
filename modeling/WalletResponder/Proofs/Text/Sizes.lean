import Mathlib.Algebra.Order.Ring.Nat
import WalletResponder.Proofs.Text.Exactness

/-!
# base64url with sizes in 32 bits

As long as the sizes that are told fit in 31 bits, writing and reading are the encoding without
sizes (`Base64Url.write_eq_encode`, `Base64Url.read_eq_decode`), and what that encoding does is what
the code does. The two bounds belong together: the longest byte strings that are written have the
longest texts that are read.

Beyond them bytes are not written, since their characters are too many to be counted, and a text is
not read as what it stands for: its length is told as a negative number, and nothing is found.
-/

namespace WalletResponder.Base64Url

variable {b s d : Bytes}

/-! ### What is refused as a text -/

theorem read_of_badLength (h : s.length % 4 = 1) : read s = .error (.text .badLength) := by
  rw [read, readBy, if_pos h]

theorem read_of_badCharacter (hlength : s.length % 4 ≠ 1) (h : s.all isCharacter = false) :
    read s = .error (.text .badCharacter) := by
  rw [read, readBy, if_neg hlength, h, if_pos (by rfl)]

/-- A text that is base64url is not refused as a text, whatever its size. -/
theorem read_ne_text (hlength : s.length % 4 ≠ 1) (h : s.all isCharacter = true) (fault : Fault) :
    read s ≠ .error (.text fault) := by
  rw [read, readBy, if_neg hlength, h, if_neg (by decide)]
  split
  · exact fun hsize => by cases hsize
  · exact fun hread => by cases hread

theorem read_eq_text {fault : Fault} :
    read s = .error (.text fault) ↔ decode s = .error fault := by
  by_cases hlength : s.length % 4 = 1
  · rw [read_of_badLength hlength, decode, if_pos hlength]
    simp
  by_cases hall : s.all isCharacter = true
  · have hread := read_ne_text hlength hall fault
    rw [decode, if_neg hlength, if_pos hall]
    simp [hread]
  · rw [read_of_badCharacter hlength (by simpa using hall), decode, if_neg hlength, if_neg hall]
    simp

/-! ### Where sizes do not matter -/

theorem write_eq_encode (h : b.length + 2 < 3 * 2 ^ 29) : write b = .ok (encode b) := by
  have htold : (Int32.ofNat b.length).toNatClampNeg = b.length :=
    Int32.toNatClampNeg_ofNat_of_lt (by omega)
  have hcount : (Int32.ofNat (4 * ((b.length + 2) / 3))).toInt = (4 * ((b.length + 2) / 3) : Nat) :=
    Int32.toInt_ofNat_of_lt (by omega)
  rw [write]
  simp only [htold, hcount]
  rw [if_neg (by omega), List.take_length]

/-- The bytes of a text are three for every four characters, rounded down. -/
theorem length_of_decode (h : decode s = .ok d) : (4 * d.length + 2) / 3 = s.length := by
  rw [← length_encode]
  exact (isRounded_of_decode h).1.length

theorem read_of_decode (h : s.length + 3 < 2 ^ 31) (hdecode : decode s = .ok d) : read s = .ok d := by
  have htold : (Int32.ofNat (s.length + (4 - s.length % 4) % 4)).toNatClampNeg =
      s.length + (4 - s.length % 4) % 4 :=
    Int32.toNatClampNeg_ofNat_of_lt (by omega)
  have hfound := length_of_decode hdecode
  rw [decode] at hdecode
  split at hdecode
  · cases hdecode
  next hlength =>
  split at hdecode
  · next hall =>
    have hd : ofSextets (s.filterMap sextet?) = d := Except.ok.inj hdecode
    rw [read, readBy]
    simp only [htold]
    rw [if_neg hlength, hall, if_neg (by decide), if_neg (by omega),
      List.take_of_length_le (Nat.le_add_right _ _), hd, List.take_of_length_le (by omega)]
  · cases hdecode

theorem read_eq_decode (h : s.length + 3 < 2 ^ 31) : read s = (decode s).mapError .text := by
  cases hdecode : decode s with
  | error fault => exact read_eq_text.mpr hdecode
  | ok d => exact read_of_decode h hdecode

theorem read_eq_ok (h : s.length + 3 < 2 ^ 31) : read s = .ok d ↔ decode s = .ok d := by
  rw [read_eq_decode h]
  cases decode s <;> simp [Except.mapError]

/-! ### Where bytes are too many -/

theorem write_eq_size (hlow : 3 * 2 ^ 29 ≤ b.length + 2) (hhigh : b.length < 2 ^ 31) :
    write b = .error .size := by
  have htold : (Int32.ofNat b.length).toNatClampNeg = b.length :=
    Int32.toNatClampNeg_ofNat_of_lt hhigh
  have hcount : (Int32.ofNat (4 * ((b.length + 2) / 3))).toInt < 0 := by
    rw [Int32.toInt_ofNat', Int.bmod_def]
    simp only [show Int32.size = 4294967296 from rfl]
    split <;> omega
  rw [write]
  simp only [htold]
  rw [if_pos hcount]

/-! ### Both directions -/

/-- **The encoding is exact, as long as sizes fit.** What is written has the characters of the
alphabet, four for every three bytes, rounded up, and reads back; bytes with too many characters are
not written. What is read is every text in the alphabet that has not one character left over after
the groups of four, and a text that is not read is at fault for that, or else for one of its
characters. Written again, what was read is the text but for the spare bits of its last character,
which become zero: it is the text exactly if they were. -/
theorem encoding_is_exact (b s : Bytes) :
    (b.length + 2 < 3 * 2 ^ 29 → ∃ text, write b = .ok text ∧ (∀ c ∈ text, c ∈ alphabet) ∧
      text.length = (4 * b.length + 2) / 3 ∧ read text = .ok b) ∧
    (3 * 2 ^ 29 ≤ b.length + 2 → b.length < 2 ^ 31 → write b = .error .size) ∧
    (read s = .error (.text .badLength) ↔ s.length % 4 = 1) ∧
    (read s = .error (.text .badCharacter) ↔ s.length % 4 ≠ 1 ∧ ∃ c ∈ s, c ∉ alphabet) ∧
    (s.length + 3 < 2 ^ 31 →
      ((∃ d, read s = .ok d) ↔ (∀ c ∈ s, c ∈ alphabet) ∧ s.length % 4 ≠ 1) ∧
      ∀ d, read s = .ok d → ∃ text, write d = .ok text ∧ IsRounded s text ∧
        (text = s ↔ SpareBitsZero s)) := by
  refine ⟨fun h => ?_, write_eq_size, ?_, ?_, fun h => ⟨?_, fun d hread => ?_⟩⟩
  · have hlength := length_encode b
    exact ⟨encode b, write_eq_encode h, fun _ => mem_alphabet_of_mem_encode, hlength,
      (read_eq_ok (by omega)).mpr (decode_encode b)⟩
  · rw [read_eq_text, decode_eq_badLength]
  · rw [read_eq_text, decode_eq_badCharacter]
  · simp only [read_eq_ok h, decode_isOk_iff]
  · have hdecode := (read_eq_ok h).mp hread
    have hlength := length_of_decode hdecode
    exact ⟨encode d, write_eq_encode (by omega), isRounded_of_decode hdecode⟩

/-- Four bits of an `R` at the end stand for nothing: it is read as a `Q`. -/
theorem strayBits_are_cleared :
    read (utf8 "QR") = .ok [0x41] ∧ write [0x41] = .ok (utf8 "QQ") ∧
      IsRounded (utf8 "QR") (utf8 "QQ") ∧ ¬ SpareBitsZero (utf8 "QR") := by
  have hread : read (utf8 "QR") = .ok [0x41] := rfl
  have hwritten : write [0x41] = .ok (utf8 "QQ") := rfl
  obtain ⟨-, -, -, -, hsized⟩ := encoding_is_exact [] (utf8 "QR")
  obtain ⟨-, hagain⟩ := hsized (by decide)
  obtain ⟨text, htext, hrounded, hiff⟩ := hagain [0x41] hread
  obtain rfl : utf8 "QQ" = text := Except.ok.inj (hwritten.symm.trans htext)
  refine ⟨hread, hwritten, hrounded, fun hzero => ?_⟩
  have hne : utf8 "QQ" ≠ utf8 "QR" := by decide
  exact hne (hiff.mpr hzero)

/-- Two gigabytes of characters. -/
def longText : Bytes := List.replicate 2147483648 0x41

/-- Bytes with one character more than can be counted. -/
def longBytes : Bytes := List.replicate 1610612734 0x00

/-- Of a text with too many characters nothing is read, although it is base64url. -/
theorem longText_is_lost :
    longText.length = 2147483648 ∧ longText.all isCharacter = true ∧
      read longText = .ok [] ∧ write [] = .ok [] ∧
    longBytes.length = 1610612734 ∧ write longBytes = .error .size := by
  have htext : longText.length = 2147483648 := List.length_replicate
  have hclean : longText.all isCharacter = true := by
    rw [longText, List.all_replicate]
    rfl
  have hbytes : longBytes.length = 1610612734 := List.length_replicate
  refine ⟨htext, hclean, ?_, rfl, hbytes, write_eq_size (by omega) (by omega)⟩
  rw [read, htext, hclean]
  rfl

end WalletResponder.Base64Url
