import Mathlib.Algebra.Order.Ring.Nat
import WalletResponder.Proofs.Url.RoundTrip

/-!
# What fits on the wire

The library that converts names and values is told their sizes in 32 bits. What is shorter than
`2 ^ 31` bytes it sees as it is (`Percent.told?_eq_self`), and there it depends on the encoding
alone whether a value can be written: one that is longer than the library's buffers is refused, and
one that fits reads back (`Percent.write_of_fits`, `Percent.read_encode`).

Parameters fit if their names and values do (`FormParameters.Fits`). They then survive a form, a
query and a fragment, by the laws of `WalletResponder.Proofs.Url.RoundTrip` for the parts of a text;
otherwise nothing is written at all.
-/

namespace WalletResponder

/-! ## One value -/

namespace Percent

variable {s : Bytes}

/-- The encoding of the value is short enough. -/
def Fits (s : Bytes) : Prop := (encode s).length ≤ maxEscaped

instance (s : Bytes) : Decidable (Fits s) := Nat.decLe _ _

theorem length_encodeByte (b : UInt8) :
    (encodeByte b).length = if isUnreserved b then 1 else 3 := by
  rw [encodeByte]
  split <;> rfl

theorem foldl_encodedSize : ∀ (s : Bytes) (n : Nat),
    s.foldl (fun n b => n + if isUnreserved b then 1 else 3) n = n + (encode s).length
  | [], _ => rfl
  | b :: s, n => by
    rw [List.foldl_cons, foldl_encodedSize s, encode, encode, List.flatMap_cons,
      List.length_append, length_encodeByte, Nat.add_assoc]

theorem encodedSize_eq (s : Bytes) : encodedSize s = (encode s).length := by
  rw [encodedSize, foldl_encodedSize, Nat.zero_add]

theorem length_le_encode : ∀ s : Bytes, s.length ≤ (encode s).length
  | [] => Nat.le_refl 0
  | b :: s => by
    have ih : s.length ≤ (s.flatMap encodeByte).length := length_le_encode s
    have hb : 1 ≤ (encodeByte b).length := by
      rw [length_encodeByte]
      split <;> decide
    rw [encode, List.flatMap_cons, List.length_append, List.length_cons]
    omega

/-- The library can tell how long the encoding of a value that fits is. -/
theorem Fits.length_lt (h : Fits s) : (encode s).length < 2 ^ 31 := Nat.lt_of_le_of_lt h (by decide)

/-- **What is shorter than `2 ^ 31` bytes is seen as it is.** -/
theorem told?_eq_self (h : s.length < 2 ^ 31) : told? s = some s := by
  rw [told?, Int32.toInt_ofNat_of_lt h]
  cases s with
  | nil => rfl
  | cons b s => exact congrArg some List.take_length

theorem read_eq_decode (h : s.length < 2 ^ 31) : read s = .ok (decode s) := by
  rw [read, told?_eq_self h]

theorem write_eq (h : s.length < 2 ^ 31) :
    write s = if Fits s then .ok (encode s) else .error .escaping := by
  rw [write, told?_eq_self h]
  simp only [encodedSize_eq]
  rfl

theorem write_of_fits (h : Fits s) : write s = .ok (encode s) := by
  rw [write_eq (Nat.lt_of_le_of_lt (length_le_encode s) h.length_lt), if_pos h]

/-- **A value that fits reads back.** -/
theorem read_encode (h : Fits s) : read (encode s) = .ok s := by
  rw [read_eq_decode h.length_lt, decode_encode]

theorem length_encode_replicate (n : Nat) (b : UInt8) :
    (encode (List.replicate n b)).length = n * (encodeByte b).length := by
  rw [encode, List.flatMap_replicate, List.length_flatten, List.map_replicate,
    List.sum_replicate_nat]

end Percent

/-! ## Forms -/

namespace FormParameters

variable {params : FormParameters} {p : Bytes × Bytes} {s t : Bytes}

/-- The names and values are short enough. -/
def Fits (params : FormParameters) : Prop := ∀ p ∈ params, Percent.Fits p.1 ∧ Percent.Fits p.2

instance (params : FormParameters) : Decidable params.Fits := by
  unfold Fits; infer_instance

/-- The names and values have sizes of 31 bits. -/
def Sized (params : FormParameters) : Prop :=
  ∀ p ∈ params, p.1.length < 2 ^ 31 ∧ p.2.length < 2 ^ 31

instance (params : FormParameters) : Decidable params.Sized := by
  unfold Sized; infer_instance

theorem writePair_of_fits (h : Percent.Fits p.1 ∧ Percent.Fits p.2) :
    writePair p = .ok (encodePair p) := by
  rw [writePair, Percent.write_of_fits h.1, Percent.write_of_fits h.2]
  rfl

theorem writePair_of_not_fits (hname : p.1.length < 2 ^ 31) (hvalue : p.2.length < 2 ^ 31)
    (h : ¬ (Percent.Fits p.1 ∧ Percent.Fits p.2)) : writePair p = .error .escaping := by
  rw [writePair, Percent.write_eq hname, Percent.write_eq hvalue]
  by_cases hfits : Percent.Fits p.1
  · rw [if_pos hfits, if_neg fun hsecond => h ⟨hfits, hsecond⟩]
    rfl
  · rw [if_neg hfits]
    rfl

theorem write_of_fits : ∀ {params : FormParameters}, params.Fits →
    params.write = .ok params.encode
  | [], _ => rfl
  | [p], h => writePair_of_fits (h p List.mem_cons_self)
  | p :: q :: rest, h => by
    obtain ⟨hp, hrest⟩ := List.forall_mem_cons.mp h
    rw [write, writePair_of_fits hp, write_of_fits hrest, encode]
    rfl

theorem write_of_not_fits : ∀ {params : FormParameters}, params.Sized → ¬ params.Fits →
    params.write = .error .escaping
  | [], _, h => absurd (List.forall_mem_nil _) h
  | [p], hsized, h => by
    obtain ⟨hname, hvalue⟩ := hsized p List.mem_cons_self
    exact writePair_of_not_fits hname hvalue fun hp => h (List.forall_mem_singleton.mpr hp)
  | p :: q :: rest, hsized, h => by
    obtain ⟨⟨hname, hvalue⟩, hsized⟩ := List.forall_mem_cons.mp hsized
    by_cases hp : Percent.Fits p.1 ∧ Percent.Fits p.2
    · have hrest : ¬ Fits (q :: rest) := fun hrest => h (List.forall_mem_cons.mpr ⟨hp, hrest⟩)
      rw [write, writePair_of_fits hp, write_of_not_fits hsized hrest]
      rfl
    · rw [write, writePair_of_not_fits hname hvalue hp]
      rfl

/-- Parts that are read one by one are read together. -/
theorem mapM_readPair : ∀ {l : List Bytes}, (∀ part ∈ l, readPair part = .ok (decodePair part)) →
    l.mapM readPair = .ok (l.map decodePair)
  | [], _ => rfl
  | part :: l, h => by
    obtain ⟨hpart, hl⟩ := List.forall_mem_cons.mp h
    rw [List.mapM_cons, hpart, mapM_readPair hl]
    rfl

theorem readPair_encodePair (h : Percent.Fits p.1 ∧ Percent.Fits p.2) :
    readPair (encodePair p) = .ok p := by
  rw [readPair, upTo_encodePair, after?_encodePair, Option.getD_some, Percent.read_encode h.1,
    Percent.read_encode h.2]
  rfl

theorem mapM_readPair_encodePair (h : params.Fits) :
    (params.map encodePair).mapM readPair = .ok params := by
  have hread : ∀ part ∈ params.map encodePair, readPair part = .ok (decodePair part) := by
    intro part hpart
    obtain ⟨p, hp, rfl⟩ := List.mem_map.mp hpart
    rw [readPair_encodePair (h p hp), decodePair_encodePair]
  rw [mapM_readPair hread, map_decodePair]

/-- **A form that fits reads back.** -/
theorem read_encode (h : params.Fits) : read params.encode = .ok params := by
  rw [read, parts_encode, mapM_readPair_encodePair h]

/-- What ends in the parts of a form is read with its parameters at the end. -/
theorem read_of_parts_append (h : params.Fits)
    (hparts : parts t = parts s ++ params.map encodePair) :
    read t = (read s).map (· ++ params) := by
  rw [read, hparts, List.mapM_append, mapM_readPair_encodePair h, ← read]
  cases read s <;> rfl

theorem length_dropMark_le (s : Bytes) : (dropMark s).length ≤ s.length := by
  cases s with
  | nil => exact Nat.le_refl 0
  | cons c r =>
    rw [dropMark]
    split
    · exact Nat.le_succ _
    · exact Nat.le_refl _

theorem length_le_of_mem_parts {part : Bytes} (h : part ∈ parts s) : part.length ≤ s.length :=
  Nat.le_trans (Bytes.length_le_of_mem_splitOn (List.mem_of_mem_filter h)) (length_dropMark_le s)

/-- **A text of less than `2 ^ 31` bytes is read.** -/
theorem read_eq_parse (h : s.length < 2 ^ 31) : read s = .ok (parse s) := by
  refine mapM_readPair fun part hpart => ?_
  have hlength := length_le_of_mem_parts hpart
  have hname := Bytes.length_upTo_le 0x3d part
  have hvalue := Bytes.length_after?_le 0x3d part
  rw [readPair, Percent.read_eq_decode (by omega), Percent.read_eq_decode (by omega)]
  rfl

end FormParameters

/-! ## Redirects -/

namespace Redirect

variable {params : FormParameters} (uri : Bytes)

theorem writeQuery_of_fits (h : params.Fits) :
    writeQuery uri params = .ok (appendQuery uri params) := by
  rw [writeQuery, appendQuery, FormParameters.write_of_fits h]
  split <;> rfl

theorem writeQuery_of_not_fits (hsized : params.Sized) (h : ¬ params.Fits) :
    writeQuery uri params = .error .escaping := by
  have hne : ¬ params.isEmpty = true := fun hempty => by
    rw [List.isEmpty_iff.mp hempty] at h
    exact h (List.forall_mem_nil _)
  rw [writeQuery, if_neg hne, FormParameters.write_of_not_fits hsized h]
  rfl

theorem writeFragment_of_fits (h : params.Fits) :
    writeFragment uri params = .ok (replaceFragment uri params) := by
  rw [writeFragment, FormParameters.write_of_fits h]
  rfl

theorem writeFragment_of_not_fits (hsized : params.Sized) (h : ¬ params.Fits) :
    writeFragment uri params = .error .escaping := by
  rw [writeFragment, FormParameters.write_of_not_fits hsized h]
  rfl

theorem length_query_le (uri : Bytes) : (query uri).length ≤ uri.length :=
  Nat.le_trans (Bytes.length_after?_le _ _) (Bytes.length_upTo_le _ _)

/-- **Parameters survive the wire byte for byte, if they fit.** Whatever bytes the names and values
hold, a form reads back as them. Behind any query they come after what that query is read as, and
all of the URI in front of its fragment and the fragment itself stay in place. As a fragment they
stand behind the only hash of the URI. Parameters one of which does not fit are not written, and a
query of less than `2 ^ 31` bytes is read. -/
theorem parameters_survive {params : FormParameters} (hsized : params.Sized) (uri : Bytes) :
    (params.Fits →
      (∃ text, params.write = .ok text ∧ FormParameters.read text = .ok params) ∧
      (∃ added, 0x23 ∉ base uri ++ added ∧ uri = base uri ++ fragment uri ∧
        writeQuery uri params = .ok (base uri ++ added ++ fragment uri) ∧
        FormParameters.read (query (base uri ++ added ++ fragment uri)) =
          (FormParameters.read (query uri)).map (· ++ params)) ∧
      ∃ form, writeFragment uri params = .ok (base uri ++ 0x23 :: form) ∧
        0x23 ∉ base uri ++ form ∧ FormParameters.read form = .ok params) ∧
    (¬ params.Fits →
      params.write = .error .escaping ∧ writeQuery uri params = .error .escaping ∧
        writeFragment uri params = .error .escaping) ∧
    (uri.length < 2 ^ 31 → ∃ before, FormParameters.read (query uri) = .ok before) := by
  refine ⟨fun h => ⟨?_, ?_, ?_⟩, fun h => ⟨?_, ?_, ?_⟩, fun h => ?_⟩
  · exact ⟨params.encode, FormParameters.write_of_fits h, FormParameters.read_encode h⟩
  -- The parts of the query are those of the URI and then the parameters, so reading them one by one
  -- gives what the URI gave, a fault included, and then the parameters.
  · obtain ⟨added, hadded, happend⟩ := exists_appendQuery uri params
    refine ⟨added, ?_, (base_append_fragment uri).symm, ?_, ?_⟩
    · exact fun hmem => (List.mem_append.mp hmem).elim (notMem_base uri) hadded
    · rw [writeQuery_of_fits uri h, happend]
    · rw [← happend]
      exact FormParameters.read_of_parts_append h (parts_query_appendQuery uri params)
  · refine ⟨params.encode, writeFragment_of_fits uri h, ?_, FormParameters.read_encode h⟩
    have hform := FormParameters.hash_notMem_encode params
    exact fun hmem => (List.mem_append.mp hmem).elim (notMem_base uri) hform
  · exact FormParameters.write_of_not_fits hsized h
  · exact writeQuery_of_not_fits uri hsized h
  · exact writeFragment_of_not_fits uri hsized h
  · have hquery := length_query_le uri
    exact ⟨_, FormParameters.read_eq_parse (Nat.lt_of_le_of_lt hquery h)⟩

/-- Two parameters with nothing plain about them. -/
def oddParameters : FormParameters := [(utf8 "a&=", [0x00, 0x25, 0xff]), ([], [])]

theorem oddParameters_survive : oddParameters.Sized ∧ oddParameters.Fits ∧
    (∃ text, oddParameters.write = .ok text ∧ FormParameters.read text = .ok oddParameters) ∧
    ∃ before new, FormParameters.read (query (utf8 "v??x&#f?")) = .ok before ∧
      writeQuery (utf8 "v??x&#f?") oddParameters = .ok new ∧
      FormParameters.read (query new) = .ok (before ++ oddParameters) := by
  have hsized : oddParameters.Sized := by decide
  have hfits : oddParameters.Fits := by decide
  obtain ⟨hsurvive, -, hread⟩ := parameters_survive hsized (utf8 "v??x&#f?")
  obtain ⟨hform, ⟨added, -, -, hwrite, hquery⟩, -⟩ := hsurvive hfits
  obtain ⟨before, hbefore⟩ := hread (by decide)
  refine ⟨hsized, hfits, hform, before, _, hbefore, hwrite, ?_⟩
  rw [hquery, hbefore]
  rfl

/-- A parameter with eight million percent signs, which are three times as many bytes on the
wire. -/
def percentSigns : FormParameters := [(utf8 "a", List.replicate 8000000 0x25)]

/-- The value is far shorter than `2 ^ 31` bytes, but the library does not write it. -/
theorem percentSigns_are_refused : percentSigns.Sized ∧ percentSigns.write = .error .escaping := by
  have hsized : percentSigns.Sized :=
    List.forall_mem_singleton.mpr ⟨by decide, by rw [List.length_replicate]; decide⟩
  refine ⟨hsized, FormParameters.write_of_not_fits hsized fun hfits => ?_⟩
  have hvalue := (List.forall_mem_singleton.mp hfits).2
  rw [Percent.Fits, Percent.length_encode_replicate] at hvalue
  exact absurd hvalue (by decide)

end Redirect
end WalletResponder
