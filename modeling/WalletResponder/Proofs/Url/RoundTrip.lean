import WalletResponder.Proofs.Bytes.Splitting
import WalletResponder.Url.Redirect

/-!
# Parameters survive the wire

Names and values are arbitrary byte strings. Percent-encoding leaves letters, digits and `- . _ ~`
and writes percent signs for the rest, so that no byte with a meaning of its own in a form or in a
URI is left (`Percent.notMem_encode`), and decoding gives the bytes back (`Percent.decode_encode`).
From this a form reads back as the parameters it was written from (`FormParameters.parse_encode`).

In a redirect the form stands behind a query that others have written, which may be empty, end in
an ampersand, begin with a second question mark or hold parts that are no parameters. What has to be
shown of the separator is that it ends the last part of that query and belongs to no parameter
(`FormParameters.parts_append`, `Redirect.parts_query_separator`).
-/

namespace WalletResponder

namespace Percent

/-! ## Percent encoding -/

theorem hexValue?_hexDigit : ∀ n < 16, hexValue? (hexDigit n) = some n := by decide

theorem isUnreserved_hexDigit : ∀ n < 16, isUnreserved (hexDigit n) = true := by decide

/-- What is no percent sign stands for itself. -/
theorem unescape_cons_ne {b : UInt8} (h : b ≠ 0x25) : ∀ r : Bytes,
    unescape (b :: r) = b :: unescape r
  | [] => rfl
  | [_] => rfl
  | _ :: _ :: _ => by rw [unescape, if_neg (by simpa using h)]

theorem unescape_hexDigits (b : UInt8) (r : Bytes) :
    unescape (0x25 :: hexDigit (b.toNat / 16) :: hexDigit (b.toNat % 16) :: r) =
      b :: unescape r := by
  have hb : b.toNat < 256 := b.toNat_lt
  have hsum : 16 * (b.toNat / 16) + b.toNat % 16 = b.toNat := by omega
  rw [unescape, if_pos (by rfl), hexValue?_hexDigit _ (by omega), hexValue?_hexDigit _ (by omega)]
  simp only [hsum, UInt8.ofNat_toNat]

theorem unescape_encodeByte (b : UInt8) (r : Bytes) :
    unescape (encodeByte b ++ r) = b :: unescape r := by
  by_cases h : isUnreserved b = true
  · have hne : b ≠ 0x25 := by
      rintro rfl
      exact absurd h (by decide)
    rw [encodeByte, if_pos h, List.singleton_append, unescape_cons_ne hne]
  · rw [encodeByte, if_neg h]
    exact unescape_hexDigits b r

theorem unescape_encode : ∀ s : Bytes, unescape (encode s) = s
  | [] => rfl
  | b :: s => by
    have ih : unescape (s.flatMap encodeByte) = s := unescape_encode s
    rw [encode, List.flatMap_cons, unescape_encodeByte, ih]

theorem mem_encodeByte {b x : UInt8} (h : x ∈ encodeByte b) : isUnreserved x = true ∨ x = 0x25 := by
  have hb : b.toNat < 256 := b.toNat_lt
  by_cases hu : isUnreserved b = true
  · rw [encodeByte, if_pos hu, List.mem_singleton] at h
    exact .inl (h ▸ hu)
  · rw [encodeByte, if_neg hu] at h
    simp only [List.mem_cons, List.not_mem_nil, or_false] at h
    rcases h with rfl | rfl | rfl
    · exact .inr rfl
    · exact .inl (isUnreserved_hexDigit _ (by omega))
    · exact .inl (isUnreserved_hexDigit _ (by omega))

/-- **No byte with a meaning of its own is left.** -/
theorem notMem_encode {x : UInt8} (hx : isUnreserved x = false) (hne : x ≠ 0x25) (s : Bytes) :
    x ∉ encode s := by
  intro h
  obtain ⟨b, -, hb⟩ := List.mem_flatMap.mp h
  rcases mem_encodeByte hb with hu | rfl
  · rw [hx] at hu
    exact Bool.noConfusion hu
  · exact hne rfl

theorem decode_encode (s : Bytes) : decode (encode s) = s := by
  have hplus : (encode s).map (fun b => if b == 0x2b then 0x20 else b) = encode s := by
    rw [List.map_congr_left (g := id), List.map_id]
    intro b hb
    have hne : b ≠ 0x2b := by
      rintro rfl
      exact notMem_encode (by decide) (by decide) s hb
    rw [if_neg (by simpa using hne), id]
  rw [decode, hplus, unescape_encode]

end Percent

namespace FormParameters

/-! ## Forms -/

theorem notMem_encodePair {x : UInt8} (hx : Percent.isUnreserved x = false) (hne : x ≠ 0x25)
    (heq : x ≠ 0x3d) (p : Bytes × Bytes) : x ∉ encodePair p := by
  rw [encodePair, List.mem_append, List.mem_cons]
  rintro (h | h | h)
  · exact Percent.notMem_encode hx hne _ h
  · exact heq h
  · exact Percent.notMem_encode hx hne _ h

/-- In front of the equals sign stands the name. -/
theorem upTo_encodePair (p : Bytes × Bytes) : (encodePair p).upTo 0x3d = Percent.encode p.1 := by
  rw [encodePair, Bytes.upTo_append_cons (Percent.notMem_encode (by decide) (by decide) p.1)]

/-- Behind the equals sign stands the value. -/
theorem after?_encodePair (p : Bytes × Bytes) :
    (encodePair p).after? 0x3d = some (Percent.encode p.2) := by
  rw [encodePair, Bytes.after?_append_cons (Percent.notMem_encode (by decide) (by decide) p.1)]

theorem decodePair_encodePair (p : Bytes × Bytes) : decodePair (encodePair p) = p := by
  rw [decodePair, upTo_encodePair, after?_encodePair, Option.getD_some, Percent.decode_encode,
    Percent.decode_encode]

/-- The parts of a text whose first byte is not looked at. -/
def partsOf (s : Bytes) : List Bytes := (s.splitOn 0x26).filter (!·.isEmpty)

theorem parts_eq (s : Bytes) : parts s = partsOf (dropMark s) := rfl

/-- **An ampersand neither makes nor loses a part**: on its two sides the text is split as if the
other side were not there. -/
theorem partsOf_append (s t : Bytes) : partsOf (s ++ 0x26 :: t) = partsOf s ++ partsOf t := by
  rw [partsOf, Bytes.splitOn_append, List.filter_append, ← partsOf, ← partsOf]

theorem partsOf_encodePair (p : Bytes × Bytes) : partsOf (encodePair p) = [encodePair p] := by
  have hamp : (0x26 : UInt8) ∉ encodePair p :=
    notMem_encodePair (by decide) (by decide) (by decide) p
  have hne : (!(encodePair p).isEmpty) = true := by
    rw [encodePair]
    cases Percent.encode p.1 <;> rfl
  rw [partsOf, Bytes.splitOn_of_notMem hamp]
  simp only [List.filter_cons, hne, if_true, List.filter_nil]

theorem partsOf_encode : ∀ params : FormParameters,
    partsOf params.encode = params.map encodePair
  | [] => rfl
  | [p] => partsOf_encodePair p
  | p :: q :: rest => by
    rw [encode, partsOf_append, partsOf_encodePair, partsOf_encode (q :: rest),
      List.singleton_append, ← List.map_cons]

theorem notMem_encode {x : UInt8} (hx : Percent.isUnreserved x = false) (hne : x ≠ 0x25)
    (heq : x ≠ 0x3d) (hamp : x ≠ 0x26) : ∀ params : FormParameters, x ∉ params.encode
  | [] => List.not_mem_nil
  | [p] => notMem_encodePair hx hne heq p
  | p :: q :: rest => by
    rw [encode, List.mem_append, List.mem_cons]
    rintro (h | h | h)
    · exact notMem_encodePair hx hne heq p h
    · exact hamp h
    · exact notMem_encode hx hne heq hamp (q :: rest) h

/-- A form has no hash in it. -/
theorem hash_notMem_encode (params : FormParameters) : 0x23 ∉ params.encode :=
  notMem_encode (by decide) (by decide) (by decide) (by decide) params

theorem dropMark_of_notMem {s : Bytes} (hquery : 0x3f ∉ s) (hhash : 0x23 ∉ s) : dropMark s = s := by
  cases s with
  | nil => rfl
  | cons c r =>
    have hc : ¬ (c == 0x3f || c == 0x23) = true := by
      rw [Bool.or_eq_true, beq_iff_eq, beq_iff_eq]
      rintro (rfl | rfl)
      · exact hquery List.mem_cons_self
      · exact hhash List.mem_cons_self
    rw [dropMark, if_neg hc]

theorem dropMark_append {s : Bytes} (h : s ≠ []) (t : Bytes) :
    dropMark (s ++ t) = dropMark s ++ t := by
  cases s with
  | nil => exact absurd rfl h
  | cons c r =>
    rw [List.cons_append, dropMark, dropMark]
    split
    · rfl
    · rfl

theorem dropMark_encode (params : FormParameters) : dropMark params.encode = params.encode :=
  dropMark_of_notMem (notMem_encode (by decide) (by decide) (by decide) (by decide) params)
    (hash_notMem_encode params)

/-- The parts of a form are its parameters, one by one. -/
theorem parts_encode (params : FormParameters) : parts params.encode = params.map encodePair := by
  rw [parts_eq, dropMark_encode, partsOf_encode]

/-- A form behind an ampersand adds its parameters to the parts of the query in front. -/
theorem parts_append {q : Bytes} (h : q ≠ []) (params : FormParameters) :
    parts (q ++ 0x26 :: params.encode) = parts q ++ params.map encodePair := by
  rw [parts_eq, dropMark_append h, partsOf_append, partsOf_encode, ← parts_eq]

/-- A query that ends in an ampersand needs no other one. -/
theorem parts_concat_append (q : Bytes) (params : FormParameters) :
    parts (q ++ [0x26] ++ params.encode) = parts (q ++ [0x26]) ++ params.map encodePair := by
  have hnone : partsOf [] = [] := rfl
  cases q with
  | nil =>
    have hmark : parts (0x26 :: params.encode) = partsOf ([] ++ 0x26 :: params.encode) := rfl
    rw [List.nil_append, List.singleton_append, hmark, partsOf_append, partsOf_encode]
    rfl
  | cons c r =>
    have hconcat : parts (c :: r ++ [0x26]) = parts (c :: r) := by
      rw [parts_eq, dropMark_append (List.cons_ne_nil c r), partsOf_append, hnone, List.append_nil,
        ← parts_eq]
    rw [List.append_assoc, List.singleton_append, parts_append (List.cons_ne_nil c r), hconcat]

theorem map_decodePair (params : FormParameters) :
    (params.map encodePair).map decodePair = params := by
  have hid : decodePair ∘ encodePair = id := funext decodePair_encodePair
  rw [List.map_map, hid, List.map_id]

/-- **A form reads back as its parameters.** -/
theorem parse_encode (params : FormParameters) : parse params.encode = params := by
  rw [parse, parts_encode, map_decodePair]

end FormParameters

namespace Redirect

/-! ## Redirects -/

theorem base_append_fragment (uri : Bytes) : base uri ++ fragment uri = uri :=
  Bytes.upTo_append_dropWhile 0x23 uri

theorem notMem_base (uri : Bytes) : 0x23 ∉ base uri := Bytes.notMem_upTo 0x23 uri

/-- What stands in front of a fragment is the base. -/
theorem base_append {s : Bytes} (h : 0x23 ∉ s) (uri : Bytes) : base (s ++ fragment uri) = s := by
  have hfragment : (fragment uri).upTo 0x23 = [] := Bytes.upTo_dropWhile 0x23 uri
  rw [base, Bytes.upTo_append_of_notMem h, hfragment, List.append_nil]

theorem notMem_separator (b : Bytes) : 0x23 ∉ separator b := by
  rw [separator]
  split
  · decide
  · decide
  · split
    · decide
    · decide

/-- **The separator keeps the parameters apart.** Its cases are the queries that a base may have:
none, an empty one, one that ends in an ampersand and any other. -/
theorem parts_query_separator (b : Bytes) (params : FormParameters) :
    FormParameters.parts (((b ++ separator b ++ params.encode).after? 0x3f).getD []) =
      FormParameters.parts ((b.after? 0x3f).getD []) ++ params.map FormParameters.encodePair := by
  cases hq : b.after? 0x3f with
  | none =>
    have hnone : 0x3f ∉ b := Bytes.notMem_of_after?_eq_none hq
    rw [separator, hq, List.append_assoc, List.singleton_append, Bytes.after?_append_cons hnone,
      Option.getD_some, FormParameters.parts_encode]
    rfl
  | some q =>
    have hafter := Bytes.after?_append hq
    rw [List.append_assoc, hafter, Option.getD_some, Option.getD_some, separator, hq]
    cases q with
    | nil => exact FormParameters.parts_encode params
    | cons c r =>
      have hlast := Bytes.getLast?_of_after? hq (List.cons_ne_nil c r)
      by_cases hamp : b.getLast? = some 0x26
      · obtain ⟨q, hq⟩ := List.getLast?_eq_some_iff.mp (hlast ▸ hamp)
        simp only [hamp, beq_self_eq_true, if_true, List.nil_append, hq]
        exact FormParameters.parts_concat_append q params
      · simp only [beq_iff_eq, hamp, if_false, List.singleton_append]
        exact FormParameters.parts_append (List.cons_ne_nil c r) params

/-! ### Adding to a base -/

/-- A base with parameters at the end of its query. -/
def extend (b : Bytes) (params : FormParameters) : Bytes :=
  if params.isEmpty then b else b ++ separator b ++ params.encode

variable {b : Bytes} {params : FormParameters}

theorem extend_nil (b : Bytes) : extend b [] = b := rfl

theorem extend_of_ne_nil (h : params ≠ []) :
    extend b params = b ++ separator b ++ params.encode := by
  rw [extend, if_neg (by simpa using h)]

/-- What comes behind a base has no hash in it. -/
theorem exists_extend (b : Bytes) (params : FormParameters) :
    ∃ added, 0x23 ∉ added ∧ extend b params = b ++ added := by
  by_cases h : params = []
  · exact ⟨[], List.not_mem_nil, by rw [h, extend_nil, List.append_nil]⟩
  have hencoded : 0x23 ∉ params.encode := FormParameters.hash_notMem_encode params
  refine ⟨separator b ++ params.encode, ?_, by rw [extend_of_ne_nil h, List.append_assoc]⟩
  exact fun hmem => (List.mem_append.mp hmem).elim (notMem_separator b) hencoded

theorem notMem_extend (h : 0x23 ∉ b) (params : FormParameters) : 0x23 ∉ extend b params := by
  obtain ⟨added, hadded, hextend⟩ := exists_extend b params
  rw [hextend]
  exact fun hmem => (List.mem_append.mp hmem).elim h hadded

theorem parts_query_extend (b : Bytes) (params : FormParameters) :
    FormParameters.parts (((extend b params).after? 0x3f).getD []) =
      FormParameters.parts ((b.after? 0x3f).getD []) ++ params.map FormParameters.encodePair := by
  by_cases h : params = []
  · rw [h, extend_nil, List.map_nil, List.append_nil]
  · rw [extend_of_ne_nil h, parts_query_separator]

/-! ### Adding to a URI -/

theorem appendQuery_eq_extend (uri : Bytes) (params : FormParameters) :
    appendQuery uri params = extend (base uri) params ++ fragment uri := by
  rw [appendQuery, extend]
  split
  · exact (base_append_fragment uri).symm
  · rfl

theorem base_appendQuery (uri : Bytes) (params : FormParameters) :
    base (appendQuery uri params) = extend (base uri) params := by
  rw [appendQuery_eq_extend, base_append (notMem_extend (notMem_base uri) params)]

/-- **The parts of the query** are those that were there, and then the parameters. -/
theorem parts_query_appendQuery (uri : Bytes) (params : FormParameters) :
    FormParameters.parts (query (appendQuery uri params)) =
      FormParameters.parts (query uri) ++ params.map FormParameters.encodePair := by
  rw [query, query, base_appendQuery, parts_query_extend]

/-- **A redirect with parameters in its query** has them behind those that were there. -/
theorem parse_query_appendQuery (uri : Bytes) (params : FormParameters) :
    FormParameters.parse (query (appendQuery uri params)) =
      FormParameters.parse (query uri) ++ params := by
  rw [FormParameters.parse, FormParameters.parse, parts_query_appendQuery, List.map_append,
    FormParameters.map_decodePair]

/-- Both the text in front of the fragment and the fragment stay as they are. -/
theorem exists_appendQuery (uri : Bytes) (params : FormParameters) :
    ∃ added, 0x23 ∉ added ∧ appendQuery uri params = base uri ++ added ++ fragment uri := by
  obtain ⟨added, hadded, hextend⟩ := exists_extend (base uri) params
  exact ⟨added, hadded, by rw [appendQuery_eq_extend, hextend]⟩

/-- A question mark in the fragment begins no query, and one ampersand at the end is enough. -/
example : appendQuery (utf8 "http://v/?a&#x?y") [(utf8 "k", utf8 "&=")] =
    utf8 "http://v/?a&k=%26%3D#x?y" := by decide

end Redirect
end WalletResponder
