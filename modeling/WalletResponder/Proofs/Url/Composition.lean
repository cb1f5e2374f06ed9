import WalletResponder.Proofs.Url.RoundTrip

/-!
# Redirects in several steps

A redirect may be put together in one step or in several. Parameters that are added to a query one
list after the other give the same bytes as all of them at once: lists of parameters act on URIs
(`Redirect.appendQuery_append`). A fragment that is replaced twice is the last one, and it does not
matter whether the query or the fragment comes first.

Both operations look at a URI as a base and a fragment, and adding parameters changes the base alone
(`Redirect.base_appendQuery`, `Redirect.fragment_appendQuery`). What has to be shown of the
separator is that a base with parameters at its end always needs an ampersand before any others,
whatever it needed before the first (`Redirect.separator_extend`).
-/

namespace WalletResponder

/-! ### Forms one behind the other -/

namespace FormParameters

theorem encodePair_ne_nil (p : Bytes × Bytes) : encodePair p ≠ [] :=
  List.append_ne_nil_of_right_ne_nil _ (List.cons_ne_nil _ _)

theorem encode_ne_nil : ∀ {params : FormParameters}, params ≠ [] → params.encode ≠ []
  | [], h => absurd rfl h
  | [p], _ => encodePair_ne_nil p
  | p :: _ :: _, _ => List.append_ne_nil_of_left_ne_nil (encodePair_ne_nil p) _

/-- A form does not end in an ampersand. -/
theorem getLast?_encode : ∀ params : FormParameters, params.encode.getLast? ≠ some 0x26
  | [] => nofun
  | [p] => fun h =>
    notMem_encodePair (by decide) (by decide) (by decide) p (List.mem_of_getLast? h)
  | p :: q :: rest => by
    have ih := getLast?_encode (q :: rest)
    have hne : encode (q :: rest) ≠ [] := encode_ne_nil (List.cons_ne_nil q rest)
    rw [encode, List.getLast?_append_of_ne_nil _ (List.cons_ne_nil _ _),
      List.getLast?_cons_of_ne_nil hne]
    exact ih

/-- **The form of two lists** is the two forms with an ampersand between them. -/
theorem encode_append : ∀ {p q : FormParameters}, p ≠ [] → q ≠ [] →
    (p ++ q).encode = p.encode ++ 0x26 :: q.encode
  | [], _, hp, _ => absurd rfl hp
  | _, [], _, hq => absurd rfl hq
  | [_], _ :: _, _, _ => rfl
  | a :: b :: rest, c :: q, _, hq => by
    have ih : encode (b :: rest ++ c :: q) = encode (b :: rest) ++ 0x26 :: encode (c :: q) :=
      encode_append (List.cons_ne_nil b rest) hq
    rw [List.cons_append, List.cons_append, encode, ← List.cons_append, ih, encode,
      List.append_assoc, List.cons_append]

end FormParameters

namespace Redirect

/-! ### Adding to a base -/

variable {params : FormParameters}

/-- Behind the separator a query has begun. -/
theorem after?_separator (b s : Bytes) :
    ∃ q, (b ++ separator b ++ s).after? 0x3f = some (q ++ s) := by
  cases hq : b.after? 0x3f with
  | none =>
    have hnone : 0x3f ∉ b := Bytes.notMem_of_after?_eq_none hq
    refine ⟨[], ?_⟩
    rw [separator, hq, List.append_assoc, List.singleton_append, Bytes.after?_append_cons hnone,
      List.nil_append]
  | some q =>
    refine ⟨q ++ separator b, ?_⟩
    rw [List.append_assoc, Bytes.after?_append hq, List.append_assoc]

/-- **Behind parameters an ampersand is needed**, whatever was needed in front of them. -/
theorem separator_extend (h : params ≠ []) (b : Bytes) : separator (extend b params) = [0x26] := by
  have hne := FormParameters.encode_ne_nil h
  obtain ⟨q, hq⟩ := after?_separator b params.encode
  have hlast : (b ++ separator b ++ params.encode).getLast? ≠ some 0x26 := by
    rw [List.getLast?_append_of_ne_nil _ hne]
    exact FormParameters.getLast?_encode params
  rw [extend_of_ne_nil h, separator, hq]
  split
  · next hnone => cases hnone
  · next hnil => exact absurd (List.append_eq_nil_iff.mp (Option.some.inj hnil)).2 hne
  · rw [if_neg (by simpa using hlast)]

/-- **Parameters are added one list after the other.** -/
theorem extend_append (b : Bytes) (p q : FormParameters) :
    extend (extend b p) q = extend b (p ++ q) := by
  by_cases hp : p = []
  · rw [hp, extend_nil, List.nil_append]
  by_cases hq : q = []
  · rw [hq, extend_nil, List.append_nil]
  have hpq : p ++ q ≠ [] := List.append_ne_nil_of_left_ne_nil hp q
  calc extend (extend b p) q
      = extend b p ++ [0x26] ++ q.encode := by rw [extend_of_ne_nil hq, separator_extend hp]
    _ = b ++ separator b ++ p.encode ++ [0x26] ++ q.encode := by rw [extend_of_ne_nil hp]
    _ = b ++ separator b ++ (p.encode ++ 0x26 :: q.encode) := by
        rw [List.append_assoc, List.append_assoc, List.singleton_append]
    _ = extend b (p ++ q) := by rw [← FormParameters.encode_append hp hq, extend_of_ne_nil hpq]

/-! ### Bases and fragments -/

variable {s : Bytes}

/-- What has no hash in it is the base in front of a fragment. -/
theorem base_append_cons (h : 0x23 ∉ s) (t : Bytes) : base (s ++ 0x23 :: t) = s :=
  Bytes.upTo_append_cons h t

theorem fragment_append_cons (h : 0x23 ∉ s) (t : Bytes) :
    fragment (s ++ 0x23 :: t) = 0x23 :: t := by
  rw [fragment, Bytes.dropWhile_append_of_notMem h, List.dropWhile_cons_of_neg (by simp)]

/-- A fragment is its own fragment, behind any base. -/
theorem fragment_append (h : 0x23 ∉ s) (uri : Bytes) :
    fragment (s ++ fragment uri) = fragment uri := by
  have hparts := base_append_fragment (s ++ fragment uri)
  rw [base_append h] at hparts
  exact List.append_cancel_left hparts

variable (uri : Bytes)

theorem fragment_appendQuery (params : FormParameters) :
    fragment (appendQuery uri params) = fragment uri := by
  rw [appendQuery_eq_extend, fragment_append (notMem_extend (notMem_base uri) params)]

theorem base_replaceFragment (params : FormParameters) :
    base (replaceFragment uri params) = base uri :=
  base_append_cons (notMem_base uri) _

theorem fragment_replaceFragment (params : FormParameters) :
    fragment (replaceFragment uri params) = 0x23 :: params.encode :=
  fragment_append_cons (notMem_base uri) _

/-! ### Steps -/

/-- **Lists of parameters act on URIs.** -/
theorem appendQuery_append (p q : FormParameters) :
    appendQuery (appendQuery uri p) q = appendQuery uri (p ++ q) := by
  rw [appendQuery_eq_extend, base_appendQuery, fragment_appendQuery, extend_append,
    appendQuery_eq_extend]

/-- A query that ends in an ampersand needs another one only behind the first parameter. -/
example : appendQuery (appendQuery (utf8 "v?&#a?b") [(utf8 "k", [])]) [(utf8 "&", utf8 "=")] =
    utf8 "v?&k=&%26=%3D#a?b" := by decide

/-- Parameters may be added one by one. -/
theorem foldl_appendQuery : ∀ (params : FormParameters) (uri : Bytes),
    params.foldl (fun u p => appendQuery u [p]) uri = appendQuery uri params
  | [], _ => rfl
  | p :: rest, uri => by
    rw [List.foldl_cons, foldl_appendQuery rest, appendQuery_append, List.singleton_append]

/-- The last fragment counts. -/
theorem replaceFragment_replaceFragment (p q : FormParameters) :
    replaceFragment (replaceFragment uri p) q = replaceFragment uri q := by
  rw [replaceFragment, base_replaceFragment, replaceFragment]

/-- **Query and fragment do not meet**: it does not matter which of them comes first. -/
theorem appendQuery_replaceFragment (p q : FormParameters) :
    appendQuery (replaceFragment uri p) q = replaceFragment (appendQuery uri q) p := by
  rw [appendQuery_eq_extend, base_replaceFragment, fragment_replaceFragment, replaceFragment,
    base_appendQuery]

/-- **A redirect is the same in one step and in several.** Lists of parameters are added to a query
one after the other or all at once, and the empty list adds nothing; of several fragments the last
one counts, and the query may be extended before the fragment is replaced or after. -/
theorem redirect_in_steps (uri : Bytes) (p q : FormParameters) :
    appendQuery (appendQuery uri p) q = appendQuery uri (p ++ q) ∧
    appendQuery uri [] = uri ∧
    replaceFragment (replaceFragment uri p) q = replaceFragment uri q ∧
    appendQuery (replaceFragment uri p) q = replaceFragment (appendQuery uri q) p :=
  ⟨appendQuery_append uri p q, rfl, replaceFragment_replaceFragment uri p q,
    appendQuery_replaceFragment uri p q⟩

end Redirect
end WalletResponder
