import Mathlib.Data.List.Find
import WalletResponder.Jarm.Selection
import WalletResponder.Proofs.Jose.Decryption

/-!
# Key sets are read as a whole

A key loses the members that only private keys have when it is read, and nothing else
(`Jwk.ofJson_eq_ok`). A key set is read if all of its keys are, and each key stays in its place
(`JwkSet.ofJson_eq_ok`). So sets that differ only in what is lost are read alike
(`JwkSet.ofJson_congr`), and a set that was read is read from its JSON form again
(`JwkSet.ofJson_toJson`).

`Jwk.Raising.read` looks up the type again in what is left of a key. The type is not among the
members that are lost, so this never fails (`Jwk.Raising.read_eq`).
-/

namespace WalletResponder

namespace Jwk

variable {j : Json} {k : Jwk} {name : Bytes}

/-! ### Keys -/

/-- A value without the members that only private keys have. -/
def withoutSecrets (j : Json) : Json := privateMembers.foldl (fun j name => j.erase name) j

theorem withoutSecrets_obj (members : List (Bytes × Json)) : withoutSecrets (.obj members) =
    .obj (members.filter fun m => !privateMembers.contains m.1) :=
  Json.foldl_erase_obj privateMembers members

/-- **No other member is lost.** -/
theorem find?_withoutSecrets (h : name ∉ privateMembers) (j : Json) :
    (withoutSecrets j).find? name = j.find? name := by
  cases j with
  | obj members => rw [withoutSecrets_obj, Json.find?_filter_of_notMem h]
  | _ => rfl

/-- **The secrets are lost.** -/
theorem find?_withoutSecrets_of_mem (h : name ∈ privateMembers) (j : Json) :
    (withoutSecrets j).find? name = none := by
  cases j with
  | obj members => rw [withoutSecrets_obj, Json.find?_filter_of_mem h]
  | _ => rfl

/-- What keys are read from: objects with a text for the type and, if they are there, texts for what
names the key. There may be anything else. -/
structure IsForm (j : Json) : Prop where
  type : ∃ s, j.find? (utf8 "kty") = some (.str s)
  names : ∀ name ∈ namingMembers, ∀ v, j.find? name = some v → ∃ s, v = .str s

theorem IsForm.isObject (h : IsForm j) : j.isObject = true := by
  obtain ⟨s, hs⟩ := h.type
  cases j with
  | obj members => rfl
  | _ => cases hs

theorem isTextOrAbsent_iff :
    isTextOrAbsent j name = true ↔ ∀ v, j.find? name = some v → ∃ s, v = .str s := by
  unfold isTextOrAbsent
  cases j.find? name with
  | none => simp
  | some v => cases v <;> simp [Json.asText?]

theorem isSome_type_iff : ((j.find? (utf8 "kty")).bind Json.asText?).isSome = true ↔
    ∃ s, j.find? (utf8 "kty") = some (.str s) := by
  cases j.find? (utf8 "kty") with
  | none => simp
  | some v => cases v <;> simp [Json.asText?]

/-- **A key is read from exactly the forms of keys, and is what is left without the secrets.** -/
theorem ofJson_eq_ok : ofJson j = .ok k ↔ IsForm j ∧ k.toJson = withoutSecrets j := by
  cases j with
  | obj members =>
    have hnames : (namingMembers.find? fun name => !isTextOrAbsent (.obj members) name) = none ↔
        ∀ name ∈ namingMembers, ∀ v, (Json.obj members).find? name = some v → ∃ s, v = .str s := by
      simp only [List.find?_eq_none, Bool.not_eq_true, Bool.not_eq_false', isTextOrAbsent_iff]
    rw [ofJson, withoutSecrets_obj]
    by_cases htype : ∃ s, (Json.obj members).find? (utf8 "kty") = some (.str s)
    · rw [if_pos (isSome_type_iff.mpr htype)]
      cases hfind : namingMembers.find? fun name => !isTextOrAbsent (.obj members) name with
      | none =>
        obtain ⟨left⟩ := k
        simp only [Except.ok.injEq, mk.injEq, toJson, Json.obj.injEq]
        exact ⟨fun h => ⟨⟨htype, hnames.mp hfind⟩, h.symm⟩, fun h => h.2.symm⟩
      | some name =>
        refine iff_of_false (by rintro ⟨⟩) fun h => ?_
        rw [hnames.mpr h.1.names] at hfind
        cases hfind
    · rw [if_neg fun h => htype (isSome_type_iff.mp h)]
      exact iff_of_false (by rintro ⟨⟩) fun h => htype h.1.type
  | _ => exact iff_of_false (by rintro ⟨⟩) fun h => Bool.false_ne_true h.1.isObject

theorem exists_ofJson : (∃ k, ofJson j = .ok k) ↔ IsForm j := by
  constructor
  · rintro ⟨k, hk⟩
    exact (ofJson_eq_ok.mp hk).1
  · intro h
    cases j with
    | obj members => exact ⟨⟨_⟩, ofJson_eq_ok.mpr ⟨h, (withoutSecrets_obj members).symm⟩⟩
    | _ => cases h.isObject

theorem isTextOrAbsent_withoutSecrets (h : name ∉ privateMembers) (j : Json) :
    isTextOrAbsent (withoutSecrets j) name = isTextOrAbsent j name := by
  unfold isTextOrAbsent
  rw [find?_withoutSecrets h]

/-- **What a key loses makes no difference to the reader.** -/
theorem ofJson_withoutSecrets (j : Json) : ofJson (withoutSecrets j) = ofJson j := by
  cases j with
  | obj members =>
    have htype : (withoutSecrets (.obj members)).find? (utf8 "kty") = _ :=
      find?_withoutSecrets (by decide) (.obj members)
    have hnames : ∀ name ∈ namingMembers,
        (!isTextOrAbsent (withoutSecrets (.obj members)) name) =
          !isTextOrAbsent (.obj members) name := fun name hname => by
      have hkept : ∀ name ∈ namingMembers, name ∉ privateMembers := by decide
      rw [isTextOrAbsent_withoutSecrets (hkept name hname)]
    have hfind := List.find?_congr hnames
    rw [withoutSecrets_obj] at htype hfind ⊢
    rw [ofJson, ofJson, htype, hfind, List.filter_filter]
    simp only [Bool.and_self]
  | _ => rfl

/-- A key is refused: it is no object, or has no text for the type, or something else than a text
for what names it. -/
def IsRefused (j : Json) : Prop :=
  j.isObject = false ∨ (∀ s, j.find? (utf8 "kty") ≠ some (.str s)) ∨
    ∃ name ∈ namingMembers, ∃ v, j.find? name = some v ∧ ∀ s, v ≠ .str s

theorem isRefused_iff : IsRefused j ↔ ¬ IsForm j := by
  constructor
  · rintro (hobject | htype | ⟨name, hname, v, hv, hno⟩) h
    · rw [h.isObject] at hobject
      cases hobject
    · exact h.type.elim htype
    · exact (h.names name hname v hv).elim hno
  · intro h
    refine Classical.byContradiction fun hr => h ⟨?_, fun name hname v hv => ?_⟩
    · exact Classical.byContradiction fun hno => hr (.inr (.inl fun s hs => hno ⟨s, hs⟩))
    · exact Classical.byContradiction fun hno =>
        hr (.inr (.inr ⟨name, hname, v, hv, fun s hs => hno ⟨s, hs⟩⟩))

/-! ### Looking up the type again -/

/-- Reads a key and looks up the type in what is left of it. -/
def Raising.read (j : Json) : Except Failure Jwk := do
  let k ← ofJose (Jwk.ofJson j)
  let _ ← WalletResponder.ofJson (do (← k.toJson.member (utf8 "kty")).asText)
  pure k

/-- **The type is still there.** -/
theorem Raising.read_eq (j : Json) : Raising.read j = ofJose (Jwk.ofJson j) := by
  rw [Raising.read]
  cases h : Jwk.ofJson j with
  | error fault => rfl
  | ok k =>
    have htype : WalletResponder.ofJson (do (← k.toJson.member (utf8 "kty")).asText) =
        .ok k.keyType := by
      rw [Jwe.Raising.type_of_ofJson h]
      rfl
    simp only [ofJose, bind, Except.bind] at htype ⊢
    rw [htype]
    rfl

end Jwk

/-! ### Key sets -/

namespace JwkSet

variable {j j' : Json} {s : JwkSet} {items items' : List Json} {ks : List Jwk}

theorem readAll_eq_ok : ∀ {items : List Json} {ks : List Jwk}, readAll items = .ok ks ↔
    (∀ item ∈ items, Jwk.IsForm item) ∧ ks.map Jwk.toJson = items.map Jwk.withoutSecrets
  | [], ks => by simp [readAll, eq_comm]
  | item :: rest, ks => by
    simp only [readAll, bind_eq_ok, Jwk.ofJson_eq_ok, readAll_eq_ok,
      List.forall_mem_cons, List.map_cons]
    constructor
    · rintro ⟨k, ⟨hitem, hk⟩, ks, ⟨hrest, hks⟩, h⟩
      cases h
      exact ⟨⟨hitem, hrest⟩, by rw [List.map_cons, hk, hks]⟩
    · rintro ⟨⟨hitem, hrest⟩, h⟩
      obtain ⟨k, ks, rfl, hk, hks⟩ := List.map_eq_cons_iff.mp h
      exact ⟨k, ⟨hitem, hk⟩, ks, ⟨hrest, hks⟩, rfl⟩

theorem exists_readAll : (∃ ks, readAll items = .ok ks) ↔ ∀ item ∈ items, Jwk.IsForm item := by
  induction items with
  | nil => exact ⟨fun _ => List.forall_mem_nil _, fun _ => ⟨[], rfl⟩⟩
  | cons item rest ih =>
    rw [List.forall_mem_cons, ← Jwk.exists_ofJson, ← ih]
    simp only [readAll, bind_eq_ok]
    constructor
    · rintro ⟨_, k, hk, ks, hks, -⟩
      exact ⟨⟨k, hk⟩, ⟨ks, hks⟩⟩
    · rintro ⟨⟨k, hk⟩, ⟨ks, hks⟩⟩
      exact ⟨_, k, hk, ks, hks, rfl⟩

theorem readAll_map_withoutSecrets (items : List Json) :
    readAll (items.map Jwk.withoutSecrets) = readAll items := by
  induction items with
  | nil => rfl
  | cons item rest ih => rw [List.map_cons, readAll, readAll, Jwk.ofJson_withoutSecrets, ih]

/-- A key set is read from an array of keys. -/
theorem ofJson_eq_readAll (h : j.find? (utf8 "keys") = some (.arr items)) :
    ofJson j = (readAll items).map mk := by
  cases j with
  | obj members => simp only [ofJson, h]
  | _ => cases h

theorem ofJson_obj_of_no_array {members : List (Bytes × Json)}
    (h : ∀ items, (Json.obj members).find? (utf8 "keys") ≠ some (.arr items)) :
    ofJson (.obj members) = .error .keySetWithoutKeys := by
  rw [ofJson]
  split
  · next items hitems => exact absurd hitems (h items)
  · rfl

/-- Without an array of keys there is no key set. -/
theorem find?_of_ofJson (h : ofJson j = .ok s) :
    ∃ items, j.find? (utf8 "keys") = some (.arr items) := by
  cases j with
  | obj members =>
    refine Classical.byContradiction fun harray => ?_
    rw [ofJson_obj_of_no_array fun items hitems => harray ⟨items, hitems⟩] at h
    cases h
  | _ => cases h

/-- **A key set is read as a whole:** all of its keys are forms of keys, and each stands in its
place without its secrets. -/
theorem ofJson_eq_ok : ofJson j = .ok s ↔ ∃ items, j.find? (utf8 "keys") = some (.arr items) ∧
    (∀ item ∈ items, Jwk.IsForm item) ∧
      s.keys.map Jwk.toJson = items.map Jwk.withoutSecrets := by
  constructor
  · intro h
    obtain ⟨items, hitems⟩ := find?_of_ofJson h
    rw [ofJson_eq_readAll hitems] at h
    obtain ⟨ks, hks, rfl⟩ := map_eq_ok.mp h
    exact ⟨items, hitems, readAll_eq_ok.mp hks⟩
  · rintro ⟨items, hitems, hread⟩
    rw [ofJson_eq_readAll hitems]
    exact map_eq_ok.mpr ⟨_, readAll_eq_ok.mpr hread, rfl⟩

theorem exists_ofJson : (∃ s, ofJson j = .ok s) ↔
    ∃ items, j.find? (utf8 "keys") = some (.arr items) ∧ ∀ item ∈ items, Jwk.IsForm item := by
  constructor
  · rintro ⟨s, hs⟩
    obtain ⟨items, hitems, hforms, -⟩ := ofJson_eq_ok.mp hs
    exact ⟨items, hitems, hforms⟩
  · rintro ⟨items, hitems, hforms⟩
    obtain ⟨ks, hks⟩ := exists_readAll.mpr hforms
    exact ⟨⟨ks⟩, by rw [ofJson_eq_readAll hitems, hks]; rfl⟩

/-- **Otherwise nothing is read.** -/
theorem exists_error : (∃ fault, ofJson j = .error fault) ↔ j.isObject = false ∨
    (∀ items, j.find? (utf8 "keys") ≠ some (.arr items)) ∨
      ∃ items, j.find? (utf8 "keys") = some (.arr items) ∧ ∃ item ∈ items, Jwk.IsRefused item := by
  rw [exists_error_iff, exists_ofJson]
  constructor
  · intro h
    by_cases hkeys : ∃ items, j.find? (utf8 "keys") = some (.arr items)
    · obtain ⟨items, hitems⟩ := hkeys
      refine .inr (.inr ⟨items, hitems, Classical.byContradiction fun hnone => ?_⟩)
      exact h ⟨items, hitems, fun item hitem => Classical.byContradiction fun hform =>
        hnone ⟨item, hitem, Jwk.isRefused_iff.mpr hform⟩⟩
    · exact .inr (.inl fun items hitems => hkeys ⟨items, hitems⟩)
  · rintro (hobject | hkeys | ⟨items, hitems, item, hitem, hrefused⟩) ⟨items', hitems', hforms⟩
    · cases j with
      | obj members => cases hobject
      | _ => cases hitems'
    · exact hkeys items' hitems'
    · rw [hitems] at hitems'
      cases hitems'
      exact Jwk.isRefused_iff.mp hrefused (hforms item hitem)

/-! ### Reading again -/

theorem find?_toJson (s : JwkSet) :
    s.toJson.find? (utf8 "keys") = some (.arr (s.keys.map Jwk.toJson)) := rfl

/-- **A key set that was read reads back.** -/
theorem ofJson_toJson (h : ofJson j = .ok s) : ofJson s.toJson = .ok s := by
  obtain ⟨items, hitems, hforms, hkeys⟩ := ofJson_eq_ok.mp h
  rw [ofJson_eq_readAll s.find?_toJson, hkeys, readAll_map_withoutSecrets,
    ← ofJson_eq_readAll hitems, h]

/-! ### Sets that differ in secrets -/

/-- Keys without their secrets. -/
def bare : Json → Json
  | .arr items => .arr (items.map Jwk.withoutSecrets)
  | v => v

/-- A key set without the secrets of its keys. -/
def withoutSecrets : Json → Json
  | .obj members => .obj (members.map fun m => (m.1, if m.1 = utf8 "keys" then bare m.2 else m.2))
  | j => j

theorem find?_keys_withoutSecrets (j : Json) :
    (withoutSecrets j).find? (utf8 "keys") = (j.find? (utf8 "keys")).map bare := by
  cases j with
  | obj members =>
    rw [withoutSecrets]
    induction members with
    | nil => rfl
    | cons m rest ih =>
      rw [List.map_cons, Json.find?_cons, Json.find?_cons, ih]
      split
      · rfl
      · rfl
  | _ => rfl

/-- **The secrets of keys make no difference to the reader.** -/
theorem ofJson_withoutSecrets (j : Json) : ofJson (withoutSecrets j) = ofJson j := by
  have hkeys := find?_keys_withoutSecrets j
  cases j with
  | obj members =>
    by_cases harray : ∃ items, (Json.obj members).find? (utf8 "keys") = some (.arr items)
    · obtain ⟨items, hitems⟩ := harray
      rw [hitems] at hkeys
      rw [ofJson_eq_readAll hkeys, ofJson_eq_readAll hitems, readAll_map_withoutSecrets]
    · rw [ofJson_obj_of_no_array fun items hitems => harray ⟨items, hitems⟩]
      refine ofJson_obj_of_no_array fun items hitems => ?_
      obtain ⟨v, hv, hbare⟩ := Option.map_eq_some_iff.mp (hkeys.symm.trans hitems)
      cases v with
      | arr items => exact harray ⟨items, hv⟩
      | _ => cases hbare
  | _ => rfl

/-- **Sets that differ in secrets only are read alike.** -/
theorem ofJson_congr (h : withoutSecrets j' = withoutSecrets j) : ofJson j' = ofJson j := by
  rw [← ofJson_withoutSecrets j', h, ofJson_withoutSecrets]

/-! ### Looking up the types again -/

/-- Reads a list of keys and looks up the type of each. -/
def Raising.readAll : List Json → Except Failure (List Jwk)
  | [] => .ok []
  | item :: rest => do
    let k ← Jwk.Raising.read item
    let ks ← Raising.readAll rest
    pure (k :: ks)

/-- Reads a key set and looks up the type of each key. -/
def Raising.read (j : Json) : Except Failure JwkSet :=
  match j with
  | .obj _ =>
    match j.find? (utf8 "keys") with
    | some (.arr items) => (Raising.readAll items).map mk
    | _ => .error (.jose .keySetWithoutKeys)
  | _ => .error (.jose .keySetNotObject)

theorem Raising.readAll_eq (items : List Json) :
    Raising.readAll items = ofJose (JwkSet.readAll items) := by
  induction items with
  | nil => rfl
  | cons item rest ih =>
    rw [Raising.readAll, Jwk.Raising.read_eq, ih, JwkSet.readAll]
    cases Jwk.ofJson item with
    | error fault => rfl
    | ok k => cases JwkSet.readAll rest <;> rfl

/-- **A key set fails to be read as a key set does**, and in no other way. -/
theorem Raising.read_eq (j : Json) : Raising.read j = ofJose (ofJson j) := by
  cases j with
  | obj members =>
    rw [Raising.read]
    split
    · next items hitems =>
      rw [Raising.readAll_eq, ofJson_eq_readAll hitems]
      cases JwkSet.readAll items <;> rfl
    · next harray =>
      rw [ofJson_obj_of_no_array harray]
      rfl
  | _ => rfl

/-! ### What is read -/

/-- The key that is selected from a key set. -/
def selected (j : Json) (alg : JweAlgorithm) : Except Failure Jwk :=
  ofJose (ofJson j) >>= select alg

/-- The token, with its header, for the key that is selected from a key set. -/
def sealedFor (j : Json) (alg : JweAlgorithm) (enc : ContentEncryption) (text : Bytes)
    (extra : Json) (e : Entropy) : Except Failure Bytes := do
  let k ← selected j alg
  Jwe.encrypt alg enc k text extra e

/-- What a token says, if the key at a place of a key set accepts it. -/
def opened (j : Json) (i : Nat) (token : Bytes) : Except Failure Opened := do
  let s ← ofJose (ofJson j)
  Jws.verify token (s.keys[i]?.bind fun k => k.publicKey.toOption)

/-- **A key set is read as a whole and without secrets.** Looking up the types again in what is left
of the keys makes no difference. It is not read exactly if it is no object or has no array of keys,
or one of these is no object, lacks a type or is named by something else than a text. Otherwise each
key stands in its place as it was written, but for the members that only private keys have. What was
read reads back as it is. And sets that differ in these members only are read alike: they have the
same keys to select, to encrypt to and to verify with. -/
theorem read_whole_without_secrets (j : Json) :
    Raising.read j = ofJose (ofJson j) ∧
    ((∃ fault, ofJson j = .error fault) ↔ j.isObject = false ∨
      (∀ items, j.find? (utf8 "keys") ≠ some (.arr items)) ∨
      ∃ items, j.find? (utf8 "keys") = some (.arr items) ∧ ∃ item ∈ items, Jwk.IsRefused item) ∧
    (∀ s, ofJson j = .ok s →
      (∃ items, j.find? (utf8 "keys") = some (.arr items) ∧
        s.keys.map Jwk.toJson = items.map Jwk.withoutSecrets) ∧
      (∀ k ∈ s.keys, ∀ name ∈ Jwk.privateMembers, k.toJson.find? name = none) ∧
      ∃ again, ofJson s.toJson = .ok again ∧ again = s ∧ again.same s = true) ∧
    ∀ j', withoutSecrets j' = withoutSecrets j → ofJson j' = ofJson j ∧
      (∀ alg, selected j' alg = selected j alg) ∧
      (∀ alg enc text extra e,
        sealedFor j' alg enc text extra e = sealedFor j alg enc text extra e) ∧
      ∀ i token, opened j' i token = opened j i token := by
  refine ⟨Raising.read_eq j, exists_error, fun s hs => ?_, fun j' h => ?_⟩
  · obtain ⟨items, hitems, -, hkeys⟩ := ofJson_eq_ok.mp hs
    refine ⟨⟨items, hitems, hkeys⟩, fun k hk name hname => ?_,
      s, ofJson_toJson hs, rfl, Json.same_self _⟩
    obtain ⟨item, -, hitem⟩ := List.mem_map.mp (hkeys ▸ List.mem_map_of_mem hk)
    rw [← hitem, Jwk.find?_withoutSecrets_of_mem hname]
  · have hread := ofJson_congr h
    refine ⟨hread, fun alg => ?_, fun alg enc text extra e => ?_, fun i token => ?_⟩
    · rw [selected, hread, selected]
    · rw [sealedFor, selected, hread, sealedFor, selected]
    · rw [opened, hread, opened]

/-- A secret is lost, and with it what makes a key of octets. -/
example : ofJson (.obj [(utf8 "keys", .arr [
    .obj [(utf8 "d", .text "Aw"), (utf8 "e", .text "AQAB"), (utf8 "kty", .text "RSA")],
    .obj [(utf8 "k", .null), (utf8 "kty", .text "oct")]])]) = .ok ⟨[
      ⟨[(utf8 "e", .text "AQAB"), (utf8 "kty", .text "RSA")]⟩,
      ⟨[(utf8 "kty", .text "oct")]⟩]⟩ :=
  rfl

end JwkSet
end WalletResponder
