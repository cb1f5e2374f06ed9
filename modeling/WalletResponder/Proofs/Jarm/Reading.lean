import WalletResponder.Proofs.Jarm.Claims
import WalletResponder.Proofs.Json.Integers
import WalletResponder.Proofs.Response.Restriction

/-!
# What is read of a claim set

Claims are read as they are written: each text is the text of the claim, null and absent claims are
absent, and of a submission everything is kept that is known of it (`JarmClaims.ofJson_eq_ok`). So
the JSON form of what was read is the claim set with its known and given members
(`JarmClaims.IsReadFrom.toJson_eq`).

The time of issue is an integer with a sign, in 64 bits, and JSON has integers up to twice as large.
Those are not refused but wrap around (`JarmClaims.IsReadFrom.issuedAt_eq`), so that a late time is
read as one long past (`JarmClaims.late_time_is_altered`).
-/

namespace WalletResponder
namespace JarmClaims

open Json

variable {c : JarmClaims} {j : Json} {n : Int}

/-- What claims say that were read from a value. -/
structure IsReadFrom (c : JarmClaims) (j : Json) : Prop where
  issuedAt : ∃ n, j.find? (utf8 "iat") = some (.int n) ∧ c.issuedAt = signed64 n
  audience : j.find? (utf8 "aud") = some (.str c.audience)
  issuer : j.given? (utf8 "iss") = c.issuer.map .str
  state : j.given? (utf8 "state") = c.state.map .str
  idToken : j.given? (utf8 "id_token") = c.idToken.map .str
  vpToken : j.given? (utf8 "vp_token") = c.vpToken.map .str
  error : j.given? (utf8 "error") = c.error.map .str
  errorDescription : j.given? (utf8 "error_description") = c.errorDescription.map .str
  submission : (j.given? (utf8 "presentation_submission")).map PresentationSubmission.restrict =
    c.submission.map PresentationSubmission.toJson

/-! ### The readers -/

theorem text?_eq_ok {name : String} {v : Option Bytes} :
    text? j name = .ok v ↔ j.given? (utf8 name) = v.map .str := by
  unfold text? given?
  cases j.find? (utf8 name) with
  | none => cases v <;> simp
  | some w => cases w <;> cases v <;> simp [isNull]

theorem readIssuedAt_eq_ok {t : Int} :
    readIssuedAt j = .ok t ↔ ∃ n, j.find? (utf8 "iat") = some (.int n) ∧ t = signed64 n := by
  unfold readIssuedAt
  cases j.find? (utf8 "iat") with
  | none => simp
  | some w => cases w <;> simp [eq_comm]

/-- A claim that is absent or null does not matter to the reader of a submission. -/
theorem readSubmission_of_none (h : j.given? (utf8 "presentation_submission") = none) :
    readSubmission j = .ok none := by
  unfold readSubmission
  unfold given? at h
  cases hfind : j.find? (utf8 "presentation_submission") with
  | none => rfl
  | some v =>
    cases v with
    | null => rfl
    | _ => simp [hfind, isNull] at h

theorem readSubmission_of_some {v : Json} (h : j.given? (utf8 "presentation_submission") = some v) :
    readSubmission j =
      match PresentationSubmission.ofJson v with
      | .ok submission => .ok (some submission)
      | .error fault => .error (.submission fault) := by
  obtain ⟨hfind, hnull⟩ := given?_eq_some.mp h
  rw [readSubmission, hfind]
  cases v with
  | null => cases hnull
  | _ => rfl

theorem readSubmission_eq_ok {s : Option PresentationSubmission} : readSubmission j = .ok s ↔
    (j.given? (utf8 "presentation_submission")).map PresentationSubmission.restrict =
      s.map PresentationSubmission.toJson := by
  cases h : j.given? (utf8 "presentation_submission") with
  | none =>
    rw [readSubmission_of_none h]
    cases s <;> simp
  | some v =>
    rw [readSubmission_of_some h]
    cases s with
    | none => cases PresentationSubmission.ofJson v <;> simp
    | some s =>
      rw [Option.map_some, Option.map_some, Option.some.injEq,
        ← PresentationSubmission.ofJson_eq_ok_iff_restrict]
      cases PresentationSubmission.ofJson v <;> simp

/-- **Claims are read as they are written**, and from nothing else. -/
theorem ofJson_eq_ok : ofJson j = .ok c ↔ c.IsReadFrom j := by
  constructor
  · intro h
    rw [ofJson] at h
    split at h
    · obtain ⟨issuer, hissuer, h⟩ := bind_eq_ok.mp h
      obtain ⟨issuedAt, hissuedAt, h⟩ := bind_eq_ok.mp h
      obtain ⟨audience?, haudience, h⟩ := bind_eq_ok.mp h
      cases audience? with
      | none => cases h
      | some audience =>
        obtain ⟨state, hstate, h⟩ := bind_eq_ok.mp h
        obtain ⟨idToken, hidToken, h⟩ := bind_eq_ok.mp h
        obtain ⟨vpToken, hvpToken, h⟩ := bind_eq_ok.mp h
        obtain ⟨error, herror, h⟩ := bind_eq_ok.mp h
        obtain ⟨description, hdescription, h⟩ := bind_eq_ok.mp h
        obtain ⟨submission, hsubmission, h⟩ := bind_eq_ok.mp h
        cases h
        exact
          { issuedAt := readIssuedAt_eq_ok.mp hissuedAt
            audience := given?_eq_str.mp (text?_eq_ok.mp haudience)
            issuer := text?_eq_ok.mp hissuer
            state := text?_eq_ok.mp hstate
            idToken := text?_eq_ok.mp hidToken
            vpToken := text?_eq_ok.mp hvpToken
            error := text?_eq_ok.mp herror
            errorDescription := text?_eq_ok.mp hdescription
            submission := readSubmission_eq_ok.mp hsubmission }
    · cases h
  · intro h
    have hobject : j.isObject = true := by
      cases j with
      | obj members => rfl
      | _ => cases h.audience
    have haudience : text? j "aud" = .ok (some c.audience) :=
      text?_eq_ok.mpr (given?_eq_str.mpr h.audience)
    rw [ofJson, if_pos hobject, text?_eq_ok.mpr h.issuer, readIssuedAt_eq_ok.mpr h.issuedAt,
      haudience, text?_eq_ok.mpr h.state, text?_eq_ok.mpr h.idToken, text?_eq_ok.mpr h.vpToken,
      text?_eq_ok.mpr h.error, text?_eq_ok.mpr h.errorDescription,
      readSubmission_eq_ok.mpr h.submission]
    rfl

/-! ### What is known of a claim set -/

/-- A time of issue as it is kept. -/
def wrapped : Json → Json
  | .int n => .int (signed64 n)
  | j => j

/-- The claims that are known, each in the form that is known of it. -/
def known : List (Bytes × (Json → Json)) :=
  [(utf8 "aud", whole), (utf8 "error", whole), (utf8 "error_description", whole),
    (utf8 "iat", wrapped), (utf8 "id_token", whole), (utf8 "iss", whole),
    (utf8 "presentation_submission", PresentationSubmission.restrict), (utf8 "state", whole),
    (utf8 "vp_token", whole)]

/-- Everything is known of a claim, unless it is the time of issue or the submission. -/
theorem cases_of_mem_known {name : Bytes} {f : Json → Json} (h : (name, f) ∈ known) :
    f = whole ∨ name = utf8 "iat" ∧ f = wrapped ∨
      name = utf8 "presentation_submission" ∧ f = PresentationSubmission.restrict := by
  simp only [known, List.mem_cons, List.not_mem_nil, or_false, Prod.mk.injEq] at h
  grind

/-- A claim set with the claims that are known and given. -/
def restrict (j : Json) : Json := .obj (pick known j)

theorem optional_eq (name : String) (v : Option Json) :
    optional name v = (v.map fun w => (utf8 name, w)).toList := by
  cases v <;> rfl

/-- **All that is known of a claim set is read of it.** -/
theorem IsReadFrom.toJson_eq (h : c.IsReadFrom j) : c.toJson = restrict j := by
  obtain ⟨n, hn, hissuedAt⟩ := h.issuedAt
  have hsubmission : ((j.given? (utf8 "presentation_submission")).map fun v =>
      (utf8 "presentation_submission", PresentationSubmission.restrict v)) =
        (c.submission.map PresentationSubmission.toJson).map fun v =>
          (utf8 "presentation_submission", v) := by
    rw [← h.submission, Option.map_map]
    rfl
  rw [JarmClaims.toJson_eq, restrict]
  simp only [known, pick_cons, pick_nil, optional_eq, given?_eq_str.mpr h.audience, h.error,
    h.errorDescription, given?_eq_some.mpr ⟨hn, rfl⟩, h.idToken, h.issuer, hsubmission, h.state,
    h.vpToken, whole, wrapped, hissuedAt, Option.map_some, Option.toList_some, List.append_nil,
    List.singleton_append]

/-! ### Which claim sets are read -/

/-- The names of the claims that are texts and may be absent. -/
def textNames : List Bytes :=
  [utf8 "iss", utf8 "state", utf8 "id_token", utf8 "vp_token", utf8 "error",
    utf8 "error_description"]

/-- The forms of claim sets: an integer for the time of issue and a text for the audience; where
they are there and not null, texts for the others and the form of a submission. There may be
anything else. -/
structure IsForm (j : Json) : Prop where
  issuedAt : ∃ n, j.find? (utf8 "iat") = some (.int n)
  audience : ∃ s, j.find? (utf8 "aud") = some (.str s)
  texts : ∀ name ∈ textNames, ∀ v, j.given? name = some v → ∃ s, v = .str s
  submission : ∀ v, j.given? (utf8 "presentation_submission") = some v →
    PresentationSubmission.IsForm v

theorem exists_text_iff {name : Bytes} : (∃ s : Option Bytes, j.given? name = s.map .str) ↔
    ∀ v, j.given? name = some v → ∃ s, v = .str s := by
  cases j.given? name with
  | none => exact iff_of_true ⟨none, rfl⟩ fun v hv => by cases hv
  | some v =>
    constructor
    · rintro ⟨s, hs⟩ w hw
      obtain ⟨t, -, ht⟩ := Option.map_eq_some_iff.mp (hs.symm.trans hw)
      exact ⟨t, ht.symm⟩
    · intro h
      obtain ⟨s, rfl⟩ := h v rfl
      exact ⟨some s, rfl⟩

theorem exists_submission_iff : (∃ s : Option PresentationSubmission,
    (j.given? (utf8 "presentation_submission")).map PresentationSubmission.restrict =
      s.map PresentationSubmission.toJson) ↔
    ∀ v, j.given? (utf8 "presentation_submission") = some v → PresentationSubmission.IsForm v := by
  cases j.given? (utf8 "presentation_submission") with
  | none => exact iff_of_true ⟨none, rfl⟩ fun v hv => by cases hv
  | some v =>
    constructor
    · rintro ⟨s, hs⟩ w hw
      cases hw
      obtain ⟨t, -, ht⟩ := Option.map_eq_some_iff.mp hs.symm
      exact PresentationSubmission.exists_ofJson.mp
        ⟨t, PresentationSubmission.ofJson_eq_ok_iff_restrict.mpr ht.symm⟩
    · intro h
      obtain ⟨s, hs⟩ := PresentationSubmission.exists_ofJson.mpr (h v rfl)
      exact ⟨some s, congrArg some (PresentationSubmission.ofJson_eq_ok_iff_restrict.mp hs)⟩

/-- **Claims are read from exactly the forms of claim sets.** -/
theorem exists_ofJson : (∃ c, ofJson j = .ok c) ↔ IsForm j := by
  simp only [ofJson_eq_ok]
  constructor
  · rintro ⟨c, h⟩
    obtain ⟨n, hn, -⟩ := h.issuedAt
    refine ⟨⟨n, hn⟩, ⟨_, h.audience⟩, ?_, exists_submission_iff.mp ⟨_, h.submission⟩⟩
    simp only [textNames, List.forall_mem_cons, ← exists_text_iff]
    exact ⟨⟨_, h.issuer⟩, ⟨_, h.state⟩, ⟨_, h.idToken⟩, ⟨_, h.vpToken⟩, ⟨_, h.error⟩,
      ⟨_, h.errorDescription⟩, List.forall_mem_nil _⟩
  · rintro ⟨⟨n, hn⟩, ⟨audience, haudience⟩, htexts, hsubmission⟩
    simp only [textNames, List.forall_mem_cons, ← exists_text_iff] at htexts
    obtain ⟨⟨issuer, hissuer⟩, ⟨state, hstate⟩, ⟨idToken, hidToken⟩, ⟨vpToken, hvpToken⟩,
      ⟨error, herror⟩, ⟨description, hdescription⟩, -⟩ := htexts
    obtain ⟨submission, hsubmission⟩ := exists_submission_iff.mpr hsubmission
    exact ⟨⟨issuer, signed64 n, audience, state, idToken, vpToken, submission, error, description⟩,
      ⟨n, hn, rfl⟩, haudience, hissuer, hstate, hidToken, hvpToken, herror, hdescription,
      hsubmission⟩

/-! ### What a refusal says -/

/-- What is wrong with a claim set, as the reader says it. -/
inductive IsDefect (j : Json) : JoseFault → Prop
  | notObject (h : j.isObject = false) : IsDefect j .claimsNotObject
  | issuedAt (h : ∀ n, j.find? (utf8 "iat") ≠ some (.int n)) : IsDefect j .issuedAt
  | audience (h : j.given? (utf8 "aud") = none) : IsDefect j .audience
  | text {name : Bytes} {v : Json} (hname : name ∈ utf8 "aud" :: textNames)
      (hv : j.given? name = some v) (h : ∀ s, v ≠ .str s) : IsDefect j (.claimNotText name)
  | submission {v : Json} {fault : Fault} (hv : j.given? (utf8 "presentation_submission") = some v)
      (h : PresentationSubmission.ofJson v = .error fault) : IsDefect j (.submission fault)

theorem isDefect_of_text? {name : String} {fault : JoseFault}
    (hname : utf8 name ∈ utf8 "aud" :: textNames) (h : text? j name = .error fault) :
    IsDefect j fault := by
  unfold text? at h
  cases hfind : j.find? (utf8 name) with
  | none => simp [hfind] at h
  | some v =>
    cases v with
    | null | str _ => simp [hfind] at h
    | _ =>
      simp only [hfind] at h
      cases h
      exact .text hname (given?_eq_some.mpr ⟨hfind, rfl⟩) nofun

theorem isDefect_of_readIssuedAt {fault : JoseFault} (h : readIssuedAt j = .error fault) :
    IsDefect j fault := by
  unfold readIssuedAt at h
  split at h
  · cases h
  · next hiat =>
    cases h
    exact .issuedAt hiat

theorem isDefect_of_readSubmission {fault : JoseFault} (h : readSubmission j = .error fault) :
    IsDefect j fault := by
  cases hv : j.given? (utf8 "presentation_submission") with
  | none => rw [readSubmission_of_none hv] at h; cases h
  | some v =>
    rw [readSubmission_of_some hv] at h
    split at h
    · cases h
    · next hread =>
      cases h
      exact .submission hv hread

/-- **What the reader refuses a claim set for is wrong with it.** -/
theorem isDefect_of_ofJson {fault : JoseFault} (h : ofJson j = .error fault) :
    IsDefect j fault := by
  rw [ofJson] at h
  split at h
  · obtain h | ⟨_, -, h⟩ := bind_eq_error.mp h
    · exact isDefect_of_text? (by decide) h
    obtain h | ⟨_, -, h⟩ := bind_eq_error.mp h
    · exact isDefect_of_readIssuedAt h
    obtain h | ⟨audience?, haudience, h⟩ := bind_eq_error.mp h
    · exact isDefect_of_text? (by decide) h
    cases audience? with
    | none =>
      cases h
      exact .audience (text?_eq_ok.mp haudience)
    | some audience =>
      obtain h | ⟨_, -, h⟩ := bind_eq_error.mp h
      · exact isDefect_of_text? (by decide) h
      obtain h | ⟨_, -, h⟩ := bind_eq_error.mp h
      · exact isDefect_of_text? (by decide) h
      obtain h | ⟨_, -, h⟩ := bind_eq_error.mp h
      · exact isDefect_of_text? (by decide) h
      obtain h | ⟨_, -, h⟩ := bind_eq_error.mp h
      · exact isDefect_of_text? (by decide) h
      obtain h | ⟨_, -, h⟩ := bind_eq_error.mp h
      · exact isDefect_of_text? (by decide) h
      obtain h | ⟨_, -, h⟩ := bind_eq_error.mp h
      · exact isDefect_of_readSubmission h
      cases h
  · cases h
    exact .notObject (by simpa using ‹¬j.isObject = true›)

/-! ### All claims -/

/-- **Reading changes no claim but a late time of issue.** Claims are read from the forms of claim
sets, and a refusal tells what is wrong with what is none. They are what is written, so their JSON
form has the claims that are known and given, and what it says of each is what is written, for a
submission as far as it is known. The time of issue is the integer that is written if this fits into
64 bits with a sign, and wraps around if it needs them all. -/
theorem reading_keeps_claims (j : Json) :
    ((∃ c, ofJson j = .ok c) ↔ IsForm j) ∧
    (∀ fault, ofJson j = .error fault → IsDefect j fault) ∧
    ∀ c, ofJson j = .ok c → c.IsReadFrom j ∧ c.toJson = restrict j ∧
      (∀ name v, c.toJson.find? name = some v → ∃ w, j.given? name = some w ∧
        (v = w ∨ name = utf8 "iat" ∧ v = wrapped w ∨
          name = utf8 "presentation_submission" ∧ v = PresentationSubmission.restrict w)) ∧
      ∃ n, j.find? (utf8 "iat") = some (.int n) ∧
        (c.issuedAt = n ↔ -2 ^ 63 ≤ n ∧ n < 2 ^ 63) ∧
        (2 ^ 63 ≤ n → n < 2 ^ 64 → c.issuedAt = n - 2 ^ 64) := by
  refine ⟨exists_ofJson, fun _ => isDefect_of_ofJson, fun c hc => ?_⟩
  have h := ofJson_eq_ok.mp hc
  refine ⟨h, h.toJson_eq, fun name v hv => ?_, ?_⟩
  · rw [h.toJson_eq] at hv
    obtain ⟨f, w, hf, hw, rfl⟩ := given?_of_find?_pick hv
    refine ⟨w, hw, ?_⟩
    rcases cases_of_mem_known hf with rfl | ⟨hname, rfl⟩ | ⟨hname, rfl⟩
    · exact .inl rfl
    · exact .inr (.inl ⟨hname, rfl⟩)
    · exact .inr (.inr ⟨hname, rfl⟩)
  · obtain ⟨n, hn, hissuedAt⟩ := h.issuedAt
    refine ⟨n, hn, ?_, fun hlow hhigh => ?_⟩
    · rw [hissuedAt, signed64_eq_self]
    · rw [hissuedAt, signed64_eq (by omega) hhigh, if_neg (by omega)]

/-- A time of issue that needs all 64 bits is read, and written again, as a negative one. -/
theorem late_time_is_altered :
    ofJson (.obj [(utf8 "aud", .text "c"), (utf8 "iat", .int 9223372036854775808)]) =
      .ok (bare none (-9223372036854775808) (utf8 "c") none) ∧
    (bare none (-9223372036854775808) (utf8 "c") none).toJson =
      .obj [(utf8 "aud", .text "c"), (utf8 "iat", .int (-9223372036854775808))] :=
  ⟨rfl, rfl⟩

end JarmClaims
end WalletResponder
