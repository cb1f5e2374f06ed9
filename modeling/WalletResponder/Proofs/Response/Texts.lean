import WalletResponder.Jarm.Claims
import WalletResponder.Proofs.Response.Submissions
import WalletResponder.Response.Parameters
import WalletResponder.Service.Message

/-!
# Responses that can be written

The strings of a submission, of an answer and of a payload are arbitrary bytes. Here is when they
are text (`Payload.IsText`), and that this is all it takes for the JSON form of a submission
(`PresentationSubmission.isText_toJson`) and for the claims of a payload
(`JarmClaims.isText_ofPayload`). A decision that was read from a text has only text in it
(`Consensus.isText_of_ofJson`), and so has an answer with it.
-/

namespace WalletResponder

/-! ### Submissions -/

/-- The strings of a place are text. -/
def Place.IsText (p : Place) : Prop :=
  Utf8.valid p.id = true ∧ Utf8.valid p.format = true ∧ Utf8.valid p.path = true

/-- The strings of all places of a chain are text. -/
def Descriptor.IsText : Descriptor → Prop
  | last p => p.IsText
  | within p nested => p.IsText ∧ nested.IsText

/-- The strings of a submission are text. -/
def PresentationSubmission.IsText (s : PresentationSubmission) : Prop :=
  Utf8.valid s.id = true ∧ Utf8.valid s.definitionId = true ∧ ∀ d ∈ s.descriptors, d.IsText

/-- The members of a place in front of others. -/
theorem Place.membersAreText_iff (p : Place) (rest : List (Bytes × Json)) :
    Json.membersAreText ((utf8 "format", .str p.format) :: (utf8 "id", .str p.id) ::
      (utf8 "path", .str p.path) :: rest) = true ↔ p.IsText ∧ Json.membersAreText rest = true := by
  have hnames : Utf8.valid (utf8 "format") = true ∧ Utf8.valid (utf8 "id") = true ∧
      Utf8.valid (utf8 "path") = true := by decide
  simp only [Json.membersAreText, Json.isText, hnames, Bool.and_eq_true, true_and, IsText]
  tauto

theorem Descriptor.isText_toJson : ∀ d : Descriptor, d.toJson.isText = true ↔ d.IsText
  | last p => by
    rw [toJson, Json.isText, Place.membersAreText_iff]
    exact and_iff_left rfl
  | within p nested => by
    have hname : Utf8.valid nestedName = true := by decide
    rw [toJson, Json.isText, Place.membersAreText_iff, Json.membersAreText, hname, IsText,
      ← nested.isText_toJson]
    simp [Json.membersAreText]

theorem PresentationSubmission.isText_toJson (s : PresentationSubmission) :
    s.toJson.isText = true ↔ s.IsText := by
  have hnames : Utf8.valid (utf8 "definition_id") = true ∧
      Utf8.valid (utf8 "descriptor_map") = true ∧ Utf8.valid (utf8 "id") = true := by decide
  have hdescriptors : Json.areText (s.descriptors.map Descriptor.toJson) = true ↔
      ∀ d ∈ s.descriptors, d.IsText := by
    rw [Json.areText_iff, List.forall_mem_map]
    exact forall₂_congr fun d _ => d.isText_toJson
  simp only [toJson, Json.isText, Json.membersAreText, hnames, Bool.and_eq_true, true_and, and_true,
    hdescriptors, IsText]
  tauto

/-- A submission has a text if its strings are text. -/
theorem PresentationSubmission.exists_canonical {s : PresentationSubmission} :
    (∃ text, s.canonical = .ok text) ↔ s.IsText := by
  rw [← isText_toJson]
  exact Json.exists_dump

/-! ### Payloads -/

/-- The strings of an answer are text. -/
def Answer.IsText : Answer → Prop
  | idToken token => Utf8.valid token = true
  | vpToken token submission => Utf8.valid token = true ∧ submission.IsText
  | idAndVpToken id vp submission =>
    Utf8.valid id = true ∧ Utf8.valid vp = true ∧ submission.IsText
  | invalidRequest error => Utf8.valid error.detail = true
  | noConsensus => True

/-- The strings of a payload are text. -/
structure Payload.IsText (p : Payload) : Prop where
  answer : p.answer.IsText
  state : ∀ s ∈ p.state, Utf8.valid s = true
  clientId : Utf8.valid p.clientId = true

/-- **A payload can be sent in the open** if its answer is text. -/
theorem Payload.exists_parameters {p : Payload} (h : p.answer.IsText) (cancelled : Bytes) :
    ∃ params, p.parameters cancelled = .ok params := by
  have hanswer : ∃ params, p.answer.parameters cancelled = .ok params := by
    cases hp : p.answer with
    | vpToken token submission =>
      rw [hp] at h
      obtain ⟨text, htext⟩ := PresentationSubmission.exists_canonical.mpr h.2
      exact ⟨_, bind_eq_ok.mpr ⟨text, htext, rfl⟩⟩
    | idAndVpToken id vp submission =>
      rw [hp] at h
      obtain ⟨text, htext⟩ := PresentationSubmission.exists_canonical.mpr h.2.2
      exact ⟨_, bind_eq_ok.mpr ⟨text, htext, rfl⟩⟩
    | _ => exact ⟨_, rfl⟩
  obtain ⟨params, hparams⟩ := hanswer
  exact ⟨_, map_eq_ok.mpr ⟨params, hparams, rfl⟩⟩

/-- The description of an error is text if its detail is. -/
theorem RequestError.valid_description (error : RequestError) :
    Utf8.valid error.description = Utf8.valid error.detail := by
  have hall : (error.kind.name ++ utf8 ": ").all (fun b => decide (b < 0x80)) = true := by
    cases error.kind <;> rfl
  have hname : ∀ b ∈ error.kind.name ++ utf8 ": ", b < 0x80 := fun b hb =>
    of_decide_eq_true (List.all_eq_true.mp hall b hb)
  unfold description
  split
  · next hempty =>
    rw [List.isEmpty_iff.mp hempty]
    have hname := Utf8.valid_append_of_ascii
      (fun b hb => hname b (List.mem_append_left _ hb)) []
    rw [List.append_nil] at hname
    exact hname
  · exact Utf8.valid_append_of_ascii hname _

theorem RequestError.valid_code (error : RequestError) : Utf8.valid error.code = true := by
  rw [code]
  cases error.kind <;> decide

/-! ### Claims -/

namespace JarmClaims

theorem membersAreText_append : ∀ l l' : List (Bytes × Json),
    Json.membersAreText (l ++ l') = true ↔
      Json.membersAreText l = true ∧ Json.membersAreText l' = true := by
  intro l l'
  simp only [Json.membersAreText_iff, List.mem_append]
  exact ⟨fun h => ⟨fun m hm => h m (.inl hm), fun m hm => h m (.inr hm)⟩,
    fun h m hm => hm.elim (h.1 m) (h.2 m)⟩

theorem membersAreText_optional {name : String} {v : Option Json}
    (hname : Utf8.valid (utf8 name) = true) :
    Json.membersAreText (optional name v) = true ↔ ∀ j ∈ v, j.isText = true := by
  cases v <;> simp [optional, Json.membersAreText, hname]

theorem membersAreText_text {name : String} {v : Option Bytes}
    (hname : Utf8.valid (utf8 name) = true) :
    Json.membersAreText (optional name (v.map .str)) = true ↔ ∀ s ∈ v, Utf8.valid s = true := by
  rw [membersAreText_optional hname]
  cases v <;> simp [Json.isText]

theorem isText_toJson (c : JarmClaims) : c.toJson.isText = true ↔
    Utf8.valid c.audience = true ∧ (∀ s ∈ c.error, Utf8.valid s = true) ∧
      (∀ s ∈ c.errorDescription, Utf8.valid s = true) ∧ (∀ s ∈ c.idToken, Utf8.valid s = true) ∧
      (∀ s ∈ c.issuer, Utf8.valid s = true) ∧ (∀ s ∈ c.submission, s.IsText) ∧
      (∀ s ∈ c.state, Utf8.valid s = true) ∧ ∀ s ∈ c.vpToken, Utf8.valid s = true := by
  have hnames : Utf8.valid (utf8 "aud") = true ∧ Utf8.valid (utf8 "iat") = true := by decide
  have hsubmission : (∀ j ∈ c.submission.map PresentationSubmission.toJson, j.isText = true) ↔
      ∀ s ∈ c.submission, s.IsText := by
    cases c.submission <;> simp [PresentationSubmission.isText_toJson]
  rw [toJson, Json.isText, Json.membersAreText, Bool.and_eq_true, Bool.and_eq_true]
  simp only [membersAreText_append, Json.membersAreText, Bool.and_eq_true]
  rw [membersAreText_text (by decide), membersAreText_text (by decide),
    membersAreText_text (by decide), membersAreText_text (by decide),
    membersAreText_optional (by decide), membersAreText_text (by decide),
    membersAreText_text (by decide), hsubmission]
  simp only [Json.isText, hnames, and_true, true_and]
  tauto

/-- **The claims of a payload can be written** if its strings are text, and what the wallet adds to
them. -/
theorem isText_ofPayload (p : Payload) (issuer : Option Bytes) (issuedAt : Int)
    (cancelled : Bytes) : (ofPayload p issuer issuedAt cancelled).toJson.isText = true ↔
      p.IsText ∧ (∀ s ∈ issuer, Utf8.valid s = true) ∧
        (p.answer = .noConsensus → Utf8.valid cancelled = true) := by
  rw [isText_toJson]
  obtain ⟨answer, state, clientId⟩ := p
  have hpayload : ∀ a : Answer, (Payload.mk a state clientId).IsText ↔
      a.IsText ∧ (∀ s ∈ state, Utf8.valid s = true) ∧ Utf8.valid clientId = true :=
    fun a => ⟨fun h => ⟨h.answer, h.state, h.clientId⟩, fun h => ⟨h.1, h.2.1, h.2.2⟩⟩
  rw [hpayload]
  cases answer <;>
    simp only [ofPayload, bare, Answer.IsText, RequestError.valid_description,
      RequestError.valid_code, Option.mem_def, Option.some.injEq, reduceCtorEq, IsEmpty.forall_iff,
      implies_true, forall_const, forall_eq', and_true, true_and] <;>
    tauto

end JarmClaims

/-! ### Reading -/

theorem Place.isText_of_ofJson {j : Json} {p : Place} (hj : j.isText = true)
    (h : Place.ofJson j = .ok p) : p.IsText := by
  obtain ⟨hid, hformat, hpath⟩ := Place.ofJson_eq_ok.mp h
  exact ⟨Json.isText_of_find? hj hid, Json.isText_of_find? hj hformat,
    Json.isText_of_find? hj hpath⟩

namespace Descriptor

theorem isText_of_ofJson : ∀ {d : Descriptor} {j : Json}, j.isText = true → ofJson j = .ok d →
    d.IsText
  | last _, _, hj, h => Place.isText_of_ofJson hj (ofJson_eq_last.mp h).1
  | within _ _, _, hj, h => by
    obtain ⟨hp, n, hinner, hd⟩ := ofJson_eq_within.mp h
    have hn := Json.isText_of_find? hj (inner?_eq_some.mp hinner).1
    exact ⟨Place.isText_of_ofJson hj hp, isText_of_ofJson hn hd⟩

theorem isText_of_readAll : ∀ {items : List Json} {ds : List Descriptor},
    (∀ j ∈ items, j.isText = true) → readAll items = .ok ds → ∀ d ∈ ds, d.IsText
  | [], ds, _, h => by cases h; exact fun d hd => nomatch hd
  | j :: rest, ds, hitems, h => by
    obtain ⟨d, hd, h⟩ := bind_eq_ok.mp h
    obtain ⟨ds, hds, h⟩ := bind_eq_ok.mp h
    cases h
    have hrest := isText_of_readAll (fun j hj => hitems j (List.mem_cons_of_mem _ hj)) hds
    exact List.forall_mem_cons.mpr ⟨isText_of_ofJson (hitems j List.mem_cons_self) hd, hrest⟩

end Descriptor

theorem PresentationSubmission.isText_of_ofJson {j : Json} {s : PresentationSubmission}
    (hj : j.isText = true) (h : ofJson j = .ok s) : s.IsText := by
  obtain ⟨hid, hdefinition, items, hmap, hds⟩ := ofJson_eq_ok.mp h
  have hitems := (Json.areText_iff items).mp (Json.isText_of_find? hj hmap)
  exact ⟨Json.isText_of_find? hj hid, Json.isText_of_find? hj hdefinition,
    Descriptor.isText_of_readAll hitems hds⟩

/-- The strings of a decision are text. -/
def Consensus.IsText : Consensus → Prop
  | negative => True
  | idToken token => Utf8.valid token = true
  | vpToken token submission => Utf8.valid token = true ∧ submission.IsText
  | idAndVpToken id vp submission =>
    Utf8.valid id = true ∧ Utf8.valid vp = true ∧ submission.IsText

theorem valid_of_requiredText {j : Json} {name : String} {s : Bytes} (hj : j.isText = true)
    (h : requiredText j name = .ok s) : Utf8.valid s = true := by
  unfold requiredText at h
  split at h
  · next hfind =>
    cases h
    exact Json.isText_of_find? hj hfind
  · exact nomatch h

namespace Consensus

theorem isText_of_readSubmission {j : Json} {s : PresentationSubmission} (hj : j.isText = true)
    (h : readSubmission j = .ok s) : s.IsText := by
  obtain ⟨v, hv, h⟩ := bind_eq_ok.mp (ofJson_eq_ok.mp h)
  have hvText := Json.isText_of_find? hj (Json.member_eq_ok.mp hv)
  exact PresentationSubmission.isText_of_ofJson hvText h

/-- **A decision that is read from a text has only text in it.** -/
theorem isText_of_ofJson {j : Json} {c : Consensus} (hj : j.isText = true)
    (h : ofJson j = .ok c) : c.IsText := by
  unfold ofJson at h
  split at h
  case isFalse => exact nomatch h
  obtain ⟨type, -, h⟩ := bind_eq_ok.mp h
  unfold ofKind at h
  split at h
  · cases h; trivial
  split at h
  · obtain ⟨token, htoken, rfl⟩ := map_eq_ok.mp h
    exact valid_of_requiredText hj htoken
  split at h
  · obtain ⟨token, htoken, h⟩ := bind_eq_ok.mp h
    obtain ⟨submission, hsubmission, h⟩ := bind_eq_ok.mp h
    cases h
    exact ⟨valid_of_requiredText hj htoken, isText_of_readSubmission hj hsubmission⟩
  split at h
  · obtain ⟨id, hid, h⟩ := bind_eq_ok.mp h
    obtain ⟨vp, hvp, h⟩ := bind_eq_ok.mp h
    obtain ⟨submission, hsubmission, h⟩ := bind_eq_ok.mp h
    cases h
    exact ⟨valid_of_requiredText hj hid, valid_of_requiredText hj hvp,
      isText_of_readSubmission hj hsubmission⟩
  · exact nomatch h

end Consensus

end WalletResponder
