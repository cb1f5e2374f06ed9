import Mathlib.Data.List.Forall2
import WalletResponder.Proofs.Jarm.Claims
import WalletResponder.Proofs.Response.Texts

/-!
# The same response as claims and as parameters

A payload is sent in the open as form parameters, or protected as claims. Both are forms of one list
(`Payload.statements`): what the response says, each statement under a name, and each of them a text
or a submission. A parameter has the text of a submission, a claim its JSON value, and one reads back
as the other.

So the claims, without those on the token itself, are the parameters, one by one and up to their
order (`JarmClaims.claims_say_parameters`). Nothing is said by one form only, and nothing is said by
a null.
-/

namespace WalletResponder

/-! ### Values without null -/

namespace Json

mutual

/-- There is no null in a value, at any depth. -/
def IsFull : Json → Prop
  | .null => False
  | .bool _ | .int _ | .float _ | .str _ => True
  | .arr items => AreFull items
  | .obj members => MembersAreFull members

/-- There is no null in any item. -/
def AreFull : List Json → Prop
  | [] => True
  | j :: rest => IsFull j ∧ AreFull rest

/-- There is no null in any member. -/
def MembersAreFull : List (Bytes × Json) → Prop
  | [] => True
  | m :: rest => IsFull m.2 ∧ MembersAreFull rest

end

theorem membersAreFull_append : ∀ {l l' : List (Bytes × Json)}, MembersAreFull l →
    MembersAreFull l' → MembersAreFull (l ++ l')
  | [], _, _, h' => h'
  | _ :: _, _, h, h' => ⟨h.1, membersAreFull_append h.2 h'⟩

end Json

/-- A nested descriptor that is absent is left out. -/
theorem Descriptor.isFull_toJson : ∀ d : Descriptor, d.toJson.IsFull
  | last p => by simp [toJson, Json.IsFull, Json.MembersAreFull]
  | within p nested => by
    simp [toJson, Json.IsFull, Json.MembersAreFull, nested.isFull_toJson]

theorem Descriptor.areFull_map_toJson : ∀ ds : List Descriptor, Json.AreFull (ds.map toJson)
  | [] => trivial
  | d :: ds => ⟨d.isFull_toJson, areFull_map_toJson ds⟩

theorem PresentationSubmission.isFull_toJson (s : PresentationSubmission) : s.toJson.IsFull := by
  simp [toJson, Json.IsFull, Json.MembersAreFull, Descriptor.areFull_map_toJson]

namespace JarmClaims

theorem membersAreFull_optional {key : String} {v : Option Json} (h : ∀ j ∈ v, j.IsFull) :
    Json.MembersAreFull (optional key v) := by
  cases v with
  | none => trivial
  | some j => exact ⟨h j rfl, trivial⟩

theorem membersAreFull_text (key : String) (v : Option Bytes) :
    Json.MembersAreFull (optional key (v.map .str)) :=
  membersAreFull_optional fun j hj => by
    obtain ⟨s, -, rfl⟩ := Option.map_eq_some_iff.mp hj
    trivial

/-- **No claim is null.** -/
theorem isFull_toJson (c : JarmClaims) : c.toJson.IsFull := by
  rw [toJson_eq]
  refine ⟨trivial, ?_⟩
  refine Json.membersAreFull_append (membersAreFull_text _ _) ?_
  refine Json.membersAreFull_append (membersAreFull_text _ _) ⟨trivial, ?_⟩
  refine Json.membersAreFull_append (membersAreFull_text _ _) ?_
  refine Json.membersAreFull_append (membersAreFull_text _ _) ?_
  refine Json.membersAreFull_append (membersAreFull_optional fun j hj => ?_) ?_
  · obtain ⟨s, -, rfl⟩ := Option.map_eq_some_iff.mp hj
    exact s.isFull_toJson
  exact Json.membersAreFull_append (membersAreFull_text _ _) (membersAreFull_text _ _)

end JarmClaims

/-! ### What a response says -/

/-- What is said under a name: a text, or a submission. -/
inductive Statement where
  | text (s : Bytes)
  | submission (s : PresentationSubmission)

namespace Statement

/-- The name under which a submission is found. -/
def submissionName : Bytes := utf8 "presentation_submission"

/-- The JSON value of a statement. -/
def claim : Statement → Json
  | text s => .str s
  | submission s => s.toJson

/-- A parameter has a statement for its value. A submission goes by its name, and nothing else
does. -/
def IsIn (s : Bytes × Statement) (parameter : Bytes × Bytes) : Prop :=
  s.1 = parameter.1 ∧
    match s.2 with
    | text t => parameter.1 ≠ submissionName ∧ t = parameter.2
    | submission s => parameter.1 = submissionName ∧ s.canonical = .ok parameter.2

end Statement

/-- What an answer says. -/
def Answer.statements (cancelled : Bytes) : Answer → List (Bytes × Statement)
  | idToken token => [(utf8 "id_token", .text token)]
  | vpToken token s => [(utf8 "vp_token", .text token), (Statement.submissionName, .submission s)]
  | idAndVpToken id vp s =>
    [(utf8 "id_token", .text id), (utf8 "vp_token", .text vp),
      (Statement.submissionName, .submission s)]
  | invalidRequest error =>
    [(utf8 "error", .text error.code), (utf8 "error_description", .text error.description)]
  | noConsensus => [(utf8 "error", .text cancelled)]

/-- The state as a statement, if there is one. -/
def stateStatement (state : Option Bytes) : List (Bytes × Statement) :=
  (stateParameter state).map fun m => (m.1, .text m.2)

/-- What a payload says. -/
def Payload.statements (cancelled : Bytes) (p : Payload) : List (Bytes × Statement) :=
  p.answer.statements cancelled ++ stateStatement p.state

variable {p : Payload} {cancelled : Bytes} {params : FormParameters}

theorem Payload.nodup_statements (p : Payload) (cancelled : Bytes) :
    ((p.statements cancelled).map Prod.fst).Nodup := by
  obtain ⟨answer, state, clientId⟩ := p
  cases answer <;> cases state <;> exact of_decide_eq_true rfl

theorem Answer.statements_parameters {a : Answer} (h : a.parameters cancelled = .ok params) :
    List.Forall₂ Statement.IsIn (a.statements cancelled) params := by
  have htext : ∀ {name : Bytes} (s : Bytes), name ≠ Statement.submissionName →
      Statement.IsIn (name, .text s) (name, s) := fun s hname => ⟨rfl, hname, rfl⟩
  have hsubmission : ∀ {s : PresentationSubmission} {text : Bytes}, s.canonical = .ok text →
      Statement.IsIn (Statement.submissionName, .submission s) (Statement.submissionName, text) :=
    fun hcanonical => ⟨rfl, rfl, hcanonical⟩
  cases a with
  | idToken token =>
    cases h
    exact .cons (htext token (by decide)) .nil
  | vpToken token s =>
    obtain ⟨text, hcanonical, h⟩ := bind_eq_ok.mp h
    cases h
    exact .cons (htext token (by decide)) (.cons (hsubmission hcanonical) .nil)
  | idAndVpToken id vp s =>
    obtain ⟨text, hcanonical, h⟩ := bind_eq_ok.mp h
    cases h
    exact .cons (htext id (by decide))
      (.cons (htext vp (by decide)) (.cons (hsubmission hcanonical) .nil))
  | invalidRequest error =>
    cases h
    exact .cons (htext error.code (by decide)) (.cons (htext error.description (by decide)) .nil)
  | noConsensus =>
    cases h
    exact .cons (htext cancelled (by decide)) .nil

/-- Parameters go by the names of what is in them. -/
theorem Statement.names_of_isIn {statements : List (Bytes × Statement)}
    (h : List.Forall₂ IsIn statements params) :
    params.map Prod.fst = statements.map Prod.fst := by
  induction h with
  | nil => rfl
  | cons hhead _ ih => rw [List.map_cons, List.map_cons, ih, hhead.1]

/-- **The parameters of a payload have what it says for their values.** -/
theorem Payload.statements_parameters (h : p.parameters cancelled = .ok params) :
    List.Forall₂ Statement.IsIn (p.statements cancelled) params := by
  obtain ⟨answered, hanswered, rfl⟩ := map_eq_ok.mp h
  refine List.rel_append (Answer.statements_parameters hanswered) ?_
  cases p.state with
  | none => exact .nil
  | some s =>
    have hname : utf8 "state" ≠ Statement.submissionName := by decide
    exact .cons ⟨rfl, hname, rfl⟩ .nil

/-- The state is a parameter exactly if there is one. -/
theorem Payload.state_parameters (h : p.parameters cancelled = .ok params) (s : Bytes) :
    (utf8 "state", s) ∈ params ↔ p.state = some s := by
  obtain ⟨answered, hanswered, rfl⟩ := map_eq_ok.mp h
  have hnames := Statement.names_of_isIn (Answer.statements_parameters hanswered)
  have hanswer : utf8 "state" ∉ answered.map Prod.fst := by
    rw [hnames]
    cases p.answer <;> exact of_decide_eq_true rfl
  have hnotMem : (utf8 "state", s) ∉ answered := fun hmem =>
    hanswer (List.mem_map_of_mem (f := Prod.fst) hmem)
  rw [List.mem_append, or_iff_right hnotMem]
  cases p.state with
  | none => simp [stateParameter]
  | some state => simp [stateParameter, eq_comm]

namespace JarmClaims

/-- The claims without those on the token itself: who issues it, when and for whom. -/
def said (c : JarmClaims) : List (Bytes × Json) :=
  optional "error" (c.error.map .str) ++
    (optional "error_description" (c.errorDescription.map .str) ++
      (optional "id_token" (c.idToken.map .str) ++
        (optional "presentation_submission" (c.submission.map PresentationSubmission.toJson) ++
          (optional "state" (c.state.map .str) ++ optional "vp_token" (c.vpToken.map .str)))))

theorem optional_none (key : String) : optional key none = [] := rfl

theorem optional_some (key : String) (j : Json) : optional key (some j) = [(utf8 key, j)] := rfl

theorem filter_optional (key : String) (v : Option Json) (name : Bytes) :
    (optional key v).filter (fun m => m.1 != name) = if utf8 key = name then [] else optional key v := by
  cases v <;> simp [optional, List.filter_cons]

theorem erase_toJson (c : JarmClaims) :
    ((c.toJson.erase (utf8 "iss")).erase (utf8 "iat")).erase (utf8 "aud") = .obj c.said := by
  simp +decide [toJson_eq, Json.erase, said, filter_optional]

/-- **The claims of a payload, without those on the token, have what it says for their values.** -/
theorem said_ofPayload (p : Payload) (issuer : Option Bytes) (issuedAt : Int)
    (cancelled : Bytes) : (ofPayload p issuer issuedAt cancelled).said.Perm
      ((p.statements cancelled).map fun s => (s.1, s.2.claim)) := by
  obtain ⟨answer, state, clientId⟩ := p
  have hstate : (stateStatement state).map (fun s => (s.1, s.2.claim)) =
      optional "state" (state.map .str) := by
    cases state <;> rfl
  rw [Payload.statements, List.map_append, hstate]
  cases answer <;>
    simp only [said, ofPayload, bare, Option.map_none, Option.map_some, optional_none,
      optional_some, List.nil_append, List.append_nil, List.cons_append, Answer.statements,
      List.map_cons, List.map_nil, Statement.claim]
  case idToken token => exact List.Perm.refl _
  case vpToken token s => exact List.perm_append_singleton _ (_ :: _)
  case idAndVpToken id vp s => exact (List.perm_append_singleton _ (_ :: _)).cons _
  case invalidRequest error => exact List.Perm.refl _
  case noConsensus => exact List.Perm.refl _

theorem origin_ofPayload (p : Payload) (issuer : Option Bytes) (issuedAt : Int)
    (cancelled : Bytes) : (ofPayload p issuer issuedAt cancelled).audience = p.clientId ∧
      (ofPayload p issuer issuedAt cancelled).issuer = issuer ∧
      (ofPayload p issuer issuedAt cancelled).state = p.state := by
  rw [ofPayload]
  cases p.answer <;> exact ⟨rfl, rfl, rfl⟩

/-! ### The same in both forms -/

/-- A claim says what a parameter says: under its name the same text, or the submission that the
text writes. -/
def Says (claim : Bytes × Json) (parameter : Bytes × Bytes) : Prop :=
  claim.1 = parameter.1 ∧
    if parameter.1 = Statement.submissionName then Json.parse? parameter.2 = some claim.2
    else claim.2 = .str parameter.2

/-- Claims and parameters say the same. Without those on the token, and up to their order, the
claims are the parameters one by one, under names of which there is one each. The claims on the
token are those of the wallet and of the payload, and what is absent is no null but left out. -/
structure AgreeOn (p : Payload) (issuer : Option Bytes) (issuedAt : Int) (claims : Json)
    (params : FormParameters) : Prop where
  nodup : (params.map Prod.fst).Nodup
  said : ∃ rest ordered,
    ((claims.erase (utf8 "iss")).erase (utf8 "iat")).erase (utf8 "aud") = .obj rest ∧
      rest.Perm ordered ∧ List.Forall₂ Says ordered params
  audience : claims.find? (utf8 "aud") = some (.str p.clientId)
  issuer : claims.find? (utf8 "iss") = issuer.map .str
  issuedAt : claims.find? (utf8 "iat") = some (.int issuedAt)
  full : claims.IsFull
  stateClaim : claims.find? (utf8 "state") = p.state.map .str
  stateParameter : ∀ s, (utf8 "state", s) ∈ params ↔ p.state = some s

/-- The claim of a statement says what its parameter says. -/
theorem says_of_isIn {s : Bytes × Statement} {parameter : Bytes × Bytes}
    (h : Statement.IsIn s parameter) : Says (s.1, s.2.claim) parameter := by
  obtain ⟨name, statement⟩ := s
  obtain ⟨rfl, h⟩ := h
  refine ⟨rfl, ?_⟩
  cases statement with
  | text t =>
    obtain ⟨hname, rfl⟩ := h
    rw [if_neg hname]
    rfl
  | submission s =>
    obtain ⟨hname, hcanonical⟩ := h
    rw [if_pos hname]
    exact Json.parse?_dump s.isPlain_toJson hcanonical

/-- **The claims of a payload say what its parameters say**, if its answer is text and the
parameters can be written at all. -/
theorem claims_say_parameters (p : Payload) (issuer : Option Bytes) (issuedAt : Int)
    (cancelled : Bytes) (h : p.answer.IsText) : ∃ params, p.parameters cancelled = .ok params ∧
      AgreeOn p issuer issuedAt (ofPayload p issuer issuedAt cancelled).toJson params := by
  obtain ⟨params, hparams⟩ := Payload.exists_parameters h cancelled
  have hforms := Payload.statements_parameters hparams
  obtain ⟨haud, -, -, hiat, -, hiss, -, hstate, -⟩ :=
    find?_toJson (ofPayload p issuer issuedAt cancelled)
  obtain ⟨haudience, hissuer, hstate'⟩ := origin_ofPayload p issuer issuedAt cancelled
  rw [haudience] at haud
  rw [hissuer] at hiss
  rw [issuedAt_ofPayload] at hiat
  rw [hstate'] at hstate
  refine ⟨params, hparams, ?_, ⟨_, _, erase_toJson _, said_ofPayload p issuer issuedAt cancelled,
    ?_⟩, haud, hiss, hiat, isFull_toJson _, hstate, Payload.state_parameters hparams⟩
  · rw [Statement.names_of_isIn hforms]
    exact p.nodup_statements cancelled
  · rw [List.forall₂_map_left_iff]
    exact hforms.imp fun _ _ => says_of_isIn

/-- A holder at Zürich hands over two tokens, one within the other. -/
def nestedHandover : Payload where
  answer := .idAndVpToken (utf8 "a.b.c") (utf8 "\x7b\x7d") {
    id := utf8 "Zürich", definitionId := utf8 "", descriptors := [
      .within ⟨utf8 "1", utf8 "jwt_vp", utf8 "$"⟩ (.last ⟨utf8 "2", utf8 "jwt_vc", utf8 "$.vc"⟩)] }
  state := some (utf8 "null")
  clientId := utf8 "verifier"

/-- The parameters of two tokens are also their claims; no issuer is configured, and none is
named. -/
theorem nestedHandover_agrees : ∃ text,
    nestedHandover.parameters (utf8 "cancelled") = .ok [(utf8 "id_token", utf8 "a.b.c"),
      (utf8 "vp_token", utf8 "\x7b\x7d"), (utf8 "presentation_submission", text),
      (utf8 "state", utf8 "null")] ∧
    nestedHandover.answer.IsText ∧
    AgreeOn nestedHandover none (-1) (ofPayload nestedHandover none (-1) (utf8 "cancelled")).toJson
      [(utf8 "id_token", utf8 "a.b.c"), (utf8 "vp_token", utf8 "\x7b\x7d"),
        (utf8 "presentation_submission", text), (utf8 "state", utf8 "null")] := by
  have htext : nestedHandover.answer.IsText := by
    refine ⟨by decide, by decide, by decide, by decide, fun d hd => ?_⟩
    obtain rfl := List.mem_singleton.mp hd
    exact ⟨⟨by decide, by decide, by decide⟩, by decide, by decide, by decide⟩
  obtain ⟨params, hparams, hagree⟩ :=
    claims_say_parameters nestedHandover none (-1) (utf8 "cancelled") htext
  have hwritten := hparams
  obtain ⟨answered, hanswered, rfl⟩ := map_eq_ok.mp hwritten
  obtain ⟨text, -, hanswered⟩ := bind_eq_ok.mp hanswered
  cases hanswered
  exact ⟨text, hparams, htext, hagree⟩

end JarmClaims
end WalletResponder
