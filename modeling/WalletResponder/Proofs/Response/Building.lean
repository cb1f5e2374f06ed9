import WalletResponder.Proofs.Result
import WalletResponder.Response.Authorization

/-!
# The response to a request

A response is built in two steps: the holder's decision has to answer the query
(`Payload.ofConsensus`), and the mode of the request may ask for a protection
(`AuthorizationResponse.ofMode`). Each step says exactly when it succeeds and what comes of it, and
a response is what comes of both (`AuthorizationResponse.build_eq_ok`).

Which answer is given hangs on the decision alone (`Consensus.answer`); the query only says whether
the decision fits (`Query.IsAnsweredBy`). So nothing that a request says beside its kind, its
client, its state, its mode and its protection can show in the response
(`AuthorizationResponse.build_reworded`).
-/

namespace WalletResponder

/-! ### Queries and decisions -/

/-- The decisions that fit a query: a refusal fits any, and what is handed over has to be what is
asked for. -/
inductive Query.IsAnsweredBy : Query → Consensus → Prop where
  | negative (query : Query) : IsAnsweredBy query .negative
  | idToken (q : IdTokenQuery) (token : Bytes) : IsAnsweredBy (.idToken q) (.idToken token)
  | vpToken (definition : Json) (token : Bytes) (submission : PresentationSubmission) :
    IsAnsweredBy (.presentation definition) (.vpToken token submission)
  | idAndVpToken (q : IdTokenQuery) (definition : Json) (id vp : Bytes)
    (submission : PresentationSubmission) :
    IsAnsweredBy (.both q definition) (.idAndVpToken id vp submission)

/-- What a decision says in a response: its tokens and its submission, or that there is none. -/
def Consensus.answer : Consensus → Answer
  | negative => .noConsensus
  | idToken token => .idToken token
  | vpToken token submission => .vpToken token submission
  | idAndVpToken id vp submission => .idAndVpToken id vp submission

variable {query : Query} {c : Consensus}

/-- **A decision that fits is the answer**, and no other one is. -/
theorem Answer.ofConsensus?_eq_some {answer : Answer} :
    ofConsensus? query c = some answer ↔ query.IsAnsweredBy c ∧ answer = c.answer := by
  constructor
  · intro h
    cases query <;> cases c <;> cases h <;> exact ⟨by constructor, rfl⟩
  · rintro ⟨h, rfl⟩
    cases h with
    | negative => cases query <;> rfl
    | idToken => rfl
    | vpToken => rfl
    | idAndVpToken => rfl

theorem Answer.ofConsensus?_eq_none : ofConsensus? query c = none ↔ ¬ query.IsAnsweredBy c := by
  rw [Option.eq_none_iff_forall_ne_some]
  constructor
  · exact fun h hc => h c.answer (ofConsensus?_eq_some.mpr ⟨hc, rfl⟩)
  · exact fun h answer hanswer => h (ofConsensus?_eq_some.mp hanswer).1

/-! ### Payloads -/

variable {request : Request}

theorem Payload.ofConsensus_eq_ok {p : Payload} : ofConsensus request c = .ok p ↔
    request.query.IsAnsweredBy c ∧ p = ⟨c.answer, request.state, request.clientId⟩ := by
  rw [ofConsensus]
  split
  · next answer h =>
    obtain ⟨hc, rfl⟩ := Answer.ofConsensus?_eq_some.mp h
    simp [hc, eq_comm]
  · next h => simp [Answer.ofConsensus?_eq_none.mp h]

theorem Payload.ofConsensus_eq_error {fault : ContractFault} :
    ofConsensus request c = .error fault ↔
      ¬ request.query.IsAnsweredBy c ∧ fault = .mismatch c.name request.query.name := by
  rw [ofConsensus]
  split
  · next h => simp [(Answer.ofConsensus?_eq_some.mp h).1]
  · next h => simp [Answer.ofConsensus?_eq_none.mp h, eq_comm]

/-! ### Modes -/

namespace AuthorizationResponse

variable {mode : ResponseMode} {p : Payload} {jarm : Option JarmRequirement}
  {r : AuthorizationResponse} {fault : ContractFault}

theorem ofMode_eq_ok : ofMode mode p jarm = .ok r ↔
    (mode.isProtected = true → jarm.isSome = true) ∧
      r = ⟨mode.channel, mode.uri, p, if mode.isProtected then jarm else none⟩ := by
  unfold ofMode
  cases mode.isProtected with
  | false =>
    simp only [Bool.false_eq_true, if_false, false_implies, true_and, Except.ok.injEq]
    exact eq_comm
  | true =>
    cases jarm with
    | none => simp
    | some requirement =>
      simp only [if_true, Option.isSome_some, forall_const, true_and, Except.ok.injEq]
      exact eq_comm

theorem ofMode_eq_error : ofMode mode p jarm = .error fault ↔
    (mode.isProtected = true ∧ jarm = none) ∧ fault = .unprotected mode.name := by
  unfold ofMode
  split
  · next h => cases jarm <;> simp [h, eq_comm]
  · next h => simp [h]

end AuthorizationResponse

/-! ### Responses -/

/-- A request for a protected response says how to protect it. -/
def Request.IsEquipped (request : Request) : Prop :=
  request.mode.isProtected = true → request.jarm.isSome = true

/-- The response that tells the verifier of a decision. -/
def Request.response (request : Request) (c : Consensus) : AuthorizationResponse where
  channel := request.mode.channel
  uri := request.mode.uri
  payload := ⟨c.answer, request.state, request.clientId⟩
  jarm := if request.mode.isProtected then request.jarm else none

/-- A response has the mode of its request. -/
theorem Request.mode_response (h : request.IsEquipped) (c : Consensus) :
    (request.response c).mode = request.mode := by
  have hjarm : (request.response c).jarm.isSome = request.mode.isProtected := by
    rw [response]
    cases hmode : request.mode.isProtected with
    | false => rfl
    | true => exact h hmode
  rw [AuthorizationResponse.mode, hjarm, response]

namespace AuthorizationResponse

variable {r : AuthorizationResponse} {fault : ContractFault}

theorem eq_response_iff (h : request.IsEquipped) : r = request.response c ↔
    r.mode = request.mode ∧ r.payload = ⟨c.answer, request.state, request.clientId⟩ ∧
      r.jarm = if request.mode.isProtected then request.jarm else none := by
  constructor
  · rintro rfl
    exact ⟨Request.mode_response h c, rfl, rfl⟩
  · rintro ⟨hmode, hpayload, hjarm⟩
    obtain ⟨channel, uri, payload, jarm⟩ := r
    have hchannel : channel = request.mode.channel := congrArg ResponseMode.channel hmode
    have huri : uri = request.mode.uri := congrArg ResponseMode.uri hmode
    rw [Request.response, hchannel, huri, ← hpayload, ← hjarm]

theorem build_eq : build request c = Payload.ofConsensus request c >>= fun p =>
    ofMode request.mode p request.jarm := by
  unfold build
  cases Payload.ofConsensus request c <;> rfl

/-- **A response is built** for a decision that fits, unless a protection is asked for and none is
named. -/
theorem build_eq_ok : build request c = .ok r ↔
    (request.query.IsAnsweredBy c ∧ request.IsEquipped) ∧ r = request.response c := by
  rw [build_eq, bind_eq_ok]
  constructor
  · rintro ⟨p, hp, hr⟩
    obtain ⟨hc, rfl⟩ := Payload.ofConsensus_eq_ok.mp hp
    obtain ⟨hjarm, rfl⟩ := ofMode_eq_ok.mp hr
    exact ⟨⟨hc, hjarm⟩, rfl⟩
  · rintro ⟨⟨hc, hjarm⟩, rfl⟩
    exact ⟨_, Payload.ofConsensus_eq_ok.mpr ⟨hc, rfl⟩, ofMode_eq_ok.mpr ⟨hjarm, rfl⟩⟩

/-- **No response is built** for a decision that does not fit, and then the decision is at fault
even where a protection is missing, too. -/
theorem build_eq_error : build request c = .error fault ↔
    (¬ request.query.IsAnsweredBy c ∧ fault = .mismatch c.name request.query.name) ∨
    (request.query.IsAnsweredBy c ∧ ¬ request.IsEquipped) ∧
      fault = .unprotected request.mode.name := by
  have hequipped : ¬ request.IsEquipped ↔
      request.mode.isProtected = true ∧ request.jarm = none := by
    rw [Request.IsEquipped, Classical.not_imp, Option.not_isSome_iff_eq_none]
  rw [build_eq, bind_eq_error, Payload.ofConsensus_eq_error, hequipped]
  refine or_congr Iff.rfl ?_
  constructor
  · rintro ⟨p, hp, hfault⟩
    obtain ⟨hmissing, rfl⟩ := ofMode_eq_error.mp hfault
    exact ⟨⟨(Payload.ofConsensus_eq_ok.mp hp).1, hmissing⟩, rfl⟩
  · rintro ⟨⟨hc, hmissing⟩, rfl⟩
    exact ⟨_, Payload.ofConsensus_eq_ok.mpr ⟨hc, rfl⟩, ofMode_eq_error.mpr ⟨hmissing, rfl⟩⟩

end AuthorizationResponse

/-! ### What a response does not tell -/

/-- A query of the same kind with other contents. -/
def Query.reworded (q : IdTokenQuery) (definition : Json) : Query → Query
  | idToken _ => idToken q
  | presentation _ => presentation definition
  | both _ _ => both q definition

/-- A request with another nonce, and with other contents of its query. -/
def Request.reworded (nonce : Bytes) (q : IdTokenQuery) (definition : Json)
    (request : Request) : Request :=
  { request with nonce, query := request.query.reworded q definition }

theorem Answer.ofConsensus?_reworded (q : IdTokenQuery) (definition : Json) (query : Query)
    (c : Consensus) : ofConsensus? (query.reworded q definition) c = ofConsensus? query c := by
  cases query <;> cases c <;> rfl

theorem Query.name_reworded (q : IdTokenQuery) (definition : Json) (query : Query) :
    (query.reworded q definition).name = query.name := by
  cases query <;> rfl

namespace AuthorizationResponse

/-- **Neither the nonce nor the contents of the query show in a response**, or in the failure to
build one. -/
theorem build_reworded (nonce : Bytes) (q : IdTokenQuery) (definition : Json) (request : Request)
    (c : Consensus) : build (request.reworded nonce q definition) c = build request c := by
  have hpayload : Payload.ofConsensus (request.reworded nonce q definition) c =
      Payload.ofConsensus request c := by
    simp only [Payload.ofConsensus, Request.reworded, Answer.ofConsensus?_reworded,
      Query.name_reworded]
  rw [build_eq, build_eq, hpayload]
  rfl

/-- **Exactly the decisions that fit are answered, and word for word.** A response is built if the
decision fits the query and a protection, where one is asked for, is named; otherwise the parts do
not fit each other. The response is in the mode of the request, with its URI. It says what the
decision says, to the client of the request and with its state, and has the protection of the
request if its mode asks for one. Nothing else that the request says has any influence. -/
theorem build_word_for_word (request : Request) (c : Consensus) :
    ((∃ r, build request c = .ok r) ↔ request.query.IsAnsweredBy c ∧ request.IsEquipped) ∧
    (build request c = .error (.mismatch c.name request.query.name) ↔
      ¬ request.query.IsAnsweredBy c) ∧
    (build request c = .error (.unprotected request.mode.name) ↔
      request.query.IsAnsweredBy c ∧ ¬ request.IsEquipped) ∧
    (∀ r, build request c = .ok r ↔ (request.query.IsAnsweredBy c ∧ request.IsEquipped) ∧
      r.mode = request.mode ∧ r.payload = ⟨c.answer, request.state, request.clientId⟩ ∧
      r.jarm = if request.mode.isProtected then request.jarm else none) ∧
    ∀ nonce q definition, build (request.reworded nonce q definition) c = build request c := by
  refine ⟨?_, ?_, ?_, fun r => ?_, fun nonce q definition =>
    build_reworded nonce q definition request c⟩
  · constructor
    · rintro ⟨r, h⟩
      exact (build_eq_ok.mp h).1
    · exact fun h => ⟨_, build_eq_ok.mpr ⟨h, rfl⟩⟩
  · simp [build_eq_error]
  · simp [build_eq_error]
  · rw [build_eq_ok]
    exact and_congr_right fun h => eq_response_iff h.2

end AuthorizationResponse
end WalletResponder
