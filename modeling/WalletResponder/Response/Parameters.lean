import WalletResponder.Response.Payload
import WalletResponder.Url.Form

/-!
# Responses as form parameters

The parameters of an unprotected payload, in the order in which they are sent: what it says, and the
state last and only if there is one. A protected payload is a single token under the name
`response`, and again the state.
-/

namespace WalletResponder

/-- The state as a parameter, if there is one. -/
def stateParameter (state : Option Bytes) : FormParameters :=
  match state with
  | some s => [(utf8 "state", s)]
  | none => []

/-- The parameters of an answer; `cancelled` is the code for a refusal of the holder. -/
def Answer.parameters (cancelled : Bytes) : Answer → Except Json.Fault FormParameters
  | idToken token => .ok [(utf8 "id_token", token)]
  | vpToken token submission => do
    let text ← submission.canonical
    pure [(utf8 "vp_token", token), (utf8 "presentation_submission", text)]
  | idAndVpToken id vp submission => do
    let text ← submission.canonical
    pure [(utf8 "id_token", id), (utf8 "vp_token", vp), (utf8 "presentation_submission", text)]
  | invalidRequest error =>
    .ok [(utf8 "error", error.code), (utf8 "error_description", error.description)]
  | noConsensus => .ok [(utf8 "error", cancelled)]

/-- The parameters of an unprotected payload. -/
def Payload.parameters (cancelled : Bytes) (p : Payload) : Except Json.Fault FormParameters :=
  (p.answer.parameters cancelled).map (· ++ stateParameter p.state)

/-- The parameters of a protected payload. -/
def protectedParameters (token : Bytes) (state : Option Bytes) : FormParameters :=
  (utf8 "response", token) :: stateParameter state

end WalletResponder
