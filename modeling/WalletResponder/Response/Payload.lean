import WalletResponder.Response.Request
import WalletResponder.Response.RequestError

/-!
# What a response says

A payload answers a request with tokens, with an error in the request, or with the holder's refusal.
It goes to the client that asked and carries the state that came with the request.

The payload for a request and a decision (`Payload.ofConsensus`) exists when the holder refuses, or
hands over exactly what is asked for.
-/

namespace WalletResponder

/-- The answer proper. -/
inductive Answer where
  | idToken (token : Bytes)
  | vpToken (token : Bytes) (submission : PresentationSubmission)
  | idAndVpToken (idToken vpToken : Bytes) (submission : PresentationSubmission)
  | invalidRequest (error : RequestError)
  | noConsensus
  deriving DecidableEq, Repr

/-- What a response says. -/
structure Payload where
  answer : Answer
  state : Option Bytes
  clientId : Bytes
  deriving DecidableEq, Repr

namespace Answer

/-- The answer to a query by a decision of the holder, if that fits. -/
def ofConsensus? : Query → Consensus → Option Answer
  | _, .negative => some noConsensus
  | .idToken _, .idToken token => some (idToken token)
  | .presentation _, .vpToken token submission => some (vpToken token submission)
  | .both _ _, .idAndVpToken id vp submission => some (idAndVpToken id vp submission)
  | _, _ => none

end Answer

/-- The payload for a request and a decision. -/
def Payload.ofConsensus (r : Request) (c : Consensus) : Except ContractFault Payload :=
  match Answer.ofConsensus? r.query c with
  | some answer => .ok ⟨answer, r.state, r.clientId⟩
  | none => .error (.mismatch c.name r.query.name)

end WalletResponder
