import WalletResponder.Jarm.Requirement
import WalletResponder.Response.Mode
import WalletResponder.Response.Submission

/-!
# Requests and decisions

A request asks for an identity token, for a presentation, or for both. The holder decides: they
refuse, or hand over what is asked for.
-/

namespace WalletResponder

/-- What asking for an identity token comes with. -/
structure IdTokenQuery where
  scope : Bytes
  idTokenType : Option Bytes
  deriving DecidableEq, Repr

/-- What a request asks for. A presentation is asked for by a definition. -/
inductive Query where
  | idToken (q : IdTokenQuery)
  | presentation (definition : Json)
  | both (q : IdTokenQuery) (definition : Json)

namespace Query

/-- The name of a kind of query. -/
def name : Query → Bytes
  | idToken _ => utf8 "siop"
  | presentation _ => utf8 "openid4vp"
  | both _ _ => utf8 "siop_openid4vp"

/-- Whether two queries are the same. -/
def same : Query → Query → Bool
  | idToken a, idToken b => a == b
  | presentation a, presentation b => a.same b
  | both a c, both b d => a == b && c.same d
  | _, _ => false

end Query

/-- A request of a verifier, with the protection that was agreed on. -/
structure Request where
  clientId : Bytes
  state : Option Bytes
  nonce : Bytes
  mode : ResponseMode
  jarm : Option JarmRequirement
  query : Query

/-- Whether two requests are the same. -/
def Request.same (a b : Request) : Bool :=
  a.clientId == b.clientId && a.state == b.state && a.nonce == b.nonce && a.mode == b.mode &&
    JarmRequirement.sameOption a.jarm b.jarm && a.query.same b.query

/-- What the holder decides. -/
inductive Consensus where
  | negative
  | idToken (token : Bytes)
  | vpToken (token : Bytes) (submission : PresentationSubmission)
  | idAndVpToken (idToken vpToken : Bytes) (submission : PresentationSubmission)
  deriving DecidableEq, Repr

/-- The name of a kind of decision. -/
def Consensus.name : Consensus → Bytes
  | negative => utf8 "negative"
  | idToken _ => utf8 "id_token"
  | vpToken _ _ => utf8 "vp_token"
  | idAndVpToken _ _ _ => utf8 "id_and_vp_token"

end WalletResponder
