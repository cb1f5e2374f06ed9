import WalletResponder.Delivery.Effect
import WalletResponder.Delivery.Http
import WalletResponder.Jarm.Negotiation
import WalletResponder.Jarm.Token
import WalletResponder.Response.Authorization
import WalletResponder.Response.Parameters
import WalletResponder.Url.Redirect

/-!
# Delivering a response

What goes on the wire is decided first (`Wallet.wireParameters`): a protection is looked at once
more before anything is signed or encrypted. A response is then posted, by a client that is made for
it and used once, or written into a redirect, which is left to others to follow. Each delivery
records one event at its end.
-/

namespace WalletResponder

/-- A wallet at work: its configuration, the network and the time. -/
structure Wallet where
  config : WalletConfig
  http : HttpFactory
  now : Int
  /-- How the reader of JSON words what is wrong with a text. -/
  wording : Bytes → Bytes := Json.complaint

/-- What comes of a delivery. -/
inductive Outcome where
  | redirect (uri : Bytes)
  | answered (r : VerifierResponse)
  deriving DecidableEq, Repr

/-- A text, or null. -/
def Json.ofOption : Option Bytes → Json
  | some s => .str s
  | none => .null

namespace AuditEvent

/-- The members that tell which response an event is about. -/
def about (r : AuthorizationResponse) : List (Bytes × Json) :=
  [(utf8 "client_id", .str r.payload.clientId), (utf8 "response_mode", .str r.mode.name),
    (utf8 "state", .ofOption r.payload.state)]

/-- An event about a response, with more to say. -/
def ofResponse (name : String) (r : AuthorizationResponse) (more : List (Bytes × Json)) :
    AuditEvent :=
  ⟨utf8 name, .object (about r ++ more)⟩

/-- A response was not delivered. -/
def failed (r : AuthorizationResponse) (reason : Bytes) : AuditEvent :=
  ofResponse "response_rejected" r [(utf8 "error", .str reason)]

/-- A verifier replied. -/
def replied (r : AuthorizationResponse) (status : Int) : VerifierResponse → AuditEvent
  | .rejected => ofResponse "response_rejected" r [(utf8 "status", .int status)]
  | .accepted uri =>
    ofResponse "response_posted" r
      [(utf8 "redirect_uri", .ofOption uri), (utf8 "status", .int status)]

/-- A redirect was written. -/
def redirected (r : AuthorizationResponse) : AuditEvent := ofResponse "redirect_encoded" r []

end AuditEvent

namespace Wallet

/-- The parameters that a response puts on the wire. -/
def wireParameters (w : Wallet) (r : AuthorizationResponse) (e : Entropy) :
    Except Failure FormParameters :=
  match r.jarm with
  | none => ofJson (r.payload.parameters w.config.cancelled)
  | some jarm => do
    jarm.validate w.config.jarm
    let token ← jarm.token w.config w.now r.payload e
    pure (protectedParameters token r.payload.state)

/-- Posts a form by a new client: a reply, or the text of the error of the transport. Any other
error is not dealt with here. -/
def post (w : Wallet) (url : Bytes) (params : FormParameters) : Traced (Except Bytes HttpReply) :=
  match w.http with
  | .error (.transport text) => ⟨[.connected], .ok (.error text)⟩
  | .error f => ⟨[.connected], .error f⟩
  | .ok none => ⟨[.connected], .ok (.error (utf8 "HTTP client factory returned no client"))⟩
  | .ok (some client) =>
    match client url params with
    | .error (.transport text) => ⟨[.connected, .posted url params], .ok (.error text)⟩
    | .error f => ⟨[.connected, .posted url params], .error f⟩
    | .ok reply => ⟨[.connected, .posted url params], .ok (.ok reply)⟩

/-- Posts a response to its URI. -/
def deliver (w : Wallet) (r : AuthorizationResponse) (e : Entropy) : Traced VerifierResponse := do
  let params ← Traced.ofResult (w.wireParameters r e)
  match ← w.post r.uri params with
  | .error text =>
    Traced.leave (.recorded (.failed r (text.upTo 0)))
    pure .rejected
  | .ok reply =>
    let outcome := reply.interpret
    Traced.leave (.recorded (.replied r reply.status outcome))
    pure outcome

/-- The URI of a response with parameters put into it, on the channels that have redirects. -/
def redirectWith? (r : AuthorizationResponse) (params : FormParameters) : Option Bytes :=
  match r.channel with
  | .directPost => none
  | .query => some (Redirect.appendQuery r.uri params)
  | .fragment => some (Redirect.replaceFragment r.uri params)

/-- Writes a response into a redirect. -/
def redirect (w : Wallet) (r : AuthorizationResponse) (e : Entropy) : Traced Bytes :=
  if r.channel = .directPost then Traced.fail (.contract (.notRedirected r.mode.name))
  else do
    let params ← Traced.ofResult (w.wireParameters r e)
    Traced.leave (.recorded (.redirected r))
    pure ((redirectWith? r params).getD r.uri)

/-- Delivers a response in the way of its channel. -/
def dispatch (w : Wallet) (r : AuthorizationResponse) (e : Entropy) : Traced Outcome :=
  if r.channel = .directPost then do
    let answer ← w.deliver r e
    pure (.answered answer)
  else do
    let uri ← w.redirect r e
    pure (.redirect uri)

/-- A result of putting the parts of a response together. -/
def ofParts {α : Type} : Except ContractFault α → Traced α
  | .ok a => ⟨[], .ok a⟩
  | .error fault => ⟨[], .error (.contract fault)⟩

/-- Builds the response to a request and posts it; other channels are refused. -/
def postResponse (w : Wallet) (request : Request) (c : Consensus) (e : Entropy) :
    Traced VerifierResponse := do
  let r ← ofParts (AuthorizationResponse.build request c)
  if r.channel = .directPost then w.deliver r e
  else Traced.fail (.contract (.notPosted r.mode.name))

/-- Builds the response to a request and writes it into a redirect. -/
def redirectResponse (w : Wallet) (request : Request) (c : Consensus) (e : Entropy) :
    Traced Bytes := do
  let r ← ofParts (AuthorizationResponse.build request c)
  w.redirect r e

end Wallet
end WalletResponder
