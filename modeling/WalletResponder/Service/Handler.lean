import WalletResponder.Delivery.Dispatch
import WalletResponder.Service.Message
import WalletResponder.Service.Reply

/-!
# Handling messages

A message names what to do and carries a request and a decision. Handling it records an event first,
which tells nothing of the decision, then reads the request, then the decision, and does what is
asked for.

A line is a message as text. Whatever is in it, a reply comes of it (`Wallet.handleLine`): what is
no message, and what fails, is denied with the reason.
-/

namespace WalletResponder

/-- A member of an object, or null. -/
def Json.orNull (j : Json) (name : String) : Json := (j.find? (utf8 name)).getD .null

namespace AuditEvent

/-- What a message is about: its kind, and the type and the client of its request. -/
def summary (kind : Bytes) (request : Json) : AuditEvent :=
  ⟨utf8 "request",
    if request.isObject then
      .obj [(utf8 "client_id", request.orNull "client_id"), (utf8 "kind", .str kind),
        (utf8 "type", request.orNull "type")]
    else .obj [(utf8 "kind", .str kind)]⟩

end AuditEvent

namespace Wallet

/-- Does what a kind of message asks for. -/
def perform (w : Wallet) (kind : MessageKind) (request : Request) (c : Consensus) (e : Entropy) :
    Traced Reply :=
  match kind with
  | .build => do
    let r ← ofParts (AuthorizationResponse.build request c)
    let params ← Traced.ofResult (w.wireParameters r e)
    pure (.built request.mode.name request.mode.uri params)
  | .post => do
    match ← w.postResponse request c e with
    | .accepted uri => pure (.accepted uri)
    | .rejected => pure .rejected
  | .redirect => do
    let uri ← w.redirectResponse request c e
    pure (.redirect uri)

/-- Serves a request and a decision. -/
def serve (w : Wallet) (kind : MessageKind) (request consensus : Json) (e : Entropy) :
    Traced Reply :=
  match Request.ofJson request w.config.jarm with
  | .error (.refused refusal) => pure (.refused kind refusal.error)
  | .error f => Traced.fail f
  | .ok request => do
    let c ← Traced.ofResult (Consensus.ofJson consensus)
    w.perform kind request c e

/-- Handles a message. -/
def handle (w : Wallet) (message : Json) (e : Entropy) : Traced Reply := do
  let name ← Traced.ofResult (ofJson (message.memberOr (utf8 "kind") Json.asText []))
  let request := message.orNull "request"
  Traced.leave (.recorded (.summary name request))
  match MessageKind.ofName? name with
  | none => pure (.denied (utf8 "unknown_kind"))
  | some kind => w.serve kind request (message.orNull "consensus") e

/-- The longest line that is served. -/
def maxLineBytes : Nat := 65536

/-- The reply that a computation ends with. -/
def replyOf (t : Traced Reply) : Reply :=
  match t.result with
  | .ok reply => reply
  | .error f => .denied f.report

/-- Handles a line: what is done, and the line of the reply. -/
def handleLine (w : Wallet) (line : Bytes) (e : Entropy) : List Effect × Bytes :=
  if line.length > maxLineBytes then ([], (Reply.denied (utf8 "line_too_long")).line)
  else
    match Json.parse w.wording line with
    | .error fault => ([], (Reply.denied (Failure.json fault).report).line)
    | .ok message =>
      let t := w.handle message e
      (t.effects, (replyOf t).line)

end Wallet
end WalletResponder
