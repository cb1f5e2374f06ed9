import WalletResponder.Failure
import WalletResponder.Json.Parser
import WalletResponder.Url.Form
import WalletResponder.Url.Locator

/-!
# Talking to verifiers

A response is posted as a form by a client that is made for it. The verifier's reply is a status and
a body: the status 200 accepts the response, and the body may then name a URI to go on with. A
client may as well fail, or not be had at all.
-/

namespace WalletResponder

/-- The reply of a verifier. -/
structure HttpReply where
  status : Int
  body : Bytes
  deriving DecidableEq, Repr

/-- A client: what comes of posting a form to a URL. -/
abbrev HttpClient := Bytes → FormParameters → Except Failure HttpReply

/-- What comes of asking for a client; there may be none. -/
abbrev HttpFactory := Except Failure (Option HttpClient)

/-- What a verifier makes of a response. -/
inductive VerifierResponse where
  | accepted (redirectUri : Option Bytes)
  | rejected
  deriving DecidableEq, Repr

namespace HttpReply

/-- The URI to go on with that a body names: a text in an object. -/
def redirectUri? (body : Bytes) : Option Bytes :=
  match Json.parse? body with
  | none => none
  | some j => (j.find? (utf8 "redirect_uri")).bind Json.asText?

/-- What a reply says. -/
def interpret (r : HttpReply) : VerifierResponse :=
  if r.status = 200 then .accepted (redirectUri? r.body) else .rejected

end HttpReply

/-- The error for a URL that could not be posted to. -/
def Url.failure (url reason : Bytes) : Failure :=
  .transport (utf8 "POST " ++ url ++ utf8 " failed: " ++ reason)

/-- A client that reaches nobody: it writes the form, refuses what is no URL that it speaks, and
fails for all others. -/
def HttpClient.offline : HttpClient := fun url params =>
  match params.write with
  | .error fault => .error (.foreign fault.message)
  | .ok _ =>
    match Url.refusal? url with
    | some refusal => .error (Url.failure url refusal.message)
    | none => .error (Url.failure url (utf8 "Couldn't connect to server"))

end WalletResponder
