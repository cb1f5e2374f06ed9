import WalletResponder.Json.Printer
import WalletResponder.Response.RequestError
import WalletResponder.Url.Form

/-!
# Replies

What the service replies to a message, and its JSON form. Every reply has a status; a denied message
also gets a text that says why.
-/

namespace WalletResponder

/-- What a message asks the service to do. -/
inductive MessageKind where
  /-- To show the response. -/
  | build
  /-- To post the response. -/
  | post
  /-- To write the response into a redirect. -/
  | redirect
  deriving DecidableEq, Repr

namespace MessageKind

/-- The name of a kind. -/
def name : MessageKind → Bytes
  | build => utf8 "BUILD"
  | post => utf8 "POST"
  | redirect => utf8 "REDIRECT"

/-- All kinds. -/
def all : List MessageKind := [build, post, redirect]

/-- The kind with this name. -/
def ofName? (name : Bytes) : Option MessageKind := all.find? fun k => k.name == name

end MessageKind

/-- What the service replies. -/
inductive Reply where
  | built (mode uri : Bytes) (params : FormParameters)
  | accepted (redirectUri : Option Bytes)
  | rejected
  | redirect (uri : Bytes)
  /-- A protection that the wallet does not provide is asked for. -/
  | refused (kind : MessageKind) (error : RequestError)
  | denied (reason : Bytes)

namespace Reply

/-- The parameters as members; of several with one name the last counts. -/
def parametersJson (params : FormParameters) : Json :=
  .object (params.map fun p => (p.1, .str p.2))

/-- The JSON form of a reply. -/
def toJson : Reply → Json
  | built mode uri params =>
    .obj [(utf8 "kind", .str MessageKind.build.name), (utf8 "parameters", parametersJson params),
      (utf8 "response_mode", .str mode), (utf8 "status", .text "OK"), (utf8 "uri", .str uri)]
  | accepted uri =>
    .obj [(utf8 "kind", .str MessageKind.post.name),
      (utf8 "redirect_uri", match uri with | some u => .str u | none => .null),
      (utf8 "status", .text "ACCEPTED")]
  | rejected =>
    .obj [(utf8 "kind", .str MessageKind.post.name), (utf8 "status", .text "REJECTED")]
  | redirect uri =>
    .obj [(utf8 "kind", .str MessageKind.redirect.name), (utf8 "redirect_uri", .str uri),
      (utf8 "status", .text "OK")]
  | refused kind error =>
    .obj [(utf8 "error", .str error.code), (utf8 "error_description", .str error.description),
      (utf8 "kind", .str kind.name), (utf8 "status", .text "DENIED")]
  | denied reason => .obj [(utf8 "error", .str reason), (utf8 "status", .text "DENIED")]

/-- The text of a reply: one line, and always text. -/
def line (r : Reply) : Bytes := r.toJson.dumpRepaired

end Reply
end WalletResponder
