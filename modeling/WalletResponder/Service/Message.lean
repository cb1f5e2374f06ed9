import WalletResponder.Jarm.Negotiation
import WalletResponder.Response.Request

/-!
# Reading requests and decisions

The JSON forms of a verifier's request and of the holder's decision. A request in a mode with
protection also carries the verifier's metadata, and what is read has a protection that the wallet
provides.
-/

namespace WalletResponder

/-- Reads a text that has to be there. -/
def requiredText (j : Json) (name : String) : Except Failure Bytes :=
  match j.find? (utf8 name) with
  | some (.str s) => .ok s
  | _ => .error (.input (.missing (utf8 name)))

/-- Reads a text that may be absent or null. -/
def optionalText (j : Json) (name : String) : Except Failure (Option Bytes) :=
  match j.find? (utf8 name) with
  | none | some .null => .ok none
  | some v => (ofJson v.asText).map some

/-- The name of the member with the URI of a channel. -/
def Channel.uriName : Channel → String
  | directPost => "response_uri"
  | query | fragment => "redirect_uri"

/-- Reads a mode and its URI. -/
def ResponseMode.ofJson (j : Json) : Except Failure ResponseMode := do
  let name ← requiredText j "response_mode"
  match ofName? name with
  | none => throw (.input (.unknownMode name))
  | some (channel, isProtected) =>
    let uri ← requiredText j channel.uriName
    pure ⟨channel, isProtected, uri⟩

/-- Reads the metadata in a request, which may be absent or null. -/
def readMetadata (j : Json) : Except Failure ClientMetadata :=
  match j.find? (utf8 "client_metadata") with
  | none | some .null => .ok .empty
  | some m => ClientMetadata.ofJson m

/-- Agrees on the protection of the response to a request. -/
def agree (m : ClientMetadata) (mode : ResponseMode) (wallet : JarmConfig) :
    Except Failure (Option JarmRequirement) :=
  match m.negotiate mode wallet with
  | .ok jarm => .ok jarm
  | .error refusal => .error (.refused refusal)

/-- Reads the definition of a presentation. -/
def readDefinition (j : Json) : Except Failure Json :=
  match j.find? (utf8 "presentation_definition") with
  | some (.obj members) => .ok (.obj members)
  | _ => .error (.input (.missing (utf8 "presentation_definition")))

/-- Reads what asking for an identity token comes with. -/
def readIdTokenQuery (j : Json) : Except Failure IdTokenQuery := do
  let scope ← WalletResponder.ofJson (j.memberOr (utf8 "scope") Json.asText (utf8 "openid"))
  let idTokenType ← optionalText j "id_token_type"
  pure ⟨scope, idTokenType⟩

/-- The kinds of queries. -/
inductive QueryKind where
  | idToken
  | presentation
  | both
  deriving DecidableEq, Repr

/-- The kind of query that a name stands for. -/
def QueryKind.ofName? (name : Bytes) : Option QueryKind :=
  if name = utf8 "siop" then some idToken
  else if name = utf8 "openid4vp" then some presentation
  else if name = utf8 "siop_openid4vp" then some both
  else none

/-- Reads a query of a kind. -/
def QueryKind.read (kind : QueryKind) (j : Json) : Except Failure Query :=
  match kind with
  | idToken => (readIdTokenQuery j).map .idToken
  | presentation => (readDefinition j).map .presentation
  | both => do
    let q ← readIdTokenQuery j
    let definition ← readDefinition j
    pure (.both q definition)

namespace Request

/-- Reads a request of a kind. -/
def ofKind (kind : QueryKind) (j : Json) (wallet : JarmConfig) : Except Failure Request := do
  let clientId ← requiredText j "client_id"
  let state ← optionalText j "state"
  let nonce ← requiredText j "nonce"
  let mode ← ResponseMode.ofJson j
  let metadata ← readMetadata j
  let jarm ← agree metadata mode wallet
  let query ← kind.read j
  pure ⟨clientId, state, nonce, mode, jarm, query⟩

/-- Reads a request. -/
def ofJson (j : Json) (wallet : JarmConfig) : Except Failure Request := do
  if j.isObject then
    let type ← requiredText j "type"
    match QueryKind.ofName? type with
    | some kind => ofKind kind j wallet
    | none => throw (.input (.unknownRequest type))
  else throw (.input (.missing (utf8 "request")))

end Request

namespace Consensus

/-- Reads the submission of a presentation. -/
def readSubmission (j : Json) : Except Failure PresentationSubmission :=
  WalletResponder.ofJson
    ((j.member (utf8 "presentation_submission")).bind PresentationSubmission.ofJson)

/-- Reads a decision of the kind that a name stands for. -/
def ofKind (type : Bytes) (j : Json) : Except Failure Consensus :=
  if type = utf8 "negative" then .ok negative
  else if type = utf8 "id_token" then (requiredText j "id_token").map idToken
  else if type = utf8 "vp_token" then do
    let token ← requiredText j "vp_token"
    let submission ← readSubmission j
    pure (vpToken token submission)
  else if type = utf8 "id_and_vp_token" then do
    let id ← requiredText j "id_token"
    let vp ← requiredText j "vp_token"
    let submission ← readSubmission j
    pure (idAndVpToken id vp submission)
  else .error (.input (.unknownConsensus type))

/-- Reads a decision. -/
def ofJson (j : Json) : Except Failure Consensus := do
  if j.isObject then
    let type ← requiredText j "type"
    ofKind type j
  else throw (.input (.missing (utf8 "consensus")))

end Consensus
end WalletResponder
