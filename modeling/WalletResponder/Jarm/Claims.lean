import WalletResponder.Json.Parser
import WalletResponder.Response.Payload

/-!
# The claims of a protected response

A protected response is a set of claims: who issues it, when and for whom, the state, and what the
payload says. Absent claims are left out of the JSON form, and reading takes a null for absent.
-/

namespace WalletResponder

/-- The claims of a protected response. -/
structure JarmClaims where
  issuer : Option Bytes
  issuedAt : Int
  audience : Bytes
  state : Option Bytes
  idToken : Option Bytes
  vpToken : Option Bytes
  submission : Option PresentationSubmission
  error : Option Bytes
  errorDescription : Option Bytes
  deriving DecidableEq, Repr

namespace JarmClaims

/-- A claim that may be absent. -/
def optional (name : String) (value : Option Json) : List (Bytes × Json) :=
  match value with
  | some j => [(utf8 name, j)]
  | none => []

/-- The JSON form. -/
def toJson (c : JarmClaims) : Json :=
  .obj ((utf8 "aud", .str c.audience) ::
    (optional "error" (c.error.map .str) ++
      optional "error_description" (c.errorDescription.map .str) ++
      (utf8 "iat", .int c.issuedAt) ::
      (optional "id_token" (c.idToken.map .str) ++
        optional "iss" (c.issuer.map .str) ++
        optional "presentation_submission" (c.submission.map PresentationSubmission.toJson) ++
        optional "state" (c.state.map .str) ++
        optional "vp_token" (c.vpToken.map .str))))

/-- Reads a text that may be absent. -/
def text? (j : Json) (name : String) : Except JoseFault (Option Bytes) :=
  match j.find? (utf8 name) with
  | none | some .null => .ok none
  | some (.str s) => .ok (some s)
  | some _ => .error (.claimNotText (utf8 name))

/-- Reads the time of issue: an integer, in the range of 64 bits with a sign. -/
def readIssuedAt (j : Json) : Except JoseFault Int :=
  match j.find? (utf8 "iat") with
  | some (.int n) => .ok (Json.signed64 n)
  | _ => .error .issuedAt

/-- Reads the presentation submission, which may be absent. -/
def readSubmission (j : Json) : Except JoseFault (Option PresentationSubmission) :=
  match j.find? (utf8 "presentation_submission") with
  | none | some .null => .ok none
  | some s =>
    match PresentationSubmission.ofJson s with
    | .ok submission => .ok (some submission)
    | .error fault => .error (.submission fault)

/-- Reads the claims. -/
def ofJson (j : Json) : Except JoseFault JarmClaims := do
  if j.isObject then
    let issuer ← text? j "iss"
    let issuedAt ← readIssuedAt j
    match ← text? j "aud" with
    | none => throw .audience
    | some audience =>
      let state ← text? j "state"
      let idToken ← text? j "id_token"
      let vpToken ← text? j "vp_token"
      let error ← text? j "error"
      let errorDescription ← text? j "error_description"
      let submission ← readSubmission j
      pure ⟨issuer, issuedAt, audience, state, idToken, vpToken, submission, error,
        errorDescription⟩
  else throw .claimsNotObject

/-- Claims that say who, when and for whom, and nothing else. -/
def bare (issuer : Option Bytes) (issuedAt : Int) (audience : Bytes) (state : Option Bytes) :
    JarmClaims :=
  ⟨issuer, issuedAt, audience, state, none, none, none, none, none⟩

/-- The claims of a payload; `cancelled` is the code for a refusal of the holder. -/
def ofPayload (p : Payload) (issuer : Option Bytes) (issuedAt : Int) (cancelled : Bytes) :
    JarmClaims :=
  let c := bare issuer issuedAt p.clientId p.state
  match p.answer with
  | .idToken token => { c with idToken := some token }
  | .vpToken token submission => { c with vpToken := some token, submission := some submission }
  | .idAndVpToken id vp submission =>
    { c with idToken := some id, vpToken := some vp, submission := some submission }
  | .invalidRequest error =>
    { c with error := some error.code, errorDescription := some error.description }
  | .noConsensus => { c with error := some cancelled }

end JarmClaims
end WalletResponder
