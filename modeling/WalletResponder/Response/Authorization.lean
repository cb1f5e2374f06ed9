import WalletResponder.Response.Payload

/-!
# Authorization responses

A response is a payload on its way: the channel, the URI and the protection, if there is one.
Whether a mode asks for protection and whether a response has it is the same thing, so the mode of a
response is read off its parts.
-/

namespace WalletResponder

/-- A payload on its way. -/
structure AuthorizationResponse where
  channel : Channel
  uri : Bytes
  payload : Payload
  jarm : Option JarmRequirement

namespace AuthorizationResponse

/-- The mode of a response. -/
def mode (r : AuthorizationResponse) : ResponseMode := ⟨r.channel, r.jarm.isSome, r.uri⟩

/-- Whether two responses are the same. -/
def same (a b : AuthorizationResponse) : Bool :=
  a.channel == b.channel && a.uri == b.uri && a.payload == b.payload &&
    JarmRequirement.sameOption a.jarm b.jarm

/-- The response with a payload in a mode. A mode without protection leaves none. -/
def ofMode (mode : ResponseMode) (payload : Payload) (jarm : Option JarmRequirement) :
    Except ContractFault AuthorizationResponse :=
  if mode.isProtected then
    match jarm with
    | some requirement => .ok ⟨mode.channel, mode.uri, payload, some requirement⟩
    | none => .error (.unprotected mode.name)
  else .ok ⟨mode.channel, mode.uri, payload, none⟩

/-- The response to a request by a decision of the holder. -/
def build (r : Request) (c : Consensus) : Except ContractFault AuthorizationResponse :=
  match Payload.ofConsensus r c with
  | .ok payload => ofMode r.mode payload r.jarm
  | .error fault => .error fault

end AuthorizationResponse
end WalletResponder
