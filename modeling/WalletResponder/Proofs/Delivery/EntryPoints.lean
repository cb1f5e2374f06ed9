import WalletResponder.Delivery.Dispatch

/-!
# The ways into a delivery

A response is delivered by its channel (`Wallet.dispatch`). Who has a request and a decision may
also ask for it to be posted (`Wallet.postResponse`) or to be written into a redirect
(`Wallet.redirectResponse`). The ways in agree (`Wallet.entry_points_agree`): each of the two does
all that the delivery does if the channel is its own, and else nothing but refuse.

**Refusing makes no parameters.** What a wallet does depends on the parameters that it puts on the
wire, and there may be a token among them. `Wallet.postBy` and `Wallet.redirectBy` take whatever
makes them as an argument, which may leave effects of its own: when the channel is the wrong one,
none of these is left.
-/

namespace WalletResponder

/-- Something that makes the parameters of a response, and may be seen doing so. -/
abbrev ParameterMaker := AuthorizationResponse → Traced FormParameters

namespace Wallet

variable (w : Wallet) (make : ParameterMaker)

/-- What makes the parameters in a wallet. -/
def parameterMaker (e : Entropy) : ParameterMaker := fun r => Traced.ofResult (w.wireParameters r e)

/-- Posts a response with parameters to its URI. -/
def send (r : AuthorizationResponse) (params : FormParameters) : Traced VerifierResponse := do
  match ← w.post r.uri params with
  | .error text =>
    Traced.leave (.recorded (.failed r (text.upTo 0)))
    pure .rejected
  | .ok reply =>
    let outcome := reply.interpret
    Traced.leave (.recorded (.replied r reply.status outcome))
    pure outcome

/-- Writes parameters into a redirect. -/
def writeRedirect (r : AuthorizationResponse) (params : FormParameters) : Traced Bytes := do
  Traced.leave (.recorded (.redirected r))
  pure ((redirectWith? r params).getD r.uri)

/-- Posts the response to a request with the parameters that are made for it. -/
def postBy (request : Request) (c : Consensus) : Traced VerifierResponse := do
  let r ← ofParts (AuthorizationResponse.build request c)
  if r.channel = .directPost then make r >>= w.send r
  else Traced.fail (.contract (.notPosted r.mode.name))

/-- Writes the response to a request into a redirect, with the parameters that are made for it. -/
def redirectBy (request : Request) (c : Consensus) : Traced Bytes := do
  let r ← ofParts (AuthorizationResponse.build request c)
  if r.channel = .directPost then Traced.fail (.contract (.notRedirected r.mode.name))
  else make r >>= writeRedirect r

variable {w make} {request : Request} {c : Consensus} {r : AuthorizationResponse} {e : Entropy}
  {fault : ContractFault}

theorem postResponse_eq_postBy :
    w.postResponse request c e = w.postBy (w.parameterMaker e) request c := rfl

theorem redirectResponse_eq_redirectBy :
    w.redirectResponse request c e = redirectBy (w.parameterMaker e) request c := rfl

theorem dispatch_of_directPost (h : r.channel = .directPost) :
    w.dispatch r e = .answered <$> (w.parameterMaker e r >>= w.send r) := by
  rw [dispatch, if_pos h]
  rfl

theorem dispatch_of_redirect (h : r.channel ≠ .directPost) :
    w.dispatch r e = .redirect <$> (w.parameterMaker e r >>= writeRedirect r) := by
  rw [dispatch, if_neg h, redirect, if_neg h]
  rfl

/-! ### Each way in -/

theorem postBy_of_fault (h : AuthorizationResponse.build request c = .error fault) :
    w.postBy make request c = Traced.fail (.contract fault) := by
  rw [postBy, h]
  rfl

theorem redirectBy_of_fault (h : AuthorizationResponse.build request c = .error fault) :
    redirectBy make request c = Traced.fail (.contract fault) := by
  rw [redirectBy, h]
  rfl

theorem postBy_of_build (h : AuthorizationResponse.build request c = .ok r) :
    w.postBy make request c = if r.channel = .directPost then make r >>= w.send r
      else Traced.fail (.contract (.notPosted r.mode.name)) := by
  rw [postBy, h]
  rfl

theorem redirectBy_of_build (h : AuthorizationResponse.build request c = .ok r) :
    redirectBy make request c =
      if r.channel = .directPost then Traced.fail (.contract (.notRedirected r.mode.name))
      else make r >>= writeRedirect r := by
  rw [redirectBy, h]
  rfl

/-- **The ways into a delivery agree.** Where no response can be built, both fail with what is
wrong, and leave nothing behind. Otherwise one of them is the delivery, with its outcome or failure
and with all that it leaves behind; and the other one is refused, whatever would have made the
parameters, and leaves nothing behind. -/
theorem entry_points_agree (w : Wallet) (request : Request) (c : Consensus) (e : Entropy) :
    w.postResponse request c e = w.postBy (w.parameterMaker e) request c ∧
    w.redirectResponse request c e = redirectBy (w.parameterMaker e) request c ∧
    match AuthorizationResponse.build request c with
    | .error fault =>
      w.postResponse request c e = Traced.fail (.contract fault) ∧
      w.redirectResponse request c e = Traced.fail (.contract fault)
    | .ok r =>
      if r.channel = .directPost then
        w.dispatch r e = .answered <$> w.postResponse request c e ∧
        ∀ make, redirectBy make request c = Traced.fail (.contract (.notRedirected r.mode.name))
      else
        w.dispatch r e = .redirect <$> w.redirectResponse request c e ∧
        ∀ make, w.postBy make request c = Traced.fail (.contract (.notPosted r.mode.name)) := by
  refine ⟨rfl, rfl, ?_⟩
  rw [postResponse_eq_postBy, redirectResponse_eq_redirectBy]
  cases hbuild : AuthorizationResponse.build request c with
  | error fault => exact ⟨postBy_of_fault hbuild, redirectBy_of_fault hbuild⟩
  | ok r =>
    dsimp only
    by_cases hchannel : r.channel = .directPost
    · rw [if_pos hchannel]
      refine ⟨?_, fun make => ?_⟩
      · rw [postBy_of_build hbuild, if_pos hchannel, dispatch_of_directPost hchannel]
      · rw [redirectBy_of_build hbuild, if_pos hchannel]
    · rw [if_neg hchannel]
      refine ⟨?_, fun make => ?_⟩
      · rw [redirectBy_of_build hbuild, if_neg hchannel, dispatch_of_redirect hchannel]
      · rw [postBy_of_build hbuild, if_neg hchannel]

end Wallet
end WalletResponder
