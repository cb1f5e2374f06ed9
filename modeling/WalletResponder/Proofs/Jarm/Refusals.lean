import WalletResponder.Proofs.Jarm.Negotiation
import WalletResponder.Proofs.Response.Building
import WalletResponder.Service.Handler

/-!
# Where protections are refused

A request is refused for its protection while it is read, or not at all. Four places look at a
protection: the negotiation, the second look at it, the token and the encryption of a content key.
What the first one lets through, the others accept: none of the failures that they have for it
(`Failure.IsJarm`) comes of a request that was read (`jarm_failures_only_while_reading`).
-/

namespace WalletResponder

namespace Failure

/-- A failure that is about the protection of a response. -/
def IsJarm : Failure → Prop
  | refused _ | protection _ | noUsableKey _ => True
  | jose (.wrongRecipient _ _) => True
  | contract (.unprotected _) => True
  | _ => False

/-- A failure that reading a request may end with. -/
def IsOfReading : Failure → Prop
  | input _ | json _ | jose _ | refused _ => True
  | _ => False

end Failure

/-- Never a failure that is about protection. -/
abbrev NoJarm {α : Type} : Except Failure α → Prop := FailsIn fun f => ¬ f.IsJarm

variable {α : Type}

theorem noJarm_ofJson (x : Except Json.Fault α) : NoJarm (ofJson x) :=
  failsIn_ofJson (fun _ => not_false) x

theorem noJarm_ofCrypto (x : Except CryptoFault α) : NoJarm (ofCrypto x) :=
  failsIn_ofCrypto (fun _ => not_false) x

/-! ### Reading -/

/-- Only failures that reading may end with. -/
abbrev Reading : Except Failure α → Prop := FailsIn Failure.IsOfReading

theorem reading_ofJson (x : Except Json.Fault α) : Reading (ofJson x) :=
  failsIn_ofJson (fun _ => trivial) x

theorem reading_requiredText (j : Json) (name : String) : Reading (requiredText j name) := by
  unfold requiredText
  split
  · exact failsIn_ok _
  · exact failsIn_error trivial

theorem reading_optionalText (j : Json) (name : String) : Reading (optionalText j name) := by
  unfold optionalText
  split
  · exact failsIn_ok _
  · exact failsIn_ok _
  · exact (reading_ofJson _).map _

theorem reading_mode (j : Json) : Reading (ResponseMode.ofJson j) := by
  refine (reading_requiredText j _).bind fun name _ => ?_
  split
  · exact failsIn_throw trivial
  · exact (reading_requiredText j _).bind fun uri _ => failsIn_pure _

theorem reading_text? (j : Json) (name : String) : Reading (ClientMetadata.text? j name) := by
  unfold ClientMetadata.text?
  split
  · exact failsIn_ok _
  · exact failsIn_ok _
  · exact failsIn_ok _
  · exact failsIn_error trivial

theorem reading_keys? (j : Json) : Reading (ClientMetadata.keys? j) := by
  unfold ClientMetadata.keys?
  split
  · exact failsIn_ok _
  · exact failsIn_ok _
  · exact (failsIn_ofJose (fun _ => trivial) _).map _

theorem reading_metadata (j : Json) : Reading (readMetadata j) := by
  unfold readMetadata
  split
  · exact failsIn_ok _
  · exact failsIn_ok _
  · unfold ClientMetadata.ofJson
    split
    · refine (reading_keys? _).bind fun _ _ => ?_
      refine (reading_text? _ _).bind fun _ _ => ?_
      refine (reading_text? _ _).bind fun _ _ => ?_
      exact (reading_text? _ _).bind fun _ _ => failsIn_pure _
    · exact failsIn_throw trivial

theorem reading_agree (m : ClientMetadata) (mode : ResponseMode) (wallet : JarmConfig) :
    Reading (agree m mode wallet) := by
  unfold agree
  split
  · exact failsIn_ok _
  · exact failsIn_error trivial

theorem reading_definition (j : Json) : Reading (readDefinition j) := by
  unfold readDefinition
  split
  · exact failsIn_ok _
  · exact failsIn_error trivial

theorem reading_idTokenQuery (j : Json) : Reading (readIdTokenQuery j) :=
  (reading_ofJson _).bind fun _ _ => (reading_optionalText j _).bind fun _ _ => failsIn_pure _

theorem reading_query (kind : QueryKind) (j : Json) : Reading (kind.read j) := by
  cases kind with
  | idToken => exact (reading_idTokenQuery j).map _
  | presentation => exact (reading_definition j).map _
  | both =>
    exact (reading_idTokenQuery j).bind fun _ _ =>
      (reading_definition j).bind fun _ _ => failsIn_pure _

/-- **Reading a request fails in four ways**: the request is wrong, or its JSON, or its keys, or its
protection is refused. -/
theorem reading_request (j : Json) (wallet : JarmConfig) : Reading (Request.ofJson j wallet) := by
  unfold Request.ofJson
  split
  · refine (reading_requiredText j _).bind fun type _ => ?_
    split
    · refine (reading_requiredText j _).bind fun _ _ => ?_
      refine (reading_optionalText j _).bind fun _ _ => ?_
      refine (reading_requiredText j _).bind fun _ _ => ?_
      refine (reading_mode j).bind fun _ _ => ?_
      refine (reading_metadata j).bind fun _ _ => ?_
      refine (reading_agree _ _ _).bind fun _ _ => ?_
      exact (reading_query _ j).bind fun _ _ => failsIn_pure _
    · exact failsIn_throw trivial
  · exact failsIn_throw trivial

/-! ### The token of an accepted protection -/

theorem noJarm_ofKey (key : Key) (keyId : Option Bytes) : NoJarm (Jwk.ofKey key keyId) := by
  refine FailsIn.map ?_ _
  cases key with
  | rsa k => exact failsIn_ok _
  | ec k =>
    rw [Jwk.describe]
    split
    · exact failsIn_error not_false
    · split
      · exact failsIn_error not_false
      · exact failsIn_ok _
  | ed25519 k => exact failsIn_ok _
  | ladder k => exact failsIn_error not_false
  | residue k => exact failsIn_error not_false
  | other k => exact failsIn_error not_false

theorem noJarm_sendByAgreement (alg : JweAlgorithm) (enc : ContentEncryption)
    (recipient : CurveKey) (header : Json) (e : Entropy) :
    NoJarm (Jwe.sendByAgreement alg enc recipient header e) := by
  refine (noJarm_ofCrypto _).bind fun _ _ => ?_
  refine (noJarm_ofCrypto _).bind fun _ _ => ?_
  refine (noJarm_ofKey _ _).bind fun _ _ => ?_
  refine (noJarm_ofJson _).bind fun _ _ => ?_
  refine (noJarm_ofCrypto _).bind fun _ _ => ?_
  split
  · exact failsIn_pure _
  · exact (noJarm_ofCrypto _).bind fun _ _ => failsIn_pure _

theorem noJarm_send {alg : JweAlgorithm} {enc : ContentEncryption} {recipient : Jwk} {key : Key}
    {header : Json} {e : Entropy} (h : key.family? = some alg.family) :
    NoJarm (Jwe.send alg enc recipient key header e) := by
  cases key with
  | rsa k =>
    simp only [Jwe.send, ← Option.some.inj h]
    exact (noJarm_ofCrypto _).bind fun _ _ => failsIn_pure _
  | ec k =>
    simp only [Jwe.send, ← Option.some.inj h]
    exact noJarm_sendByAgreement _ _ _ _ _
  | ed25519 k => cases h
  | ladder k => cases h
  | residue k => cases h
  | other k => cases h

theorem noJarm_encrypt {alg : JweAlgorithm} {enc : ContentEncryption} {recipient : Jwk} {key : Key}
    {text : Bytes} {extra : Json} {e : Entropy} (hkey : recipient.publicKey = .ok key)
    (hfamily : key.family? = some alg.family) :
    NoJarm (Jwe.encrypt alg enc recipient text extra e) := by
  have hfits : Jwe.fits alg key = true := by rw [Jwe.fits, hfamily]; exact beq_self_eq_true _
  unfold Jwe.encrypt
  rw [hkey, show ofJose (.ok key) = .ok key from rfl]
  refine FailsIn.bind (failsIn_ok key) fun a ha => ?_
  cases ha
  rw [if_pos hfits]
  refine (noJarm_ofJson _).bind fun _ _ => ?_
  refine (noJarm_send hfamily).bind fun _ _ => ?_
  refine (noJarm_ofJson _).bind fun _ _ => ?_
  exact (noJarm_ofCrypto _).bind fun _ _ => failsIn_pure _

variable {config : WalletConfig}

theorem noJarm_signing {s : JarmSigning} (h : s.refusal? config.jarm = none) (claims : JarmClaims)
    (e : Entropy) : NoJarm (s.token config.jarm claims e) := by
  obtain ⟨hsigns, signer, hsigner, hsup⟩ := JarmSigning.refusal?_eq_none.mp h
  have hsome : config.jarm.signing.isNone = false := by
    cases hc : config.jarm.signing with
    | none => rw [JarmConfig.signs, hc] at hsigns; cases hsigns
    | some c => rfl
  simp only [JarmSigning.token, hsome, hsigns, hsigner, hsup]
  refine (noJarm_ofJson _).bind fun text _ => ?_
  refine (noJarm_ofJson _).bind fun _ _ => ?_
  refine (noJarm_ofJson _).bind fun _ _ => ?_
  exact (noJarm_ofCrypto _).bind fun _ _ => failsIn_pure _

theorem noJarm_encryption {r : JarmEncryption} (h : r.refusal? config.jarm = none) (text : Bytes)
    (header : Json) (e : Entropy) : NoJarm (r.token config.jarm text header e) := by
  obtain ⟨hencrypts, husable⟩ := JarmEncryption.refusal?_eq_none.mp h
  have hsome : config.jarm.encryption.isNone = false := by
    cases hc : config.jarm.encryption with
    | none => rw [JarmConfig.encrypts, hc] at hencrypts; cases hencrypts
    | some c => rfl
  obtain ⟨k, hk⟩ := JwkSet.select_of_usable husable
  obtain ⟨-, key, hkey, hfamily⟩ := JwkSet.select_ok hk
  simp only [JarmEncryption.token, hsome, hencrypts, hk]
  exact noJarm_encrypt hkey hfamily

/-- The token of an accepted protection is not refused. -/
theorem noJarm_token {r : JarmRequirement} (h : r.validate config.jarm = .ok ()) (now : Int)
    (p : Payload) (e : Entropy) : NoJarm (r.token config now p e) := by
  have h := JarmRequirement.validate_eq_ok.mp h
  cases r with
  | signed s => exact noJarm_signing h _ e
  | encrypted r =>
    exact (noJarm_ofJson _).bind fun text _ => noJarm_encryption h _ _ _
  | signedAndEncrypted s r =>
    obtain ⟨hs, hr⟩ := JarmRequirement.refusal?_signedAndEncrypted.mp h
    simp only [JarmRequirement.token, (JarmEncryption.refusal?_eq_none.mp hr).1]
    exact (noJarm_signing hs _ _).bind fun _ _ => noJarm_encryption hr _ _ _

/-! ### Serving a request that was read -/

variable (w : Wallet) {request : Request} {c : Consensus} {r : AuthorizationResponse}

/-- A response has the parts that its request and the decision give it. -/
structure AuthorizationResponse.IsBuilt (r : AuthorizationResponse) (request : Request)
    (c : Consensus) : Prop where
  answer : Answer.ofConsensus? request.query c = some r.payload.answer
  state : r.payload.state = request.state
  clientId : r.payload.clientId = request.clientId
  mode : r.mode = request.mode
  jarm : ∀ jarm, r.jarm = some jarm → request.jarm = some jarm

theorem isBuilt_of_build (h : AuthorizationResponse.build request c = .ok r) :
    r.IsBuilt request c := by
  obtain ⟨⟨hc, hequipped⟩, rfl⟩ := AuthorizationResponse.build_eq_ok.mp h
  refine ⟨Answer.ofConsensus?_eq_some.mpr ⟨hc, rfl⟩, rfl, rfl, Request.mode_response hequipped c,
    fun jarm hjarm => ?_⟩
  rw [Request.response] at hjarm
  split at hjarm
  · exact hjarm
  · cases hjarm

/-- A response that was built has the protection of its request, if it has one. -/
theorem jarm_of_build (h : AuthorizationResponse.build request c = .ok r)
    {jarm : JarmRequirement} (hjarm : r.jarm = some jarm) : request.jarm = some jarm :=
  (isBuilt_of_build h).jarm jarm hjarm

theorem build_ne_unprotected (h : request.jarm.isSome = request.mode.isProtected) (mode : Bytes) :
    AuthorizationResponse.build request c ≠ .error (.unprotected mode) := by
  intro hbuild
  rcases AuthorizationResponse.build_eq_error.mp hbuild with ⟨-, hfault⟩ | ⟨⟨-, hequipped⟩, -⟩
  · cases hfault
  · exact hequipped fun hmode => h.trans hmode

theorem noJarm_wireParameters (h : ∀ jarm ∈ r.jarm, jarm.validate w.config.jarm = .ok ())
    (e : Entropy) : NoJarm (w.wireParameters r e) := by
  unfold Wallet.wireParameters
  split
  · exact noJarm_ofJson _
  · next jarm hjarm =>
    have hv := h jarm (by rw [hjarm]; exact rfl)
    rw [hv]
    exact (failsIn_ok ()).bind fun _ _ =>
      (noJarm_token hv _ _ _).bind fun _ _ => failsIn_pure _

/-- Whoever carries forms fails in this way: no client is had, or one fails. -/
def Wallet.CarrierFails (f : Failure) : Prop :=
  w.http = .error f ∨ ∃ client url params, w.http = .ok (some client) ∧ client url params = .error f

theorem failsIn_post (url : Bytes) (params : FormParameters) :
    FailsIn w.CarrierFails (w.post url params).result := by
  intro f h
  unfold Wallet.post at h
  split at h
  · cases h
  · next f' hf => cases h; exact Or.inl hf
  · cases h
  · next client hclient =>
    split at h
    · cases h
    · next f' hf => cases h; exact Or.inr ⟨client, url, params, hclient, hf⟩
    · cases h

/-- A failure for the protection is one of whoever carries the form. -/
abbrev Wallet.JarmByCarrier {α : Type} : Except Failure α → Prop :=
  FailsIn fun f => f.IsJarm → w.CarrierFails f

theorem NoJarm.byCarrier {x : Except Failure α} (h : NoJarm x) : w.JarmByCarrier x :=
  FailsIn.mono h fun _ hf hjarm => absurd hjarm hf

theorem jarmByCarrier_deliver {e : Entropy} (h : NoJarm (w.wireParameters r e)) :
    w.JarmByCarrier (w.deliver r e).result := by
  rw [Wallet.deliver, Traced.result_bind]
  refine (h.byCarrier w).bind fun params _ => ?_
  have hpost : w.JarmByCarrier (w.post r.uri params).result :=
    (failsIn_post w r.uri params).mono fun _ hf _ => hf
  rw [Traced.result_bind]
  refine hpost.bind fun answer _ => ?_
  cases answer <;> exact failsIn_ok _

theorem result_ofParts_eq_ok {x : Except ContractFault AuthorizationResponse} :
    (Wallet.ofParts x).result = .ok r ↔ x = .ok r := by
  cases x <;> simp [Wallet.ofParts]

section Read

variable {w} (hsome : request.jarm.isSome = request.mode.isProtected)
  (hvalid : ∀ jarm ∈ request.jarm, jarm.validate w.config.jarm = .ok ()) (e : Entropy)

include hsome in
theorem noJarm_ofParts :
    NoJarm (Wallet.ofParts (AuthorizationResponse.build request c)).result := by
  intro f h
  cases hbuild : AuthorizationResponse.build request c with
  | ok r => rw [hbuild] at h; cases h
  | error fault =>
    rw [hbuild] at h
    cases h
    cases fault with
    | unprotected mode => exact absurd hbuild (build_ne_unprotected hsome mode)
    | mismatch _ _ => exact not_false
    | notPosted _ => exact not_false
    | notRedirected _ => exact not_false

include hvalid

theorem validate_of_build (h : AuthorizationResponse.build request c = .ok r) :
    ∀ jarm ∈ r.jarm, jarm.validate w.config.jarm = .ok () :=
  fun jarm hjarm => hvalid jarm (jarm_of_build h hjarm)

theorem noJarm_wireParameters_of_parts
    (h : (Wallet.ofParts (AuthorizationResponse.build request c)).result = .ok r) :
    NoJarm (w.wireParameters r e) :=
  noJarm_wireParameters w (validate_of_build hvalid (result_ofParts_eq_ok.mp h)) e

include hsome

theorem noJarm_perform_build : NoJarm (w.perform .build request c e).result := by
  rw [Wallet.perform, Traced.result_bind]
  refine (noJarm_ofParts hsome).bind fun r hr => ?_
  rw [Traced.result_bind]
  exact (noJarm_wireParameters_of_parts hvalid e hr).bind fun _ _ => failsIn_ok _

theorem noJarm_perform_redirect : NoJarm (w.perform .redirect request c e).result := by
  rw [Wallet.perform, Traced.result_bind, Wallet.redirectResponse, Traced.result_bind]
  refine ((noJarm_ofParts hsome).bind fun r hr => ?_).bind fun _ _ => failsIn_ok _
  unfold Wallet.redirect
  split
  · exact failsIn_error not_false
  · rw [Traced.result_bind]
    exact (noJarm_wireParameters_of_parts hvalid e hr).bind fun _ _ => failsIn_ok _

theorem jarmByCarrier_perform_post : w.JarmByCarrier (w.perform .post request c e).result := by
  rw [Wallet.perform, Traced.result_bind, Wallet.postResponse, Traced.result_bind]
  refine (((noJarm_ofParts hsome).byCarrier w).bind fun r hr => ?_).bind fun answer _ => ?_
  · split
    · exact jarmByCarrier_deliver w (noJarm_wireParameters_of_parts hvalid e hr)
    · exact failsIn_error fun hf => hf.elim
  · cases answer <;> exact failsIn_ok _

end Read

/-- **Only reading a request fails for its protection.** Reading fails in four ways; a request that
is read carries a protection exactly when its mode asks for one, and the second look accepts it.
Whatever the holder decides and whatever is asked for, the response, its parameters and its token
then do not fail for the protection, and neither does the whole, unless whoever carries the form
comes up with such a failure. -/
theorem jarm_failures_only_while_reading (j : Json) :
    (∀ f, Request.ofJson j w.config.jarm = .error f → f.IsOfReading) ∧
    ∀ request, Request.ofJson j w.config.jarm = .ok request →
      (request.jarm.isSome = request.mode.isProtected ∧
        ∀ jarm ∈ request.jarm, jarm.validate w.config.jarm = .ok ()) ∧
      ∀ (c : Consensus) (e : Entropy),
        (∀ mode, AuthorizationResponse.build request c ≠ .error (.unprotected mode)) ∧
        (∀ r, AuthorizationResponse.build request c = .ok r →
          (∀ f, w.wireParameters r e = .error f → ¬ f.IsJarm) ∧
          ∀ jarm ∈ r.jarm, ∀ f, jarm.token w.config w.now r.payload e = .error f → ¬ f.IsJarm) ∧
        ∀ kind f, (w.perform kind request c e).result = .error f → f.IsJarm →
          kind = .post ∧ w.CarrierFails f := by
  refine ⟨reading_request j _, fun request hrequest => ?_⟩
  obtain ⟨hsome, hvalid⟩ := Request.ofJson_ok hrequest
  refine ⟨⟨hsome, hvalid⟩, fun c e => ⟨build_ne_unprotected hsome, fun r hr => ?_, ?_⟩⟩
  · have hvalid := validate_of_build hvalid hr
    exact ⟨noJarm_wireParameters w hvalid e,
      fun jarm hjarm => noJarm_token (hvalid jarm hjarm) _ _ _⟩
  · intro kind f h hf
    cases kind with
    | build => exact absurd hf (noJarm_perform_build hsome hvalid e f h)
    | redirect => exact absurd hf (noJarm_perform_redirect hsome hvalid e f h)
    | post => exact ⟨rfl, jarmByCarrier_perform_post hsome hvalid e f h hf⟩

/-- A wallet that encrypts, and offers no signatures. -/
def encryptingWallet : Wallet where
  config :=
    { WalletConfig.standard with jarm := ⟨none, some ⟨[.rsaOaep], [.a128cbcHs256]⟩⟩ }
  http := .ok none
  now := 0

/-- A request for an encrypted response. -/
def encryptedRequest : Json :=
  .obj [(utf8 "client_id", .text "verifier"),
    (utf8 "client_metadata", .obj
      [(utf8 "authorization_encrypted_response_alg", .text "RSA-OAEP"),
        (utf8 "jwks", .obj [(utf8 "keys", .arr [.obj
          [(utf8 "e", .text "AQAB"), (utf8 "kty", .text "RSA"), (utf8 "n", .text "AQAB")]])])]),
    (utf8 "nonce", .text "n"), (utf8 "redirect_uri", .text "https://verifier"),
    (utf8 "response_mode", .text "query.jwt"), (utf8 "type", .text "siop")]

theorem encryptedRequest_builds :
    ∃ request, Request.ofJson encryptedRequest encryptingWallet.config.jarm = .ok request ∧
      request.jarm.isSome = true ∧
      ∀ f, (encryptingWallet.perform .build request .negative fun _ => 0).result = .error f →
        ¬ f.IsJarm := by
  obtain ⟨request, hread, hsome⟩ := map_eq_ok.mp (show
    (Request.ofJson encryptedRequest encryptingWallet.config.jarm).map (fun r => r.jarm.isSome) =
      .ok true from rfl)
  refine ⟨request, hread, hsome, fun f h hf => ?_⟩
  have hlater :=
    (jarm_failures_only_while_reading encryptingWallet encryptedRequest).2 request hread
  have hkind := (hlater.2 .negative fun _ => 0).2.2 .build f h hf
  cases hkind.1

end WalletResponder
