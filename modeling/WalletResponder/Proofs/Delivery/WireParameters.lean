import WalletResponder.Delivery.Dispatch
import WalletResponder.Proofs.Jarm.Draws

/-!
# What goes on the wire

A protected response puts its token and its state on the wire and nothing else, and the token opens,
in the way that was agreed on, to the claims of the response (`Wallet.wireParameters_opens`).
Whether there is anything to put on the wire is a matter of the response and of the keys
(`Wallet.exists_wireParameters`).
-/

namespace WalletResponder

open Json

variable {w : Wallet} {r : AuthorizationResponse} {jarm : JarmRequirement} {e : Entropy}
  {params : FormParameters}

namespace Wallet

/-- The parameters of a protected response hold its token. -/
theorem wireParameters_protected (hjarm : r.jarm = some jarm) :
    w.wireParameters r e = .ok params ↔ jarm.validate w.config.jarm = .ok () ∧
      ∃ token, jarm.token w.config w.now r.payload e = .ok token ∧
        params = protectedParameters token r.payload.state := by
  rw [wireParameters, hjarm]
  dsimp only
  rw [bind_eq_ok]
  constructor
  · rintro ⟨⟨⟩, hvalid, h⟩
    obtain ⟨token, htoken, h⟩ := bind_eq_ok.mp h
    cases h
    exact ⟨hvalid, token, htoken, rfl⟩
  · rintro ⟨hvalid, token, htoken, rfl⟩
    exact ⟨(), hvalid, bind_eq_ok.mpr ⟨token, htoken, rfl⟩⟩

/-- **A protected response is never downgraded.** If it gets parameters at all, they are its token
and, if there is one, its state; and the token opens in the way of the protection, and in no other,
to a text that reads as the claims of the payload. -/
theorem wireParameters_opens (hjarm : r.jarm = some jarm) (hnow : -2 ^ 63 ≤ w.now ∧ w.now < 2 ^ 63)
    (hsound : ∀ s ∈ jarm.signing?, ∀ signer ∈ s.signer, signer.IsSound)
    (h : w.wireParameters r e = .ok params) :
    ∃ token, params = (utf8 "response", token) ::
        (match r.payload.state with
          | some state => [(utf8 "state", state)]
          | none => []) ∧
      jarm.OpensToClaims token
        (JarmClaims.ofPayload r.payload w.config.issuer w.now w.config.cancelled) := by
  obtain ⟨-, token, htoken, rfl⟩ := (wireParameters_protected hjarm).mp h
  exact ⟨token, rfl, JarmRequirement.token_opensToClaims hsound hnow htoken⟩

/-! ### Parameters -/

/-- The names that an answer puts on the wire, or a token for it. -/
def answerNames : List (List Bytes) :=
  [[utf8 "id_token"], [utf8 "vp_token", utf8 "presentation_submission"],
    [utf8 "id_token", utf8 "vp_token", utf8 "presentation_submission"],
    [utf8 "error", utf8 "error_description"], [utf8 "error"], [utf8 "response"]]

theorem names_answer {a : Answer} {cancelled : Bytes} (h : a.parameters cancelled = .ok params) :
    params.map Prod.fst ∈ answerNames := by
  unfold Answer.parameters at h
  split at h
  · cases h; simp [answerNames]
  · obtain ⟨text, -, h⟩ := bind_eq_ok.mp h
    cases h
    simp [answerNames]
  · obtain ⟨text, -, h⟩ := bind_eq_ok.mp h
    cases h
    simp [answerNames]
  · cases h; simp [answerNames]
  · cases h; simp [answerNames]

/-- **The parameters of a response have known names**: those of its answer, and that of the
state. -/
theorem names_wireParameters (h : w.wireParameters r e = .ok params) :
    ∃ names ∈ answerNames, params.map Prod.fst = names ∨
      params.map Prod.fst = names ++ [utf8 "state"] := by
  have hstate : ∀ answered : FormParameters, answered.map Prod.fst ∈ answerNames →
      params = answered ++ stateParameter r.payload.state → ∃ names ∈ answerNames,
        params.map Prod.fst = names ∨ params.map Prod.fst = names ++ [utf8 "state"] := by
    rintro answered hnames rfl
    refine ⟨_, hnames, ?_⟩
    rw [List.map_append]
    cases r.payload.state with
    | none => exact .inl (List.append_nil _)
    | some state => exact .inr rfl
  cases hjarm : r.jarm with
  | none =>
    rw [wireParameters, hjarm] at h
    obtain ⟨answered, hanswered, h⟩ := map_eq_ok.mp (ofJson_eq_ok.mp h)
    exact hstate answered (names_answer hanswered) h.symm
  | some jarm =>
    obtain ⟨-, token, -, h⟩ := (wireParameters_protected hjarm).mp h
    exact hstate [(utf8 "response", token)] (by simp [answerNames]) h

/-- The names of the parameters of a response are text. -/
theorem valid_names_wireParameters (h : w.wireParameters r e = .ok params) :
    ∀ p ∈ params, Utf8.valid p.1 = true := by
  have hvalid : ∀ names ∈ answerNames, ∀ name ∈ names ++ [utf8 "state"],
      Utf8.valid name = true := by decide
  obtain ⟨names, hmem, hnames⟩ := names_wireParameters h
  intro p hp
  have hname := List.mem_map_of_mem (f := Prod.fst) hp
  refine hvalid names hmem p.1 ?_
  rcases hnames with hnames | hnames
  · rw [hnames] at hname
    exact List.mem_append_left _ hname
  · rwa [hnames] at hname

end Wallet

/-! ### Sealing with an RSA key -/

section Sealing

variable (k : RsaKey)

/-- A signer with an RSA key. -/
def sealingSigner : Signer where
  handle := 0
  keyId := utf8 "wallet"
  key := .rsa k
  algorithms := [.rs256, .rs384, .rs512, .ps256, .ps384, .ps512]

/-- The public half of an RSA key as the only key of a verifier. -/
def sealingKeys : JwkSet := ⟨[Jwk.ofNumbers k.modulus k.publicExponent]⟩

/-- Signing with a salt, then encrypting for the holder of the same key. -/
def sealing : JarmRequirement :=
  .signedAndEncrypted ⟨.ps256, some (sealingSigner k)⟩ ⟨.rsaOaep256, .a256gcm, sealingKeys k⟩

/-- A wallet that signs and encrypts. -/
def sealingWallet : Wallet where
  config := { WalletConfig.standard with
    jarm := ⟨some ⟨sealingSigner k, [.ps256]⟩, some ⟨[.rsaOaep256], [.a256gcm]⟩⟩ }
  http := .ok none
  now := 1700000000

/-- A refusal in answer to a request with a state. -/
def sealedRefusal : AuthorizationResponse where
  channel := .query
  uri := utf8 "https://verifier"
  payload := ⟨.noConsensus, some (utf8 "s"), utf8 "verifier"⟩
  jarm := some (sealing k)

variable {k : RsaKey} {s : RsaSecret} (hpair : k.IsPair s) (hroom : 98 ≤ k.size)

include hpair

theorem isSound_sealingSigner : (sealingSigner k).IsSound where
  made := ⟨0, some (.rsa k), utf8 "wallet", rfl⟩
  checked := fun pub hpub => by
    cases hpub
    exact Key.isCheckedBy_rsa hpair

include hroom

theorem publicKey_sealing :
    (Jwk.ofNumbers k.modulus k.publicExponent).publicKey = .ok (.rsa k.publicHalf) := by
  have hodd := hpair.odd
  have hone : k.modulus ≠ 1 := fun hone => by
    rw [RsaKey.size, hone] at hroom
    exact absurd hroom (by decide)
  exact Jwk.publicKey_ofNumbers (by omega)
    fun hzero => hpair.exponents_ne_zero hone (by rw [hzero, Nat.zero_mul])

theorem usable?_sealing : (sealingKeys k).usable? .rsaOaep256 =
    some (Jwk.ofNumbers k.modulus k.publicExponent) := by
  refine List.find?_cons_of_pos ?_
  rw [Jwk.isUsable, publicKey_sealing hpair hroom]
  rfl

theorem refusal?_sealing :
    JarmSigning.refusal? ⟨.ps256, some (sealingSigner k)⟩ (sealingWallet k).config.jarm = none ∧
      JarmEncryption.refusal? ⟨.rsaOaep256, .a256gcm, sealingKeys k⟩
        (sealingWallet k).config.jarm = none := by
  have hencrypts : (sealingWallet k).config.jarm.encrypts .rsaOaep256 .a256gcm = true := rfl
  refine ⟨rfl, ?_⟩
  rw [JarmEncryption.refusal?, hencrypts, usable?_sealing hpair hroom]
  rfl

theorem validate_sealing : (sealing k).validate (sealingWallet k).config.jarm = .ok () := by
  obtain ⟨hsigning, hencryption⟩ := refusal?_sealing hpair hroom
  rw [JarmRequirement.validate_eq_ok, sealing, JarmRequirement.refusal?, hsigning, hencryption]
  rfl

theorem exists_sign_sealing (text : Bytes) (e : Entropy) :
    ∃ inner, Jws.sign (.obj [(utf8 "kid", .text "wallet")]) text (sealingSigner k) .ps256 e =
      .ok inner := by
  have hbits : 2 * Hash.sha256.size + 2 ≤ (RsaKey.bitLength k.modulus + 6) / 8 := by
    unfold RsaKey.size Bytes.width at hroom
    unfold RsaKey.bitLength
    change 66 ≤ _
    split at hroom
    · omega
    · next hne =>
      rw [if_neg hne]
      omega
  have hdraw : (sealingSigner k).key.SignsWith e := fun c hc => by cases hc
  exact (Jws.exists_sign hdraw).mpr ⟨by decide, rfl, hpair.canLower, hbits⟩

theorem exists_encrypt_sealing (inner : Bytes) (e : Entropy) :
    ∃ token, Jwe.encrypt .rsaOaep256 .a256gcm (Jwk.ofNumbers k.modulus k.publicExponent) inner
      (.obj [(utf8 "cty", .text "JWT")]) e = .ok token := by
  have hnamed : Jwe.named .rsaOaep256 .a256gcm (Jwk.ofNumbers k.modulus k.publicExponent)
      [(utf8 "cty", .text "JWT")] =
    [(utf8 "alg", .text "RSA-OAEP-256"), (utf8 "cty", .text "JWT"),
      (utf8 "enc", .text "A256GCM")] := rfl
  exact (Jwe.exists_encrypt (publicKey_sealing hpair hroom) (by decide) fun _ h => nomatch h).mpr
    ⟨⟨rfl, hpair.canRaise, .sha256, rfl, hroom⟩, by rw [hnamed]; decide +kernel⟩

/-- The sealed response gets its parameters, whatever is drawn. -/
theorem exists_wireParameters_sealing (e : Entropy) :
    ∃ params, (sealingWallet k).wireParameters (sealedRefusal k) e = .ok params := by
  obtain ⟨text, htext⟩ := exists_dump (j := (JarmClaims.ofPayload (sealedRefusal k).payload
    (sealingWallet k).config.issuer (sealingWallet k).now
    (sealingWallet k).config.cancelled).toJson).mpr (show (JarmClaims.ofPayload
      ⟨.noConsensus, some (utf8 "s"), utf8 "verifier"⟩ none 1700000000
      (utf8 "access_denied")).toJson.isText = true by decide +kernel)
  obtain ⟨inner, hinner⟩ := exists_sign_sealing hpair hroom text e.left
  obtain ⟨token, htoken⟩ := exists_encrypt_sealing hpair hroom inner e.right
  have hsigned : JarmSigning.token ⟨.ps256, some (sealingSigner k)⟩ (sealingWallet k).config.jarm
      (JarmClaims.ofPayload (sealedRefusal k).payload (sealingWallet k).config.issuer
        (sealingWallet k).now (sealingWallet k).config.cancelled) e.left = .ok inner := by
    rw [← hinner]
    change ofJson _ >>= _ = _
    rw [htext]
    rfl
  have hsealed : (sealing k).token (sealingWallet k).config (sealingWallet k).now
      (sealedRefusal k).payload e = .ok token := by
    rw [← htoken]
    change JarmSigning.token _ _ _ e.left >>= _ = _
    rw [hsigned]
    change JwkSet.select _ _ >>= _ = _
    rw [JwkSet.select, usable?_sealing hpair hroom]
    rfl
  exact ⟨_, (Wallet.wireParameters_protected rfl).mpr
    ⟨validate_sealing hpair hroom, token, hsealed, rfl⟩⟩

end Sealing

/-- Two primes are enough: the response of a wallet with such a key is opened by the key. -/
theorem sealedRefusal_opens : ∃ token header inner text j,
    (sealingWallet .ofMersenne).wireParameters (sealedRefusal .ofMersenne) (fun _ => 0) =
      .ok [(utf8 "response", token), (utf8 "state", utf8 "s")] ∧
    Jwe.decrypt token (some (.rsa .ofMersenne)) = .ok ⟨header, inner⟩ ∧
    Jws.verify inner (some (.rsa RsaKey.ofMersenne.publicHalf)) =
      .ok ⟨.obj [(utf8 "alg", .text "PS256"), (utf8 "kid", .text "wallet")], text⟩ ∧
    Json.parse? text = some j ∧
    JarmClaims.ofJson j = .ok
      { JarmClaims.bare none 1700000000 (utf8 "verifier") (some (utf8 "s")) with
        error := some (utf8 "access_denied") } := by
  obtain ⟨s, hpair⟩ := RsaKey.isPair_ofMersenne
  have hroom : 98 ≤ RsaKey.ofMersenne.size := by decide +kernel
  -- Nothing else about the numbers of the key matters.
  generalize RsaKey.ofMersenne = k at hpair hroom ⊢
  have hsound : ∀ g ∈ (sealing k).signing?, ∀ signer ∈ g.signer, signer.IsSound := by
    intro g hg signer hsigner
    cases hg
    cases hsigner
    exact isSound_sealingSigner hpair
  obtain ⟨params, hparams⟩ := exists_wireParameters_sealing hpair hroom fun _ => 0
  obtain ⟨token, rfl, text, j, ⟨inner, hdecrypts, signer, hsigner, hverifies⟩, hparse, hread⟩ :=
    Wallet.wireParameters_opens rfl
      (show -2 ^ 63 ≤ (1700000000 : Int) ∧ (1700000000 : Int) < 2 ^ 63 by decide) hsound hparams
  obtain ⟨recipient, key, hselect, hkey, hopens⟩ := hdecrypts
  cases hsigner
  rw [JwkSet.select, usable?_sealing hpair hroom] at hselect
  cases hselect
  rw [publicKey_sealing hpair hroom] at hkey
  cases hkey
  obtain ⟨header, hdecrypt, -, -⟩ := hopens (.rsa k) (Key.opens_rsa hpair)
  exact ⟨token, header, inner, text, j, hparams, hdecrypt, hverifies _ rfl, hparse, hread⟩

end WalletResponder
