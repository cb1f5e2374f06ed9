import WalletResponder.Jarm.Token
import WalletResponder.Proofs.Jarm.Claims
import WalletResponder.Proofs.Jarm.Negotiation
import WalletResponder.Proofs.Jose.Jwe

/-!
# Opening the token of a response

The token of a protected response opens in the way that its protection says, and in no other order:
signed, encrypted, or first signed and then encrypted (`JarmRequirement.OpensTo`). What comes out is
the text of the claims that went in (`JarmRequirement.token_opensTo`), and it reads as them.
-/

namespace WalletResponder

open Json

/-- The public half of the signer's key accepts the token, under a header with the algorithm and the
identifier of the key and nothing else, and finds a text in it. -/
def JarmSigning.VerifiesTo (s : JarmSigning) (token text : Bytes) : Prop :=
  ∃ signer, s.signer = some signer ∧ ∀ pub, signer.key.publicHalf = .ok pub →
    Jws.verify token (some pub) =
      .ok ⟨.obj [(utf8 "alg", .str s.alg.name), (utf8 "kid", .str signer.keyId)], text⟩

/-- Whoever has the private half of the selected key opens the token, under a header that says so
much of its content, and finds a text in it. -/
def JarmEncryption.DecryptsTo (r : JarmEncryption) (token : Bytes) (contentType : Option Json)
    (text : Bytes) : Prop :=
  ∃ recipient key, r.keys.select r.alg = .ok recipient ∧ recipient.publicKey = .ok key ∧
    ∀ own : Key, own.Opens key → ∃ header, Jwe.decrypt token (some own) = .ok ⟨header, text⟩ ∧
      Jwe.Names header r.alg r.enc ∧ header.find? (utf8 "cty") = contentType

/-- A token opens to a text in the way that a protection says. -/
def JarmRequirement.OpensTo : JarmRequirement → Bytes → Bytes → Prop
  | signed s, token, text => s.VerifiesTo token text
  | encrypted r, token, text => r.DecryptsTo token none text
  | signedAndEncrypted s r, token, text =>
    ∃ inner, r.DecryptsTo token (some (.text "JWT")) inner ∧ s.VerifiesTo inner text

/-- A token opens to a text that reads as these claims. -/
def JarmRequirement.OpensToClaims (r : JarmRequirement) (token : Bytes) (c : JarmClaims) : Prop :=
  ∃ text j, r.OpensTo token text ∧ Json.parse? text = some j ∧ JarmClaims.ofJson j = .ok c

/-- A signer that was made of a key, whose public half accepts what the key signs. -/
structure Signer.IsSound (signer : Signer) : Prop where
  made : ∃ handle key keyId, Signer.ofKey handle key keyId = .ok signer
  checked : ∀ pub, signer.key.publicHalf = .ok pub → signer.key.IsCheckedBy pub

variable {wallet : JarmConfig} {e : Entropy} {token text : Bytes}

theorem JarmSigning.token_ok {s : JarmSigning} {claims : JarmClaims}
    (h : s.token wallet claims e = .ok token) :
    ∃ signer text, s.signer = some signer ∧ claims.toJson.dump = .ok text ∧
      Jws.sign (.obj [(utf8 "kid", .str signer.keyId)]) text signer s.alg e = .ok token := by
  unfold JarmSigning.token at h
  split at h
  · cases h
  split at h
  · cases h
  split at h
  · cases h
  next signer hsigner =>
  split at h
  · obtain ⟨text, htext, h⟩ := bind_eq_ok.mp h
    exact ⟨signer, text, hsigner, ofJson_eq_ok.mp htext, h⟩
  · cases h

theorem isPlain_identifier {id : Bytes} : IsPlain (.obj [(utf8 "kid", .str id)]) := by
  rw [IsPlain]
  exact ⟨List.pairwise_singleton _ _, trivial, trivial⟩

/-- **A signed token opens to the text of the claims.** -/
theorem JarmSigning.token_verifiesTo {s : JarmSigning} {claims : JarmClaims}
    (hsound : ∀ signer ∈ s.signer, signer.IsSound) (h : s.token wallet claims e = .ok token) :
    ∃ text, claims.toJson.dump = .ok text ∧ s.VerifiesTo token text := by
  obtain ⟨signer, text, hsigner, htext, hsign⟩ := JarmSigning.token_ok h
  obtain ⟨⟨handle, key, keyId, hmade⟩, hchecked⟩ := hsound signer hsigner
  obtain ⟨-, -, -, hsup, -⟩ := Jws.sign_ok hsign
  obtain ⟨-, -, hserves⟩ := Signer.supports_of_ofKey hmade hsup
  refine ⟨text, htext, signer, hsigner, fun pub hpub => ?_⟩
  exact Jws.verify_sign isPlain_identifier hsign (Key.supports_publicHalf hpub hserves)
    fun message signature => hchecked pub hpub s.alg message e signature hserves

/-- **An encrypted token opens to the text that went in.** -/
theorem JarmEncryption.token_decryptsTo {r : JarmEncryption} {members : List (Bytes × Json)}
    (hplain : IsPlain (.obj members)) (hparties : Jwe.parties (.obj members) = .ok ([], []))
    (h : r.token wallet text (.obj members) e = .ok token) :
    r.DecryptsTo token ((obj members).find? (utf8 "cty")) text := by
  unfold JarmEncryption.token at h
  split at h
  · cases h
  split at h
  · cases h
  obtain ⟨recipient, hrecipient, h⟩ := bind_eq_ok.mp h
  obtain ⟨-, key, hkey, -⟩ := JwkSet.select_ok hrecipient
  refine ⟨recipient, key, hrecipient, hkey, fun own hown => ?_⟩
  obtain ⟨published, -, hdecrypt⟩ := Jwe.decrypt_encrypt hplain (fun _ => hparties) hkey h hown
  refine ⟨_, hdecrypt, Jwe.names_withEphemeral, ?_⟩
  rw [Jwe.find?_withEphemeral_of_ne (by decide), Jwe.find?_named_of_notMem (by decide)]

theorem isPlain_nestedHeader : IsPlain nestedHeader := by
  rw [nestedHeader, IsPlain]
  exact ⟨List.pairwise_singleton _ _, trivial, trivial⟩

/-- **The token of a response opens to the text of its claims**, in the way of its protection. -/
theorem JarmRequirement.token_opensTo {r : JarmRequirement} {config : WalletConfig} {now : Int}
    {p : Payload} (hsound : ∀ s ∈ r.signing?, ∀ signer ∈ s.signer, signer.IsSound)
    (h : r.token config now p e = .ok token) :
    ∃ text, (JarmClaims.ofPayload p config.issuer now config.cancelled).toJson.dump = .ok text ∧
      r.OpensTo token text := by
  cases r with
  | signed s => exact JarmSigning.token_verifiesTo (hsound s rfl) h
  | encrypted r =>
    obtain ⟨text, htext, h⟩ := bind_eq_ok.mp h
    exact ⟨text, ofJson_eq_ok.mp htext, JarmEncryption.token_decryptsTo
      ⟨List.Pairwise.nil, trivial⟩ rfl h⟩
  | signedAndEncrypted s r =>
    unfold JarmRequirement.token at h
    dsimp only at h
    split at h
    · obtain ⟨inner, hinner, h⟩ := bind_eq_ok.mp h
      obtain ⟨text, htext, hverifies⟩ := JarmSigning.token_verifiesTo (hsound s rfl) hinner
      exact ⟨text, htext, inner,
        JarmEncryption.token_decryptsTo isPlain_nestedHeader rfl h, hverifies⟩
    · cases h

/-- **The token of a response opens to its claims.** -/
theorem JarmRequirement.token_opensToClaims {r : JarmRequirement} {config : WalletConfig}
    {now : Int} {p : Payload} (hsound : ∀ s ∈ r.signing?, ∀ signer ∈ s.signer, signer.IsSound)
    (hnow : -2 ^ 63 ≤ now ∧ now < 2 ^ 63) (h : r.token config now p e = .ok token) :
    r.OpensToClaims token (JarmClaims.ofPayload p config.issuer now config.cancelled) := by
  obtain ⟨text, htext, hopens⟩ := JarmRequirement.token_opensTo hsound h
  have hissued := JarmClaims.issuedAt_ofPayload p config.issuer now config.cancelled
  obtain ⟨j, hparse, hread⟩ :=
    JarmClaims.ofJson_parse? _ (hissued.symm ▸ hnow.1) (hissued.symm ▸ hnow.2) htext
  exact ⟨text, j, hopens, hparse, hread⟩

end WalletResponder
