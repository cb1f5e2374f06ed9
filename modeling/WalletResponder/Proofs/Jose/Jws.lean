import WalletResponder.Jose.Jws
import WalletResponder.Proofs.Bytes.Splitting
import WalletResponder.Proofs.Json.RoundTrip
import WalletResponder.Proofs.Result
import WalletResponder.Proofs.Text.Base64Url

/-!
# Checking signed tokens

What a signer makes is a signed token that its public half accepts, with the header and the payload
it was made of (`Jws.verify_sign`). The parts are found again at the dots, because none of them has
a dot, and the header is read back from its text.
-/

namespace WalletResponder

theorem JwsAlgorithm.ofName?_eq_some {name : Bytes} {alg : JwsAlgorithm} :
    JwsAlgorithm.ofName? name = some alg ↔ alg.name = name := by
  constructor
  · intro h
    simpa using List.find?_some h
  · rintro rfl
    cases alg <;> rfl

theorem JwsAlgorithm.named_eq_ok {name : Bytes} {alg : JwsAlgorithm} :
    JwsAlgorithm.named name = .ok alg ↔ alg.name = name := by
  rw [named, ← ofName?_eq_some]
  cases ofName? name <;> simp

theorem JwsAlgorithm.named_name (alg : JwsAlgorithm) : JwsAlgorithm.named alg.name = .ok alg :=
  named_eq_ok.mpr rfl

namespace Signer

variable {signer : Signer} {alg : JwsAlgorithm}

theorem sign_ok {message signature : Bytes} {e : Entropy}
    (h : signer.sign alg message e = .ok signature) :
    signer.supports alg = true ∧ signer.key.sign? alg message e = some signature := by
  unfold sign at h
  split at h
  · next hsup =>
    split at h
    · next s hs => cases h; exact ⟨hsup, hs⟩
    · cases h
  · cases h

theorem supports_of_mem_supportedOf {k : Key} : ∀ {algs supported : List JwsAlgorithm},
    k.supportedOf algs = .ok supported → ∀ alg ∈ supported, k.supports alg = .ok true
  | [], _, h, alg, hmem => by
    cases h
    cases hmem
  | a :: algs, supported, h, alg, hmem => by
    rw [Key.supportedOf] at h
    split at h
    · cases h
    · next yes hyes =>
      obtain ⟨rest, hrest, rfl⟩ := map_eq_ok.mp h
      cases yes with
      | false => exact supports_of_mem_supportedOf hrest alg hmem
      | true =>
        rcases List.mem_cons.mp hmem with rfl | hmem
        · exact hyes
        · exact supports_of_mem_supportedOf hrest alg hmem

theorem keyId_ofKey {handle : Nat} {key : Option Key} {keyId : Bytes}
    (h : ofKey handle key keyId = .ok signer) : signer.keyId = keyId := by
  unfold ofKey at h
  split at h
  · cases h
  · split at h
    · cases h
    · cases h
    · cases h
      rfl

/-- A signer lists algorithms that its key serves. -/
theorem supports_of_ofKey {handle : Nat} {key : Option Key} {keyId : Bytes}
    (h : ofKey handle key keyId = .ok signer) (hsup : signer.supports alg = true) :
    key = some signer.key ∧ signer.keyId = keyId ∧ signer.key.supports alg = .ok true := by
  unfold ofKey at h
  split at h
  · cases h
  · split at h
    · cases h
    · cases h
    · next k _ algs _ halgs =>
      cases h
      have hmem : alg ∈ algs := by simpa [supports] using hsup
      exact ⟨rfl, rfl, supports_of_mem_supportedOf halgs alg hmem⟩

end Signer

namespace Jws

/-- Three parts without dots are found again. -/
theorem splitOn_join {a b c : Bytes} (ha : dot ∉ a) (hb : dot ∉ b) (hc : dot ∉ c) :
    (join (join a b) c).splitOn dot = [a, b, c] := by
  rw [join, join, List.append_assoc, List.cons_append, Bytes.splitOn_append_cons ha,
    Bytes.splitOn_append_cons hb, Bytes.splitOn_of_notMem hc]

theorem part_eq_ok {s b : Bytes} : part s = .ok b ↔ Base64Url.decode s = .ok b := by
  unfold part
  cases Base64Url.decode s <;> simp

theorem part_encode (b : Bytes) : part (Base64Url.encode b) = .ok b :=
  part_eq_ok.mpr (Base64Url.decode_encode b)

/-- A part writes a header if it is the base64url of an object. -/
theorem header_eq_ok {s : Bytes} {j : Json} : header s = .ok j ↔
    ∃ text members, Base64Url.decode s = .ok text ∧ Json.parse? text = some (.obj members) ∧
      j = .obj members := by
  rw [header, bind_eq_ok]
  constructor
  · rintro ⟨text, htext, h⟩
    split at h
    · next members hparse =>
      cases h
      exact ⟨text, members, part_eq_ok.mp htext, hparse, rfl⟩
    · cases h
  · rintro ⟨text, members, htext, hparse, rfl⟩
    refine ⟨text, part_eq_ok.mpr htext, ?_⟩
    rw [hparse]
    rfl

/-- A header reads back. -/
theorem header_encode {text : Bytes} {members : List (Bytes × Json)}
    (h : Json.parse? text = some (.obj members)) :
    header (Base64Url.encode text) = .ok (.obj members) :=
  header_eq_ok.mpr ⟨text, members, Base64Url.decode_encode text, h, rfl⟩

/-- The header of a signed token with the identifier of the key: the algorithm and this. -/
def headerOf (alg : JwsAlgorithm) (keyId : Bytes) : Json :=
  .obj [(utf8 "alg", .str alg.name), (utf8 "kid", .str keyId)]

/-- Members with the name of the algorithm, which stands in place of any other. -/
def labelled (alg : JwsAlgorithm) (members : List (Bytes × Json)) : List (Bytes × Json) :=
  Json.put (utf8 "alg") (.str alg.name) members

variable {payload keyId token : Bytes} {members : List (Bytes × Json)} {signer : Signer}
  {alg : JwsAlgorithm} {e : Entropy}

theorem find?_labelled (name : Bytes) : (Json.obj (labelled alg members)).find? name =
    if utf8 "alg" = name then some (.str alg.name) else (Json.obj members).find? name :=
  Json.find?_put _ _ _ _

theorem algorithm_labelled : algorithm (.obj (labelled alg members)) = .ok alg := by
  rw [algorithm, find?_labelled, if_pos rfl]
  simp only [JwsAlgorithm.named_name]

/-- The parts of a signed token. -/
theorem sign_ok (h : sign (.obj members) payload signer alg e = .ok token) :
    ∃ text signature, (Json.obj (labelled alg members)).dump = .ok text ∧
      signer.supports alg = true ∧
      signer.key.sign? alg (input text payload) e = some signature ∧
      token = join (input text payload) (Base64Url.encode signature) := by
  obtain ⟨header, hheader, h⟩ := bind_eq_ok.mp h
  cases ofJson_eq_ok.mp hheader
  obtain ⟨text, htext, h⟩ := bind_eq_ok.mp h
  obtain ⟨signature, hsignature, h⟩ := bind_eq_ok.mp h
  obtain ⟨hsup, hsign⟩ := Signer.sign_ok (ofCrypto_eq_ok.mp hsignature)
  cases h
  exact ⟨text, signature, ofJson_eq_ok.mp htext, hsup, hsign, rfl⟩

/-- **What a signer makes its public half accepts**, if it accepts the signature proper. -/
theorem verify_sign (hplain : Json.IsPlain (.obj members))
    (h : sign (.obj members) payload signer alg e = .ok token) {pub : Key}
    (hsup : pub.supports alg = .ok true)
    (hchecks : ∀ message signature, signer.key.sign? alg message e = some signature →
      pub.checks alg message signature = true) :
    verify token (some pub) = .ok ⟨.obj (labelled alg members), payload⟩ := by
  obtain ⟨text, signature, htext, -, hsign, rfl⟩ := sign_ok h
  have hlabelled : Json.IsPlain (.obj (labelled alg members)) :=
    hplain.put (Json.isPlain_str alg.name)
  have hheader : header (Base64Url.encode text) = .ok (.obj (labelled alg members)) :=
    header_encode (Json.parse?_dump hlabelled htext)
  have hright : Key.verify (some pub) alg (input text payload) signature = .ok true := by
    rw [Key.verify, hsup]
    simp only [Except.map, hchecks _ _ hsign, Bool.and_self]
  have hsplit : (join (input text payload) (Base64Url.encode signature)).splitOn dot =
      [Base64Url.encode text, Base64Url.encode payload, Base64Url.encode signature] :=
    splitOn_join (Base64Url.encode_ne_dot _) (Base64Url.encode_ne_dot _)
      (Base64Url.encode_ne_dot _)
  have hinput : join (Base64Url.encode text) (Base64Url.encode payload) = input text payload := rfl
  rw [verify, hsplit]
  simp only [hheader, algorithm_labelled, part_encode, hinput, hright, bind, Except.bind, ofJose,
    ofCrypto]
  rfl

end Jws
end WalletResponder
