import WalletResponder.Proofs.Crypto.ConcatKdf
import WalletResponder.Proofs.Jose.Jwe
import WalletResponder.Proofs.Json.Texts
import WalletResponder.Proofs.Key.Draws

/-!
# Tokens and draws

Whether a token comes about does not depend on what is drawn for it, nor on the text inside
(`Jws.exists_sign`, `Jwe.exists_encrypt`). It depends on the keys, on the algorithms and on whether
the header can be written.
-/

namespace WalletResponder

namespace Jws

variable {payload keyId : Bytes} {signer : Signer} {alg : JwsAlgorithm} {e : Entropy}

theorem isText_headerOf : (headerOf alg keyId).isText = Utf8.valid keyId := by
  have halg : Utf8.valid alg.name = true := by cases alg <;> decide
  have hnames : Utf8.valid (utf8 "alg") = true ∧ Utf8.valid (utf8 "kid") = true := by decide
  simp [headerOf, Json.isText, Json.membersAreText, halg, hnames]

/-- **A signed token comes about** if the identifier in its header can be written and its key
signs. -/
theorem exists_sign (hdraw : signer.key.SignsWith e) :
    (∃ token, sign (.obj [(utf8 "kid", .str keyId)]) payload signer alg e = .ok token) ↔
      Utf8.valid keyId = true ∧ signer.supports alg = true ∧ signer.key.CanSign alg := by
  have hheader : (∃ text, (headerOf alg keyId).dump = .ok text) ↔ Utf8.valid keyId = true := by
    rw [Json.exists_dump, isText_headerOf]
  rw [← hheader]
  constructor
  · rintro ⟨token, h⟩
    obtain ⟨text, signature, htext, hsup, hsign, -⟩ := sign_ok h
    exact ⟨⟨text, htext⟩, hsup, (Key.isSome_sign? hdraw alg _).mp (by rw [hsign]; rfl)⟩
  · rintro ⟨⟨text, htext⟩, hsup, hcan⟩
    obtain ⟨signature, hsignature⟩ := Option.isSome_iff_exists.mp
      ((Key.isSome_sign? hdraw alg (input text payload)).mpr hcan)
    refine ⟨join (input text payload) (Base64Url.encode signature), ?_⟩
    have hassign : (Json.obj [(utf8 "kid", .str keyId)]).assign (utf8 "alg") (.str alg.name) =
        .ok (headerOf alg keyId) := rfl
    rw [sign, hassign]
    simp only [bind, Except.bind, ofJson, htext, Signer.sign, hsup, if_true, hsignature, ofCrypto]
    rfl

end Jws

namespace Jwe

open Json

variable {alg : JweAlgorithm} {enc : ContentEncryption} {recipient : Jwk} {key : Key}
  {members : List (Bytes × Json)} {e : Entropy} {text token : Bytes} {sent : Sent}

/-- A content key can be sent to a key. -/
def CanSend (alg : JweAlgorithm) (enc : ContentEncryption) : Key → Prop
  | .rsa k => alg.family = .rsa ∧ k.CanRaise ∧
    ∃ h, Oaep.hash? alg = some h ∧ enc.keySize + 2 * h.size + 2 ≤ k.size
  | .ec k => alg.family = .ellipticCurve ∧ ∃ c, (Key.ec k).namedCurve = .ok c
  | _ => False

/-- What a draw has to be for a content key to be sent to a key. -/
def SendsWith (key : Key) (e : Entropy) : Prop := ∀ k, key = .ec k → k.MeetsWith e.left

theorem canSend_of_send (h : send alg enc recipient key (.obj members) e = .ok sent) :
    CanSend alg enc key := by
  unfold send at h
  split at h
  · next k hfamily =>
    obtain ⟨c, hc, -⟩ := bind_eq_ok.mp h
    exact ⟨hfamily, c, ofCrypto_eq_ok.mp hc⟩
  · next k hfamily =>
    obtain ⟨encrypted, hencrypted, -⟩ := bind_eq_ok.mp h
    obtain ⟨hcan, hash, hhash, hfits⟩ := RsaKey.encrypt_isOk.mp ⟨_, ofCrypto_eq_ok.mp hencrypted⟩
    rw [Entropy.length_take] at hfits
    exact ⟨hfamily, hcan, hash, hhash, hfits⟩
  · cases h

theorem isText_ofPoint (c : NamedCurve) (x y : Nat) : (Jwk.ofPoint c x y).toJson.isText = true := by
  have hnumber : ∀ b, (Jwk.number b).isText = true := Base64Url.valid_encode
  rw [Jwk.toJson, Jwk.ofPoint, isText, membersAreText_iff]
  intro m hm
  simp only [List.mem_cons, List.not_mem_nil, or_false] at hm
  rcases hm with rfl | rfl | rfl | rfl
  · exact ⟨show Utf8.valid (utf8 "crv") = true by decide, by cases c <;> decide⟩
  · decide
  · exact ⟨show Utf8.valid (utf8 "x") = true by decide, hnumber _⟩
  · exact ⟨show Utf8.valid (utf8 "y") = true by decide, hnumber _⟩

/-- What is sent has a content key of the right size, and a header that can be written if the one
before it could. -/
theorem sent_of_send (h : send alg enc recipient key (.obj members) e = .ok sent)
    (hepk : (obj members).find? epk = none) :
    sent.contentKey.length = enc.keySize ∧ sent.header.isText = (obj members).isText := by
  unfold send at h
  split at h
  · obtain ⟨secret, published, derivedKey, -, hpublished, hderived, hheader, hways⟩ :=
      sendByAgreement_ok h
    obtain ⟨c, x, y, -, -, rfl⟩ := Jwk.ofKey_ec hpublished
    have hvalid : Utf8.valid epk = true := by decide
    rw [hheader]
    refine ⟨?_, isText_put hepk hvalid (isText_ofPoint c x y)⟩
    rcases hways with ⟨hwrap, hcontent, -⟩ | ⟨-, hcontent, -⟩
    · rw [derived, if_pos hwrap] at hderived
      rw [hcontent]
      exact ConcatKdf.length_derive hderived
    · rw [hcontent]
      exact Entropy.length_take _ _
  · obtain ⟨encrypted, -, h⟩ := bind_eq_ok.mp h
    cases h
    exact ⟨Entropy.length_take _ _, rfl⟩
  · cases h

theorem exists_derived {secret : Bytes} (hsecret : secret ≠ []) :
    ∃ key, derived alg enc secret [] [] = .ok key := by
  have hempty : secret.isEmpty = false := by simpa using hsecret
  have hsize := enc.keySize_bounds
  unfold derived
  split
  · next hwrap =>
    rw [ConcatKdf.derive, hempty, Bool.false_or, if_neg (by simp; omega)]
    exact ⟨_, rfl⟩
  · next hwrap =>
    rw [ConcatKdf.derive, hempty, Bool.false_or, if_neg (by simpa using hwrap)]
    exact ⟨_, rfl⟩

theorem wrapSize_isKeySize (h : alg.wrapSize ≠ 0) : KeyWrap.isKeySize alg.wrapSize = true := by
  cases alg <;> first | rfl | exact absurd rfl h

/-- The members that describe the new key of a draw. -/
theorem ofKey_generate {c : NamedCurve} {x y : Nat}
    (h : (CurveKey.generate c.group e).point = .affine x y) :
    Jwk.ofKey (.ec (CurveKey.generate c.group e)) none = .ok (Jwk.ofPoint c x y) := by
  have hgroup : (CurveKey.generate c.group e).group = c.group := rfl
  have hcurve : (Key.ec (CurveKey.generate c.group e)).namedCurve = .ok c := by
    rw [Key.namedCurve, hgroup, Key.ofGroup?_group]
  have hcoordinates : (CurveKey.generate c.group e).coordinates? = some (x, y) := by
    rw [CurveKey.coordinates?, h]
    rfl
  rw [Jwk.ofKey, Jwk.describe, hcurve, hcoordinates]
  rfl

/-- Agreed secrets are not empty on the named curves. -/
theorem ne_nil_of_agree {c : NamedCurve} {peer : CurveKey} {secret : Bytes}
    (h : (CurveKey.generate c.group e).agree peer = .ok secret) : secret ≠ [] := by
  unfold CurveKey.agree at h
  split at h
  · cases h
  split at h
  · cases h
  split at h
  · cases h
  · next x y _ =>
    cases h
    have hsize : 0 < c.group.size := by cases c <;> decide +kernel
    refine List.ne_nil_of_length_pos ?_
    rw [Bytes.length_ofNat]
    exact hsize

/-- A content key that can be sent is sent. -/
theorem exists_send (hcan : CanSend alg enc key) (hdraw : SendsWith key e) :
    ∃ sent, send alg enc recipient key (.obj members) e = .ok sent := by
  cases key with
  | rsa k =>
    obtain ⟨hfamily, hraise, hash, hhash, hfits⟩ := hcan
    obtain ⟨c, hc⟩ := (RsaKey.encrypt_isOk (e := e.right)).mpr ⟨hraise, hash, hhash, show
      (e.left.take enc.keySize).length + 2 * hash.size + 2 ≤ k.size by
        rw [Entropy.length_take]; exact hfits⟩
    refine ⟨⟨e.left.take enc.keySize, c, .obj members⟩, ?_⟩
    simp only [send, hfamily, sendByTransport, bind, Except.bind, hc, ofCrypto]
    rfl
  | ec k =>
    obtain ⟨hfamily, c, hc⟩ := hcan
    obtain ⟨x, y, secret, hpoint, hsecret⟩ := hdraw k rfl
    rw [← Key.namedCurve_ec hc] at hpoint hsecret
    obtain ⟨derivedKey, hderived⟩ : ∃ key, derived alg enc secret [] [] = .ok key :=
      exists_derived (ne_nil_of_agree hsecret)
    simp only [send, hfamily, sendByAgreement, hc, hsecret, ofKey_generate hpoint, hderived,
      ofCrypto, ofJson, assign_obj, bind, Except.bind]
    split
    · exact ⟨_, rfl⟩
    · next hwrap =>
      rw [derived, if_neg hwrap] at hderived
      have hlen := ConcatKdf.length_derive hderived
      have hbounds := enc.keySize_bounds
      obtain ⟨wrapped, hwrapped⟩ : ∃ wrapped,
          KeyWrap.wrap derivedKey (e.right.take enc.keySize) = .ok wrapped :=
        KeyWrap.wrap_isOk (by rw [hlen]; exact wrapSize_isKeySize hwrap)
          (by rw [Entropy.length_take]; exact hbounds.1)
          (by rw [Entropy.length_take]; exact hbounds.2)
      rw [hwrapped]
      exact ⟨_, rfl⟩
  | _ => exact hcan.elim

/-- Naming the algorithms and the key of the recipient leaves a header text if the identifier of
that key is. -/
theorem isText_named (hmembers : (obj members).isText = true) :
    (obj (named alg enc recipient members)).isText = true ↔
      ∀ id ∈ recipient.keyId?, Utf8.valid id = true := by
  have halg : Utf8.valid alg.name = true := by cases alg <;> decide
  have henc : Utf8.valid enc.name = true := by cases enc <;> decide
  have hboth : membersAreText
      (put (utf8 "enc") (.str enc.name) (put (utf8 "alg") (.str alg.name) members)) = true :=
    membersAreText_put (by decide) henc (membersAreText_put (by decide) halg hmembers)
  constructor
  · intro h id hid
    have hfind : (obj (named alg enc recipient members)).find? (utf8 "kid") = some (.str id) := by
      rw [find?_named, if_pos ⟨rfl, by rw [hid]; rfl⟩, hid]
      rfl
    exact isText_of_find? h hfind
  · intro h
    unfold named
    cases hid : recipient.keyId? with
    | none => exact hboth
    | some id => exact membersAreText_put (by decide) (h id hid) hboth

/-- **An encrypted token comes about** if its header can be written and a content key can be sent.
-/
theorem exists_encrypt (hkey : recipient.publicKey = .ok key)
    (hepk : (obj members).find? epk = none) (hdraw : SendsWith key e.left) :
    (∃ token, encrypt alg enc recipient text (.obj members) e = .ok token) ↔
      CanSend alg enc key ∧ (obj (named alg enc recipient members)).isText = true := by
  have hepk : (obj (named alg enc recipient members)).find? epk = none := by
    rw [find?_named]
    simp +decide [hepk]
  constructor
  · rintro ⟨token, h⟩
    obtain ⟨-, sent, written, ciphertext, tag, hsent, hwritten, -⟩ := encrypt_ok hkey h
    rw [← (sent_of_send hsent hepk).2]
    exact ⟨canSend_of_send hsent, (dump_eq_ok.mp hwritten).1⟩
  · rintro ⟨hcan, htext⟩
    have hfits : fits alg key = true := by
      cases key with
      | rsa k => rw [fits, Key.family?, hcan.1]; exact beq_self_eq_true _
      | ec k => rw [fits, Key.family?, hcan.1]; exact beq_self_eq_true _
      | _ => exact hcan.elim
    obtain ⟨sent, hsent⟩ : ∃ sent, send alg enc recipient key
        (.obj (named alg enc recipient members)) e.left = .ok sent := exists_send hcan hdraw
    obtain ⟨hlen, hsentText⟩ := sent_of_send hsent hepk
    obtain ⟨headerText, hheaderText⟩ := exists_dump.mpr (hsentText.trans htext)
    obtain ⟨ciphertext, tag, hencrypted⟩ := ContentEncryption.encrypt_isOk hlen
      (Entropy.length_take enc.ivSize e.right) (Base64Url.encode headerText) text
    refine ⟨assemble (Base64Url.encode headerText) sent.encryptedKey (e.right.take enc.ivSize)
      ciphertext tag, ?_⟩
    unfold encrypt
    simp only [hkey, ofJose, bind, Except.bind, hfits, if_true, name_obj, ofJson, hsent,
      hheaderText, hencrypted, ofCrypto]
    rfl

end Jwe
end WalletResponder
