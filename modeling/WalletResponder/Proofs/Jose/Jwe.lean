import WalletResponder.Jose.Jwe
import WalletResponder.Proofs.Crypto.KeyWrap
import WalletResponder.Proofs.Jose.Jwk
import WalletResponder.Proofs.Jose.Jws

/-!
# Decrypting tokens

An encrypted token opens for the holder of the private key (`Jwe.decrypt_encrypt`). Whichever way
the content key is sent, it is received (`Jwe.delivers_send`), and the header that is authenticated
is the one that is read: both sides take it as it stands. The parties of an agreement, though, are
something that only the reader of a header knows of (`Jwe.parties`).
-/

namespace WalletResponder

theorem JweAlgorithm.ofName?_eq_some {name : Bytes} {alg : JweAlgorithm} :
    JweAlgorithm.ofName? name = some alg ↔ alg.name = name := by
  constructor
  · intro h
    simpa using List.find?_some h
  · rintro rfl
    cases alg <;> rfl

theorem ContentEncryption.ofName?_eq_some {name : Bytes} {enc : ContentEncryption} :
    ContentEncryption.ofName? name = some enc ↔ enc.name = name := by
  constructor
  · intro h
    simpa using List.find?_some h
  · rintro rfl
    cases enc <;> rfl

theorem JweAlgorithm.named_eq_ok {name : Bytes} {alg : JweAlgorithm} :
    JweAlgorithm.named name = .ok alg ↔ alg.name = name := by
  rw [named, ← ofName?_eq_some]
  cases ofName? name <;> simp

theorem ContentEncryption.named_eq_ok {name : Bytes} {enc : ContentEncryption} :
    ContentEncryption.named name = .ok enc ↔ enc.name = name := by
  rw [named, ← ofName?_eq_some]
  cases ofName? name <;> simp

theorem JweAlgorithm.named_name (alg : JweAlgorithm) : JweAlgorithm.named alg.name = .ok alg :=
  named_eq_ok.mpr rfl

theorem ContentEncryption.named_name (enc : ContentEncryption) :
    ContentEncryption.named enc.name = .ok enc :=
  named_eq_ok.mpr rfl

theorem ContentEncryption.keySize_bounds (enc : ContentEncryption) :
    16 ≤ enc.keySize ∧ enc.keySize % 8 = 0 := by
  cases enc <;> decide

namespace Jwe

open Json

variable {alg : JweAlgorithm} {enc : ContentEncryption} {recipient : Jwk} {key own : Key}
  {members : List (Bytes × Json)} {e : Entropy} {text token : Bytes}

/-! ### Headers -/

/-- The members of a header with the names of the algorithms and of the recipient's key. -/
def named (alg : JweAlgorithm) (enc : ContentEncryption) (recipient : Jwk)
    (members : List (Bytes × Json)) : List (Bytes × Json) :=
  let both := put (utf8 "enc") (.str enc.name) (put (utf8 "alg") (.str alg.name) members)
  match recipient.keyId? with
  | some id => put (utf8 "kid") (.str id) both
  | none => both

theorem name_obj : name alg enc recipient (.obj members) =
    .ok (.obj (named alg enc recipient members)) := by
  unfold name named
  cases recipient.keyId? <;> rfl

/-- The names that protecting a content adds to a header. -/
def ownNames : List Bytes := [utf8 "alg", utf8 "enc", utf8 "kid", epk]

theorem find?_named (name : Bytes) : (obj (named alg enc recipient members)).find? name =
    if utf8 "kid" = name ∧ recipient.keyId?.isSome then recipient.keyId?.map .str
    else if utf8 "enc" = name then some (.str enc.name)
    else if utf8 "alg" = name then some (.str alg.name)
    else (obj members).find? name := by
  unfold named
  cases recipient.keyId? with
  | none => simp [find?_put]
  | some id => simp [find?_put]

theorem find?_named_of_notMem {name : Bytes} (h : name ∉ ownNames) :
    (obj (named alg enc recipient members)).find? name = (obj members).find? name := by
  simp only [ownNames, List.mem_cons, List.not_mem_nil, or_false, not_or] at h
  obtain ⟨halg, henc, hkid, -⟩ := h
  rw [find?_named, if_neg fun hk => hkid hk.1.symm, if_neg (Ne.symm henc), if_neg (Ne.symm halg)]

theorem isPlain_named (h : IsPlain (.obj members)) :
    IsPlain (.obj (named alg enc recipient members)) := by
  have hboth : IsPlain
      (.obj (put (utf8 "enc") (.str enc.name) (put (utf8 "alg") (.str alg.name) members))) :=
    (h.put (isPlain_str _)).put (isPlain_str _)
  unfold named
  cases recipient.keyId? with
  | none => exact hboth
  | some id => exact hboth.put (isPlain_str id)

/-- A header names its algorithms. -/
structure Names (header : Json) (alg : JweAlgorithm) (enc : ContentEncryption) : Prop where
  alg : header.find? (utf8 "alg") = some (.str alg.name)
  enc : header.find? (utf8 "enc") = some (.str enc.name)

theorem names_named : Names (.obj (named alg enc recipient members)) alg enc where
  alg := by rw [find?_named]; simp +decide
  enc := by rw [find?_named]; simp +decide

theorem algorithms_of_names {header : Json} (h : Names header alg enc) :
    algorithms header = .ok (alg, enc) := by
  simp only [algorithms, headerText, h.alg, h.enc, bind, Except.bind, JweAlgorithm.named_name,
    ContentEncryption.named_name]
  rfl

/-! ### Content keys -/

/-- The parties of an agreement that a header names: their bytes, none where it names nobody. -/
def parties (header : Json) : Except JoseFault (Bytes × Bytes) := do
  let apu ← headerBytes header (utf8 "apu")
  let apv ← headerBytes header (utf8 "apv")
  pure (apu, apv)

/-- Protecting a content names no parties. -/
theorem parties_congr {header header' : Json}
    (h : ∀ name ∉ ownNames, header.find? name = header'.find? name) :
    parties header = parties header' := by
  rw [parties, parties, headerBytes, headerBytes, headerBytes, headerBytes, h _ (by decide),
    h _ (by decide)]

theorem parties_named :
    parties (.obj (named alg enc recipient members)) = parties (.obj members) :=
  parties_congr fun _ => find?_named_of_notMem

/-- The members of a header with the ephemeral key of the sender, if there is one. -/
def withEphemeral (published : Option Jwk) (members : List (Bytes × Json)) :
    List (Bytes × Json) :=
  match published with
  | some jwk => put epk jwk.toJson members
  | none => members

theorem find?_withEphemeral {published : Option Jwk} (name : Bytes) :
    (obj (withEphemeral published members)).find? name =
      if epk = name ∧ published.isSome then published.map Jwk.toJson
      else (obj members).find? name := by
  unfold withEphemeral
  cases published with
  | none => simp
  | some jwk => simp [find?_put]

theorem find?_withEphemeral_of_ne {published : Option Jwk} {name : Bytes} (h : name ≠ epk) :
    (obj (withEphemeral published members)).find? name = (obj members).find? name := by
  rw [find?_withEphemeral, if_neg fun he => h he.1.symm]

theorem parties_withEphemeral {published : Option Jwk} :
    parties (.obj (withEphemeral published members)) = parties (.obj members) :=
  parties_congr fun _ hname => find?_withEphemeral_of_ne fun he => hname (by simp [ownNames, he])

/-- The ephemeral key in the header of a token for a key: that of a new key on the same curve, and
none without an agreement. -/
def IsEphemeral (alg : JweAlgorithm) (key : Key) : Option Jwk → Prop
  | some jwk => alg.family = .ellipticCurve ∧
    ∃ k e, key = .ec k ∧ Jwk.ofKey (.ec (CurveKey.generate k.group e)) none = .ok jwk
  | none => alg.family = .rsa

theorem IsEphemeral.isPlain {published : Option Jwk} (h : IsEphemeral alg key published)
    (hplain : IsPlain (.obj members)) : IsPlain (.obj (withEphemeral published members)) := by
  cases published with
  | none => exact hplain
  | some jwk =>
    obtain ⟨-, k, e, -, hpublished⟩ := h
    exact hplain.put (Jwk.publicKey_ofKey hpublished).2.1

/-- What is sent along with a token that was made: the header has grown by an ephemeral key at most,
and whoever opens for the recipient receives the content key, if no parties are named that the
sender does not know of. -/
structure Delivers (sent : Sent) (alg : JweAlgorithm) (enc : ContentEncryption) (key : Key)
    (members : List (Bytes × Json)) : Prop where
  header : ∃ published, IsEphemeral alg key published ∧
    sent.header = .obj (withEphemeral published members)
  receive : (alg.family = .ellipticCurve → parties (.obj members) = .ok ([], [])) →
    ∀ own : Key, own.Opens key →
      receive alg enc sent.header own sent.encryptedKey = .ok sent.contentKey

theorem delivers_sendByTransport {k : RsaKey} {sent : Sent} (halg : alg.family = .rsa)
    (h : sendByTransport alg enc k (.obj members) e = .ok sent) :
    Delivers sent alg enc (.rsa k) members := by
  obtain ⟨encrypted, hencrypted, h⟩ := bind_eq_ok.mp h
  cases h
  refine ⟨⟨none, halg, rfl⟩, fun _ own hown => ?_⟩
  cases own with
  | rsa o =>
    have hdecrypt := hown _ _ _ _ (ofCrypto_eq_ok.mp hencrypted)
    simp only [receive, halg, Key.decrypt, hdecrypt, decrypting]
  | _ => exact hown.elim

theorem take_keySize_ne_nil (enc : ContentEncryption) (e : Entropy) : e.take enc.keySize ≠ [] := by
  have hlen := Entropy.length_take enc.keySize e
  have hbounds := enc.keySize_bounds
  intro hnil
  rw [hnil, List.length_nil] at hlen
  omega

/-- The ephemeral key of a header is the key of the sender, without its secret. -/
theorem ephemeral_ofKey {k : CurveKey} {published : Jwk}
    (h : Jwk.ofKey (.ec k) none = .ok published) {x y : Nat} (hpoint : k.point = .affine x y)
    (hcontains : k.group.contains x y = true) :
    ephemeral (obj (put epk published.toJson members)) =
      .ok (.ec { group := k.group, point := .affine x y, secret := none }) := by
  obtain ⟨hread, -, x', y', hxy, hpublic⟩ := Jwk.publicKey_ofKey h
  cases hpoint.symm.trans (CurveKey.point_of_coordinates? hxy)
  simp only [ephemeral, find?_put, if_true, hread, bind, Except.bind, hpublic hcontains]
  rfl

/-- The content key that a secret and two parties lead to. -/
def received (alg : JweAlgorithm) (enc : ContentEncryption) (secret apu apv encryptedKey : Bytes) :
    Except JoseFault Bytes :=
  if alg.wrapSize = 0 then
    if encryptedKey.isEmpty then decrypting (derived alg enc secret apu apv)
    else .error .superfluousKey
  else do
    let kek ← decrypting (derived alg enc secret apu apv)
    decrypting (KeyWrap.unwrap kek encryptedKey)

/-- Who agrees with the sender of a header derives the key from the secret and from the parties that
the header names. -/
theorem receive_of_agree {header : Json} {peer : Key} {secret : Bytes}
    (halg : alg.family = .ellipticCurve) (hephemeral : ephemeral header = .ok peer)
    (hagree : own.agree peer = .ok secret) (encryptedKey : Bytes) :
    receive alg enc header own encryptedKey =
      parties header >>= fun p => received alg enc secret p.1 p.2 encryptedKey := by
  simp only [receive, halg, receiveByAgreement, hephemeral, bind, Except.bind, hagree, decrypting,
    parties]
  cases headerBytes header (utf8 "apu") with
  | error fault => rfl
  | ok apu =>
    cases headerBytes header (utf8 "apv") with
    | error fault => rfl
    | ok apv => rfl

/-- Who finds the secret of the sender in the ephemeral key reads the parties off the header. -/
theorem receive_of_ephemeral {k : CurveKey} {published : Jwk} {x y : Nat} {secret : Bytes}
    (halg : alg.family = .ellipticCurve) (hpublished : Jwk.ofKey (.ec k) none = .ok published)
    (hpoint : k.point = .affine x y) (hcontains : k.group.contains x y = true)
    (hagree : own.agree (.ec { group := k.group, point := .affine x y, secret := none }) =
      .ok secret) (encryptedKey : Bytes) :
    receive alg enc (.obj (put epk published.toJson members)) own encryptedKey =
      parties (.obj members) >>= fun p => received alg enc secret p.1 p.2 encryptedKey := by
  have hparties : parties (.obj (withEphemeral (some published) members)) =
      parties (.obj members) := parties_withEphemeral
  rw [receive_of_agree halg (ephemeral_ofKey hpublished hpoint hcontains) hagree, ← hparties]
  rfl

/-- What is sent by an agreement: the header has grown by the ephemeral key, and what both sides
derive is the content key or wraps it. -/
theorem sendByAgreement_ok {k : CurveKey} {sent : Sent}
    (h : sendByAgreement alg enc k (.obj members) e = .ok sent) :
    ∃ secret published derivedKey,
      (CurveKey.generate k.group e.left).agree k = .ok secret ∧
      Jwk.ofKey (.ec (CurveKey.generate k.group e.left)) none = .ok published ∧
      derived alg enc secret [] [] = .ok derivedKey ∧
      sent.header = .obj (put epk published.toJson members) ∧
      (alg.wrapSize = 0 ∧ sent.contentKey = derivedKey ∧ sent.encryptedKey = [] ∨
        alg.wrapSize ≠ 0 ∧ sent.contentKey = e.right.take enc.keySize ∧
          KeyWrap.wrap derivedKey sent.contentKey = .ok sent.encryptedKey) := by
  obtain ⟨curve, hcurve, h⟩ := bind_eq_ok.mp h
  obtain ⟨secret, hsecret, h⟩ := bind_eq_ok.mp h
  obtain ⟨published, hpublished, h⟩ := bind_eq_ok.mp h
  obtain ⟨header, hheader, h⟩ := bind_eq_ok.mp h
  obtain ⟨derivedKey, hderived, h⟩ := bind_eq_ok.mp h
  rw [Key.namedCurve_ec (ofCrypto_eq_ok.mp hcurve)] at hsecret hpublished
  cases ofJson_eq_ok.mp hheader
  refine ⟨secret, published, derivedKey, ofCrypto_eq_ok.mp hsecret, hpublished,
    ofCrypto_eq_ok.mp hderived, ?_⟩
  split at h
  · next hwrap => cases h; exact ⟨rfl, Or.inl ⟨hwrap, rfl, rfl⟩⟩
  · next hwrap =>
    obtain ⟨wrapped, hwrapped, h⟩ := bind_eq_ok.mp h
    cases h
    exact ⟨rfl, Or.inr ⟨hwrap, rfl, ofCrypto_eq_ok.mp hwrapped⟩⟩

/-- Whoever opens for the recipient finds the secret of the sender. -/
theorem receive_sendByAgreement {k : CurveKey} {published : Jwk} {secret : Bytes}
    (halg : alg.family = .ellipticCurve) (hown : own.Opens (.ec k))
    (hsecret : (CurveKey.generate k.group e).agree k = .ok secret)
    (hpublished : Jwk.ofKey (.ec (CurveKey.generate k.group e)) none = .ok published)
    (encryptedKey : Bytes) :
    receive alg enc (.obj (put epk published.toJson members)) own encryptedKey =
      parties (.obj members) >>= fun p => received alg enc secret p.1 p.2 encryptedKey := by
  obtain ⟨-, -, x, y, hxy, -⟩ := Jwk.publicKey_ofKey hpublished
  have hpoint := CurveKey.point_of_coordinates? hxy
  cases own with
  | ec o =>
    obtain ⟨hcontains, hagree⟩ := hown e x y secret hpoint hsecret
    have hfound : (Key.ec o).agree
        (.ec { group := k.group, point := .affine x y, secret := none }) = .ok secret := hagree
    exact receive_of_ephemeral halg hpublished hpoint hcontains hfound encryptedKey
  | _ => exact hown.elim

/-- Both sides of an agreement derive the same key, and it unwraps the content key if it does not
count as one. -/
theorem delivers_sendByAgreement {k : CurveKey} {sent : Sent} (halg : alg.family = .ellipticCurve)
    (h : sendByAgreement alg enc k (.obj members) e = .ok sent) :
    Delivers sent alg enc (.ec k) members := by
  obtain ⟨secret, published, derivedKey, hsecret, hpublished, hderived, hheader, hways⟩ :=
    sendByAgreement_ok h
  refine ⟨⟨some published, ⟨halg, k, e.left, rfl, hpublished⟩, hheader⟩,
    fun hparties own hown => ?_⟩
  rw [hheader, receive_sendByAgreement halg hown hsecret hpublished, hparties halg]
  change received alg enc secret [] [] sent.encryptedKey = _
  rw [received, hderived]
  rcases hways with ⟨hwrap, hcontent, hempty⟩ | ⟨hwrap, hcontent, hwrapped⟩
  · rw [if_pos hwrap, hempty, hcontent]
    rfl
  · have hkey : sent.contentKey ≠ [] := by
      rw [hcontent]
      exact take_keySize_ne_nil enc _
    rw [if_neg hwrap]
    change decrypting (KeyWrap.unwrap derivedKey sent.encryptedKey) = _
    rw [KeyWrap.unwrap_wrap hkey hwrapped]
    rfl

/-- **Whichever way a content key is sent, it is received.** -/
theorem delivers_send {sent : Sent} (h : send alg enc recipient key (.obj members) e = .ok sent) :
    Delivers sent alg enc key members := by
  unfold send at h
  split at h
  · next k hfamily => exact delivers_sendByAgreement hfamily h
  · next k hfamily => exact delivers_sendByTransport hfamily h
  · cases h

/-- Parties that cannot be read keep the content key from everyone. -/
theorem receive_of_parties {sent : Sent} {fault : JoseFault}
    (h : send alg enc recipient key (.obj members) e = .ok sent) (hown : own.Opens key)
    (halg : alg.family = .ellipticCurve) (hparties : parties (.obj members) = .error fault) :
    receive alg enc sent.header own sent.encryptedKey = .error fault := by
  unfold send at h
  split at h
  · obtain ⟨secret, published, derivedKey, hsecret, hpublished, -, hheader, -⟩ :=
      sendByAgreement_ok h
    rw [hheader, receive_sendByAgreement halg hown hsecret hpublished, hparties]
    rfl
  · next hfamily => cases halg.symm.trans hfamily
  · cases h

/-! ### Tokens -/

theorem part_eq_ok {s b : Bytes} : part s = .ok b ↔ Base64Url.decode s = .ok b := by
  unfold part
  cases Base64Url.decode s <;> simp

theorem part_encode (b : Bytes) : part (Base64Url.encode b) = .ok b :=
  part_eq_ok.mpr (Base64Url.decode_encode b)

/-- A part writes a header if it is the base64url of an object. -/
theorem header_eq_ok {s : Bytes} {j : Json} : header s = .ok j ↔
    ∃ text members, Base64Url.decode s = .ok text ∧ parse? text = some (.obj members) ∧
      j = .obj members := by
  rw [header, bind_eq_ok]
  constructor
  · rintro ⟨text, htext, h⟩
    split at h
    · next members hparse =>
      cases h
      exact ⟨text, members, part_eq_ok.mp htext, hparse, rfl⟩
    · cases h
  · rintro ⟨text, members, htext, hparse, rfl⟩
    refine ⟨text, part_eq_ok.mpr htext, ?_⟩
    rw [hparse]
    rfl

theorem header_encode (h : parse? text = some (.obj members)) :
    header (Base64Url.encode text) = .ok (.obj members) :=
  header_eq_ok.mpr ⟨text, members, Base64Url.decode_encode text, h, rfl⟩

/-- The five parts are found again. -/
theorem splitOn_assemble (h k i c t : Bytes) :
    (assemble (Base64Url.encode h) k i c t).splitOn Jws.dot =
      [Base64Url.encode h, Base64Url.encode k, Base64Url.encode i, Base64Url.encode c,
        Base64Url.encode t] := by
  have hdot : ∀ b, Jws.dot ∉ Base64Url.encode b := Base64Url.encode_ne_dot
  rw [assemble, Jws.join, Bytes.splitOn_append_cons (hdot _), Jws.join,
    Bytes.splitOn_append_cons (hdot _), Jws.join, Bytes.splitOn_append_cons (hdot _), Jws.join,
    Bytes.splitOn_append_cons (hdot _), Bytes.splitOn_of_notMem (hdot _)]

/-- What stands in a token: what was sent for the content key, and the encrypted text. -/
theorem encrypt_ok (hkey : recipient.publicKey = .ok key)
    (h : encrypt alg enc recipient text (.obj members) e = .ok token) :
    fits alg key = true ∧ ∃ sent written ciphertext tag,
      send alg enc recipient key (.obj (named alg enc recipient members)) e.left = .ok sent ∧
      sent.header.dump = .ok written ∧
      enc.encrypt sent.contentKey (e.right.take enc.ivSize) (Base64Url.encode written) text =
        .ok (ciphertext, tag) ∧
      token = assemble (Base64Url.encode written) sent.encryptedKey (e.right.take enc.ivSize)
        ciphertext tag := by
  obtain ⟨key', hkey', h⟩ := bind_eq_ok.mp h
  rw [ofJose_eq_ok, hkey] at hkey'
  cases hkey'
  split at h
  case isFalse => cases h
  next hfits =>
  obtain ⟨named, hnamed, h⟩ := bind_eq_ok.mp h
  rw [name_obj] at hnamed
  cases hnamed
  obtain ⟨sent, hsent, h⟩ := bind_eq_ok.mp h
  obtain ⟨written, hwritten, h⟩ := bind_eq_ok.mp h
  obtain ⟨⟨ciphertext, tag⟩, hencrypted, h⟩ := bind_eq_ok.mp h
  cases h
  exact ⟨hfits, sent, written, ciphertext, tag, hsent, ofJson_eq_ok.mp hwritten,
    ofCrypto_eq_ok.mp hencrypted, rfl⟩

/-- Opens an encrypted text with the content key that was received. -/
def openWith (enc : ContentEncryption) (header : Json) (first iv ciphertext tag contentKey : Bytes) :
    Except JoseFault Opened :=
  if contentKey.length = enc.keySize then
    (decrypting (enc.decrypt contentKey iv first ciphertext tag)).map (Opened.mk header)
  else .error (.contentKeySize enc)

/-- The parts of a token are opened by what is received. -/
theorem decryptParts_eq (alg : JweAlgorithm) (enc : ContentEncryption) (header : Json) (key : Key)
    (first second third fourth fifth : Bytes) :
    decryptParts alg enc header key first second third fourth fifth =
      (do
        let encryptedKey ← part second
        let iv ← part third
        let ciphertext ← part fourth
        let tag ← part fifth
        receive alg enc header key encryptedKey >>=
          openWith enc header first iv ciphertext tag) := rfl

theorem decrypt_assemble {written encryptedKey iv ciphertext tag : Bytes}
    (hparsed : parse? written = some (.obj members)) (hnames : Names (.obj members) alg enc)
    (hfits : fits alg own = true) :
    decrypt (assemble (Base64Url.encode written) encryptedKey iv ciphertext tag) (some own) =
      receive alg enc (.obj members) own encryptedKey >>=
        openWith enc (.obj members) (Base64Url.encode written) iv ciphertext tag := by
  rw [decrypt, splitOn_assemble]
  simp only [header_encode hparsed, algorithms_of_names hnames, hfits, if_true, decryptParts_eq,
    part_encode, bind, Except.bind]

theorem names_withEphemeral {published : Option Jwk} :
    Names (.obj (withEphemeral published (named alg enc recipient members))) alg enc where
  alg := by rw [find?_withEphemeral_of_ne (by decide)]; exact names_named.alg
  enc := by rw [find?_withEphemeral_of_ne (by decide)]; exact names_named.enc

/-- A token that was made is opened by what is received. -/
theorem decrypt_of_encrypt (hplain : IsPlain (.obj members)) (hkey : recipient.publicKey = .ok key)
    (h : encrypt alg enc recipient text (.obj members) e = .ok token) (hown : own.Opens key) :
    ∃ sent published written ciphertext tag,
      send alg enc recipient key (.obj (named alg enc recipient members)) e.left = .ok sent ∧
      IsEphemeral alg key published ∧
      sent.header = .obj (withEphemeral published (named alg enc recipient members)) ∧
      enc.encrypt sent.contentKey (e.right.take enc.ivSize) (Base64Url.encode written) text =
        .ok (ciphertext, tag) ∧
      decrypt token (some own) = receive alg enc sent.header own sent.encryptedKey >>=
        openWith enc sent.header (Base64Url.encode written) (e.right.take enc.ivSize) ciphertext
          tag := by
  obtain ⟨hfits, sent, written, ciphertext, tag, hsent, hwritten, hencrypted, rfl⟩ :=
    encrypt_ok hkey h
  obtain ⟨⟨published, hpublished, hheader⟩, -⟩ := delivers_send hsent
  have hfitsOwn : fits alg own = true := by rw [fits, hown.family?]; exact hfits
  refine ⟨sent, published, written, ciphertext, tag, hsent, hpublished, hheader, hencrypted, ?_⟩
  rw [hheader] at hwritten ⊢
  exact decrypt_assemble (parse?_dump (hpublished.isPlain (isPlain_named hplain)) hwritten)
    names_withEphemeral hfitsOwn

/-- **A token opens for the holder of the private key**, under the header that it was made with: the
names of the algorithms and an ephemeral key are put into it. -/
theorem decrypt_encrypt (hplain : IsPlain (.obj members))
    (hparties : alg.family = .ellipticCurve → parties (.obj members) = .ok ([], []))
    (hkey : recipient.publicKey = .ok key)
    (h : encrypt alg enc recipient text (.obj members) e = .ok token) (hown : own.Opens key) :
    ∃ published, IsEphemeral alg key published ∧ decrypt token (some own) =
      .ok ⟨.obj (withEphemeral published (named alg enc recipient members)), text⟩ := by
  obtain ⟨sent, published, written, ciphertext, tag, hsent, hpublished, hheader, hencrypted,
    hdecrypt⟩ := decrypt_of_encrypt hplain hkey h hown
  have hreceived := (delivers_send hsent).receive
    (fun halg => parties_named.trans (hparties halg)) own hown
  have hcek : sent.contentKey.length = enc.keySize := by
    unfold ContentEncryption.encrypt at hencrypted
    dsimp only at hencrypted
    split at hencrypted
    · cases hencrypted
    · next hsizes => exact Classical.not_not.mp fun hne => hsizes (Or.inl hne)
  refine ⟨published, hpublished, ?_⟩
  rw [hdecrypt, hreceived, ← hheader]
  change openWith _ _ _ _ _ _ _ = _
  rw [openWith, if_pos hcek, ContentEncryption.decrypt_encrypt hencrypted]
  rfl

end Jwe
end WalletResponder
