import WalletResponder.Proofs.Crypto.Rsa.Powers
import WalletResponder.Proofs.Jose.Draws

/-!
# Headers that tokens are made with

Who encrypts a text may put members of their own into the header. Encrypting sets the names of the
algorithms, the identifier of the recipient's key and the ephemeral key, and leaves all others as
they are (`Jwe.Extends`).

**Two members are more than words.** The sender of a content key agrees on it without naming anyone,
while whoever receives it reads the parties off the header, where they may stand as `apu` and `apv`.
So an agreement that is announced with parties of its own fails, although its token was made:
nobody gets the content key (`Jwe.named_parties_lock_out`). Where no parties are named, and wherever
the content key is encrypted with RSA, the token opens under the whole header
(`Jwe.opens_under_extra_header`).
-/

namespace WalletResponder
namespace Jwe

open Json

variable {alg : JweAlgorithm} {enc : ContentEncryption} {recipient : Jwk} {key own : Key}
  {members : List (Bytes × Json)} {e : Entropy} {text token : Bytes}

/-- A header has all that encrypting puts into it, and else what it was made with. -/
structure Extends (header members : List (Bytes × Json)) (alg : JweAlgorithm)
    (enc : ContentEncryption) (recipient : Jwk) (published : Option Jwk) : Prop where
  alg : (obj header).find? (utf8 "alg") = some (.str alg.name)
  enc : (obj header).find? (utf8 "enc") = some (.str enc.name)
  kid : ∀ id ∈ recipient.keyId?, (obj header).find? (utf8 "kid") = some (.str id)
  epk : ∀ jwk ∈ published, (obj header).find? epk = some jwk.toJson
  rest : ∀ name, name ≠ utf8 "alg" → name ≠ utf8 "enc" →
    (name = utf8 "kid" → recipient.keyId? = none) → (name = Jwe.epk → published = none) →
      (obj header).find? name = (obj members).find? name

theorem extends_named {published : Option Jwk} :
    Extends (withEphemeral published (named alg enc recipient members)) members alg enc recipient
      published where
  alg := names_withEphemeral.alg
  enc := names_withEphemeral.enc
  kid id hid := by
    rw [find?_withEphemeral_of_ne (by decide), find?_named, if_pos ⟨rfl, by rw [hid]; rfl⟩, hid]
    rfl
  epk jwk hjwk := by
    rw [find?_withEphemeral, if_pos ⟨rfl, by rw [hjwk]; rfl⟩, hjwk]
    rfl
  rest name halg henc hkid hepk := by
    rw [find?_withEphemeral, if_neg, find?_named, if_neg, if_neg (Ne.symm henc),
      if_neg (Ne.symm halg)]
    · rintro ⟨rfl, hid⟩
      rw [hkid rfl] at hid
      cases hid
    · rintro ⟨rfl, hpublished⟩
      rw [hepk rfl] at hpublished
      cases hpublished

/-- **A token opens under the header that it was made with.** The recipient gets the text back, and
the header has all its members, with the names of the algorithms, the identifier of the recipient's
key and, for an agreement, a new key on the recipient's curve put into it. For an agreement this is
so where the header names no parties; where it names some that cannot be read, the token does not
open at all. -/
theorem opens_under_extra_header (hplain : IsPlain (.obj members))
    (hkey : recipient.publicKey = .ok key) (hown : own.Opens key)
    (h : encrypt alg enc recipient text (.obj members) e = .ok token) :
    (alg.family = .rsa ∨ parties (.obj members) = .ok ([], []) →
      ∃ published header, decrypt token (some own) = .ok ⟨.obj header, text⟩ ∧
        header = withEphemeral published (named alg enc recipient members) ∧
        IsEphemeral alg key published ∧ Extends header members alg enc recipient published) ∧
    ∀ fault, alg.family = .ellipticCurve → parties (.obj members) = .error fault →
      decrypt token (some own) = .error fault := by
  constructor
  · intro hways
    have hparties : alg.family = .ellipticCurve → parties (.obj members) = .ok ([], []) := by
      intro hagreement
      obtain htransport | hparties := hways
      · cases htransport.symm.trans hagreement
      · exact hparties
    obtain ⟨published, hpublished, hdecrypt⟩ := decrypt_encrypt hplain hparties hkey h hown
    exact ⟨published, _, hdecrypt, rfl, hpublished, extends_named⟩
  · intro fault hagreement hparties
    obtain ⟨sent, published, written, ciphertext, tag, hsent, -, -, -, hdecrypt⟩ :=
      decrypt_of_encrypt hplain hkey h hown
    rw [hdecrypt, receive_of_parties hsent hown hagreement (parties_named.trans hparties)]
    rfl

/-- Members that say something else of the algorithm, and name a party. -/
def mislabelled : List (Bytes × Json) :=
  [(utf8 "alg", .null), (utf8 "apu", .text "QWxpY2U"), (utf8 "cty", .text "JWT")]

/-- With an RSA key, what a header says of its algorithm is set right, and all else is kept. -/
theorem mislabelled_opens : ∃ token,
    encrypt .rsaOaep256 .a256gcm
        (Jwk.ofNumbers RsaKey.ofMersenne.modulus RsaKey.ofMersenne.publicExponent) (utf8 "inner")
        (.obj mislabelled) (fun _ => 0) = .ok token ∧
      decrypt token (some (.rsa .ofMersenne)) = .ok ⟨.obj [(utf8 "alg", .text "RSA-OAEP-256"),
        (utf8 "apu", .text "QWxpY2U"), (utf8 "cty", .text "JWT"), (utf8 "enc", .text "A256GCM")],
        utf8 "inner"⟩ := by
  obtain ⟨s, hpair⟩ := RsaKey.isPair_ofMersenne
  have hkey : (Jwk.ofNumbers RsaKey.ofMersenne.modulus
      RsaKey.ofMersenne.publicExponent).publicKey = .ok (.rsa RsaKey.ofMersenne.publicHalf) :=
    Jwk.publicKey_ofNumbers (by decide +kernel) (by decide +kernel)
  have hplain : IsPlain (.obj mislabelled) :=
    ⟨by unfold InOrder mislabelled; simp +decide, trivial, trivial, trivial, trivial⟩
  have hsendable : CanSend .rsaOaep256 .a256gcm (.rsa RsaKey.ofMersenne.publicHalf) :=
    ⟨rfl, hpair.canRaise, .sha256, rfl, by decide +kernel⟩
  obtain ⟨token, htoken⟩ := (exists_encrypt hkey (show (obj mislabelled).find? epk = none by decide)
    fun _ h => nomatch h).mpr ⟨hsendable, by decide +kernel⟩
  obtain ⟨hopens, -⟩ := opens_under_extra_header hplain hkey (Key.opens_rsa hpair) htoken
  obtain ⟨published, header, hdecrypt, hheader, hpublished, -⟩ := hopens (Or.inl rfl)
  cases published with
  | none => exact ⟨token, htoken, hdecrypt.trans (by rw [hheader]; rfl)⟩
  | some jwk => cases hpublished.1

/-! ### Parties that only one side knows of -/

/-- The key whose secret is one: its point is the generator. -/
def generatorKey : CurveKey := CurveKey.ofSecret NamedCurve.p256.group 1

/-- Its public half. -/
def generatorHalf : CurveKey where
  group := NamedCurve.p256.group
  point := .affine NamedCurve.p256.group.gx NamedCurve.p256.group.gy
  secret := none

/-- Its public half as a JSON Web Key. -/
def generatorJwk : Jwk := Jwk.ofPoint .p256 NamedCurve.p256.group.gx NamedCurve.p256.group.gy

/-- The secret that it agrees on with itself. -/
def generatorSecret : Bytes := Bytes.ofNat 32 NamedCurve.p256.group.gx

/-- Members that name two parties. -/
def namingBoth : List (Bytes × Json) :=
  [(utf8 "apu", .text "QWxpY2U"), (utf8 "apv", .text "Qm9i")]

/-- The header that is made of them where nothing but zeros is drawn. -/
def bothNamed : List (Bytes × Json) :=
  withEphemeral (some generatorJwk) (named .ecdhEs .a128cbcHs256 generatorJwk namingBoth)

/-- The content key of the sender, who names nobody. -/
def sendersKey : Bytes :=
  [0x7b, 0x8b, 0x45, 0x1a, 0xd4, 0x82, 0x97, 0x4e, 0x76, 0xbc, 0x8f, 0x2f, 0x3b, 0x0f, 0x82, 0x28,
   0x28, 0xad, 0x00, 0xc6, 0x7a, 0xf7, 0xbb, 0x75, 0xf8, 0xa6, 0x2b, 0x53, 0x79, 0xda, 0xd5, 0x99]

/-- The content key of the recipient, who reads two names. -/
def readersKey : Bytes :=
  [0x3f, 0x05, 0xf2, 0xfa, 0x01, 0x72, 0x56, 0x0e, 0xc1, 0xd8, 0xb1, 0xad, 0xb0, 0x50, 0x3f, 0x83,
   0x56, 0xc2, 0x5e, 0x41, 0x01, 0x58, 0xb5, 0xcb, 0x43, 0xa0, 0x70, 0xc5, 0x44, 0x5d, 0xdf, 0x43]

/-- The text that the sender encrypts. -/
def sentCiphertext : Bytes :=
  [0x3e, 0xcc, 0xa4, 0x1b, 0x7c, 0xd3, 0xf4, 0x65, 0xdd, 0x5c, 0x32, 0x54, 0x8f, 0x68, 0xc2, 0x22]

/-- The tag of the sender. -/
def sentTag : Bytes :=
  [0xb9, 0x81, 0x58, 0xde, 0x32, 0x60, 0x85, 0x68, 0xa6, 0xc2, 0xc3, 0x37, 0x72, 0x4c, 0xae, 0xdb]

/-- What the curve makes of the generator. Where nothing but zeros is drawn, its key is the
ephemeral key, too. -/
theorem generatorKey_spec :
    NamedCurve.p256.group.contains NamedCurve.p256.group.gx NamedCurve.p256.group.gy = true ∧
    generatorKey.point = .affine NamedCurve.p256.group.gx NamedCurve.p256.group.gy ∧
    CurveKey.generate NamedCurve.p256.group (fun _ => 0) = generatorKey ∧
    generatorKey.agree generatorHalf = .ok generatorSecret := by
  decide +kernel

/-- What both sides derive from the secret, and what comes of it. -/
theorem sides_spec :
    derived .ecdhEs .a128cbcHs256 generatorSecret [] [] = .ok sendersKey ∧
    derived .ecdhEs .a128cbcHs256 generatorSecret (utf8 "Alice") (utf8 "Bob") = .ok readersKey ∧
    ContentEncryption.a128cbcHs256.encrypt sendersKey (List.replicate 16 0)
      (Base64Url.encode (obj bothNamed).render) (utf8 "inner") = .ok (sentCiphertext, sentTag) ∧
    ContentEncryption.a128cbcHs256.decrypt readersKey (List.replicate 16 0)
      (Base64Url.encode (obj bothNamed).render) sentCiphertext sentTag = .error .cbcTag := by
  decide +kernel

theorem publicKey_generatorJwk : generatorJwk.publicKey = .ok (.ec generatorHalf) :=
  Jwk.publicKey_ofPoint generatorKey_spec.1

theorem publicHalf_generatorKey : (Key.ec generatorKey).publicHalf = .ok (.ec generatorHalf) := by
  obtain ⟨-, hpoint, -⟩ := generatorKey_spec
  rw [Key.publicHalf, CurveKey.publicHalf, hpoint]
  rfl

theorem ofKey_generate_zeros :
    Jwk.ofKey (.ec (CurveKey.generate NamedCurve.p256.group fun _ => 0)) none =
      .ok generatorJwk := by
  obtain ⟨-, hpoint, hgenerate, -⟩ := generatorKey_spec
  exact ofKey_generate ((congrArg CurveKey.point hgenerate).trans hpoint)

theorem ofKey_generatorKey : Jwk.ofKey (.ec generatorKey) none = .ok generatorJwk := by
  obtain ⟨-, -, hgenerate, -⟩ := generatorKey_spec
  rw [← hgenerate]
  exact ofKey_generate_zeros

/-- What is sent to the generator where nothing but zeros is drawn. -/
theorem send_zeros :
    send .ecdhEs .a128cbcHs256 generatorJwk (.ec generatorHalf)
      (.obj (named .ecdhEs .a128cbcHs256 generatorJwk namingBoth)) (fun _ => 0) =
    .ok ⟨sendersKey, [], .obj bothNamed⟩ := by
  obtain ⟨-, -, hgenerate, hagree⟩ := generatorKey_spec
  obtain ⟨hderived, -⟩ := sides_spec
  have hcurve : (Key.ec generatorHalf).namedCurve = .ok .p256 := by
    rw [Key.namedCurve, show generatorHalf.group = NamedCurve.p256.group from rfl,
      Key.ofGroup?_group]
  have hephemeral : CurveKey.generate NamedCurve.p256.group (Entropy.left fun _ => 0) =
      generatorKey := hgenerate
  change sendByAgreement .ecdhEs .a128cbcHs256 generatorHalf
    (.obj (named .ecdhEs .a128cbcHs256 generatorJwk namingBoth)) (fun _ => 0) = _
  simp only [sendByAgreement, hcurve, hephemeral, hagree, ofKey_generatorKey, hderived, ofCrypto,
    ofJson, assign_obj, bind, Except.bind]
  rfl

/-- What the holder of the key receives of it. -/
theorem receive_bothNamed :
    receive .ecdhEs .a128cbcHs256 (.obj bothNamed) (.ec generatorKey) [] = .ok readersKey := by
  obtain ⟨hcontains, hpoint, -, hagree⟩ := generatorKey_spec
  obtain ⟨-, hderived, -⟩ := sides_spec
  have hparties : parties (.obj namingBoth) = .ok (utf8 "Alice", utf8 "Bob") := by rfl
  have hsecret : (Key.ec generatorKey).agree (.ec generatorHalf) = .ok generatorSecret := hagree
  refine (receive_of_ephemeral (by rfl) ofKey_generatorKey hpoint hcontains hsecret []).trans ?_
  simp only [parties_named, hparties, bind, Except.bind, received, hderived, decrypting]
  rfl

/-- The token that is made where nothing but zeros is drawn. -/
def lockedToken : Bytes :=
  assemble (Base64Url.encode (obj bothNamed).render) [] (List.replicate 16 0) sentCiphertext sentTag

/-- **The parties of a header keep its token from the holder of the key that it was made for.** -/
theorem named_parties_lock_out :
    generatorJwk.publicKey = .ok (.ec generatorHalf) ∧
    (Key.ec generatorKey).publicHalf = .ok (.ec generatorHalf) ∧
    encrypt .ecdhEs .a128cbcHs256 generatorJwk (utf8 "inner") (.obj namingBoth) (fun _ => 0) =
      .ok lockedToken ∧
    decrypt lockedToken (some (.ec generatorKey)) = .error (.decryption .cbcTag) := by
  obtain ⟨-, -, hencrypt, hdecrypt⟩ := sides_spec
  have htext : (obj bothNamed).isText = true :=
    (isText_put (by decide) (by decide) (isText_ofPoint _ _ _)).trans
      ((isText_named (by decide)).mpr fun _ h => nomatch h)
  have hwritten : (obj bothNamed).dump = .ok (obj bothNamed).render := dump_eq_ok.mpr ⟨htext, rfl⟩
  refine ⟨publicKey_generatorJwk, publicHalf_generatorKey, ?_, ?_⟩
  · have hfits : fits .ecdhEs (.ec generatorHalf) = true := rfl
    have hsent : send .ecdhEs .a128cbcHs256 generatorJwk (.ec generatorHalf)
        (.obj (named .ecdhEs .a128cbcHs256 generatorJwk namingBoth)) (Entropy.left fun _ => 0) =
        .ok ⟨sendersKey, [], .obj bothNamed⟩ := send_zeros
    have hencrypted : ContentEncryption.a128cbcHs256.encrypt sendersKey
        ((Entropy.right fun _ => 0).take ContentEncryption.a128cbcHs256.ivSize)
        (Base64Url.encode (obj bothNamed).render) (utf8 "inner") =
        .ok (sentCiphertext, sentTag) := hencrypt
    simp only [encrypt, publicKey_generatorJwk, ofJose, bind, Except.bind, hfits, if_true, name_obj,
      ofJson, hsent, hwritten, hencrypted, ofCrypto]
    rfl
  · have hplain : IsPlain (.obj namingBoth) :=
      ⟨by unfold InOrder namingBoth; simp +decide, trivial, trivial, trivial⟩
    have hephemeral : IsEphemeral .ecdhEs (.ec generatorHalf) (some generatorJwk) :=
      ⟨rfl, generatorHalf, fun _ => 0, rfl, ofKey_generate_zeros⟩
    have hparsed : parse? (obj bothNamed).render = some (.obj bothNamed) :=
      parse?_dump (hephemeral.isPlain (isPlain_named hplain)) hwritten
    have hnames : Names (.obj bothNamed) .ecdhEs .a128cbcHs256 := names_withEphemeral
    have hfits : fits .ecdhEs (.ec generatorKey) = true := rfl
    have hsize : readersKey.length = ContentEncryption.a128cbcHs256.keySize := by decide
    rw [lockedToken, decrypt_assemble hparsed hnames hfits, receive_bothNamed]
    simp only [bind, Except.bind, openWith, hsize, if_true, hdecrypt, decrypting,
      Except.map]

end Jwe
end WalletResponder
