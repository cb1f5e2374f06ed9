import WalletResponder.Proofs.Jose.Jwk

/-!
# Public keys and their JSON form

A public key is written and read back as it was, with any identifier
(`Jwk.public_keys_survive`). The coordinates of a point are written with the width of its curve,
whatever zeros they begin with, and the numbers of an RSA key without a leading zero byte
(`Jwk.IsCanonical`).

What is read may have another form: numbers with leading zeros, base64url with bits that no byte
uses, members that mean nothing. The key that it describes is written in the canonical form again.
An RSA key with a number zero can be read as well, but is not written in a way that can be read:
zero has no bytes.
-/

namespace WalletResponder

/-- A public key of a kind that has a JSON form: an RSA key with positive numbers, a point of a
named curve, or the bytes of an Ed25519 key. -/
inductive Key.IsPublic : Key → Prop
  | rsa {n e : Nat} (hn : n ≠ 0) (he : e ≠ 0) :
    IsPublic (.rsa { modulus := n, publicExponent := e, secret := none })
  | ec {c : NamedCurve} {x y : Nat} (h : c.group.contains x y = true) :
    IsPublic (.ec { group := c.group, point := .affine x y, secret := none })
  | ed25519 {point : Bytes} (h : point.length = 32) : IsPublic (.ed25519 ⟨point, none⟩)

namespace Jwk

variable {k : Jwk} {name : Bytes} {keyId : Option Bytes} {key : Key}

/-- A member writes a number in so many bytes. -/
def HasWidth (k : Jwk) (name : Bytes) (width v : Nat) : Prop :=
  ∃ b, k.requiredBytes name = .ok b ∧ b.length = width ∧ Bytes.toNat b = v

/-- A member writes a number without a leading zero byte. -/
def IsShortest (k : Jwk) (name : Bytes) (v : Nat) : Prop :=
  ∃ b, k.requiredBytes name = .ok b ∧ b.head? ≠ some 0 ∧ Bytes.toNat b = v

/-- The form in which a key is written: coordinates have the width of the curve, numbers no leading
zero byte. -/
def IsCanonical (k : Jwk) : Key → Prop
  | .rsa r => k.IsShortest (utf8 "n") r.modulus ∧ k.IsShortest (utf8 "e") r.publicExponent
  | .ec o => ∃ (c : NamedCurve) (x y : Nat), o.group = c.group ∧ o.point = .affine x y ∧
      k.HasWidth (utf8 "x") c.coordinateSize x ∧ k.HasWidth (utf8 "y") c.coordinateSize y
  | .ed25519 t => k.requiredBytes (utf8 "x") = .ok t.point
  | _ => False

/-! ### Identifiers -/

/-- A key with an identifier, if there is one. -/
def withKeyId (k : Jwk) : Option Bytes → Jwk
  | none => k
  | some id => ⟨Json.put (utf8 "kid") (.str id) k.members⟩

theorem ofKey_eq {members : List (Bytes × Json)} (h : describe key = .ok members) :
    ofKey key keyId = .ok (withKeyId ⟨members⟩ keyId) := by
  rw [ofKey, h]
  cases keyId <;> rfl

/-- An identifier changes no other member. -/
theorem text?_withKeyId (h : name ≠ utf8 "kid") :
    (k.withKeyId keyId).text? name = k.text? name := by
  cases keyId with
  | none => rfl
  | some id =>
    rw [withKeyId, text?, toJson, Json.find?_put, if_neg (Ne.symm h)]
    rfl

theorem keyId?_withKeyId (h : k.keyId? = none) : (k.withKeyId keyId).keyId? = keyId := by
  cases keyId with
  | none => exact h
  | some id =>
    rw [withKeyId, keyId?, text?, toJson, Json.find?_put, if_pos rfl]
    rfl

theorem required_withKeyId (h : name ≠ utf8 "kid") :
    (k.withKeyId keyId).required name = k.required name := by
  rw [required, text?_withKeyId h, required]

theorem requiredBytes_withKeyId (h : name ≠ utf8 "kid") :
    (k.withKeyId keyId).requiredBytes name = k.requiredBytes name := by
  rw [requiredBytes, required_withKeyId h, requiredBytes]

theorem requiredNumber_withKeyId (h : name ≠ utf8 "kid") :
    (k.withKeyId keyId).requiredNumber name = k.requiredNumber name := by
  rw [requiredNumber, requiredBytes_withKeyId h, requiredNumber]

/-- **The key that is described does not depend on the identifier.** -/
theorem publicKey_withKeyId : (k.withKeyId keyId).publicKey = k.publicKey := by
  have htype : (k.withKeyId keyId).keyType = k.keyType := by
    rw [keyType, text?_withKeyId (by decide), keyType]
  have hrsa : (k.withKeyId keyId).rsaKey = k.rsaKey := by
    rw [rsaKey, requiredNumber_withKeyId (by decide), requiredNumber_withKeyId (by decide), rsaKey]
  have hcurve : (k.withKeyId keyId).curveKey = k.curveKey := by
    rw [curveKey, required_withKeyId (by decide), requiredBytes_withKeyId (by decide),
      requiredBytes_withKeyId (by decide), curveKey]
  have hsignature : (k.withKeyId keyId).signatureKey = k.signatureKey := by
    rw [signatureKey, required_withKeyId (by decide), requiredBytes_withKeyId (by decide),
      signatureKey]
  rw [publicKey, htype, hrsa, hcurve, hsignature, publicKey]

theorem isCanonical_withKeyId : (k.withKeyId keyId).IsCanonical key ↔ k.IsCanonical key := by
  cases key <;>
    simp (disch := decide) only [IsCanonical, HasWidth, IsShortest, requiredBytes_withKeyId]

/-! ### Writing -/

theorem hasWidth_of_text? {width v : Nat}
    (h : k.text? name = some (Base64Url.encode (Bytes.ofNat width v))) (hv : v < 256 ^ width) :
    k.HasWidth name width v :=
  ⟨_, requiredBytes_of_text? h, Bytes.length_ofNat width v, Bytes.toNat_ofNat_of_lt hv⟩

theorem isShortest_of_text? {v : Nat}
    (h : k.text? name = some (Base64Url.encode (Bytes.ofNatMin v))) : k.IsShortest name v :=
  ⟨_, requiredBytes_of_text? h, Bytes.head?_ofNatMin v, Bytes.toNat_ofNat_of_lt (Bytes.lt_width v)⟩

/-- The members for an Ed25519 key. -/
def ofTwisted (point : Bytes) : Jwk :=
  ⟨[(utf8 "crv", .text "Ed25519"), (utf8 "kty", .text "OKP"), (utf8 "x", number point)]⟩

/-- **The bytes of an Ed25519 key survive its JSON form.** -/
theorem publicKey_ofTwisted {point : Bytes} (h : point.length = 32) :
    (ofTwisted point).publicKey = .ok (.ed25519 ⟨point, none⟩) := by
  have htype : (ofTwisted point).keyType = utf8 "OKP" := rfl
  have hcrv : (ofTwisted point).required (utf8 "crv") = .ok (utf8 "Ed25519") := rfl
  have hx : (ofTwisted point).requiredBytes (utf8 "x") = .ok point := requiredBytes_of_text? rfl
  have hkey : (ofTwisted point).signatureKey = .ok ⟨point, none⟩ := by
    rw [signatureKey, hcrv, hx]
    simp only [bind, Except.bind, ne_eq, not_true_eq_false, if_false, h, if_true]
    rfl
  have hrsa : ¬ (utf8 "OKP" = utf8 "RSA") := by decide
  have hec : ¬ (utf8 "OKP" = utf8 "EC") := by decide
  rw [publicKey, htype, if_neg hrsa, if_neg hec, if_pos rfl, hkey]
  rfl

/-- The form of a key, without an identifier: it describes the key, and reads back with any
identifier. -/
structure IsFormOf (k : Jwk) (key : Key) : Prop where
  describes : describe key = .ok k.members
  publicKey : k.publicKey = .ok key
  keyId : k.keyId? = none
  canonical : k.IsCanonical key
  readsBack : ∀ keyId, ofJson (k.withKeyId keyId).toJson = .ok (k.withKeyId keyId)

theorem isFormOf_ofNumbers {n e : Nat} (hn : n ≠ 0) (he : e ≠ 0) :
    (ofNumbers n e).IsFormOf (.rsa { modulus := n, publicExponent := e, secret := none }) where
  describes := rfl
  publicKey := publicKey_ofNumbers hn he
  keyId := rfl
  canonical := ⟨isShortest_of_text? rfl, isShortest_of_text? rfl⟩
  readsBack keyId := by cases keyId <;> rfl

theorem isFormOf_ofPoint {c : NamedCurve} {x y : Nat} (h : c.group.contains x y = true) :
    (ofPoint c x y).IsFormOf
      (.ec { group := c.group, point := .affine x y, secret := none }) where
  describes := by
    simp only [describe, Key.namedCurve, Key.ofGroup?_group]
    rfl
  publicKey := publicKey_ofPoint h
  keyId := rfl
  canonical := by
    obtain ⟨hx, hy⟩ := NamedCurve.lt_of_contains h
    exact ⟨c, x, y, rfl, rfl, hasWidth_of_text? rfl hx, hasWidth_of_text? rfl hy⟩
  readsBack keyId := by cases keyId <;> rfl

theorem isFormOf_ofTwisted {point : Bytes} (h : point.length = 32) :
    (ofTwisted point).IsFormOf (.ed25519 ⟨point, none⟩) where
  describes := rfl
  publicKey := publicKey_ofTwisted h
  keyId := rfl
  canonical := requiredBytes_of_text? rfl
  readsBack keyId := by cases keyId <;> rfl

/-- **A public key of a kind that has a form has one.** -/
theorem exists_form (h : key.IsPublic) : ∃ k : Jwk, k.IsFormOf key := by
  cases h with
  | rsa hn he => exact ⟨_, isFormOf_ofNumbers hn he⟩
  | ec hcontains => exact ⟨_, isFormOf_ofPoint hcontains⟩
  | ed25519 hlen => exact ⟨_, isFormOf_ofTwisted hlen⟩

/-! ### Reading -/

/-- **A key that is described is a public key of a kind that has a form**, unless it is an RSA key
with a number zero. -/
theorem isPublic_of_publicKey (h : k.publicKey = .ok key) :
    key.IsPublic ∨ ∃ n e, key = .rsa { modulus := n, publicExponent := e, secret := none } ∧
      (n = 0 ∨ e = 0) := by
  rw [publicKey] at h
  split at h
  · obtain ⟨r, hr, rfl⟩ := map_eq_ok.mp h
    obtain ⟨n, -, hr⟩ := bind_eq_ok.mp hr
    obtain ⟨e, -, hr⟩ := bind_eq_ok.mp hr
    cases hr
    by_cases hzero : n = 0 ∨ e = 0
    · exact .inr ⟨n, e, rfl, hzero⟩
    · obtain ⟨hn, he⟩ := not_or.mp hzero
      exact .inl (.rsa hn he)
  split at h
  · obtain ⟨o, ho, rfl⟩ := map_eq_ok.mp h
    obtain ⟨crv, -, ho⟩ := bind_eq_ok.mp ho
    split at ho
    · cases ho
    obtain ⟨x, -, ho⟩ := bind_eq_ok.mp ho
    obtain ⟨y, -, ho⟩ := bind_eq_ok.mp ho
    split at ho
    · cases ho
    split at ho
    · next hcontains =>
      cases ho
      exact .inl (.ec hcontains)
    · cases ho
  split at h
  · obtain ⟨t, ht, rfl⟩ := map_eq_ok.mp h
    obtain ⟨crv, -, ht⟩ := bind_eq_ok.mp ht
    split at ht
    · cases ht
    obtain ⟨x, -, ht⟩ := bind_eq_ok.mp ht
    split at ht
    · next hlen =>
      cases ht
      exact .inl (.ed25519 hlen)
    · cases ht
  · cases h

/-- A key on a curve that is described in JSON is on a named one. -/
theorem namedCurve_of_publicKey {c : CurveKey} (h : k.publicKey = .ok (.ec c)) :
    ∃ n, (Key.ec c).namedCurve = .ok n := by
  obtain hpublic | ⟨_, _, hrsa, -⟩ := isPublic_of_publicKey h
  · cases hpublic with
    | @ec n => exact ⟨n, by rw [Key.namedCurve, Key.ofGroup?_group]⟩
  · cases hrsa

/-- **A public key survives its JSON form.** -/
theorem ofKey_of_isPublic (h : key.IsPublic) (keyId : Option Bytes) :
    ∃ written : Jwk, ofKey key keyId = .ok written ∧ written.publicKey = .ok key ∧
      written.keyId? = keyId ∧ written.IsCanonical key ∧ ofJson written.toJson = .ok written := by
  obtain ⟨k, hform⟩ := exists_form h
  have hpublic : (k.withKeyId keyId).publicKey = .ok key :=
    publicKey_withKeyId.trans hform.publicKey
  exact ⟨k.withKeyId keyId, ofKey_eq hform.describes, hpublic, keyId?_withKeyId hform.keyId,
    isCanonical_withKeyId.mpr hform.canonical, hform.readsBack keyId⟩

/-- **Public keys survive their JSON form.** A public key of a kind that has a form is written with
any identifier, and is read back as it was, from its canonical form. What any JSON text describes is
such a key, unless it is an RSA key with a number zero; so it is written in the canonical form, and
the key of that is the same again. -/
theorem public_keys_survive :
    (∀ key keyId, Key.IsPublic key →
      ∃ written : Jwk, ofKey key keyId = .ok written ∧ written.publicKey = .ok key ∧
        written.keyId? = keyId ∧ written.IsCanonical key ∧
        ofJson written.toJson = .ok written) ∧
    ∀ j read key, ofJson j = .ok read → read.publicKey = .ok key →
      (∃ n e, key = .rsa { modulus := n, publicExponent := e, secret := none } ∧ (n = 0 ∨ e = 0)) ∨
      ∃ again : Jwk, ofKey key none = .ok again ∧ again.publicKey = .ok key ∧
        again.IsCanonical key ∧ ofJson again.toJson = .ok again := by
  refine ⟨fun key keyId hkey => ofKey_of_isPublic hkey keyId, fun j read key _ hdescribed => ?_⟩
  obtain hkey | hzero := isPublic_of_publicKey hdescribed
  · obtain ⟨again, hwritten, hpublic, -, hcanonical, hread⟩ := ofKey_of_isPublic hkey none
    exact .inr ⟨again, hwritten, hpublic, hcanonical, hread⟩
  · exact .inl hzero

/-- The generator of the widest curve. Its first coordinate begins with a zero byte. -/
def widestGenerator : Key :=
  .ec { group := NamedCurve.p521.group
        point := .affine NamedCurve.p521.group.gx NamedCurve.p521.group.gy
        secret := none }

/-- An RSA key with a zero byte before each number. -/
def paddedNumbers : Jwk :=
  ⟨[(utf8 "e", .text "AAM"), (utf8 "kty", .text "RSA"), (utf8 "n", .text "AA8")]⟩

/-- A coordinate keeps its zeros, numbers lose theirs. -/
theorem padded_keys_survive :
    (∃ written : Jwk, ofKey widestGenerator (some (utf8 "k")) = .ok written ∧
      written.publicKey = .ok widestGenerator ∧ written.keyId? = some (utf8 "k") ∧
      written.IsCanonical widestGenerator ∧ ofJson written.toJson = .ok written) ∧
    ofJson paddedNumbers.toJson = .ok paddedNumbers ∧
    ∃ key, paddedNumbers.publicKey = .ok key ∧
      ∃ again : Jwk, ofKey key none = .ok again ∧ again.publicKey = .ok key ∧
        again.IsCanonical key ∧ ofJson again.toJson = .ok again := by
  have hcontains : NamedCurve.p521.group.contains NamedCurve.p521.group.gx
      NamedCurve.p521.group.gy = true := by decide +kernel
  have hread : ofJson paddedNumbers.toJson = .ok paddedNumbers := rfl
  have hdescribed : paddedNumbers.publicKey =
      .ok (.rsa { modulus := 15, publicExponent := 3, secret := none }) := rfl
  refine ⟨public_keys_survive.1 _ _ (.ec hcontains), hread, _, hdescribed, ?_⟩
  refine (public_keys_survive.2 _ _ _ hread hdescribed).resolve_left ?_
  rintro ⟨n, e, hkey, hzero⟩
  cases hkey
  simp at hzero

end Jwk
end WalletResponder
