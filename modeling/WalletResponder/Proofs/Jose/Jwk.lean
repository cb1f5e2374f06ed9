import WalletResponder.Jose.Jwk
import WalletResponder.Proofs.Bytes.Numbers
import WalletResponder.Proofs.Json.RoundTrip
import WalletResponder.Proofs.Key.Pairs
import WalletResponder.Proofs.Text.Base64Url

/-!
# Reading keys back

The public half of a key on a curve survives its JSON form, if its point is on the curve
(`Jwk.publicKey_ofKey`): the coordinates are written with the width of the curve, which has room for
every element of the field.
-/

namespace WalletResponder

namespace NamedCurve

theorem ofName?_name (c : NamedCurve) : ofName? c.name = some c := by
  cases c <;> rfl

/-- The prime of the field of a named curve. -/
def prime : NamedCurve → Nat
  | p256 => 2 ^ 256 - 2 ^ 224 + 2 ^ 192 + 2 ^ 96 - 1
  | p384 => 2 ^ 384 - 2 ^ 128 - 2 ^ 96 + 2 ^ 32 - 1
  | p521 => 2 ^ 521 - 1

theorem field_group (c : NamedCurve) : c.group.field = .prime c.prime := by
  cases c <;> decide +kernel

theorem prime_le (c : NamedCurve) : c.prime ≤ 256 ^ c.coordinateSize := by
  cases c <;> decide +kernel

/-- A coordinate fits in the width of the curve. -/
theorem lt_of_contains {c : NamedCurve} {x y : Nat} (h : c.group.contains x y = true) :
    x < 256 ^ c.coordinateSize ∧ y < 256 ^ c.coordinateSize := by
  simp only [Group.contains, field_group, Bool.and_eq_true, CoordinateField.contains,
    decide_eq_true_eq] at h
  exact ⟨Nat.lt_of_lt_of_le h.1.1 c.prime_le, Nat.lt_of_lt_of_le h.1.2 c.prime_le⟩

end NamedCurve

theorem CurveKey.point_of_coordinates? {k : CurveKey} {x y : Nat}
    (h : k.coordinates? = some (x, y)) : k.point = .affine x y := by
  unfold CurveKey.coordinates? at h
  split at h
  · cases h
  · next x' y' hpoint =>
    split at h
    · cases h; exact hpoint
    · cases h

namespace Jwk

/-- What a member writes as bytes is read as these bytes. -/
theorem requiredBytes_of_text? {k : Jwk} {name b : Bytes}
    (h : k.text? name = some (Base64Url.encode b)) : k.requiredBytes name = .ok b := by
  rw [requiredBytes, required, h]
  simp only [bind, Except.bind, Base64Url.decode_encode]
  rfl

/-- The members for a point of a named curve. -/
def ofPoint (c : NamedCurve) (x y : Nat) : Jwk :=
  ⟨[(utf8 "crv", .str c.name), (utf8 "kty", .text "EC"),
    (utf8 "x", number (Bytes.ofNat c.coordinateSize x)),
    (utf8 "y", number (Bytes.ofNat c.coordinateSize y))]⟩

theorem ofKey_ec {k : CurveKey} {published : Jwk} (h : ofKey (.ec k) none = .ok published) :
    ∃ c x y, (Key.ec k).namedCurve = .ok c ∧ k.coordinates? = some (x, y) ∧
      published = ofPoint c x y := by
  obtain ⟨members, hmembers, rfl⟩ := map_eq_ok.mp h
  unfold describe at hmembers
  dsimp only at hmembers
  split at hmembers
  · cases hmembers
  · next c hc =>
    split at hmembers
    · cases hmembers
    · next x y hxy =>
      cases hmembers
      exact ⟨c, x, y, hc, hxy, rfl⟩

theorem isPlain_ofPoint (c : NamedCurve) (x y : Nat) : (ofPoint c x y).toJson.IsPlain := by
  rw [toJson, ofPoint, Json.IsPlain]
  refine ⟨by unfold Json.InOrder; simp +decide, ?_⟩
  simp [Json.MembersArePlain, Json.IsPlain, number, Json.text]

/-- No member of a point is dropped when it is read. -/
theorem ofJson_ofPoint (c : NamedCurve) (x y : Nat) :
    ofJson (ofPoint c x y).toJson = .ok (ofPoint c x y) := rfl

/-- **A point of the curve reads back as a key.** -/
theorem publicKey_ofPoint {c : NamedCurve} {x y : Nat} (h : c.group.contains x y = true) :
    (ofPoint c x y).publicKey =
      .ok (.ec { group := c.group, point := .affine x y, secret := none }) := by
  obtain ⟨hx, hy⟩ := NamedCurve.lt_of_contains h
  have htype : (ofPoint c x y).keyType = utf8 "EC" := rfl
  have hcrv : (ofPoint c x y).required (utf8 "crv") = .ok c.name := rfl
  have hbytesX : (ofPoint c x y).requiredBytes (utf8 "x") =
      .ok (Bytes.ofNat c.coordinateSize x) := requiredBytes_of_text? rfl
  have hbytesY : (ofPoint c x y).requiredBytes (utf8 "y") =
      .ok (Bytes.ofNat c.coordinateSize y) := requiredBytes_of_text? rfl
  have hcurve : (ofPoint c x y).curveKey =
      .ok { group := c.group, point := .affine x y, secret := none } := by
    simp only [curveKey, hcrv, hbytesX, hbytesY, bind, Except.bind, NamedCurve.ofName?_name,
      Bytes.length_ofNat, ne_eq, not_true_eq_false, or_self, if_false, Bytes.toNat_ofNat,
      Nat.mod_eq_of_lt hx, Nat.mod_eq_of_lt hy, h, if_true]
    rfl
  have hne : ¬ (utf8 "EC" = utf8 "RSA") := by decide
  rw [publicKey, htype, if_neg hne, if_pos rfl, hcurve]
  rfl

/-- **The public half of a key on a curve survives its JSON form.** -/
theorem publicKey_ofKey {k : CurveKey} {published : Jwk} (h : ofKey (.ec k) none = .ok published) :
    ofJson published.toJson = .ok published ∧ published.toJson.IsPlain ∧
      ∃ x y, k.coordinates? = some (x, y) ∧ (k.group.contains x y = true →
        published.publicKey =
          .ok (.ec { group := k.group, point := .affine x y, secret := none })) := by
  obtain ⟨c, x, y, hc, hxy, rfl⟩ := ofKey_ec h
  refine ⟨ofJson_ofPoint c x y, isPlain_ofPoint c x y, x, y, hxy, fun hcontains => ?_⟩
  rw [← Key.namedCurve_ec hc] at hcontains ⊢
  exact publicKey_ofPoint hcontains

/-- The members for an RSA key. -/
def ofNumbers (n e : Nat) : Jwk :=
  ⟨[(utf8 "e", number (Bytes.ofNatMin e)), (utf8 "kty", .text "RSA"),
    (utf8 "n", number (Bytes.ofNatMin n))]⟩

/-- **The public half of an RSA key survives its JSON form.** -/
theorem publicKey_ofNumbers {n e : Nat} (hn : n ≠ 0) (he : e ≠ 0) :
    (ofNumbers n e).publicKey =
      .ok (.rsa { modulus := n, publicExponent := e, secret := none }) := by
  have hnumber : ∀ {name : Bytes} {v : Nat}, v ≠ 0 → (ofNumbers n e).text? name =
      some (Base64Url.encode (Bytes.ofNatMin v)) →
        (ofNumbers n e).requiredNumber name = .ok v := by
    intro name v hv htext
    have hempty : (Bytes.ofNatMin v).isEmpty = false := by
      have hlen := Bytes.length_ofNat (Bytes.width v) v
      have hwidth : Bytes.width v ≠ 0 := by rw [Bytes.width, if_neg hv]; omega
      rw [Bytes.ofNatMin, List.isEmpty_eq_false_iff]
      intro hnil
      rw [hnil] at hlen
      exact hwidth hlen.symm
    rw [requiredNumber, requiredBytes_of_text? htext]
    simp only [bind, Except.bind, pure, Except.pure, hempty]
    rw [Bytes.ofNatMin, Bytes.toNat_ofNat_of_lt (Bytes.lt_width v)]
    rfl
  have htype : (ofNumbers n e).keyType = utf8 "RSA" := rfl
  rw [publicKey, htype, if_pos rfl, rsaKey, hnumber hn rfl, hnumber he rfl]
  rfl

end Jwk
end WalletResponder
