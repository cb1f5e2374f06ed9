import WalletResponder.Proofs.Jose.Decryption

/-!
# Keys that describe nothing

A key that a verifier sends may have the right type and still describe no public key. `Jwk.Lacks`
lists what can be wrong with it: a member is missing, or written badly, or empty; the curve is not
known; a coordinate has not the width of the curve; the point is not on it. There is nothing else
(`Jwk.publicKey_isOk_or_lacks`), and a key with one of these defects is not described
(`Jwk.Lacks.publicKey_ne_ok`), whatever its other members are.
-/

namespace WalletResponder

namespace KeyFamily

/-- The members that write the numbers of a key. -/
def numbers : KeyFamily → List Bytes
  | ellipticCurve => [utf8 "x", utf8 "y"]
  | rsa => [utf8 "n", utf8 "e"]

/-- The members that a key of a family needs. -/
def members : KeyFamily → List Bytes
  | ellipticCurve => utf8 "crv" :: ellipticCurve.numbers
  | rsa => rsa.numbers

theorem members_of_numbers {family : KeyFamily} {name : Bytes} (h : name ∈ family.numbers) :
    name ∈ family.members := by
  cases family with
  | ellipticCurve => exact List.mem_cons_of_mem _ h
  | rsa => exact h

end KeyFamily

theorem NamedCurve.ofName?_eq_some {name : Bytes} {c : NamedCurve} :
    NamedCurve.ofName? name = some c ↔ c.name = name := by
  constructor
  · intro h
    simpa using List.find?_some h
  · rintro rfl
    exact c.ofName?_name

namespace Jwk

variable {k : Jwk} {name : Bytes}

/-- What is wrong with the members of a key, if it has the type of a family. -/
inductive Lacks (k : Jwk) : KeyFamily → Prop
  /-- A member is missing or no text. -/
  | member {family : KeyFamily} {name : Bytes} (hname : name ∈ family.members)
      (h : k.text? name = none) : Lacks k family
  /-- A number is not in base64url. -/
  | encoding {family : KeyFamily} {name s : Bytes} {fault : Base64Url.Fault}
      (hname : name ∈ family.numbers) (h : k.text? name = some s)
      (hs : Base64Url.decode s = .error fault) : Lacks k family
  /-- A number of an RSA key has no bytes. -/
  | bytes {name s : Bytes} (hname : name ∈ KeyFamily.rsa.numbers) (h : k.text? name = some s)
      (hs : Base64Url.decode s = .ok []) : Lacks k .rsa
  /-- The curve is not known. -/
  | curve {name : Bytes} (h : k.text? (utf8 "crv") = some name)
      (hname : NamedCurve.ofName? name = none) : Lacks k .ellipticCurve
  /-- A coordinate has not the width of the curve. -/
  | width {c : NamedCurve} {name b : Bytes} (hname : name ∈ KeyFamily.ellipticCurve.numbers)
      (hcurve : k.text? (utf8 "crv") = some c.name) (hb : k.requiredBytes name = .ok b)
      (hwidth : b.length ≠ c.coordinateSize) : Lacks k .ellipticCurve
  /-- The point is not on the curve. -/
  | point {c : NamedCurve} {x y : Bytes} (hcurve : k.text? (utf8 "crv") = some c.name)
      (hx : k.requiredBytes (utf8 "x") = .ok x) (hy : k.requiredBytes (utf8 "y") = .ok y)
      (h : c.group.contains (Bytes.toNat x) (Bytes.toNat y) = false) : Lacks k .ellipticCurve

/-! ### Members -/

theorem required_eq_ok {s : Bytes} : k.required name = .ok s ↔ k.text? name = some s := by
  unfold required
  cases k.text? name <;> simp

theorem requiredBytes_eq_ok {b : Bytes} : k.requiredBytes name = .ok b ↔
    ∃ s, k.text? name = some s ∧ Base64Url.decode s = .ok b := by
  rw [requiredBytes, bind_eq_ok]
  refine exists_congr fun s => and_congr required_eq_ok ?_
  cases Base64Url.decode s with
  | error fault => exact iff_of_false (by rintro ⟨⟩) (by rintro ⟨⟩)
  | ok b' => simp [pure, Except.pure]

theorem requiredNumber_eq_ok {v : Nat} : k.requiredNumber name = .ok v ↔
    ∃ b, k.requiredBytes name = .ok b ∧ b ≠ [] ∧ Bytes.toNat b = v := by
  rw [requiredNumber, bind_eq_ok]
  refine exists_congr fun b => and_congr_right fun _ => ?_
  cases b with
  | nil => exact iff_of_false (by rintro ⟨⟩) fun h => h.1 rfl
  | cons x rest => simp [pure, Except.pure]

/-- The bytes of a number can be had, unless the member is missing or written badly. -/
theorem requiredBytes_or_lacks {family : KeyFamily} (hname : name ∈ family.numbers) :
    (∃ b, k.requiredBytes name = .ok b) ∨ k.Lacks family := by
  cases htext : k.text? name with
  | none => exact .inr (.member (family.members_of_numbers hname) htext)
  | some s =>
    cases hs : Base64Url.decode s with
    | error fault => exact .inr (.encoding hname htext hs)
    | ok b => exact .inl ⟨b, requiredBytes_eq_ok.mpr ⟨s, htext, hs⟩⟩

/-- A number can be had, unless it is missing, written badly or empty. -/
theorem requiredNumber_or_lacks (hname : name ∈ KeyFamily.rsa.numbers) :
    (∃ v, k.requiredNumber name = .ok v) ∨ k.Lacks .rsa := by
  refine (requiredBytes_or_lacks hname).elim (fun ⟨b, hb⟩ => ?_) .inr
  by_cases hempty : b = []
  · obtain ⟨s, htext, hs⟩ := requiredBytes_eq_ok.mp hb
    exact .inr (.bytes hname htext (hempty ▸ hs))
  · exact .inl ⟨_, requiredNumber_eq_ok.mpr ⟨b, hb, hempty, rfl⟩⟩

/-! ### Keys -/

theorem exists_rsaKey : (∃ r, k.rsaKey = .ok r) ↔
    ∀ name ∈ KeyFamily.rsa.numbers, ∃ v, k.requiredNumber name = .ok v := by
  simp only [rsaKey, bind_eq_ok, KeyFamily.numbers, List.forall_mem_cons]
  constructor
  · rintro ⟨_, n, hn, e, he, -⟩
    exact ⟨⟨n, hn⟩, ⟨e, he⟩, List.forall_mem_nil _⟩
  · rintro ⟨⟨n, hn⟩, ⟨e, he⟩, -⟩
    exact ⟨_, n, hn, e, he, rfl⟩

/-- The point that the members of a key on a curve write. -/
structure IsPoint (k : Jwk) (c : NamedCurve) (x y : Bytes) : Prop where
  curve : k.text? (utf8 "crv") = some c.name
  first : k.requiredBytes (utf8 "x") = .ok x
  second : k.requiredBytes (utf8 "y") = .ok y
  width : x.length = c.coordinateSize ∧ y.length = c.coordinateSize
  contains : c.group.contains (Bytes.toNat x) (Bytes.toNat y) = true

theorem IsPoint.curve_unique {c c' : NamedCurve} {x y : Bytes} (h : k.IsPoint c x y)
    (hcurve : k.text? (utf8 "crv") = some c'.name) : c = c' := by
  have hname : c.name = c'.name := Option.some.inj (h.curve.symm.trans hcurve)
  exact Option.some.inj (by rw [← c.ofName?_name, hname, c'.ofName?_name])

theorem IsPoint.width_of_mem {c : NamedCurve} {x y b : Bytes} (h : k.IsPoint c x y)
    (hname : name ∈ KeyFamily.ellipticCurve.numbers) (hb : k.requiredBytes name = .ok b) :
    b.length = c.coordinateSize := by
  rcases List.mem_pair.mp hname with rfl | rfl
  · rw [← Except.ok.inj (h.first.symm.trans hb)]
    exact h.width.1
  · rw [← Except.ok.inj (h.second.symm.trans hb)]
    exact h.width.2

theorem exists_curveKey : (∃ o, k.curveKey = .ok o) ↔ ∃ c x y, k.IsPoint c x y := by
  simp only [curveKey, bind_eq_ok, required_eq_ok]
  constructor
  · rintro ⟨o, name, hname, h⟩
    cases hc : NamedCurve.ofName? name with
    | none => rw [hc] at h; cases h
    | some c =>
      obtain rfl := NamedCurve.ofName?_eq_some.mp hc
      rw [hc] at h
      obtain ⟨x, hx, h⟩ := bind_eq_ok.mp h
      obtain ⟨y, hy, h⟩ := bind_eq_ok.mp h
      by_cases hwidth : x.length ≠ c.coordinateSize ∨ y.length ≠ c.coordinateSize
      · rw [if_pos hwidth] at h; cases h
      · rw [if_neg hwidth] at h
        split at h
        · next hcontains => exact ⟨c, x, y, hname, hx, hy, by simpa using hwidth, hcontains⟩
        · cases h
  · rintro ⟨c, x, y, hcurve, hx, hy, hwidth, hcontains⟩
    let o : CurveKey :=
      { group := c.group, point := .affine (Bytes.toNat x) (Bytes.toNat y), secret := none }
    refine ⟨o, c.name, hcurve, ?_⟩
    simp only [NamedCurve.ofName?_name, hx, hy, hwidth, hcontains, bind, Except.bind, ne_eq,
      not_true_eq_false, or_self, if_false, if_true]
    rfl

theorem exists_rsaKey_or_lacks : (∃ r, k.rsaKey = .ok r) ∨ k.Lacks .rsa := by
  rw [exists_rsaKey, or_iff_not_imp_right]
  exact fun h name hname => (requiredNumber_or_lacks hname).resolve_right h

theorem exists_curveKey_or_lacks : (∃ o, k.curveKey = .ok o) ∨ k.Lacks .ellipticCurve := by
  rw [exists_curveKey, or_iff_not_imp_right]
  intro hlacks
  have hx : utf8 "x" ∈ KeyFamily.ellipticCurve.numbers := by simp [KeyFamily.numbers]
  have hy : utf8 "y" ∈ KeyFamily.ellipticCurve.numbers := by simp [KeyFamily.numbers]
  cases hcurve : k.text? (utf8 "crv") with
  | none => exact absurd (.member (by simp [KeyFamily.members]) hcurve) hlacks
  | some name =>
    cases hc : NamedCurve.ofName? name with
    | none => exact absurd (.curve hcurve hc) hlacks
    | some c =>
      obtain rfl := NamedCurve.ofName?_eq_some.mp hc
      obtain ⟨x, hx'⟩ := (requiredBytes_or_lacks hx).resolve_right hlacks
      obtain ⟨y, hy'⟩ := (requiredBytes_or_lacks hy).resolve_right hlacks
      refine ⟨c, x, y, hcurve, hx', hy', ⟨?_, ?_⟩, ?_⟩
      · exact Decidable.byContradiction fun h => hlacks (.width hx hcurve hx' h)
      · exact Decidable.byContradiction fun h => hlacks (.width hy hcurve hy' h)
      · exact Bool.of_not_eq_false fun h => hlacks (.point hcurve hx' hy' h)

/-! ### Defects -/

/-- A key whose type and members describe a public key of a family. -/
def Describes (k : Jwk) (family : KeyFamily) : Prop :=
  k.keyType = family.keyType ∧ ∃ key, k.publicKey = .ok key

/-- With the type of a family, it is the members for this family that count. -/
theorem describes_rsa : k.Describes .rsa ↔ k.keyType = KeyFamily.rsa.keyType ∧
    ∃ r, k.rsaKey = .ok r := by
  refine and_congr_right fun htype => ?_
  rw [KeyFamily.keyType] at htype
  simp only [publicKey, htype, if_pos, map_eq_ok]
  constructor
  · rintro ⟨_, r, hr, -⟩
    exact ⟨r, hr⟩
  · rintro ⟨r, hr⟩
    exact ⟨_, r, hr, rfl⟩

theorem describes_ellipticCurve : k.Describes .ellipticCurve ↔
    k.keyType = KeyFamily.ellipticCurve.keyType ∧ ∃ o, k.curveKey = .ok o := by
  have hne : ¬ (utf8 "EC" = utf8 "RSA") := by decide
  refine and_congr_right fun htype => ?_
  rw [KeyFamily.keyType] at htype
  simp only [publicKey, htype, if_neg hne, if_pos, map_eq_ok]
  constructor
  · rintro ⟨_, o, ho, -⟩
    exact ⟨o, ho⟩
  · rintro ⟨o, ho⟩
    exact ⟨_, o, ho, rfl⟩

/-- The point that a key on a curve describes. -/
theorem Describes.point (h : k.Describes .ellipticCurve) : ∃ c x y, k.IsPoint c x y :=
  exists_curveKey.mp (describes_ellipticCurve.mp h).2

/-- The numbers that an RSA key describes. -/
theorem Describes.rsaNumbers (h : k.Describes .rsa) :
    ∀ name ∈ KeyFamily.rsa.numbers, ∃ b, k.requiredBytes name = .ok b ∧ b ≠ [] := by
  intro name hname
  obtain ⟨v, hv⟩ := exists_rsaKey.mp (describes_rsa.mp h).2 name hname
  obtain ⟨b, hb, hempty, -⟩ := requiredNumber_eq_ok.mp hv
  exact ⟨b, hb, hempty⟩

/-- All numbers of a key that is described can be read. -/
theorem Describes.numbers {family : KeyFamily} (h : k.Describes family) :
    ∀ name ∈ family.numbers, ∃ b, k.requiredBytes name = .ok b := by
  cases family with
  | ellipticCurve =>
    obtain ⟨c, x, y, hpoint⟩ := h.point
    simp only [KeyFamily.numbers, List.forall_mem_cons]
    exact ⟨⟨x, hpoint.first⟩, ⟨y, hpoint.second⟩, List.forall_mem_nil _⟩
  | rsa => exact fun name hname => (h.rsaNumbers name hname).imp fun _ hb => hb.1

/-- All members of a key that is described are texts. -/
theorem Describes.members {family : KeyFamily} (h : k.Describes family) :
    ∀ name ∈ family.members, ∃ s, k.text? name = some s := by
  have hnumbers : ∀ name ∈ family.numbers, ∃ s, k.text? name = some s := fun name hname => by
    obtain ⟨b, hb⟩ := h.numbers name hname
    exact (requiredBytes_eq_ok.mp hb).imp fun _ hs => hs.1
  cases family with
  | ellipticCurve =>
    obtain ⟨c, x, y, hpoint⟩ := h.point
    exact List.forall_mem_cons.mpr ⟨⟨_, hpoint.curve⟩, hnumbers⟩
  | rsa => exact hnumbers

/-- A key with a defect describes none of the family. -/
theorem Lacks.not_describes {family : KeyFamily} (hlacks : k.Lacks family) :
    ¬ k.Describes family := by
  intro h
  cases hlacks with
  | member hname hnone =>
    obtain ⟨s, hs⟩ := h.members _ hname
    rw [hnone] at hs
    cases hs
  | encoding hname htext hfault =>
    obtain ⟨b, hb⟩ := h.numbers _ hname
    obtain ⟨s, hs, hdecode⟩ := requiredBytes_eq_ok.mp hb
    rw [htext] at hs
    cases hs
    rw [hfault] at hdecode
    cases hdecode
  | bytes hname htext hnil =>
    obtain ⟨b, hb, hempty⟩ := h.rsaNumbers _ hname
    rw [requiredBytes_eq_ok.mpr ⟨_, htext, hnil⟩] at hb
    cases hb
    exact hempty rfl
  | curve hcurve hnone =>
    obtain ⟨c, x, y, hpoint⟩ := h.point
    rw [hpoint.curve] at hcurve
    cases hcurve
    rw [NamedCurve.ofName?_name] at hnone
    cases hnone
  | width hname hcurve hb hwidth =>
    obtain ⟨c, x, y, hpoint⟩ := h.point
    obtain rfl := hpoint.curve_unique hcurve
    exact hwidth (hpoint.width_of_mem hname hb)
  | point hcurve hx hy hnot =>
    obtain ⟨c, x, y, hpoint⟩ := h.point
    obtain rfl := hpoint.curve_unique hcurve
    obtain rfl := Except.ok.inj (hpoint.first.symm.trans hx)
    obtain rfl := Except.ok.inj (hpoint.second.symm.trans hy)
    rw [hpoint.contains] at hnot
    cases hnot

/-- **A key with the type of a family describes a key of it, or something is wrong with it** that
the list of defects has. -/
theorem not_describes_iff {family : KeyFamily} :
    ¬ k.Describes family ↔ k.keyType ≠ family.keyType ∨ k.Lacks family := by
  constructor
  · intro h
    by_cases htype : k.keyType = family.keyType
    · refine .inr ?_
      cases family with
      | ellipticCurve =>
        exact exists_curveKey_or_lacks.resolve_left fun ho =>
          h (describes_ellipticCurve.mpr ⟨htype, ho⟩)
      | rsa => exact exists_rsaKey_or_lacks.resolve_left fun hr => h (describes_rsa.mpr ⟨htype, hr⟩)
    · exact .inl htype
  · rintro (htype | hlacks)
    · exact fun h => htype h.1
    · exact hlacks.not_describes

end Jwk
end WalletResponder
