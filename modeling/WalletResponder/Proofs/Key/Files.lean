import WalletResponder.Key.File

/-!
# Keys in files are private

Whatever form a block has and whichever search finds it, the key that comes of a file has its
private part (`Key.isPrivate_of_ofFile`). The forms are gone through first, then the two searches:
they pass on what a form gives, and hide nothing but coordinates.
-/

namespace WalletResponder

/-- A key of a kind that protects responses has its private part. -/
def Key.IsPrivate : Key → Prop
  | rsa k => k.secret.isSome = true
  | ec k => k.secret.isSome = true
  | ed25519 k => k.seed.isSome = true
  | _ => True

/-! ### Forms -/

namespace KeyContent

variable {content : Bytes}

theorem isSome_secret_rsa? {k : RsaKey} (h : rsa? content = some k) : k.secret.isSome = true := by
  simp only [rsa?, Option.bind_eq_bind, Option.bind_eq_some_iff] at h
  obtain ⟨_, -, _, -, _, -, h⟩ := h
  split at h
  · split at h
    · cases h
      rfl
    · exact nomatch h
  · exact nomatch h

theorem isSome_secret_withPoint? {g : Group} {secret : Nat} {part : Bytes} {k : CurveKey}
    (h : withPoint? g secret part = some k) : k.secret.isSome = true := by
  obtain ⟨q, -, rfl⟩ := Option.map_eq_some_iff.mp h
  rfl

theorem isSome_secret_of_rest {g : Group} {secret : Nat} {r : Bytes} {k : CurveKey}
    (h : (match Der.optional (Der.part 1) r with
      | (some part, []) => withPoint? g secret part
      | (none, []) => pure (CurveKey.ofSecret g secret)
      | _ => none) = some k) : k.secret.isSome = true := by
  split at h
  · exact isSome_secret_withPoint? h
  · cases h
    rfl
  · cases h

theorem isSome_secret_curve? {known : Option Group} {k : CurveKey}
    (h : curve? known content = some k) : k.secret.isSome = true := by
  simp only [curve?, Option.bind_eq_bind, Option.bind_eq_some_iff] at h
  obtain ⟨_, -, _, -, _, -, h⟩ := h
  split at h
  · obtain ⟨g, -, h⟩ := Option.bind_eq_some_iff.mp h
    exact isSome_secret_of_rest h
  · obtain ⟨g, -, h⟩ := Option.bind_eq_some_iff.mp h
    exact isSome_secret_of_rest h

end KeyContent

open KeyContent

variable {k : Key}

theorem Wrapped.isPrivate_of_key? {w : Wrapped} {kind : KeyKind} (h : w.key? kind = some k) :
    k.IsPrivate := by
  have hcurve : (GroupParameters.group? w.parameters).bind (fun g => (curve? (some g) w.content).map Key.ec) =
      some k → k.IsPrivate := by
    intro h
    obtain ⟨g, -, h⟩ := Option.bind_eq_some_iff.mp h
    obtain ⟨c, hc, rfl⟩ := Option.map_eq_some_iff.mp h
    exact isSome_secret_curve? hc
  cases kind with
  | rsa =>
    obtain ⟨r, hr, rfl⟩ := Option.map_eq_some_iff.mp h
    exact isSome_secret_rsa? hr
  | salted =>
    obtain ⟨_, -, h⟩ := Option.bind_eq_some_iff.mp h
    obtain ⟨_, -, rfl⟩ := Option.map_eq_some_iff.mp h
    trivial
  | dsa =>
    rw [key?] at h
    split at h
    · cases h; trivial
    · exact nomatch h
  | residue =>
    obtain ⟨_, -, rfl⟩ := Option.map_eq_some_iff.mp h
    trivial
  | orderedResidue =>
    obtain ⟨_, -, rfl⟩ := Option.map_eq_some_iff.mp h
    trivial
  | curve => exact hcurve h
  | ownCurve => exact hcurve h
  | ed25519 =>
    rw [key?] at h
    split at h
    · obtain ⟨_, -, rfl⟩ := Option.map_eq_some_iff.mp h
      rfl
    · exact nomatch h
  | ed448 =>
    rw [key?] at h
    split at h
    · obtain ⟨_, -, rfl⟩ := Option.map_eq_some_iff.mp h
      trivial
    · exact nomatch h
  | ladder c =>
    rw [key?] at h
    split at h
    · obtain ⟨_, -, rfl⟩ := Option.map_eq_some_iff.mp h
      trivial
    · exact nomatch h

theorem KeyKind.isPrivate_of_bare? {kind : KeyKind} {content : Bytes}
    (h : kind.bare? content = some k) : k.IsPrivate := by
  unfold bare? at h
  split at h
  · obtain ⟨r, hr, rfl⟩ := Option.map_eq_some_iff.mp h
    exact isSome_secret_rsa? hr
  · split at h
    · cases h; trivial
    · exact nomatch h
  · obtain ⟨c, hc, rfl⟩ := Option.map_eq_some_iff.mp h
    exact isSome_secret_curve? hc
  · exact nomatch h

/-! ### Searches -/

namespace KeyFile

variable {k' : Key}

theorem isPrivate_of_settle? {kind : KeyKind} (hk : k.IsPrivate) (h : settle? kind k = some k') :
    k'.IsPrivate := by
  unfold settle? at h
  split at h
  · split at h
    · cases h; trivial
    · exact nomatch h
    · exact nomatch h
    · cases h; exact hk
  · cases h; exact hk

theorem isPrivate_of_unwrap? {w : Wrapped} (h : unwrap? w = some k) : k.IsPrivate := by
  unfold unwrap? at h
  split at h
  · obtain ⟨k', hk', h⟩ := Option.bind_eq_some_iff.mp h
    exact isPrivate_of_settle? (Wrapped.isPrivate_of_key? hk') h
  · exact nomatch h

theorem isPrivate_of_labelled? {b : Pem.Block} (h : labelled? b = some k) : k.IsPrivate := by
  unfold labelled? at h
  split at h
  · obtain ⟨w, -, h⟩ := Option.bind_eq_some_iff.mp h
    exact isPrivate_of_unwrap? h
  split at h
  · rw [Option.orElse_eq_orElse, Option.orElse_eq_or, Option.or_eq_some_iff] at h
    rcases h with h | ⟨-, h⟩
    · obtain ⟨k', hk', h⟩ := Option.bind_eq_some_iff.mp h
      exact isPrivate_of_settle? (KeyKind.isPrivate_of_bare? hk') h
    · obtain ⟨w, -, h⟩ := Option.bind_eq_some_iff.mp h
      unfold unwrapAs? at h
      split at h
      · exact isPrivate_of_unwrap? h
      · exact nomatch h
  · exact nomatch h

theorem isPrivate_of_firstVerdict {b : Pem.Block} (h : firstVerdict b = .found k) :
    k.IsPrivate := by
  unfold firstVerdict at h
  split at h
  · split at h <;> exact nomatch h
  split at h
  · exact nomatch h
  cases hkey : labelled? b with
  | none => rw [hkey] at h; exact nomatch h
  | some k' =>
    rw [hkey] at h
    cases h
    exact isPrivate_of_labelled? hkey

theorem isPrivate_of_firstSearch : ∀ {fuel : Nat} {ls : List Pem.Line},
    firstSearch fuel ls = some k → k.IsPrivate
  | 0, _, h => nomatch h
  | fuel + 1, [], h => nomatch h
  | fuel + 1, l :: ls, h => by
    simp only [firstSearch] at h
    split at h
    · exact isPrivate_of_firstSearch h
    split at h
    · next hverdict =>
      cases h
      exact isPrivate_of_firstVerdict hverdict
    · exact isPrivate_of_firstSearch h
    · exact nomatch h

theorem isPrivate_veil (hk : k.IsPrivate) : (veil k).IsPrivate := by
  cases k <;> exact hk

theorem isPrivate_of_secondKey? {b : Pem.Block} (h : secondKey? b = some k) : k.IsPrivate := by
  have hwrapped : ∀ kind, ((Wrapped.read? b.content).bind fun w =>
      (kindOf? w.identifier).bind fun kind => (w.key? kind).map fun k => (kind, k)) =
        some (kind, k) → k.IsPrivate := by
    intro kind h
    obtain ⟨w, -, h⟩ := Option.bind_eq_some_iff.mp h
    obtain ⟨kind', -, h⟩ := Option.bind_eq_some_iff.mp h
    obtain ⟨k', hk', h⟩ := Option.map_eq_some_iff.mp h
    cases h
    exact Wrapped.isPrivate_of_key? hk'
  unfold secondKey? at h
  split at h
  · exact nomatch h
  dsimp only at h
  split at h
  · obtain ⟨⟨kind, k'⟩, hw, rfl⟩ := Option.map_eq_some_iff.mp h
    exact hwrapped kind hw
  · obtain ⟨kind, -, h⟩ := Option.bind_eq_some_iff.mp h
    rw [Option.orElse_eq_orElse, Option.orElse_eq_or, Option.or_eq_some_iff] at h
    rcases h with h | ⟨-, h⟩
    · exact KeyKind.isPrivate_of_bare? h
    · obtain ⟨⟨kind', k'⟩, hw, rfl⟩ := Option.map_eq_some_iff.mp h
      exact hwrapped kind' (Option.filter_eq_some_iff.mp hw).1

theorem isPrivate_of_secondSearch : ∀ {fuel : Nat} {ls : List Pem.Line},
    secondSearch fuel ls = some k → k.IsPrivate
  | 0, _, h => nomatch h
  | fuel + 1, ls, h => by
    rw [secondSearch] at h
    split at h
    · exact nomatch h
    split at h
    · obtain ⟨k', hk', rfl⟩ := Option.map_eq_some_iff.mp h
      exact isPrivate_veil (isPrivate_of_secondKey? hk')
    · exact isPrivate_of_secondSearch h

end KeyFile

/-- **The key in a file has its private part.** -/
theorem Key.isPrivate_of_ofFile {file : Bytes} (h : ofFile file = .ok k) : k.IsPrivate := by
  unfold ofFile at h
  split at h
  · next k' hk' =>
    cases h
    rw [KeyFile.search?, Option.orElse_eq_orElse, Option.orElse_eq_or, Option.or_eq_some_iff] at hk'
    rcases hk' with hk' | ⟨-, hk'⟩
    · exact KeyFile.isPrivate_of_firstSearch hk'
    · exact KeyFile.isPrivate_of_secondSearch hk'
  · exact nomatch h

end WalletResponder
