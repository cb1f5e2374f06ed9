import WalletResponder.Proofs.Key.Pairs

/-!
# Keys and draws

Whether a key signs is a property of the key and the algorithm (`Key.CanSign`). It does not depend
on what is drawn, with one exception: on a curve there is the odd multiplier that makes no
signature, and signing gives up after a number of them. A draw that is not spent on such multipliers
is all that is asked for (`CurveKey.SignsWith`); in the same way an agreement needs a draw whose key
is a partner (`CurveKey.MeetsWith`).
-/

namespace WalletResponder

namespace CurveKey

/-- One of the multipliers that are drawn makes a signature, whatever is signed. -/
def SignsWith (k : CurveKey) (e : Entropy) : Prop :=
  ∀ secret ∈ k.secret, ∀ digest,
    (pairFrom k.group secret (hashNumber k.group digest) 16 e).isSome = true

/-- The new key that is drawn has a point, and agrees with `peer` on a secret. -/
def MeetsWith (peer : CurveKey) (e : Entropy) : Prop :=
  ∃ x y secret, (generate peer.group e).point = .affine x y ∧
    (generate peer.group e).agree peer = .ok secret

theorem isSome_sign? {k : CurveKey} {e : Entropy} (h : k.SignsWith e) (digest : Bytes) :
    (k.sign? digest e).isSome = (k.secret.filter (fits k.group)).isSome := by
  unfold sign?
  cases hs : k.secret.filter (fits k.group) with
  | none => rfl
  | some secret =>
    obtain ⟨pair, hpair⟩ :=
      Option.isSome_iff_exists.mp (h secret (Option.mem_filter_iff.mp hs).1 digest)
    rw [Option.bind_some, hpair]
    rfl

end CurveKey

/-- The modulus has room for the block of a signature. -/
def RsaKey.HasRoom (k : RsaKey) (alg : JwsAlgorithm) : Prop :=
  if alg.isSalted then 2 * alg.hash.size + 2 ≤ (RsaKey.bitLength k.modulus + 6) / 8
  else (RsaBlock.hashName alg.hash).length + alg.hash.size + 11 ≤ k.size

namespace Key

/-- What a draw has to be for a key to sign. -/
def SignsWith (k : Key) (e : Entropy) : Prop := ∀ c, k = ec c → c.SignsWith e

/-- The key signs with an algorithm that it serves. -/
def CanSign (alg : JwsAlgorithm) : Key → Prop
  | rsa k => k.CanLower ∧ k.HasRoom alg
  | ec k => (k.secret.filter (CurveKey.fits k.group)).isSome = true
  | ed25519 k => k.seed.isSome = true
  | _ => False

/-- **Whether a key signs does not depend on what is drawn**, nor on what is signed. -/
theorem isSome_sign? {k : Key} {e : Entropy} (h : k.SignsWith e) (alg : JwsAlgorithm)
    (message : Bytes) : (k.sign? alg message e).isSome = true ↔ k.CanSign alg := by
  cases k with
  | rsa k =>
    simp only [sign?, CanSign, RsaKey.HasRoom]
    split
    · exact RsaKey.isSome_signSalted? (Entropy.length_take _ _)
    · exact RsaKey.isSome_signFixed?
  | ec c =>
    simp only [sign?, CanSign]
    rw [CurveKey.isSome_sign? (h c rfl)]
  | ed25519 k => simp [sign?, CanSign, Ed25519Key.sign?]
  | _ => simp [sign?, CanSign]

end Key
end WalletResponder
