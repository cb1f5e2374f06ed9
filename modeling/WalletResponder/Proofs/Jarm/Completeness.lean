import WalletResponder.Proofs.Jarm.Negotiation
import WalletResponder.Proofs.Jose.Jwe

/-!
# What is agreed on

`ClientMetadata.IsServed` says in terms of names, lists and keys when a wallet provides what a
verifier asks for; nothing in it refers to an order of checks. Negotiating succeeds exactly then,
and what comes of it is what was asked for and nothing weaker (`ClientMetadata.Describes`).

The wanted part of the metadata is taken in turn: a signature (`signing_eq_ok`), an encryption
(`encryption_eq_ok`), and the protection that is put together from them
(`ClientMetadata.negotiate_iff`).
-/

namespace WalletResponder

/-! ### Names -/

theorem ClientMetadata.algorithm_eq_ok {α : Type} {ofName? : Bytes → Option α} {name : Bytes}
    {a : α} : algorithm ofName? name = .ok a ↔ ofName? name = some a := by
  unfold algorithm
  cases ofName? name <;> simp

/-! ### What a wallet provides -/

/-- The wallet lists the algorithm, and its signer produces it. -/
def JarmConfig.CanSign (wallet : JarmConfig) (alg : JwsAlgorithm) : Prop :=
  ∃ config, wallet.signing = some config ∧ alg ∈ config.algorithms ∧ config.signer.supports alg

/-- The wallet lists both algorithms. -/
def JarmConfig.CanEncrypt (wallet : JarmConfig) (alg : JweAlgorithm) (enc : ContentEncryption) :
    Prop :=
  ∃ config, wallet.encryption = some config ∧ alg ∈ config.algorithms ∧ enc ∈ config.methods

/-- Some key of the set has the type that the algorithm needs and describes a public key. -/
def JwkSet.Offers (s : JwkSet) (alg : JweAlgorithm) : Prop :=
  ∃ k ∈ s.keys, k.keyType = alg.family.keyType ∧ ∃ key, k.publicKey = .ok key

/-- Signing with an algorithm by the wallet's signer. -/
def JarmConfig.signature (wallet : JarmConfig) (alg : JwsAlgorithm) : JarmSigning :=
  ⟨alg, wallet.signing.map SigningConfig.signer⟩

theorem JarmConfig.signs_iff {wallet : JarmConfig} {alg : JwsAlgorithm} :
    wallet.signs alg = true ↔ ∃ config, wallet.signing = some config ∧ alg ∈ config.algorithms := by
  unfold JarmConfig.signs
  cases wallet.signing <;> simp

theorem JarmConfig.encrypts_iff {wallet : JarmConfig} {alg : JweAlgorithm}
    {enc : ContentEncryption} : wallet.encrypts alg enc = true ↔ wallet.CanEncrypt alg enc := by
  unfold JarmConfig.encrypts JarmConfig.CanEncrypt
  cases wallet.encryption <;> simp

theorem JwkSet.isSome_usable? {s : JwkSet} {alg : JweAlgorithm} :
    (s.usable? alg).isSome = true ↔ s.Offers alg := by
  rw [JwkSet.usable?, List.find?_isSome]
  simp only [Jwk.isUsable_iff]
  rfl

variable {wallet : JarmConfig}

theorem JarmConfig.refusal?_signature {alg : JwsAlgorithm} :
    (wallet.signature alg).refusal? wallet = none ↔ wallet.CanSign alg := by
  rw [JarmSigning.refusal?_eq_none, JarmConfig.signature, JarmConfig.signs_iff]
  constructor
  · rintro ⟨⟨config, hconfig, hmem⟩, signer, hsigner, hsupports⟩
    rw [hconfig] at hsigner
    cases hsigner
    exact ⟨config, hconfig, hmem, hsupports⟩
  · rintro ⟨config, hconfig, hmem, hsupports⟩
    exact ⟨⟨config, hconfig, hmem⟩, config.signer, by rw [hconfig]; rfl, hsupports⟩

theorem JarmEncryption.refusal?_eq_none_iff_offers {e : JarmEncryption} :
    e.refusal? wallet = none ↔ wallet.CanEncrypt e.alg e.enc ∧ e.keys.Offers e.alg := by
  rw [JarmEncryption.refusal?_eq_none, JarmConfig.encrypts_iff, JwkSet.isSome_usable?]

namespace ClientMetadata

variable {m : ClientMetadata}

theorem signingWith_eq_ok {alg : JwsAlgorithm} {s : JarmSigning} :
    signingWith alg wallet = .ok s ↔ wallet.CanSign alg ∧ s = wallet.signature alg := by
  rw [← JarmConfig.refusal?_signature, JarmConfig.signature]
  cases hsigning : wallet.signing with
  | none => simp [signingWith, hsigning, JarmSigning.refusal?, JarmConfig.signs]
  | some config =>
    simp only [signingWith, hsigning, Option.map_some]
    cases (JarmSigning.mk alg (some config.signer)).refusal? wallet with
    | none => simp [eq_comm]
    | some refusal => simp

/-- A signature is agreed on if one is asked for that the wallet provides. -/
theorem signing_eq_ok {s : Option JarmSigning} : m.signing wallet = .ok s ↔
    (m.signingAlg = none ∧ s = none) ∨
    ∃ alg, m.signingAlg = some alg.name ∧ wallet.CanSign alg ∧ s = some (wallet.signature alg) := by
  cases hname : m.signingAlg with
  | none => simp [signing, hname, eq_comm]
  | some name =>
    have hsigning : m.signing wallet = .ok s ↔ ∃ alg, JwsAlgorithm.ofName? name = some alg ∧
        ∃ t, signingWith alg wallet = .ok t ∧ some t = s := by
      simp only [signing, hname, bind_eq_ok, algorithm_eq_ok, pure, Except.pure, Except.ok.injEq]
    simp only [hsigning, signingWith_eq_ok, JwsAlgorithm.ofName?_eq_some]
    constructor
    · rintro ⟨alg, rfl, t, ⟨hcan, rfl⟩, rfl⟩
      exact .inr ⟨alg, rfl, hcan, rfl⟩
    · rintro (⟨h, -⟩ | ⟨alg, h, hcan, rfl⟩)
      · exact nomatch h
      · exact ⟨alg, (Option.some.inj h).symm, _, ⟨hcan, rfl⟩, rfl⟩

/-- The metadata name a content encryption method, or leave it at the standard one. -/
def NamesMethod (m : ClientMetadata) (enc : ContentEncryption) : Prop :=
  m.encryptionMethod.getD (utf8 "A128CBC-HS256") = enc.name

theorem method_eq_ok {enc : ContentEncryption} : m.method = .ok enc ↔ m.NamesMethod enc := by
  unfold method NamesMethod
  cases m.encryptionMethod with
  | none =>
    have hstandard : ContentEncryption.ofName? (utf8 "A128CBC-HS256") = some .a128cbcHs256 := rfl
    rw [Option.getD_none, eq_comm (b := enc.name), ← ContentEncryption.ofName?_eq_some, hstandard]
    simp
  | some name =>
    rw [Option.getD_some, eq_comm (a := name), ← ContentEncryption.ofName?_eq_some]
    exact algorithm_eq_ok

theorem recipients_eq_ok {keys : JwkSet} :
    m.recipients = .ok keys ↔ m.keys = some keys ∧ keys.keys ≠ [] := by
  unfold recipients
  cases m.keys with
  | none => simp
  | some s =>
    by_cases hs : s.keys = []
    · simp only [hs, List.isEmpty_nil, if_true]
      constructor
      · exact (nomatch ·)
      · rintro ⟨h, hne⟩
        cases h
        exact absurd hs hne
    · simp only [List.isEmpty_iff, hs, if_false, Except.ok.injEq, Option.some.injEq]
      constructor
      · rintro rfl
        exact ⟨rfl, hs⟩
      · exact And.left

/-- An encryption is agreed on if one is asked for that the wallet provides to the keys at hand. A
method without an algorithm is no such wish. -/
theorem encryption_eq_ok {e : Option JarmEncryption} : m.encryption wallet = .ok e ↔
    (m.encryptionAlg = none ∧ m.encryptionMethod = none ∧ e = none) ∨
    ∃ r : JarmEncryption, m.encryptionAlg = some r.alg.name ∧ m.NamesMethod r.enc ∧
      m.keys = some r.keys ∧ r.keys.keys ≠ [] ∧ wallet.CanEncrypt r.alg r.enc ∧
      r.keys.Offers r.alg ∧ e = some r := by
  cases hname : m.encryptionAlg with
  | none => cases hmethod : m.encryptionMethod <;> simp [encryption, hname, hmethod, eq_comm]
  | some name =>
    simp only [encryption, hname, bind_eq_ok, algorithm_eq_ok, JweAlgorithm.ofName?_eq_some,
      method_eq_ok, recipients_eq_ok]
    constructor
    · rintro ⟨alg, rfl, enc, henc, keys, ⟨hkeys, hne⟩, h⟩
      split at h
      · exact nomatch h
      · next hnone =>
        obtain ⟨hcan, hoffers⟩ := JarmEncryption.refusal?_eq_none_iff_offers.mp hnone
        exact .inr ⟨⟨alg, enc, keys⟩, rfl, henc, hkeys, hne, hcan, hoffers, (Except.ok.inj h).symm⟩
    · rintro (⟨h, -⟩ | ⟨⟨alg, enc, keys⟩, h, henc, hkeys, hne, hcan, hoffers, rfl⟩)
      · exact nomatch h
      · have hnone := JarmEncryption.refusal?_eq_none_iff_offers.mpr ⟨hcan, hoffers⟩
        refine ⟨alg, (Option.some.inj h).symm, enc, henc, keys, ⟨hkeys, hne⟩, ?_⟩
        rw [hnone]
        rfl

/-! ### What is asked for -/

/-- An encryption is the one that the metadata ask for, to all of the keys. -/
structure AsksFor (m : ClientMetadata) (e : JarmEncryption) : Prop where
  alg : m.encryptionAlg = some e.alg.name
  method : m.NamesMethod e.enc
  keys : m.keys = some e.keys

/-- A protection is the one that the metadata ask for, with this signer. Metadata that ask for
nothing stand for a signature with RS256. -/
inductive Describes (m : ClientMetadata) (signer : Option Signer) : JarmRequirement → Prop
  | signed {alg : JwsAlgorithm} : m.signingAlg = some alg.name → m.encryptionAlg = none →
      Describes m signer (.signed ⟨alg, signer⟩)
  | encrypted {e : JarmEncryption} : m.signingAlg = none → m.AsksFor e →
      Describes m signer (.encrypted e)
  | signedAndEncrypted {alg : JwsAlgorithm} {e : JarmEncryption} :
      m.signingAlg = some alg.name → m.AsksFor e →
      Describes m signer (.signedAndEncrypted ⟨alg, signer⟩ e)
  | standard : m.signingAlg = none → m.encryptionAlg = none →
      Describes m signer (.signed ⟨.rs256, signer⟩)

/-- The wallet provides all that the metadata ask for. -/
structure IsServed (m : ClientMetadata) (wallet : JarmConfig) : Prop where
  signing : ∀ name, m.signingAlg = some name → ∃ alg : JwsAlgorithm, alg.name = name ∧
    wallet.CanSign alg
  encryption : ∀ name, m.encryptionAlg = some name →
    ∃ (alg : JweAlgorithm) (enc : ContentEncryption) (keys : JwkSet), alg.name = name ∧
      m.NamesMethod enc ∧ wallet.CanEncrypt alg enc ∧ m.keys = some keys ∧ keys.keys ≠ [] ∧
      keys.Offers alg
  /-- A method is named with an algorithm only. -/
  method : m.encryptionAlg = none → m.encryptionMethod = none
  standard : m.signingAlg = none → m.encryptionAlg = none → wallet.CanSign .rs256

variable {mode : ResponseMode}

theorem canSign_of_signing {s : Option JarmSigning} (h : m.signing wallet = .ok s) :
    ∀ name, m.signingAlg = some name → ∃ alg : JwsAlgorithm, alg.name = name ∧
      wallet.CanSign alg := by
  intro name hname
  rcases signing_eq_ok.mp h with ⟨hnone, -⟩ | ⟨alg, halg, hsign, -⟩
  · exact nomatch hnone.symm.trans hname
  · exact ⟨alg, Option.some.inj (halg.symm.trans hname), hsign⟩

theorem canEncrypt_of_encryption {e : Option JarmEncryption} (h : m.encryption wallet = .ok e) :
    (∀ name, m.encryptionAlg = some name →
      ∃ (alg : JweAlgorithm) (enc : ContentEncryption) (keys : JwkSet), alg.name = name ∧
        m.NamesMethod enc ∧ wallet.CanEncrypt alg enc ∧ m.keys = some keys ∧ keys.keys ≠ [] ∧
        keys.Offers alg) ∧
    (m.encryptionAlg = none → m.encryptionMethod = none) := by
  rcases encryption_eq_ok.mp h with
    ⟨hnone, hmethod, -⟩ | ⟨r, hr, henc, hkeys, hne, hencrypt, hoffers, -⟩
  · exact ⟨fun _ hname => (nomatch hnone.symm.trans hname), fun _ => hmethod⟩
  · refine ⟨fun name hname => ?_, fun hnone => (nomatch hr.symm.trans hnone)⟩
    have hname : r.alg.name = name := Option.some.inj (hr.symm.trans hname)
    exact ⟨r.alg, r.enc, r.keys, hname, henc, hencrypt, hkeys, hne, hoffers⟩

/-- **Nothing but what was asked for is agreed on**, and only if the wallet provides it. -/
theorem isServed_of_negotiate (hmode : mode.isProtected = true) {jarm : Option JarmRequirement}
    (h : m.negotiate mode wallet = .ok jarm) :
    m.IsServed wallet ∧
      ∃ r, jarm = some r ∧ m.Describes (wallet.signing.map SigningConfig.signer) r := by
  rw [negotiate, if_pos hmode] at h
  obtain ⟨s, hs, h⟩ := bind_eq_ok.mp h
  obtain ⟨e, he, h⟩ := bind_eq_ok.mp h
  obtain ⟨hencryption, hmethod⟩ := canEncrypt_of_encryption he
  have hserved : (m.signingAlg = none → m.encryptionAlg = none → wallet.CanSign .rs256) →
      m.IsServed wallet := fun hstandard =>
    ⟨canSign_of_signing hs, hencryption, hmethod, hstandard⟩
  rcases signing_eq_ok.mp hs with ⟨hnoSigning, rfl⟩ | ⟨alg, halg, -, rfl⟩ <;>
    rcases encryption_eq_ok.mp he with
      ⟨hnoEncryption, -, rfl⟩ | ⟨r, hr, henc, hkeys, -, -, -, rfl⟩
  · obtain ⟨s, hs, h⟩ := bind_eq_ok.mp h
    obtain ⟨hsign, rfl⟩ := signingWith_eq_ok.mp hs
    cases h
    exact ⟨hserved fun _ _ => hsign, _, rfl, .standard hnoSigning hnoEncryption⟩
  · cases h
    exact ⟨hserved (by simp [hr]), _, rfl, .encrypted hnoSigning ⟨hr, henc, hkeys⟩⟩
  · cases h
    exact ⟨hserved (by simp [halg]), _, rfl, .signed halg hnoEncryption⟩
  · cases h
    exact ⟨hserved (by simp [hr]), _, rfl, .signedAndEncrypted halg ⟨hr, henc, hkeys⟩⟩

theorem exists_signing (h : m.IsServed wallet) :
    ∃ s, m.signing wallet = .ok s ∧ (s = none → m.signingAlg = none) := by
  cases hname : m.signingAlg with
  | none => exact ⟨none, signing_eq_ok.mpr (.inl ⟨hname, rfl⟩), fun _ => rfl⟩
  | some name =>
    obtain ⟨alg, rfl, hsign⟩ := h.signing name hname
    exact ⟨_, signing_eq_ok.mpr (.inr ⟨alg, hname, hsign, rfl⟩), (nomatch ·)⟩

theorem exists_encryption (h : m.IsServed wallet) :
    ∃ e, m.encryption wallet = .ok e ∧ (e = none → m.encryptionAlg = none) := by
  cases hname : m.encryptionAlg with
  | none => exact ⟨none, encryption_eq_ok.mpr (.inl ⟨hname, h.method hname, rfl⟩), fun _ => rfl⟩
  | some name =>
    obtain ⟨alg, enc, keys, rfl, henc, hencrypt, hkeys, hne, hoffers⟩ := h.encryption name hname
    exact ⟨_, encryption_eq_ok.mpr (.inr ⟨⟨alg, enc, keys⟩, hname, henc, hkeys, hne, hencrypt,
      hoffers, rfl⟩), (nomatch ·)⟩

/-- What the wallet provides is agreed on. -/
theorem exists_negotiate (hmode : mode.isProtected = true) (h : m.IsServed wallet) :
    ∃ r, m.negotiate mode wallet = .ok (some r) := by
  obtain ⟨s, hs, hnoSigning⟩ := exists_signing h
  obtain ⟨e, he, hnoEncryption⟩ := exists_encryption h
  simp only [negotiate, hmode, if_true, hs, he, bind, Except.bind]
  cases s with
  | some s => cases e <;> exact ⟨_, rfl⟩
  | none =>
    cases e with
    | some e => exact ⟨_, rfl⟩
    | none =>
      have hsign := h.standard (hnoSigning rfl) (hnoEncryption rfl)
      rw [signingWith_eq_ok.mpr ⟨hsign, rfl⟩]
      exact ⟨_, rfl⟩

/-- **Negotiation is sound and complete.** For a plain mode nothing is agreed on. For a protected
mode there is an agreement exactly when the wallet provides all that the metadata ask for; it is the
protection that they ask for, with the wallet's signer and all of the keys, and the second look
accepts it. -/
theorem negotiate_iff (m : ClientMetadata) (mode : ResponseMode) (wallet : JarmConfig) :
    (mode.isProtected = false → m.negotiate mode wallet = .ok none) ∧
    (mode.isProtected = true →
      ((∃ r, m.negotiate mode wallet = .ok (some r)) ↔ m.IsServed wallet) ∧
      ∀ jarm, m.negotiate mode wallet = .ok jarm → ∃ r, jarm = some r ∧
        m.Describes (wallet.signing.map SigningConfig.signer) r ∧ r.validate wallet = .ok ()) := by
  refine ⟨fun hmode => ?_, fun hmode => ⟨⟨?_, exists_negotiate hmode⟩, fun jarm h => ?_⟩⟩
  · rw [negotiate, if_neg (by simp [hmode])]
    rfl
  · rintro ⟨r, h⟩
    exact (isServed_of_negotiate hmode h).1
  · obtain ⟨-, r, rfl, hdescribes⟩ := isServed_of_negotiate hmode h
    exact ⟨r, rfl, hdescribes, (negotiate_ok h).2 r rfl⟩

/-- Metadata that name an algorithm for encryption, no method, and two keys, of which the first is
of another type. -/
def encryptionOnly : ClientMetadata where
  keys := some ⟨[⟨[(utf8 "kty", .text "EC")]⟩,
    ⟨[(utf8 "e", .text "AQAB"), (utf8 "kty", .text "RSA"), (utf8 "n", .text "AQAB")]⟩]⟩
  signingAlg := none
  encryptionAlg := some (utf8 "RSA-OAEP")
  encryptionMethod := none

theorem negotiate_encryptionOnly :
    ∃ e, encryptionOnly.negotiate ⟨.fragment, true, []⟩ ⟨none, some ⟨[.rsaOaep], [.a128cbcHs256]⟩⟩ =
      .ok (some (.encrypted e)) := by
  have hserved : encryptionOnly.IsServed ⟨none, some ⟨[.rsaOaep], [.a128cbcHs256]⟩⟩ := by
    refine ⟨fun _ h => (nomatch h), ?_, fun h => (nomatch h), fun _ h => (nomatch h)⟩
    intro name hname
    cases hname
    refine ⟨.rsaOaep, .a128cbcHs256, _, rfl, rfl, ⟨_, rfl, ?_, ?_⟩, rfl, List.cons_ne_nil _ _, ?_⟩
    · exact List.mem_singleton_self _
    · exact List.mem_singleton_self _
    · exact ⟨_, List.mem_cons_of_mem _ (List.mem_singleton_self _), rfl, _, rfl⟩
  obtain ⟨hiff, hdescribed⟩ := (negotiate_iff encryptionOnly ⟨.fragment, true, []⟩
    ⟨none, some ⟨[.rsaOaep], [.a128cbcHs256]⟩⟩).2 rfl
  obtain ⟨r, hr⟩ := hiff.mpr hserved
  obtain ⟨r', hsome, hdescribes, -⟩ := hdescribed _ hr
  cases hsome
  cases hdescribes with
  | encrypted hnone hasks => exact ⟨_, hr⟩
  | signed halg hnone => exact nomatch halg
  | signedAndEncrypted halg hasks => exact nomatch halg
  | standard hnone hnone' => exact nomatch hnone'

end ClientMetadata
end WalletResponder
