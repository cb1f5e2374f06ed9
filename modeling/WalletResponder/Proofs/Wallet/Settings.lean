import WalletResponder.Proofs.Jose.Jwe
import WalletResponder.Proofs.Json.Integers
import WalletResponder.Wallet.Overlay

/-!
# Settings

What an object that is laid over a configuration makes of it (`WalletConfig.overlay_eq_ok`). A
setting that it has becomes what it says, and every other one stays as it was (`IsSetting`), down to
the members of its parts. Lists of algorithms are read name by name, and the signer serves all that
are listed for it.

The settings of the connection that are numbers are kept in 64 bits. A number that is written for
one of them is kept if it is an integer that fits, and altered if not (`Json.IsFitted`).
-/

namespace WalletResponder

open Json

/-! ### Readers -/

/-- A setting that an object has under a name is what the object says of it, and one that the object
does not have is what it was. -/
structure IsSetting {α : Type} (j : Json) (name : String) (reads : Json → α → Prop) (old new : α) :
    Prop where
  named : ∀ v, j.find? (utf8 name) = some v → reads v new
  kept : j.find? (utf8 name) = none → new = old

theorem IsSetting.kept_or {α : Type} {j : Json} {name : String} {reads : Json → α → Prop}
    {old new : α} (h : IsSetting j name reads old new) :
    new = old ∨ ∃ v, j.find? (utf8 name) = some v ∧ reads v new := by
  cases hfind : j.find? (utf8 name) with
  | none => exact .inl (h.kept hfind)
  | some v => exact .inr ⟨v, rfl, h.named v hfind⟩

section Readers

variable {α : Type} {j : Json} {name : String} {base a : α}

theorem overlayMember_eq_ok {read : Json → Except Failure α} :
    overlayMember j name read base = .ok a ↔
      IsSetting j name (fun v a => read v = .ok a) base a := by
  unfold overlayMember
  cases hfind : j.find? (utf8 name) with
  | none =>
    refine ⟨fun h => ⟨fun v hv => ?_, fun _ => ?_⟩, fun h => ?_⟩
    · cases hfind.symm.trans hv
    · cases h
      rfl
    · rw [h.kept hfind]
  | some v =>
    refine ⟨fun h => ⟨fun w hw => ?_, fun hnone => ?_⟩, fun h => h.named v hfind⟩
    · cases hfind.symm.trans hw
      exact h
    · cases hfind.symm.trans hnone

theorem memberOr_eq_ok {read : Json → Except Fault α} :
    j.memberOr (utf8 name) read base = .ok a ↔
      j.isObject = true ∧ IsSetting j name (fun v a => read v = .ok a) base a := by
  cases j with
  | obj members =>
    have hmember : (obj members).memberOr (utf8 name) read base = .ok a ↔
        overlayMember (obj members) name (fun v => ofJson (read v)) base = .ok a := by
      simp only [memberOr, overlayMember]
      cases (obj members).find? (utf8 name) with
      | none => simp only [Except.ok.injEq]
      | some v => exact ofJson_eq_ok.symm
    rw [hmember, overlayMember_eq_ok]
    simp only [ofJson_eq_ok, isObject, true_and]
  | _ =>
    constructor
    · intro h
      cases h
    · rintro ⟨h, -⟩
      cases h

theorem readText_eq_ok {v : Json} {s : Bytes} : WalletConfig.readText v = .ok s ↔ v = .str s := by
  rw [WalletConfig.readText, ofJson_eq_ok, asText_eq_ok]

/-- A list is read item by item. -/
theorem readEach_eq_ok {read : Json → Except Failure α} (form : α → Json)
    (hread : ∀ v a, read v = .ok a ↔ v = form a) : ∀ {items : List Json} {as : List α},
      readEach read items = .ok as ↔ items = as.map form
  | [], as => by cases as <;> simp [readEach]
  | v :: items, as => by
    rw [readEach, bind_eq_ok]
    constructor
    · rintro ⟨a, ha, h⟩
      obtain ⟨rest, hrest, h⟩ := bind_eq_ok.mp h
      cases h
      rw [(hread v a).mp ha, (readEach_eq_ok form hread).mp hrest, List.map_cons]
    · intro h
      cases as with
      | nil => cases h
      | cons a rest =>
        obtain ⟨hv, hrest⟩ := List.cons.inj h
        exact ⟨a, (hread v a).mpr hv,
          bind_eq_ok.mpr ⟨rest, (readEach_eq_ok form hread).mpr hrest, rfl⟩⟩

/-- **A list of names is read name by name.** -/
theorem readNames_eq_ok {named : Bytes → Except CryptoFault α} {nameOf : α → Bytes}
    (hnamed : ∀ name a, named name = .ok a ↔ nameOf a = name) {as : List α} :
    readNames named j = .ok as ↔ j = .arr (as.map fun a => .str (nameOf a)) := by
  cases j with
  | arr items =>
    rw [readNames, readEach_eq_ok (fun a => .str (nameOf a)), arr.injEq]
    intro v a
    simp only [bind_eq_ok, ofJson_eq_ok, asText_eq_ok, ofCrypto_eq_ok, hnamed]
    constructor
    · rintro ⟨name, rfl, rfl⟩
      rfl
    · rintro rfl
      exact ⟨_, rfl, rfl⟩
  | _ => exact ⟨nofun, nofun⟩

end Readers

/-! ### The parts of a configuration -/

/-- What is signed with, as an object says it: the key in the file at the path, under the
identifier, and algorithms that the signer serves, which are those listed if there is a list. -/
structure SigningConfig.IsFrom (files : Files) (handle : Nat) (j : Json) (s : SigningConfig) :
    Prop where
  keyId : j.find? (utf8 "key_id") = some (.str s.signer.keyId)
  signer : ∃ path key, j.find? (utf8 "key_pem_path") = some (.str path) ∧
    files.key path = .ok key ∧ Signer.ofKey handle (some key) s.signer.keyId = .ok s.signer
  algorithms : IsSetting j "algorithms" (fun v algs => v = .arr (algs.map fun alg => .str alg.name))
    s.signer.algorithms s.algorithms
  served : ∀ alg ∈ s.algorithms, s.signer.supports alg = true

/-- What is encrypted with, as an object says it. -/
structure EncryptionConfig.IsFrom (j : Json) (e : EncryptionConfig) : Prop where
  algorithms : j.find? (utf8 "algorithms") =
    some (.arr (e.algorithms.map fun alg => .str alg.name))
  methods : j.find? (utf8 "methods") = some (.arr (e.methods.map fun enc => .str enc.name))

/-- How verifiers are talked to when an object is laid over it. -/
structure HttpOptions.IsLaid (base : HttpOptions) (j : Json) (o : HttpOptions) : Prop where
  isObject : j.isObject = true
  connectTimeout : IsSetting j "connect_timeout_seconds" (fun v n => v.asSigned64 = .ok n)
    base.connectTimeout o.connectTimeout
  timeout : IsSetting j "timeout_seconds" (fun v n => v.asSigned64 = .ok n) base.timeout o.timeout
  userAgent : IsSetting j "user_agent" (fun v s => v = .str s) base.userAgent o.userAgent
  maxResponseBytes : IsSetting j "max_response_bytes" (fun v n => v.asUnsigned64 = .ok n)
    base.maxResponseBytes o.maxResponseBytes

/-- How responses are protected when an object is laid over it. -/
structure JarmConfig.IsLaid (files : Files) (base : JarmConfig) (j : Json) (c : JarmConfig) :
    Prop where
  signing : IsSetting j "signing" (fun v s => ∃ t, SigningConfig.IsFrom files 0 v t ∧ some t = s)
    base.signing c.signing
  encryption : IsSetting j "encryption" (fun v e => ∃ t, EncryptionConfig.IsFrom v t ∧ some t = e)
    base.encryption c.encryption

/-- A configuration when an object is laid over it. -/
structure WalletConfig.IsLaid (files : Files) (base : WalletConfig) (j : Json)
    (c : WalletConfig) : Prop where
  isObject : j.isObject = true
  issuer : IsSetting j "issuer" (fun v s => ∃ t, v = .str t ∧ some t = s) base.issuer c.issuer
  cancelled : IsSetting j "user_cancelled_error_code" (fun v s => v = .str s) base.cancelled
    c.cancelled
  socketPath : IsSetting j "socket_path" (fun v s => v = .str s) base.socketPath c.socketPath
  logPath : IsSetting j "log_path" (fun v s => v = .str s) base.logPath c.logPath
  http : IsSetting j "http" base.http.IsLaid base.http c.http
  jarm : IsSetting j "jarm" (base.jarm.IsLaid files) base.jarm c.jarm

/-! ### Reading the parts -/

variable {files : Files} {j : Json}

namespace SigningConfig

theorem readAlgorithms_eq_ok {signer : Signer} {algs : List JwsAlgorithm}
    (hall : ∀ alg ∈ signer.algorithms, signer.supports alg = true) :
    readAlgorithms signer j = .ok algs ↔
      IsSetting j "algorithms" (fun v algs => v = .arr (algs.map fun alg => .str alg.name))
        signer.algorithms algs ∧ ∀ alg ∈ algs, signer.supports alg = true := by
  unfold readAlgorithms
  cases hfind : j.find? (utf8 "algorithms") with
  | none =>
    constructor
    · intro h
      cases h
      exact ⟨⟨fun v hv => (by cases hfind.symm.trans hv), fun _ => rfl⟩, hall⟩
    · rintro ⟨hsetting, -⟩
      rw [hsetting.kept hfind]
  | some list =>
    constructor
    · intro h
      obtain ⟨as, has, h⟩ := bind_eq_ok.mp h
      split at h
      · cases h
      · next hnone =>
        cases h
        refine ⟨⟨fun v hv => ?_, fun hv => by cases hfind.symm.trans hv⟩, fun alg halg => ?_⟩
        · cases hfind.symm.trans hv
          exact (readNames_eq_ok fun _ _ => JwsAlgorithm.named_eq_ok).mp has
        · simpa using List.find?_eq_none.mp hnone alg halg
    · rintro ⟨hsetting, hserved⟩
      have hread := (readNames_eq_ok fun _ _ => JwsAlgorithm.named_eq_ok).mpr
        (hsetting.named list hfind)
      have hnone : algs.find? (fun alg => !signer.supports alg) = none :=
        List.find?_eq_none.mpr fun alg halg => by simp [hserved alg halg]
      refine bind_eq_ok.mpr ⟨algs, hread, ?_⟩
      rw [hnone]
      rfl

/-- **What is signed with is what the object says.** -/
theorem ofObject_eq_ok {handle : Nat} {s : SigningConfig} :
    ofObject files handle j = .ok s ↔ s.IsFrom files handle j := by
  have hall : ∀ signer : Signer, ∀ alg ∈ signer.algorithms, signer.supports alg = true :=
    fun signer alg halg => by simpa [Signer.supports] using halg
  unfold ofObject
  simp only [bind_eq_ok, ofJson_eq_ok, ofCrypto_eq_ok, member_eq_ok, asText_eq_ok,
    readAlgorithms_eq_ok (hall _)]
  constructor
  · rintro ⟨path, ⟨_, hpath, rfl⟩, keyId, ⟨_, hkeyId, rfl⟩, key, hkey, signer, hsigner, algs,
      ⟨hsetting, hserved⟩, ⟨⟩⟩
    have hid := Signer.keyId_ofKey hsigner
    exact ⟨by rw [hid, hkeyId], ⟨path, key, hpath, hkey, by rw [hid, hsigner]⟩, hsetting, hserved⟩
  · rintro ⟨hkeyId, ⟨path, key, hpath, hkey, hsigner⟩, hsetting, hserved⟩
    exact ⟨path, ⟨_, hpath, rfl⟩, _, ⟨_, hkeyId, rfl⟩, key, hkey, _, hsigner, _,
      ⟨hsetting, hserved⟩, rfl⟩

end SigningConfig

/-- **What is encrypted with is what the object says.** -/
theorem EncryptionConfig.ofObject_eq_ok {e : EncryptionConfig} :
    ofObject j = .ok e ↔ e.IsFrom j := by
  unfold ofObject
  simp only [bind_eq_ok, ofJson_eq_ok, member_eq_ok,
    readNames_eq_ok fun _ _ => JweAlgorithm.named_eq_ok,
    readNames_eq_ok fun _ _ => ContentEncryption.named_eq_ok]
  constructor
  · rintro ⟨_, halgs, _, rfl, _, hmethods, _, rfl, hok⟩
    cases hok
    exact ⟨halgs, hmethods⟩
  · rintro ⟨halgs, hmethods⟩
    exact ⟨_, halgs, _, rfl, _, hmethods, _, rfl, rfl⟩

theorem HttpOptions.overlay_eq_ok {base o : HttpOptions} :
    overlay j base = .ok o ↔ base.IsLaid j o := by
  unfold overlay
  simp only [bind_eq_ok, memberOr_eq_ok, asText_eq_ok]
  constructor
  · rintro ⟨_, ⟨hobject, hconnect⟩, _, ⟨-, htimeout⟩, _, ⟨-, hagent⟩, _, ⟨-, hmax⟩, ⟨⟩⟩
    exact ⟨hobject, hconnect, htimeout, hagent, hmax⟩
  · rintro ⟨hobject, hconnect, htimeout, hagent, hmax⟩
    exact ⟨_, ⟨hobject, hconnect⟩, _, ⟨hobject, htimeout⟩, _, ⟨hobject, hagent⟩, _,
      ⟨hobject, hmax⟩, rfl⟩

theorem JarmConfig.overlay_eq_ok {base c : JarmConfig} :
    overlay files j base = .ok c ↔ base.IsLaid files j c := by
  unfold overlay
  simp only [bind_eq_ok, overlayMember_eq_ok, map_eq_ok, SigningConfig.ofObject_eq_ok,
    EncryptionConfig.ofObject_eq_ok]
  constructor
  · rintro ⟨_, hsigning, _, hencryption, ⟨⟩⟩
    exact ⟨hsigning, hencryption⟩
  · rintro ⟨hsigning, hencryption⟩
    exact ⟨_, hsigning, _, hencryption, rfl⟩

/-- **An object is laid over a configuration as it is written.** -/
theorem WalletConfig.overlay_eq_ok {base c : WalletConfig} :
    overlay files j base = .ok c ↔ base.IsLaid files j c := by
  unfold overlay
  constructor
  · intro h
    split at h
    case isFalse => cases h
    next hobject =>
    simp only [bind_eq_ok, overlayMember_eq_ok, map_eq_ok, readText_eq_ok, ofJson_eq_ok,
      HttpOptions.overlay_eq_ok, JarmConfig.overlay_eq_ok] at h
    obtain ⟨_, hissuer, _, hcancelled, _, hsocket, _, hlog, _, hhttp, _, hjarm, ⟨⟩⟩ := h
    exact ⟨hobject, hissuer, hcancelled, hsocket, hlog, hhttp, hjarm⟩
  · rintro ⟨hobject, hissuer, hcancelled, hsocket, hlog, hhttp, hjarm⟩
    rw [if_pos hobject]
    simp only [bind_eq_ok, overlayMember_eq_ok, map_eq_ok, readText_eq_ok, ofJson_eq_ok,
      HttpOptions.overlay_eq_ok, JarmConfig.overlay_eq_ok]
    exact ⟨_, hissuer, _, hcancelled, _, hsocket, _, hlog, _, hhttp, _, hjarm, rfl⟩

/-- What is signed with when an object is laid over a configuration is the old, or is in the part
of the object for it. -/
theorem WalletConfig.IsLaid.signing {base c : WalletConfig} (h : base.IsLaid files j c) :
    c.jarm.signing = base.jarm.signing ∨ ∃ jarm, j.find? (utf8 "jarm") = some jarm ∧
      ∃ v, jarm.find? (utf8 "signing") = some v ∧
        ∃ s, SigningConfig.IsFrom files 0 v s ∧ some s = c.jarm.signing := by
  rcases h.jarm.kept_or with hjarm | ⟨jarm, hjarm, hlaid⟩
  · exact .inl (by rw [hjarm])
  · exact hlaid.signing.kept_or.imp_right fun hsigning => ⟨jarm, hjarm, hsigning⟩

/-! ### The settings that are numbers -/

/-- What is kept of the numbers that an object writes for the connection. -/
structure HttpOptions.IsFittedTo (o : HttpOptions) (j : Json) : Prop where
  connectTimeout : ∀ v, j.find? (utf8 "connect_timeout_seconds") = some v →
    IsFitted (-2 ^ 63) (2 ^ 63) v o.connectTimeout
  timeout : ∀ v, j.find? (utf8 "timeout_seconds") = some v →
    IsFitted (-2 ^ 63) (2 ^ 63) v o.timeout
  maxResponseBytes : ∀ v, j.find? (utf8 "max_response_bytes") = some v →
    IsFitted 0 (2 ^ 64) v o.maxResponseBytes

theorem HttpOptions.IsLaid.isFittedTo {base o : HttpOptions} (h : base.IsLaid j o) :
    o.IsFittedTo j where
  connectTimeout v hv := isFitted_of_asSigned64 (h.connectTimeout.named v hv)
  timeout v hv := isFitted_of_asSigned64 (h.timeout.named v hv)
  maxResponseBytes v hv := isFitted_of_asUnsigned64 (h.maxResponseBytes.named v hv)

namespace WalletConfig

/-- **A configuration that is laid over another takes effect as it is written**, but for numbers
that are no integers of 64 bits: such a number is altered and not refused. -/
theorem overlay_takes_effect {base c : WalletConfig} (h : overlay files j base = .ok c) :
    base.IsLaid files j c ∧ ∀ http, j.find? (utf8 "http") = some http → c.http.IsFittedTo http := by
  have hlaid := overlay_eq_ok.mp h
  exact ⟨hlaid, fun http hhttp => (hlaid.http.named http hhttp).isFittedTo⟩

/-- An object that sets a name, a time and what is encrypted with. -/
def changes : Json :=
  .obj [(utf8 "http", .obj [(utf8 "timeout_seconds", .int 5)]), (utf8 "issuer", .str (utf8 "w")),
    (utf8 "jarm", .obj [(utf8 "encryption", .obj [
      (utf8 "algorithms", .arr [.str (utf8 "RSA-OAEP-256"), .str (utf8 "ECDH-ES")]),
      (utf8 "methods", .arr [.str (utf8 "A256GCM")])])])]

/-- The standard configuration with these changes. -/
def changed : WalletConfig :=
  { standard with
    issuer := some (utf8 "w")
    jarm := ⟨none, some ⟨[.rsaOaep256, .ecdhEs], [.a256gcm]⟩⟩
    http := { standard.http with timeout := 5 } }

theorem changes_take_effect :
    overlay (fun _ => none) changes standard = .ok changed ∧
      standard.IsLaid (fun _ => none) changes changed ∧
      ∀ http, changes.find? (utf8 "http") = some http → changed.http.IsFittedTo http :=
  ⟨rfl, overlay_takes_effect rfl⟩

/-- A limit below zero is none: it wraps around to the largest number of bytes, and is not what was
written. -/
theorem negative_limit_wraps :
    overlay (fun _ => none)
        (.obj [(utf8 "http", .obj [(utf8 "max_response_bytes", .int (-1))])]) standard =
      .ok { standard with http := { standard.http with maxResponseBytes := 2 ^ 64 - 1 } } ∧
    (Json.int (2 ^ 64 - 1)).same (.int (-1)) = false :=
  ⟨rfl, rfl⟩

end WalletConfig
end WalletResponder
