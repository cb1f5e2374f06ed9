import WalletResponder.Jarm.Requirement

/-!
# The wallet's configuration

What the wallet is called, how it protects responses, which code stands for a refusal, where it
listens and logs, and how it talks to verifiers.
-/

namespace WalletResponder

/-- What the wallet signs with. -/
structure SigningConfig where
  signer : Signer
  algorithms : List JwsAlgorithm

/-- What the wallet encrypts with. -/
structure EncryptionConfig where
  algorithms : List JweAlgorithm
  methods : List ContentEncryption

/-- How the wallet protects responses; either half may be absent. -/
structure JarmConfig where
  signing : Option SigningConfig
  encryption : Option EncryptionConfig

namespace JarmConfig

/-- Whether the wallet signs with an algorithm. -/
def signs (c : JarmConfig) (alg : JwsAlgorithm) : Bool :=
  match c.signing with
  | some s => s.algorithms.contains alg
  | none => false

/-- Whether the wallet encrypts with a pair of algorithms. -/
def encrypts (c : JarmConfig) (alg : JweAlgorithm) (enc : ContentEncryption) : Bool :=
  match c.encryption with
  | some e => e.algorithms.contains alg && e.methods.contains enc
  | none => false

end JarmConfig

/-- How the wallet talks to verifiers. -/
structure HttpOptions where
  connectTimeout : Int
  timeout : Int
  userAgent : Bytes
  maxResponseBytes : Int

/-- The configuration. -/
structure WalletConfig where
  issuer : Option Bytes
  jarm : JarmConfig
  /-- The code that says that the holder refused. -/
  cancelled : Bytes
  socketPath : Bytes
  logPath : Bytes
  http : HttpOptions

/-- What a wallet does that is not configured: it does not protect responses. -/
def WalletConfig.standard : WalletConfig where
  issuer := none
  jarm := ⟨none, none⟩
  cancelled := utf8 "access_denied"
  socketPath := utf8 "/run/siopvp-walletd.sock"
  logPath := utf8 "/var/log/siopvp/walletd.log"
  http := ⟨10, 30, utf8 "siopvp-walletd", 1048576⟩

end WalletResponder
