import WalletResponder.Json.Parser
import WalletResponder.Key.File
import WalletResponder.Wallet.Config

/-!
# Reading a configuration

An object sets what it names and leaves the rest of a configuration as it is
(`WalletConfig.overlay`). The key that responses are signed with is named by the path of a file;
what is in files is an argument. The algorithms of the key are those that are listed, each of which
it must serve, or else all that it serves.
-/

namespace WalletResponder

/-- What is in files, by their paths. -/
abbrev Files := Bytes → Option Bytes

/-- Reads each item of a list, up to the first that cannot be read. -/
def readEach {α : Type} (read : Json → Except Failure α) : List Json → Except Failure (List α)
  | [] => .ok []
  | j :: rest => do
    let a ← read j
    let as ← readEach read rest
    pure (a :: as)

/-- Reads a list of names. -/
def readNames {α : Type} (named : Bytes → Except CryptoFault α) (j : Json) :
    Except Failure (List α) :=
  match j with
  | .arr items => readEach (fun item => do ofCrypto (named (← ofJson item.asText))) items
  | _ => .error (.input .algorithmsNotList)

/-- The private key in a file. -/
def Files.key (files : Files) (path : Bytes) : Except CryptoFault Key :=
  match files path with
  | some content => Key.ofFile content
  | none => .error (.cannotOpen path)

namespace SigningConfig

/-- The algorithms that an object lists for a signer. -/
def readAlgorithms (signer : Signer) (j : Json) : Except Failure (List JwsAlgorithm) :=
  match j.find? (utf8 "algorithms") with
  | none => .ok signer.algorithms
  | some list => do
    let algs ← readNames JwsAlgorithm.named list
    match algs.find? fun alg => !signer.supports alg with
    | some alg => throw (.input (.keyCannot signer.keyId alg))
    | none => pure algs

/-- Reads what the wallet signs with. Its signer gets the handle. -/
def ofObject (files : Files) (handle : Nat) (j : Json) : Except Failure SigningConfig := do
  let path ← ofJson (do (← j.member (utf8 "key_pem_path")).asText)
  let keyId ← ofJson (do (← j.member (utf8 "key_id")).asText)
  let key ← ofCrypto (files.key path)
  let signer ← ofCrypto (Signer.ofKey handle (some key) keyId)
  let algorithms ← readAlgorithms signer j
  pure ⟨signer, algorithms⟩

end SigningConfig

/-- Reads what the wallet encrypts with. -/
def EncryptionConfig.ofObject (j : Json) : Except Failure EncryptionConfig := do
  let algorithms ← readNames JweAlgorithm.named (← ofJson (j.member (utf8 "algorithms")))
  let methods ← readNames ContentEncryption.named (← ofJson (j.member (utf8 "methods")))
  pure ⟨algorithms, methods⟩

/-- Lays an object over a way of talking to verifiers. -/
def HttpOptions.overlay (j : Json) (base : HttpOptions) : Except Json.Fault HttpOptions := do
  let connectTimeout ←
    j.memberOr (utf8 "connect_timeout_seconds") Json.asSigned64 base.connectTimeout
  let timeout ← j.memberOr (utf8 "timeout_seconds") Json.asSigned64 base.timeout
  let userAgent ← j.memberOr (utf8 "user_agent") Json.asText base.userAgent
  let maxResponseBytes ←
    j.memberOr (utf8 "max_response_bytes") Json.asUnsigned64 base.maxResponseBytes
  pure ⟨connectTimeout, timeout, userAgent, maxResponseBytes⟩

/-- Lays what an object has under a name over a value. -/
def overlayMember {α : Type} (j : Json) (name : String) (read : Json → Except Failure α)
    (base : α) : Except Failure α :=
  match j.find? (utf8 name) with
  | some v => read v
  | none => .ok base

/-- Lays an object over a way of protecting responses. The wallet's own signer has handle zero. -/
def JarmConfig.overlay (files : Files) (j : Json) (base : JarmConfig) :
    Except Failure JarmConfig := do
  let signing ← overlayMember j "signing"
    (fun v => (SigningConfig.ofObject files 0 v).map some) base.signing
  let encryption ← overlayMember j "encryption"
    (fun v => (EncryptionConfig.ofObject v).map some) base.encryption
  pure ⟨signing, encryption⟩

namespace WalletConfig

/-- Reads a text. -/
def readText (j : Json) : Except Failure Bytes := ofJson j.asText

/-- Lays an object over a configuration. -/
def overlay (files : Files) (j : Json) (base : WalletConfig) : Except Failure WalletConfig := do
  if j.isObject then
    let issuer ← overlayMember j "issuer" (fun v => (readText v).map some) base.issuer
    let cancelled ← overlayMember j "user_cancelled_error_code" readText base.cancelled
    let socketPath ← overlayMember j "socket_path" readText base.socketPath
    let logPath ← overlayMember j "log_path" readText base.logPath
    let http ← overlayMember j "http" (fun v => ofJson (base.http.overlay v)) base.http
    let jarm ← overlayMember j "jarm" (fun v => base.jarm.overlay files v) base.jarm
    pure ⟨issuer, jarm, cancelled, socketPath, logPath, http⟩
  else throw (.input .configNotObject)

/-- The path of the file with the key that a text of a configuration names. -/
def keyPath? (text : Bytes) : Option Bytes := do
  let j ← Json.parse? text
  let jarm ← j.find? (utf8 "jarm")
  let signing ← jarm.find? (utf8 "signing")
  let path ← signing.find? (utf8 "key_pem_path")
  path.asText?

/-- The directory in a path; none if the path is a name alone. -/
def directory (path : Bytes) : Bytes :=
  ((path.reverse.dropWhile (· != 0x2f)).drop 1).reverse

/-- The configuration in the text of a file; without a file, the standard one. -/
def load (files : Files) (text : Option Bytes) : Except Failure WalletConfig :=
  match text with
  | none => .ok standard
  | some s => do
    let j ← ofJson (Json.parse Json.complaint s)
    overlay files j standard

end WalletConfig
end WalletResponder
