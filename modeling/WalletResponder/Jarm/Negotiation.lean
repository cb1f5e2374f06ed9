import WalletResponder.Jarm.Selection
import WalletResponder.Response.Mode
import WalletResponder.Wallet.Config

/-!
# Agreeing on a protection

A verifier names in its metadata how it wants responses to be protected. With what the wallet can
do, that decides the protection (`ClientMetadata.negotiate`) or is refused:

* a signature algorithm and a key management algorithm: signed, then encrypted;
* one of them: signed, or encrypted;
* neither: signed with RS256.

Nothing is agreed on for a mode without protection. `JarmRequirement.refusal?` looks at a protection
once more, against the configuration of whoever is about to provide it.
-/

namespace WalletResponder

namespace JarmSigning

/-- Why the wallet does not sign in this way, if it does not. -/
def refusal? (s : JarmSigning) (wallet : JarmConfig) : Option JarmRefusal :=
  if !wallet.signs s.alg then some (.doesNotSign s.alg)
  else
    match s.signer with
    | none => some (.signerCannot s.alg)
    | some signer => if signer.supports s.alg then none else some (.signerCannot s.alg)

end JarmSigning

namespace JarmEncryption

/-- Why the wallet does not encrypt in this way, if it does not. -/
def refusal? (e : JarmEncryption) (wallet : JarmConfig) : Option JarmRefusal :=
  if !wallet.encrypts e.alg e.enc then some (.doesNotEncrypt e.alg e.enc)
  else if (e.keys.usable? e.alg).isSome then none
  else some (.noUsableKey e.alg)

end JarmEncryption

namespace JarmRequirement

/-- Why the wallet does not protect responses in this way, if it does not. -/
def refusal? (r : JarmRequirement) (wallet : JarmConfig) : Option JarmRefusal :=
  match r with
  | signed s => s.refusal? wallet
  | encrypted e => e.refusal? wallet
  | signedAndEncrypted s e => (s.refusal? wallet).or (e.refusal? wallet)

/-- Accepts a protection that the wallet provides. -/
def validate (r : JarmRequirement) (wallet : JarmConfig) : Except Failure Unit :=
  match r.refusal? wallet with
  | some refusal => .error (.refused refusal)
  | none => .ok ()

end JarmRequirement

/-- What a verifier says about the protection of responses. -/
structure ClientMetadata where
  keys : Option JwkSet
  signingAlg : Option Bytes
  encryptionAlg : Option Bytes
  encryptionMethod : Option Bytes

namespace ClientMetadata

/-- Metadata that say nothing. -/
def empty : ClientMetadata := ⟨none, none, none, none⟩

/-- Reads a text that may be absent or null. -/
def text? (j : Json) (name : String) : Except Failure (Option Bytes) :=
  match j.find? (utf8 name) with
  | none | some .null => .ok none
  | some (.str s) => .ok (some s)
  | some _ => .error (.input (.metadataNotText (utf8 name)))

/-- Reads a key set that may be absent or null. -/
def keys? (j : Json) : Except Failure (Option JwkSet) :=
  match j.find? (utf8 "jwks") with
  | none | some .null => .ok none
  | some v => (ofJose (JwkSet.ofJson v)).map some

/-- Reads metadata. -/
def ofJson (j : Json) : Except Failure ClientMetadata := do
  if j.isObject then
    let keys ← keys? j
    let signingAlg ← text? j "authorization_signed_response_alg"
    let encryptionAlg ← text? j "authorization_encrypted_response_alg"
    let encryptionMethod ← text? j "authorization_encrypted_response_enc"
    pure ⟨keys, signingAlg, encryptionAlg, encryptionMethod⟩
  else throw (.input .metadataNotObject)

/-- The algorithm with a name. -/
def algorithm {α : Type} (ofName? : Bytes → Option α) (name : Bytes) : Except JarmRefusal α :=
  match ofName? name with
  | some a => .ok a
  | none => .error (.unknownAlgorithm name)

/-- Signing with an algorithm, by the wallet's own signer. -/
def signingWith (alg : JwsAlgorithm) (wallet : JarmConfig) : Except JarmRefusal JarmSigning :=
  match wallet.signing with
  | none => .error .noSigning
  | some config =>
    let s : JarmSigning := ⟨alg, some config.signer⟩
    match s.refusal? wallet with
    | some refusal => .error refusal
    | none => .ok s

/-- How a response is to be signed, if it is. -/
def signing (m : ClientMetadata) (wallet : JarmConfig) : Except JarmRefusal (Option JarmSigning) :=
  match m.signingAlg with
  | none => .ok none
  | some name => do
    let alg ← algorithm JwsAlgorithm.ofName? name
    let s ← signingWith alg wallet
    pure (some s)

/-- The content encryption method; without one, it is AES in cipher block chaining mode with the
shortest key. -/
def method (m : ClientMetadata) : Except JarmRefusal ContentEncryption :=
  match m.encryptionMethod with
  | none => .ok .a128cbcHs256
  | some name => algorithm ContentEncryption.ofName? name

/-- The keys to encrypt to, of which there is at least one. -/
def recipients (m : ClientMetadata) : Except JarmRefusal JwkSet :=
  match m.keys with
  | none => .error .noKeySet
  | some s => if s.keys.isEmpty then .error .noKeySet else .ok s

/-- How a response is to be encrypted, if it is. -/
def encryption (m : ClientMetadata) (wallet : JarmConfig) :
    Except JarmRefusal (Option JarmEncryption) :=
  match m.encryptionAlg with
  | none => if m.encryptionMethod.isSome then .error .methodAlone else .ok none
  | some name => do
    let alg ← algorithm JweAlgorithm.ofName? name
    let enc ← m.method
    let keys ← m.recipients
    let e : JarmEncryption := ⟨alg, enc, keys⟩
    match e.refusal? wallet with
    | some refusal => throw refusal
    | none => pure (some e)

/-- The protection for a mode, if the mode has one. -/
def negotiate (m : ClientMetadata) (mode : ResponseMode) (wallet : JarmConfig) :
    Except JarmRefusal (Option JarmRequirement) :=
  if mode.isProtected then do
    let s ← m.signing wallet
    let e ← m.encryption wallet
    match s, e with
    | some s, some e => pure (some (.signedAndEncrypted s e))
    | some s, none => pure (some (.signed s))
    | none, some e => pure (some (.encrypted e))
    | none, none => do
      let s ← signingWith .rs256 wallet
      pure (some (.signed s))
  else pure none

end ClientMetadata
end WalletResponder
