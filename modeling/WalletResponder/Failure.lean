import WalletResponder.Jose.Fault

/-!
# Why there is no answer

`Failure` joins the reasons for which a response cannot be built, protected or delivered. Each kind
of reason is a type of its own:

* `ContractFault`: the parts that a caller puts together do not fit each other;
* `JarmRefusal`: a verifier asks for a protection that the wallet does not provide;
* `JarmFault`: a protection was not agreed on with the wallet's configuration;
* `InputFault`: a request, a decision of the holder or a configuration has the wrong form;
* the faults of JSON, of keys and tokens, and of cryptographic operations;
* errors of the transport, and any other error of whoever carries a response.

The wording of a failure is a text; what is reported of it ends before the first zero byte
(`Failure.report`).
-/

namespace WalletResponder

/-- The parts of a response do not fit each other. -/
inductive ContractFault where
  /-- The holder's decision does not answer the request. -/
  | mismatch (consensus request : Bytes)
  /-- A mode asks for a protected response and nothing says how. -/
  | unprotected (mode : Bytes)
  /-- A response that is to be posted has another mode. -/
  | notPosted (mode : Bytes)
  /-- A response that is to be put into a redirect has another mode. -/
  | notRedirected (mode : Bytes)
  deriving DecidableEq, Repr

/-- The wording of a fault. -/
def ContractFault.message : ContractFault → Bytes
  | mismatch consensus request =>
    utf8 "consensus '" ++ consensus ++ utf8 "' does not answer a '" ++ request ++ utf8 "' request"
  | unprotected mode => utf8 "response mode " ++ mode ++ utf8 " needs a JARM requirement"
  | notPosted mode => utf8 "post() needs a direct_post response mode, got " ++ mode
  | notRedirected mode => utf8 "redirect needs a query or fragment response mode, got " ++ mode

/-- The names of a key management algorithm and a content encryption method. -/
def encryptionName (alg : JweAlgorithm) (enc : ContentEncryption) : Bytes :=
  alg.name ++ utf8 "/" ++ enc.name

/-- A set of keys has none that an algorithm can use. -/
def noUsableKeyMessage (alg : JweAlgorithm) : Bytes :=
  utf8 "no " ++ alg.family.keyType ++ utf8 " key in the verifier's key set for " ++ alg.name

/-- A protection that the wallet does not provide. -/
inductive JarmRefusal where
  | unknownAlgorithm (name : Bytes)
  | noSigning
  | doesNotSign (alg : JwsAlgorithm)
  | signerCannot (alg : JwsAlgorithm)
  | doesNotEncrypt (alg : JweAlgorithm) (enc : ContentEncryption)
  | noUsableKey (alg : JweAlgorithm)
  /-- An encrypted response is asked for, and there is no key to encrypt to. -/
  | noKeySet
  /-- A content encryption method is named, and no key management algorithm. -/
  | methodAlone
  deriving DecidableEq, Repr

/-- What a refusal tells the verifier. -/
def JarmRefusal.detail : JarmRefusal → Bytes
  | unknownAlgorithm name => utf8 "unknown algorithm " ++ name
  | noSigning => utf8 "wallet has no JARM signing configuration"
  | doesNotSign alg => utf8 "wallet does not sign with " ++ alg.name
  | signerCannot alg => utf8 "wallet signer cannot produce " ++ alg.name
  | doesNotEncrypt alg enc => utf8 "wallet does not encrypt with " ++ encryptionName alg enc
  | noUsableKey alg => noUsableKeyMessage alg
  | noKeySet => utf8 "encrypted response requested but client metadata has no jwks"
  | methodAlone => utf8 "authorization_encrypted_response_enc given without an alg"

/-- A protection that the wallet's configuration does not cover. -/
inductive JarmFault where
  | noSigning
  | doesNotSign (alg : JwsAlgorithm)
  | signerCannot (alg : JwsAlgorithm)
  | noEncryption
  | doesNotEncrypt (alg : JweAlgorithm) (enc : ContentEncryption)
  deriving DecidableEq, Repr

/-- The wording of a fault. -/
def JarmFault.message : JarmFault → Bytes
  | noSigning => utf8 "wallet has no JARM signing configuration"
  | doesNotSign alg => utf8 "wallet does not sign JARM responses with " ++ alg.name
  | signerCannot alg => utf8 "JARM signer cannot produce " ++ alg.name
  | noEncryption => utf8 "wallet has no JARM encryption configuration"
  | doesNotEncrypt alg enc =>
    utf8 "wallet cannot encrypt JARM responses with " ++ encryptionName alg enc

/-- A request, a decision or a configuration of the wrong form. -/
inductive InputFault where
  /-- Something that has to be there is not, or has the wrong type. -/
  | missing (name : Bytes)
  | unknownMode (name : Bytes)
  | unknownRequest (type : Bytes)
  | unknownConsensus (type : Bytes)
  | metadataNotObject
  | metadataNotText (name : Bytes)
  | configNotObject
  | algorithmsNotList
  /-- The key for signing does not serve an algorithm that is listed for it. -/
  | keyCannot (keyId : Bytes) (alg : JwsAlgorithm)
  deriving DecidableEq, Repr

/-- The wording of a fault. -/
def InputFault.message : InputFault → Bytes
  | missing name => utf8 "missing_" ++ name
  | unknownMode name => utf8 "unknown response_mode: " ++ name
  | unknownRequest type => utf8 "unknown request type: " ++ type
  | unknownConsensus type => utf8 "unknown consensus type: " ++ type
  | metadataNotObject => utf8 "client metadata must be a JSON object"
  | metadataNotText name =>
    utf8 "client metadata member " ++ JoseFault.quoted name ++ utf8 " must be a string"
  | configNotObject => utf8 "wallet configuration must be a JSON object"
  | algorithmsNotList => utf8 "algorithm list must be a JSON array"
  | keyCannot keyId alg => utf8 "signing key " ++ keyId ++ utf8 " cannot produce " ++ alg.name

/-- Why there is no answer. -/
inductive Failure where
  | contract (fault : ContractFault)
  | refused (refusal : JarmRefusal)
  | protection (fault : JarmFault)
  /-- A set of keys has none that an algorithm can use. -/
  | noUsableKey (alg : JweAlgorithm)
  | input (fault : InputFault)
  | json (fault : Json.Fault)
  | jose (fault : JoseFault)
  | crypto (fault : CryptoFault)
  /-- A response was not delivered. -/
  | transport (text : Bytes)
  /-- Whoever carries a response failed in a way of their own. -/
  | foreign (text : Bytes)
  deriving DecidableEq, Repr

namespace Failure

/-- The wording of a failure. -/
def message : Failure → Bytes
  | contract fault => fault.message
  | refused refusal => utf8 "unsupported JARM requirement: " ++ refusal.detail
  | protection fault => fault.message
  | noUsableKey alg => noUsableKeyMessage alg
  | input fault => fault.message
  | json fault => fault.message
  | jose fault => fault.message
  | crypto fault => fault.message
  | transport text => text
  | foreign text => text

/-- What is reported of a failure: its wording up to the first zero byte. -/
def report (f : Failure) : Bytes := f.message.upTo 0

end Failure

/-- A result of a reader of JSON. -/
def ofJson {α : Type} : Except Json.Fault α → Except Failure α
  | .ok a => .ok a
  | .error fault => .error (.json fault)

/-- A result about keys and tokens. -/
def ofJose {α : Type} : Except JoseFault α → Except Failure α
  | .ok a => .ok a
  | .error fault => .error (.jose fault)

/-- A result of a cryptographic operation. -/
def ofCrypto {α : Type} : Except CryptoFault α → Except Failure α
  | .ok a => .ok a
  | .error fault => .error (.crypto fault)

end WalletResponder
