import WalletResponder.Jose.Algorithm

/-!
# What a cryptographic operation reports

`CryptoFault` names each reason for which an operation is refused or fails. A reason is either a
misuse, which shows from the arguments alone (an unknown name, a key of the wrong size), or a
failure of the operation itself (a tag that does not match, a key too short for the digest).
-/

namespace WalletResponder

/-- Why a cryptographic operation has no result. -/
inductive CryptoFault where
  | unknownJws (name : Bytes)
  | unknownJwe (name : Bytes)
  | unknownMethod (name : Bytes)
  | unknownCurve (name : Bytes)
  | unsupportedGroup (name : Bytes)
  | unnamedGroup
  | notEllipticCurve
  | gcmSizes
  | gcmSizesWithTag
  | cbcSizes
  | cbcSizesWithTag
  | wrappingKeySize
  | wrappedSize
  | notOaep (alg : JweAlgorithm)
  | noSigningKey
  | cannotSign
  | notProduced (alg : JwsAlgorithm)
  | derivation
  | gcmTag
  | cbcTag
  | cbcPadding
  | wrapping
  | unwrapping
  | paddingSetup
  | encryptionStart
  | encryptionSize
  | encryption
  | decryptionStart
  | decryption
  | agreementPeer
  | agreement
  | signing
  | keyGenerationStart
  | keyGeneration (kind : Bytes)
  | publishing
  | unreadableKey
  | cannotOpen (path : Bytes)
  deriving DecidableEq, Repr

namespace CryptoFault

/-- Whether the arguments alone are at fault. -/
def isMisuse : CryptoFault → Bool
  | unknownJws _ | unknownJwe _ | unknownMethod _ | unknownCurve _ | unsupportedGroup _
  | notEllipticCurve | gcmSizes | gcmSizesWithTag | cbcSizes | cbcSizesWithTag | wrappingKeySize
  | wrappedSize | notOaep _ | noSigningKey | cannotSign | notProduced _ => true
  | _ => false

/-- The wording of a fault. -/
def message : CryptoFault → Bytes
  | unknownJws name => utf8 "unsupported JWS algorithm: " ++ name
  | unknownJwe name => utf8 "unsupported JWE algorithm: " ++ name
  | unknownMethod name => utf8 "unsupported JWE encryption method: " ++ name
  | unknownCurve name => utf8 "unsupported curve: " ++ name
  | unsupportedGroup name => utf8 "unsupported EC group: " ++ name
  | unnamedGroup => utf8 "EVP_PKEY_get_utf8_string_param(group) failed"
  | notEllipticCurve => utf8 "not an EC key"
  | gcmSizes => utf8 "AES-GCM key/iv size mismatch"
  | gcmSizesWithTag => utf8 "AES-GCM key/iv/tag size mismatch"
  | cbcSizes => utf8 "AES-CBC-HMAC key/iv size mismatch"
  | cbcSizesWithTag => utf8 "AES-CBC-HMAC key/iv/tag size mismatch"
  | wrappingKeySize => utf8 "AES key wrap needs a 128, 192 or 256 bit KEK"
  | wrappedSize => utf8 "wrapped key has invalid length"
  | notOaep alg => alg.name ++ utf8 " is not an RSA-OAEP algorithm"
  | noSigningKey => utf8 "EvpJwsSigner requires a key"
  | cannotSign => utf8 "key type cannot produce any JWS algorithm"
  | notProduced alg => utf8 "signer key does not support " ++ alg.name
  | derivation => utf8 "Concat KDF derive failed"
  | gcmTag => utf8 "AES-GCM tag verify failed"
  | cbcTag => utf8 "AES-CBC-HMAC tag verify failed"
  | cbcPadding => utf8 "AES-CBC padding check failed"
  | wrapping => utf8 "AES key wrap failed"
  | unwrapping => utf8 "AES key unwrap failed"
  | paddingSetup => utf8 "RSA-OAEP parameter setup failed"
  | encryptionStart => utf8 "EVP_PKEY_encrypt_init failed"
  | encryptionSize => utf8 "EVP_PKEY_encrypt size failed"
  | encryption => utf8 "EVP_PKEY_encrypt failed"
  | decryptionStart => utf8 "EVP_PKEY_decrypt_init failed"
  | decryption => utf8 "EVP_PKEY_decrypt failed"
  | agreementPeer => utf8 "EVP_PKEY_derive_init/set_peer failed"
  | agreement => utf8 "EVP_PKEY_derive failed"
  | signing => utf8 "EVP_DigestSign failed"
  | keyGenerationStart => utf8 "RSA keygen init failed"
  | keyGeneration kind => utf8 "EVP_PKEY_keygen for " ++ kind ++ utf8 " failed"
  | publishing => utf8 "i2d_PUBKEY failed"
  | unreadableKey => utf8 "PEM_read_bio_PrivateKey failed"
  | cannotOpen path => utf8 "cannot open " ++ path

end CryptoFault

/-- The algorithm with this name. -/
def JwsAlgorithm.named (name : Bytes) : Except CryptoFault JwsAlgorithm :=
  match ofName? name with
  | some alg => .ok alg
  | none => .error (.unknownJws name)

/-- The algorithm with this name. -/
def JweAlgorithm.named (name : Bytes) : Except CryptoFault JweAlgorithm :=
  match ofName? name with
  | some alg => .ok alg
  | none => .error (.unknownJwe name)

/-- The method with this name. -/
def ContentEncryption.named (name : Bytes) : Except CryptoFault ContentEncryption :=
  match ofName? name with
  | some enc => .ok enc
  | none => .error (.unknownMethod name)

/-- The curve with this name. -/
def NamedCurve.named (name : Bytes) : Except CryptoFault NamedCurve :=
  match ofName? name with
  | some c => .ok c
  | none => .error (.unknownCurve name)

end WalletResponder
