import WalletResponder.Crypto.Fault
import WalletResponder.Json.Basic
import WalletResponder.Text.Base64Url

/-!
# What is wrong with a key or a token

The reasons for which a JSON Web Key, a signed or an encrypted token, or the claims inside one are
refused.
-/

namespace WalletResponder

/-- Why a key, a token or its claims are refused. -/
inductive JoseFault where
  | encoding (fault : Base64Url.Fault)
  /-- A key is no object. -/
  | keyNotObject
  /-- A key lacks a text. -/
  | keyMember (name : Bytes)
  /-- A member of a key that has to be a text is none. -/
  | keyMemberNotText (name : Bytes)
  /-- A number of a key has no bytes. -/
  | keyNumberEmpty (name : Bytes)
  /-- The type of a key is not known. -/
  | keyType (type : Bytes)
  /-- The curve of a key is not known. -/
  | keyCurve (name : Bytes)
  /-- The curve of a key is no signature curve. -/
  | signatureCurve
  /-- A coordinate has not the width of the curve. -/
  | coordinateWidth (curve : NamedCurve)
  /-- The coordinates are not those of a point. -/
  | notOnCurve
  /-- The bytes of a point have the wrong number. -/
  | pointWidth
  /-- A key of this kind has no JSON form. -/
  | notExportable
  /-- The point of a key shows no coordinates. -/
  | noCoordinates
  /-- A key set is no object. -/
  | keySetNotObject
  /-- A key set has no list of keys. -/
  | keySetWithoutKeys
  /-- A signed token has not three parts. -/
  | signedParts
  /-- The header of a signed token is no object. -/
  | signedHeader
  /-- A signed token names no algorithm. -/
  | signedWithoutAlgorithm
  /-- A token names an algorithm that is not known. -/
  | unknownAlgorithm (fault : CryptoFault)
  /-- A signature is wrong. -/
  | signature
  /-- An encrypted token has not five parts. -/
  | encryptedParts
  /-- The header of an encrypted token is no object. -/
  | encryptedHeader
  /-- The header of an encrypted token lacks a text. -/
  | headerMember (name : Bytes)
  /-- A member of the header that has to be a text is none. -/
  | headerMemberNotText (name : Bytes)
  /-- The private key is not of the kind that the algorithm needs. -/
  | wrongPrivateKey (alg : JweAlgorithm)
  /-- The recipient's key is not of the kind that the algorithm needs. -/
  | wrongRecipient (alg : JweAlgorithm) (type : Bytes)
  /-- There is no ephemeral key. -/
  | noEphemeralKey
  /-- The ephemeral key is on no curve. -/
  | ephemeralKeyKind
  /-- A content key is sent along with one that both sides derive. -/
  | superfluousKey
  /-- The content key has the wrong size. -/
  | contentKeySize (enc : ContentEncryption)
  /-- A decryption failed. -/
  | decryption (fault : CryptoFault)
  /-- A claim set is no object. -/
  | claimsNotObject
  /-- A claim that has to be a text is none. -/
  | claimNotText (name : Bytes)
  /-- The time of issue is missing or no integer. -/
  | issuedAt
  /-- The audience is missing. -/
  | audience
  /-- The presentation submission cannot be read. -/
  | submission (fault : Json.Fault)
  deriving DecidableEq, Repr

namespace JoseFault

/-- A name between single quotes. -/
def quoted (name : Bytes) : Bytes := utf8 "'" ++ name ++ utf8 "'"

/-- The wording of a fault. -/
def message : JoseFault → Bytes
  | encoding fault => fault.message
  | keyNotObject => utf8 "JWK must be a JSON object"
  | keyMember name => utf8 "JWK member " ++ quoted name ++ utf8 " missing or not a string"
  | keyMemberNotText name => utf8 "JWK member " ++ quoted name ++ utf8 " must be a string"
  | keyNumberEmpty name => utf8 "JWK member " ++ quoted name ++ utf8 " is empty"
  | keyType type => utf8 "unsupported JWK kty: " ++ type
  | keyCurve name => (CryptoFault.unknownCurve name).message
  | signatureCurve => utf8 "unsupported OKP curve"
  | coordinateWidth curve => utf8 "EC JWK coordinate has wrong length for " ++ curve.name
  | notOnCurve => utf8 "JWK does not describe a valid EC public key"
  | pointWidth => utf8 "EVP_PKEY_new_raw_public_key(Ed25519) failed"
  | notExportable => utf8 "cannot export key type as JWK"
  | noCoordinates => utf8 "EVP_PKEY_get_bn_param(qx) failed"
  | keySetNotObject => utf8 "JWK set must be a JSON object"
  | keySetWithoutKeys => utf8 "JWK set needs a 'keys' array"
  | signedParts => utf8 "compact JWS must have three parts"
  | signedHeader => utf8 "JWS header is not a JSON object"
  | signedWithoutAlgorithm => utf8 "JWS header has no alg"
  | unknownAlgorithm fault => fault.message
  | signature => utf8 "JWS signature verification failed"
  | encryptedParts => utf8 "compact JWE must have five parts"
  | encryptedHeader => utf8 "JWE header is not a JSON object"
  | headerMember name => utf8 "JWE header member " ++ quoted name ++ utf8 " missing or not a string"
  | headerMemberNotText name => utf8 "JWE header member " ++ quoted name ++ utf8 " must be a string"
  | wrongPrivateKey alg => utf8 "private key does not match " ++ alg.name
  | wrongRecipient alg type => alg.name ++ utf8 " cannot use a " ++ type ++ utf8 " key"
  | noEphemeralKey => utf8 "ECDH-ES JWE has no epk header"
  | ephemeralKeyKind => utf8 "epk is not an EC key"
  | superfluousKey => utf8 "direct ECDH-ES JWE must have an empty encrypted key"
  | contentKeySize enc => utf8 "CEK has the wrong length for " ++ enc.name
  | decryption fault => utf8 "JWE decryption failed: " ++ fault.message
  | claimsNotObject => utf8 "JARM claim set must be a JSON object"
  | claimNotText name => utf8 "claim " ++ quoted name ++ utf8 " must be a string"
  | issuedAt => utf8 "claim 'iat' missing or not an integer"
  | audience => utf8 "claim 'aud' missing"
  | submission fault => utf8 "claim 'presentation_submission' is malformed: " ++ fault.message

end JoseFault
end WalletResponder
