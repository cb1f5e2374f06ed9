import WalletResponder.Bytes

/-!
# Algorithm names

The algorithms that protect a response, by their registered names: signatures (`JwsAlgorithm`), key
management (`JweAlgorithm`) and content encryption (`ContentEncryption`). Names are exact; reading
any other name fails.
-/

namespace WalletResponder

/-- Signature algorithms. -/
inductive JwsAlgorithm where
  | rs256 | rs384 | rs512
  | ps256 | ps384 | ps512
  | es256 | es384 | es512
  | edDsa
  deriving DecidableEq, Repr

namespace JwsAlgorithm

/-- The registered name. -/
def name : JwsAlgorithm → Bytes
  | rs256 => utf8 "RS256"
  | rs384 => utf8 "RS384"
  | rs512 => utf8 "RS512"
  | ps256 => utf8 "PS256"
  | ps384 => utf8 "PS384"
  | ps512 => utf8 "PS512"
  | es256 => utf8 "ES256"
  | es384 => utf8 "ES384"
  | es512 => utf8 "ES512"
  | edDsa => utf8 "EdDSA"

/-- All signature algorithms, in the order in which a key's algorithms are listed. -/
def all : List JwsAlgorithm :=
  [rs256, rs384, rs512, ps256, ps384, ps512, es256, es384, es512, edDsa]

/-- The algorithm with this name. -/
def ofName? (name : Bytes) : Option JwsAlgorithm := all.find? fun alg => alg.name == name

end JwsAlgorithm

/-- The kind of key that a key management algorithm needs from the recipient. -/
inductive KeyFamily where
  | ellipticCurve
  | rsa
  deriving DecidableEq, Repr

/-- The key type member of the keys of a family. -/
def KeyFamily.keyType : KeyFamily → Bytes
  | ellipticCurve => utf8 "EC"
  | rsa => utf8 "RSA"

/-- Key management algorithms. -/
inductive JweAlgorithm where
  | rsaOaep | rsaOaep256
  | ecdhEs | ecdhEsA128kw | ecdhEsA192kw | ecdhEsA256kw
  deriving DecidableEq, Repr

namespace JweAlgorithm

/-- The registered name. -/
def name : JweAlgorithm → Bytes
  | rsaOaep => utf8 "RSA-OAEP"
  | rsaOaep256 => utf8 "RSA-OAEP-256"
  | ecdhEs => utf8 "ECDH-ES"
  | ecdhEsA128kw => utf8 "ECDH-ES+A128KW"
  | ecdhEsA192kw => utf8 "ECDH-ES+A192KW"
  | ecdhEsA256kw => utf8 "ECDH-ES+A256KW"

/-- All key management algorithms. -/
def all : List JweAlgorithm :=
  [rsaOaep, rsaOaep256, ecdhEs, ecdhEsA128kw, ecdhEsA192kw, ecdhEsA256kw]

/-- The algorithm with this name. -/
def ofName? (name : Bytes) : Option JweAlgorithm := all.find? fun alg => alg.name == name

/-- The kind of key the algorithm needs. -/
def family : JweAlgorithm → KeyFamily
  | rsaOaep | rsaOaep256 => .rsa
  | ecdhEs | ecdhEsA128kw | ecdhEsA192kw | ecdhEsA256kw => .ellipticCurve

/-- The size in bytes of the key that wraps the content key, zero where none does. -/
def wrapSize : JweAlgorithm → Nat
  | ecdhEsA128kw => 16
  | ecdhEsA192kw => 24
  | ecdhEsA256kw => 32
  | _ => 0

end JweAlgorithm

/-- Content encryption methods. -/
inductive ContentEncryption where
  | a128cbcHs256 | a192cbcHs384 | a256cbcHs512
  | a128gcm | a192gcm | a256gcm
  deriving DecidableEq, Repr

namespace ContentEncryption

/-- The registered name. -/
def name : ContentEncryption → Bytes
  | a128cbcHs256 => utf8 "A128CBC-HS256"
  | a192cbcHs384 => utf8 "A192CBC-HS384"
  | a256cbcHs512 => utf8 "A256CBC-HS512"
  | a128gcm => utf8 "A128GCM"
  | a192gcm => utf8 "A192GCM"
  | a256gcm => utf8 "A256GCM"

/-- All content encryption methods. -/
def all : List ContentEncryption :=
  [a128cbcHs256, a192cbcHs384, a256cbcHs512, a128gcm, a192gcm, a256gcm]

/-- The method with this name. -/
def ofName? (name : Bytes) : Option ContentEncryption := all.find? fun enc => enc.name == name

end ContentEncryption

/-- The curves that a key may name. -/
inductive NamedCurve where
  | p256 | p384 | p521
  deriving DecidableEq, Repr

namespace NamedCurve

/-- The registered name. -/
def name : NamedCurve → Bytes
  | p256 => utf8 "P-256"
  | p384 => utf8 "P-384"
  | p521 => utf8 "P-521"

/-- All curves that a key may name. -/
def all : List NamedCurve := [p256, p384, p521]

/-- The curve with this name. -/
def ofName? (name : Bytes) : Option NamedCurve := all.find? fun c => c.name == name

/-- How many bytes a coordinate has. -/
def coordinateSize : NamedCurve → Nat
  | p256 => 32
  | p384 => 48
  | p521 => 66

end NamedCurve
end WalletResponder
