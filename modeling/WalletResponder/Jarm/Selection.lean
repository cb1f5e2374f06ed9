import WalletResponder.Jose.Jwk

/-!
# Selecting a key of the verifier

A verifier offers a list of keys. The first one counts that has the type an algorithm needs and
describes a key; the others are passed over, whatever is wrong with them.
-/

namespace WalletResponder

namespace Jwk

/-- Whether a key describes a key of the type that an algorithm needs. -/
def isUsable (alg : JweAlgorithm) (k : Jwk) : Bool :=
  k.keyType == alg.family.keyType && k.publicKey.isOk

end Jwk

/-- The first usable key of a set, if there is one. -/
def JwkSet.usable? (alg : JweAlgorithm) (s : JwkSet) : Option Jwk := s.keys.find? (Jwk.isUsable alg)

/-- The first usable key of a set. -/
def JwkSet.select (alg : JweAlgorithm) (s : JwkSet) : Except Failure Jwk :=
  match s.usable? alg with
  | some k => .ok k
  | none => .error (.noUsableKey alg)

end WalletResponder
