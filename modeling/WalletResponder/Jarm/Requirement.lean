import WalletResponder.Jose.Jwk
import WalletResponder.Key.Signing

/-!
# How a response is protected

A protected response is signed, or encrypted, or signed and then encrypted. Signing needs an
algorithm and a signer; encryption needs two algorithms and the keys that the verifier offers.
-/

namespace WalletResponder

/-- How a response is signed. There may be no signer at hand. -/
structure JarmSigning where
  alg : JwsAlgorithm
  signer : Option Signer

/-- How a response is encrypted. -/
structure JarmEncryption where
  alg : JweAlgorithm
  enc : ContentEncryption
  keys : JwkSet

/-- How a response is protected. -/
inductive JarmRequirement where
  | signed (s : JarmSigning)
  | encrypted (e : JarmEncryption)
  | signedAndEncrypted (s : JarmSigning) (e : JarmEncryption)

/-- Whether two signers are the same, or both missing. -/
def Signer.sameOption : Option Signer → Option Signer → Bool
  | some a, some b => a.same b
  | none, none => true
  | _, _ => false

/-- Whether two ways of signing are the same. -/
def JarmSigning.same (a b : JarmSigning) : Bool :=
  a.alg == b.alg && Signer.sameOption a.signer b.signer

/-- Whether two ways of encrypting are the same. -/
def JarmEncryption.same (a b : JarmEncryption) : Bool :=
  a.alg == b.alg && a.enc == b.enc && a.keys.same b.keys

/-- Whether two protections are the same. -/
def JarmRequirement.same : JarmRequirement → JarmRequirement → Bool
  | signed a, signed b => a.same b
  | encrypted a, encrypted b => a.same b
  | signedAndEncrypted a c, signedAndEncrypted b d => a.same b && c.same d
  | _, _ => false

/-- Whether two protections are the same, or both missing. -/
def JarmRequirement.sameOption : Option JarmRequirement → Option JarmRequirement → Bool
  | some a, some b => a.same b
  | none, none => true
  | _, _ => false

end WalletResponder
