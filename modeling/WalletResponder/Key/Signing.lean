import WalletResponder.Crypto.Curve.Ecdsa
import WalletResponder.Crypto.Rsa.Signature
import WalletResponder.Key.Basic

/-!
# Signing and checking signatures

Which signature algorithms a key can serve follows from its kind, and for a key on a curve from the
curve (`Key.supports`). A `Signer` is a key with an identifier and the list of its algorithms; it
signs with none but those. Checking a signature (`Key.verify`) is refused in the same way.
-/

namespace WalletResponder

namespace JwsAlgorithm

/-- The hash function of an algorithm. -/
def hash : JwsAlgorithm → Hash
  | rs256 | ps256 | es256 => .sha256
  | rs384 | ps384 | es384 => .sha384
  | rs512 | ps512 | es512 | edDsa => .sha512

/-- The curve of the algorithms that need one. -/
def curve? : JwsAlgorithm → Option NamedCurve
  | es256 => some .p256
  | es384 => some .p384
  | es512 => some .p521
  | _ => none

/-- Whether an algorithm is one of RSA. -/
def isRsa : JwsAlgorithm → Bool
  | rs256 | rs384 | rs512 | ps256 | ps384 | ps512 => true
  | _ => false

/-- Whether an algorithm is one of RSA with a salt. -/
def isSalted : JwsAlgorithm → Bool
  | ps256 | ps384 | ps512 => true
  | _ => false

end JwsAlgorithm

namespace Key

/-- Whether a key can serve an algorithm. The question has no answer for a key on a curve without a
name and an algorithm that needs a curve. -/
def supports (k : Key) (alg : JwsAlgorithm) : Except CryptoFault Bool :=
  match alg.curve?, k with
  | some c, ec _ => k.namedCurve.map (· == c)
  | some _, _ => .ok false
  | none, rsa _ => .ok alg.isRsa
  | none, ed25519 _ => .ok (!alg.isRsa)
  | none, _ => .ok false

/-- The algorithms of a list that a key can serve. -/
def supportedOf (k : Key) : List JwsAlgorithm → Except CryptoFault (List JwsAlgorithm)
  | [] => .ok []
  | alg :: rest =>
    match k.supports alg with
    | .error fault => .error fault
    | .ok yes => (k.supportedOf rest).map fun algs => if yes then alg :: algs else algs

/-- The signature of a message, if the key can make one. -/
def sign? (k : Key) (alg : JwsAlgorithm) (message : Bytes) (e : Entropy) : Option Bytes :=
  match k with
  | rsa k =>
    if alg.isSalted then k.signSalted? alg.hash message (e.take alg.hash.size)
    else k.signFixed? alg.hash message
  | ec k => k.sign? (alg.hash.digest message) e
  | ed25519 k => k.sign? message
  | _ => none

/-- Whether a signature is right, for an algorithm that the key can serve. -/
def checks (k : Key) (alg : JwsAlgorithm) (message signature : Bytes) : Bool :=
  match k with
  | rsa k =>
    if alg.isSalted then k.verifySalted alg.hash message signature
    else k.verifyFixed alg.hash message signature
  | ec k => k.verify (alg.hash.digest message) signature
  | ed25519 k => k.verify message signature
  | _ => false

/-- Checks a signature; without a key, or with one that cannot serve the algorithm, it is wrong. -/
def verify (key : Option Key) (alg : JwsAlgorithm) (message signature : Bytes) :
    Except CryptoFault Bool :=
  match key with
  | none => .ok false
  | some k => (k.supports alg).map fun yes => yes && k.checks alg message signature

end Key

/-- A key that signs, with an identifier. Two signers are the same when their handles are; a handle
is given out once. -/
structure Signer where
  handle : Nat
  keyId : Bytes
  key : Key
  algorithms : List JwsAlgorithm

namespace Signer

/-- The signer with a key, which must serve at least one algorithm. -/
def ofKey (handle : Nat) (key : Option Key) (keyId : Bytes) : Except CryptoFault Signer :=
  match key with
  | none => .error .noSigningKey
  | some k =>
    match k.supportedOf JwsAlgorithm.all with
    | .error fault => .error fault
    | .ok [] => .error .cannotSign
    | .ok algs => .ok ⟨handle, keyId, k, algs⟩

/-- Whether two signers are the same. -/
def same (a b : Signer) : Bool := a.handle == b.handle

/-- Whether a signer serves an algorithm. -/
def supports (s : Signer) (alg : JwsAlgorithm) : Bool := s.algorithms.contains alg

/-- Signs a message. -/
def sign (s : Signer) (alg : JwsAlgorithm) (message : Bytes) (e : Entropy) :
    Except CryptoFault Bytes :=
  if s.supports alg then
    match s.key.sign? alg message e with
    | some signature => .ok signature
    | none => .error .signing
  else .error (.notProduced alg)

end Signer
end WalletResponder
