import WalletResponder.Crypto.Curve.Key
import WalletResponder.Crypto.Ed25519
import WalletResponder.Crypto.Exchange.Ladder
import WalletResponder.Crypto.Exchange.Residue
import WalletResponder.Crypto.Rsa.Oaep

/-!
# Keys

A key of one of the kinds that protect responses, or of another kind. Some keys of other kinds can
agree on a secret; about the rest nothing is known but that they are of no use here. A key may have
its private part or not; `Key.publicHalf` drops it.
-/

namespace WalletResponder

/-- What matters of a key that is of no use here. -/
structure OtherKey where
  /-- Whether it encrypts, in a way of its own. -/
  encrypts : Bool := false
  /-- Whether its public half can be written. -/
  publishes : Bool := true
  deriving DecidableEq, Repr

/-- A key, with its private part if that is known. -/
inductive Key where
  | rsa (k : RsaKey)
  | ec (k : CurveKey)
  | ed25519 (k : Ed25519Key)
  | ladder (k : LadderKey)
  | residue (k : ResidueKey)
  | other (k : OtherKey)
  deriving DecidableEq

/-- The group that a curve's name stands for. -/
def NamedCurve.group : NamedCurve → Group
  | p256 => .prime256v1
  | p384 => .secp384r1
  | p521 => .secp521r1

/-- The curve whose name stands for a group, if one does. -/
def NamedCurve.ofGroup? (g : Group) : Option NamedCurve := all.find? fun c => c.group == g

/-- What is wrong with a group that no curve stands for. -/
def Group.strayFault (g : Group) : CryptoFault :=
  match g.name with
  | some name => .unsupportedGroup name
  | none => .unnamedGroup

namespace Key

/-- The key without its private part. The public half of a key of the group with schemes of its own
is no longer taken for one on a curve. -/
def publicHalf : Key → Except CryptoFault Key
  | rsa k => .ok (rsa k.publicHalf)
  | ec k =>
    k.publicHalf.map fun h => if k.group.hasOwnSchemes then other { encrypts := true } else ec h
  | ed25519 k => .ok (ed25519 k.publicHalf)
  | ladder k => .ok (ladder k.publicHalf)
  | residue k => .ok (residue k.publicHalf)
  | other k => if k.publishes then .ok (other k) else .error .publishing

/-- The family of a key that can receive a content key. -/
def family? : Key → Option KeyFamily
  | rsa _ => some .rsa
  | ec _ => some .ellipticCurve
  | _ => none

/-- The named curve of a key on a curve. -/
def namedCurve : Key → Except CryptoFault NamedCurve
  | ec k =>
    match NamedCurve.ofGroup? k.group with
    | some c => .ok c
    | none => .error k.group.strayFault
  | _ => .error .notEllipticCurve

/-- The secret that two keys share. -/
def agree : Key → Key → Except CryptoFault Bytes
  | ec own, ec peer => own.agree peer
  | ladder own, ladder peer => own.agree peer
  | residue own, residue peer => own.agree peer
  | _, _ => .error .agreementPeer

/-- Whether a key encrypts in a way of its own. -/
def encryptsOtherwise : Key → Bool
  | ec k => k.group.hasOwnSchemes
  | other k => k.encrypts
  | _ => false

/-- Why a key that is no RSA key does not encrypt or decrypt. One that encrypts in a way of its own
fails when it is told about the padding, another one at once. -/
def refusal (k : Key) (alg : JweAlgorithm) (atOnce : CryptoFault) : CryptoFault :=
  if k.encryptsOtherwise then
    if (Oaep.hash? alg).isSome then .paddingSetup else .notOaep alg
  else atOnce

/-- Encrypts a content key. -/
def encrypt (k : Key) (alg : JweAlgorithm) (message : Bytes) (e : Entropy) :
    Except CryptoFault Bytes :=
  match k with
  | rsa k => k.encrypt alg message e
  | k => .error (k.refusal alg .encryptionStart)

/-- Decrypts a content key. -/
def decrypt (k : Key) (alg : JweAlgorithm) (ciphertext : Bytes) : Except CryptoFault Bytes :=
  match k with
  | rsa k => k.decrypt alg ciphertext
  | k => .error (k.refusal alg .decryptionStart)

end Key
end WalletResponder
