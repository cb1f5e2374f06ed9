import WalletResponder.Crypto.Curve.Point
import WalletResponder.Crypto.Entropy
import WalletResponder.Crypto.Fault

/-!
# Keys on a curve and key agreement

A key is a point of a group and, for whoever holds it, the number whose multiple of the generator it
is. Two holders agree on the first coordinate of the product of their points, written with the width
of the field. A point is no partner if it is not a multiple of the generator, or is the neutral
element.
-/

namespace WalletResponder

/-- A point of a group, with its secret multiplier if that is known. -/
structure CurveKey where
  group : Group
  point : Point
  secret : Option Nat
  /-- Whether there is a form to write the point in. A key keeps the form that its point was read
  in, and the zero byte of the neutral element is none. -/
  hasForm : Bool := true
  /-- Whether the coordinates of the point are shown to whoever asks for them. -/
  showsPoint : Bool := true
  deriving DecidableEq

namespace CurveKey

/-- The key without its secret, written and read again. -/
def publicHalf (k : CurveKey) : Except CryptoFault CurveKey :=
  if k.hasForm then
    .ok { group := k.group, point := k.point, secret := none, hasForm := k.point != .neutral }
  else .error .publishing

/-- The coordinates of the point, if it has some that can be shown. -/
def coordinates? (k : CurveKey) : Option (Nat × Nat) :=
  match k.point with
  | .neutral => none
  | .affine x y => if k.showsPoint then some (x, y) else none

/-- The key with a secret. -/
def ofSecret (g : Group) (secret : Nat) : CurveKey where
  group := g
  point := g.scale secret g.generator
  secret := some secret

/-- A new key on a group. -/
def generate (g : Group) (e : Entropy) : CurveKey := ofSecret g (e.below g.n)

/-- Whether a point is a multiple of the generator other than the neutral element. Where the curve
is known to have no other points, nothing has to be computed. -/
def isPartner (k : CurveKey) : Bool :=
  k.point != .neutral && (k.group.cofactor == 1 || k.group.scale k.group.n k.point == .neutral)

/-- The secret that two keys of one group share; it takes the secret of the first. -/
def agree (own peer : CurveKey) : Except CryptoFault Bytes :=
  if own.group ≠ peer.group || own.group.hasOwnSchemes || !peer.isPartner then
    .error .agreementPeer
  else
    match own.secret with
    | none => .error .agreement
    | some k =>
      match own.group.scale k peer.point with
      | .neutral => .error .agreement
      | .affine x _ => .ok (Bytes.ofNat own.group.size x)

end CurveKey
end WalletResponder
