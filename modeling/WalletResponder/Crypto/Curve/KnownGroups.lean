import WalletResponder.Crypto.Curve.BinaryGroups
import WalletResponder.Crypto.Curve.PrimeGroups

/-!
# All known groups

Those that a key may name, and two more that it can only describe.
-/

namespace WalletResponder.Group

/-- All groups that a key may name. -/
def all : List Group :=
  [prime256v1, secp384r1, secp521r1, sm2] ++ overPrimes ++ brainpool ++ overPolynomials

/-- The known groups without an object identifier. -/
def unlisted : List Group := [
  ⟨utf8 "Oakley-EC2N-3", [], .binary ⟨155, [62, 0]⟩, 0, 0x7338f, 0x7b, 0x1c8,
    0x2aaaaaaaaaaaaaaaaaac7f3c7881bd0868fa86c, 3⟩,
  ⟨utf8 "Oakley-EC2N-4", [], .binary ⟨185, [69, 0]⟩, 0, 0x1ee9, 0x18, 0xd,
    0xffffffffffffffffffffffedf97c44db9f2420bafca75e, 2⟩]

/-- The numbers of a group. -/
def numbers (g : Group) : Group := { g with name := none, identifier := [], cofactor := 0 }

/-- The known group with the same numbers, if there is one, or else the group itself. -/
def recognised (g : Group) : Group :=
  ((all ++ unlisted).find? fun k => k.numbers == g.numbers).getD g

/-- The group with an object identifier. -/
def ofIdentifier? (identifier : Bytes) : Option Group :=
  all.find? fun g => g.identifier == identifier

end WalletResponder.Group
