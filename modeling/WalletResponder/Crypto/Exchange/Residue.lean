import WalletResponder.Crypto.Fault
import WalletResponder.Crypto.Modular

/-!
# Key agreement with residues

A key is a power of a generator modulo an odd number and, for whoever holds it, the exponent. Two
holders agree on the power with both exponents, written without leading zeros. Powers that say
nothing about the exponents (zero, one and minus one) are refused, on the way in and as a result.
-/

namespace WalletResponder

/-- A modulus, a generator and, in one of the two forms of such keys, the order of the generator. -/
structure ResidueGroup where
  p : Nat
  g : Nat
  q : Option Nat
  deriving DecidableEq, Repr

namespace ResidueGroup

/-- Whether the modulus is odd and neither too short nor too long. -/
def isUsable (r : ResidueGroup) : Bool :=
  r.p % 2 == 1 && Nat.pow 2 511 ≤ r.p && r.p < Nat.pow 2 10000

/-- Whether a residue can be a partner's: it is none of the trivial ones, and a power of the
generator as far as the order tells. -/
def accepts (r : ResidueGroup) (v : Nat) : Bool :=
  1 < v && v + 1 < r.p &&
    match r.q with
    | none => true
    | some q => q ≤ r.p && Modular.pow v q r.p == 1

/-- Whether keys of two groups have to do with each other: the groups are of the same form, with the
same modulus and generator. -/
def goesWith (r s : ResidueGroup) : Bool :=
  r.p == s.p && r.g == s.g && r.q.isSome == s.q.isSome

end ResidueGroup

/-- A key for agreement with residues, with its exponent if that is known. -/
structure ResidueKey where
  group : ResidueGroup
  residue : Nat
  exponent : Option Nat
  deriving DecidableEq, Repr

namespace ResidueKey

/-- The key with an exponent. -/
def ofExponent (r : ResidueGroup) (x : Nat) : ResidueKey := ⟨r, Modular.pow r.g x r.p, some x⟩

/-- The key without its exponent. -/
def publicHalf (k : ResidueKey) : ResidueKey := { k with exponent := none }

/-- The secret that two keys of one group share. -/
def agree (own peer : ResidueKey) : Except CryptoFault Bytes :=
  if !own.group.goesWith peer.group || !peer.group.accepts peer.residue then .error .agreementPeer
  else
    match own.exponent with
    | none => .error .agreement
    | some x =>
      let shared := Modular.pow peer.residue x own.group.p
      if 1 < shared && shared + 1 < own.group.p then .ok (Bytes.ofNatMin shared)
      else .error .agreement

end ResidueKey
end WalletResponder
