import WalletResponder.Crypto.Entropy
import WalletResponder.Crypto.Fault
import WalletResponder.Crypto.Rsa.Basic

/-!
# New RSA keys

Two random primes of half the length each, with their two highest bits set, so that the modulus has
exactly the length asked for. The public exponent is 65537.
-/

namespace WalletResponder.RsaKey

/-- The public exponent of new keys. -/
def commonExponent : Nat := 65537

/-- Whether a prime can be a factor of a modulus: its predecessor has no factor in common with the
public exponent. -/
def isFactor (p : Nat) : Bool := Modular.isProbablePrime p && (p - 1) % commonExponent != 0

/-- The first factor among `v`, `v + 2`, …; `fuel` bounds the search. -/
def factorFrom : Nat → Nat → Nat
  | 0, v => v
  | fuel + 1, v => if isFactor v then v else factorFrom fuel (v + 2)

/-- A factor of `bits` bits. -/
def factor (bits : Nat) (e : Entropy) : Nat :=
  let drawn := Bytes.toNat (e.take (bits / 8 + 1)) % Nat.pow 2 (bits - 2)
  factorFrom (100 * bits) (3 * Nat.pow 2 (bits - 2) + (drawn / 2 * 2 + 1))

/-- The key with two factors. -/
def ofFactors? (p q : Nat) : Option RsaKey :=
  (Modular.inverse? (Nat.lcm (p - 1) (q - 1)) commonExponent).map fun d =>
    ⟨p * q, commonExponent, some ⟨d, none⟩⟩

/-- A new key with a modulus of `bits` bits, which are at least 512. -/
def generate (bits : Nat) (e : Entropy) : Except CryptoFault RsaKey :=
  if bits < 512 then .error .keyGenerationStart
  else
    match ofFactors? (factor ((bits + 1) / 2) e.left) (factor (bits / 2) e.right) with
    | some k => .ok k
    | none => .error (.keyGeneration (utf8 "RSA"))

end WalletResponder.RsaKey
