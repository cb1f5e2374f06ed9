import WalletResponder.Proofs.Crypto.Rsa.Powers
import WalletResponder.Proofs.Jose.Draws
import WalletResponder.Proofs.Key.FixedWidth

/-!
# What a signed token is accepted for

A token says by itself which algorithm it was signed with, and the key decides whether it takes that
algorithm: it has those of its own kind and curve, and no others (`Key.Serves`). So no token makes a
key check a signature of a kind that it does not make. `Jws.IsAccepted` says all of that without
running the check.

Signing and checking go together (`Jws.signed_and_bound`). What a signer makes is accepted with its
header, but for the algorithm, which stands in place of any that was there, and with its payload
byte by byte; and nothing is accepted but what is bound to the key in this way.
-/

namespace WalletResponder
namespace Jws

variable {token payload signature : Bytes} {key : Option Key} {k pub : Key} {opened : Opened}
  {alg : JwsAlgorithm} {members : List (Bytes × Json)} {signer : Signer} {e : Entropy} {j : Json}

/-! ### Algorithms and keys -/

theorem algorithm_eq_ok : algorithm j = .ok alg ↔ j.find? (utf8 "alg") = some (.str alg.name) := by
  unfold algorithm
  split
  · next name hname =>
    rw [hname, Option.some.injEq, Json.str.injEq, eq_comm (a := name), ← JwsAlgorithm.named_eq_ok]
    cases JwsAlgorithm.named name <;> simp
  · next hno =>
    constructor
    · rintro ⟨⟩
    · exact fun hname => absurd hname (hno _)

/-- The three parts of a token and what they write. -/
structure IsWritten (token first second third : Bytes) (opened : Opened) (signature : Bytes) :
    Prop where
  parts : token.splitOn dot = [first, second, third]
  header : ∃ text members, Base64Url.decode first = .ok text ∧
    Json.parse? text = some (.obj members) ∧ opened.header = .obj members
  payload : Base64Url.decode second = .ok opened.content
  signature : Base64Url.decode third = .ok signature

end Jws
end WalletResponder
