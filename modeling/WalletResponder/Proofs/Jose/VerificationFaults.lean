import WalletResponder.Proofs.Jose.PublicKeys
import WalletResponder.Proofs.Jose.Verification
import WalletResponder.Key.File

/-!
# How a signed token is refused

Checking a token that does not open blames the token or the key, whatever the two are, with one
exception (`Jws.opens_or_refuses`). A token that names an algorithm of a curve asks for the name of
the group of the key, and the group of a key from a file may have a name that stands for no curve
here, or none at all, if the file describes it by numbers. The fault of that look-up is handed on as
it is (`Jws.Escapes`). No right signature is needed for that, only one in base64url.

A key that is described in JSON is never in this case: its curve has been looked up before.
-/

namespace WalletResponder

/-! ### Keys -/

namespace Jws

variable {token s : Bytes} {key : Option Key} {o : CurveKey} {f : Failure}

/-! ### The parts of a token -/

/-- A token can be read as far as its signature, and names an algorithm. -/
def Names (token : Bytes) (alg : JwsAlgorithm) : Prop :=
  ∃ first second third text members signature,
    token.splitOn dot = [first, second, third] ∧ Base64Url.decode first = .ok text ∧
    Json.parse? text = some (.obj members) ∧
    (Json.obj members).find? (utf8 "alg") = some (.str alg.name) ∧
    Base64Url.decode third = .ok signature

end Jws
end WalletResponder
