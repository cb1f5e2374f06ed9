import WalletResponder.Jarm.Claims
import WalletResponder.Jarm.Selection
import WalletResponder.Jose.Jwe
import WalletResponder.Wallet.Config

/-!
# Protecting a response

The token of a protected response: its claims as a signed token, as the text of an encrypted one, or
as a signed token inside an encrypted one, whose header then says so. The wallet's configuration has
to cover the protection.
-/

namespace WalletResponder

/-- Signs the claims. -/
def JarmSigning.token (s : JarmSigning) (wallet : JarmConfig) (claims : JarmClaims) (e : Entropy) :
    Except Failure Bytes :=
  if wallet.signing.isNone then .error (.protection .noSigning)
  else if !wallet.signs s.alg then .error (.protection (.doesNotSign s.alg))
  else
    match s.signer with
    | none => .error (.protection (.signerCannot s.alg))
    | some signer =>
      if signer.supports s.alg then do
        let text ← ofJson claims.toJson.dump
        Jws.sign (.obj [(utf8 "kid", .str signer.keyId)]) text signer s.alg e
      else .error (.protection (.signerCannot s.alg))

/-- Encrypts a text under a header. -/
def JarmEncryption.token (r : JarmEncryption) (wallet : JarmConfig) (text : Bytes) (header : Json)
    (e : Entropy) : Except Failure Bytes :=
  if wallet.encryption.isNone then .error (.protection .noEncryption)
  else if !wallet.encrypts r.alg r.enc then .error (.protection (.doesNotEncrypt r.alg r.enc))
  else do
    let recipient ← r.keys.select r.alg
    Jwe.encrypt r.alg r.enc recipient text header e

/-- The header of an encrypted token with a signed one inside. -/
def nestedHeader : Json := .obj [(utf8 "cty", .text "JWT")]

/-- The token for a payload. -/
def JarmRequirement.token (r : JarmRequirement) (config : WalletConfig) (now : Int) (p : Payload)
    (e : Entropy) : Except Failure Bytes :=
  let claims := JarmClaims.ofPayload p config.issuer now config.cancelled
  match r with
  | signed s => s.token config.jarm claims e
  | encrypted r => do
    let text ← ofJson claims.toJson.dump
    r.token config.jarm text (.obj []) e
  | signedAndEncrypted s r =>
    if config.jarm.encrypts r.alg r.enc then do
      let inner ← s.token config.jarm claims e.left
      r.token config.jarm inner nestedHeader e.right
    else .error (.protection (.doesNotEncrypt r.alg r.enc))

end WalletResponder
