import WalletResponder.Jose.Jwk
import WalletResponder.Json.Parser
import WalletResponder.Key.Signing

/-!
# Signed tokens

A signed token has three parts, joined by dots and each in base64url: the header, the payload and
the signature of the first two as they stand. The header names the algorithm, and checking a token
uses that one, with a key that must be able to serve it.
-/

namespace WalletResponder

/-- What a token holds: its header and its content. -/
structure Opened where
  header : Json
  content : Bytes

namespace Jws

/-- The dot between two parts. -/
def dot : UInt8 := 0x2e

/-- Two parts with a dot between them. -/
def join (a b : Bytes) : Bytes := a ++ dot :: b

/-- What is signed: header and payload. -/
def input (header payload : Bytes) : Bytes :=
  join (Base64Url.encode header) (Base64Url.encode payload)

/-- The token for a payload. The header gets the name of the algorithm. -/
def sign (header : Json) (payload : Bytes) (signer : Signer) (alg : JwsAlgorithm) (e : Entropy) :
    Except Failure Bytes := do
  let header ← ofJson (header.assign (utf8 "alg") (.str alg.name))
  let text ← ofJson header.dump
  let signature ← ofCrypto (signer.sign alg (input text payload) e)
  pure (join (input text payload) (Base64Url.encode signature))

/-- The bytes that a part writes. -/
def part (s : Bytes) : Except Failure Bytes :=
  match Base64Url.decode s with
  | .ok b => .ok b
  | .error fault => .error (.jose (.encoding fault))

/-- The header that a part writes. -/
def header (s : Bytes) : Except Failure Json := do
  match Json.parse? (← part s) with
  | some (.obj members) => pure (.obj members)
  | _ => throw (.jose .signedHeader)

/-- The algorithm that a header names. -/
def algorithm (header : Json) : Except JoseFault JwsAlgorithm :=
  match header.find? (utf8 "alg") with
  | some (.str name) =>
    match JwsAlgorithm.named name with
    | .ok alg => .ok alg
    | .error fault => .error (.unknownAlgorithm fault)
  | _ => .error .signedWithoutAlgorithm

/-- Checks a token and opens it. -/
def verify (token : Bytes) (key : Option Key) : Except Failure Opened :=
  match token.splitOn dot with
  | [first, second, third] => do
    let h ← header first
    let alg ← ofJose (algorithm h)
    let signature ← part third
    let right ← ofCrypto (Key.verify key alg (join first second) signature)
    if right then
      let payload ← part second
      pure ⟨h, payload⟩
    else throw (.jose .signature)
  | _ => .error (.jose .signedParts)

end Jws
end WalletResponder
