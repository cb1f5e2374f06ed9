import WalletResponder.Failure
import WalletResponder.Key.Basic

/-!
# JSON Web Keys

A public key in its JSON form. Reading one (`Jwk.ofJson`) checks that the members that name things
are texts, and drops the members that a private key has, whatever they hold: no secret is carried
along. `Jwk.publicKey` makes the key that the members describe, `Jwk.ofKey` writes the public half
of a key.

In the written form the coordinates of a point have the width of the curve, and the numbers of an
RSA key no leading zeros.
-/

namespace WalletResponder

/-- A JSON Web Key: the members of its object. -/
structure Jwk where
  members : List (Bytes × Json)

namespace Jwk

/-- The members that only private keys have. -/
def privateMembers : List Bytes :=
  [utf8 "d", utf8 "p", utf8 "q", utf8 "dp", utf8 "dq", utf8 "qi", utf8 "oth", utf8 "k"]

/-- The members that have to be texts when they are there, in the order in which they are checked.
-/
def namingMembers : List Bytes := [utf8 "kid", utf8 "use", utf8 "alg", utf8 "crv"]

/-- The object. -/
def toJson (k : Jwk) : Json := .obj k.members

/-- The text of a member. -/
def text? (k : Jwk) (name : Bytes) : Option Bytes := (k.toJson.find? name).bind Json.asText?

/-- The type of the key. -/
def keyType (k : Jwk) : Bytes := (k.text? (utf8 "kty")).getD []

/-- The identifier of the key. -/
def keyId? (k : Jwk) : Option Bytes := k.text? (utf8 "kid")

/-- Whether two keys have the same JSON form. -/
def same (a b : Jwk) : Bool := a.toJson.same b.toJson

/-- Whether a member is a text or absent. -/
def isTextOrAbsent (j : Json) (name : Bytes) : Bool :=
  match j.find? name with
  | none => true
  | some v => v.asText?.isSome

/-- Reads a key. -/
def ofJson (j : Json) : Except JoseFault Jwk :=
  match j with
  | .obj members =>
    if ((j.find? (utf8 "kty")).bind Json.asText?).isSome then
      match namingMembers.find? fun name => !isTextOrAbsent j name with
      | some name => .error (.keyMemberNotText name)
      | none => .ok ⟨members.filter fun m => !privateMembers.contains m.1⟩
    else .error (.keyMember (utf8 "kty"))
  | _ => .error .keyNotObject

/-- A member that has to be a text. -/
def required (k : Jwk) (name : Bytes) : Except JoseFault Bytes :=
  match k.text? name with
  | some s => .ok s
  | none => .error (.keyMember name)

/-- The bytes that a member writes. -/
def requiredBytes (k : Jwk) (name : Bytes) : Except JoseFault Bytes := do
  match Base64Url.decode (← k.required name) with
  | .ok b => pure b
  | .error fault => throw (.encoding fault)

/-- The number that a member writes, in at least one byte. -/
def requiredNumber (k : Jwk) (name : Bytes) : Except JoseFault Nat := do
  let b ← k.requiredBytes name
  if b.isEmpty then throw (.keyNumberEmpty name) else pure (Bytes.toNat b)

/-- The RSA key that the members describe. -/
def rsaKey (k : Jwk) : Except JoseFault RsaKey := do
  let n ← k.requiredNumber (utf8 "n")
  let e ← k.requiredNumber (utf8 "e")
  pure { modulus := n, publicExponent := e, secret := none }

/-- The key on a curve that the members describe. -/
def curveKey (k : Jwk) : Except JoseFault CurveKey := do
  let name ← k.required (utf8 "crv")
  match NamedCurve.ofName? name with
  | none => throw (.keyCurve name)
  | some c =>
    let x ← k.requiredBytes (utf8 "x")
    let y ← k.requiredBytes (utf8 "y")
    if x.length ≠ c.coordinateSize ∨ y.length ≠ c.coordinateSize then
      throw (.coordinateWidth c)
    else if c.group.contains (Bytes.toNat x) (Bytes.toNat y) then
      pure { group := c.group, point := .affine (Bytes.toNat x) (Bytes.toNat y), secret := none }
    else throw .notOnCurve

/-- The key for signatures on a twisted curve that the members describe. -/
def signatureKey (k : Jwk) : Except JoseFault Ed25519Key := do
  let name ← k.required (utf8 "crv")
  if name ≠ utf8 "Ed25519" then throw .signatureCurve
  else
    let x ← k.requiredBytes (utf8 "x")
    if x.length = 32 then pure ⟨x, none⟩ else throw .pointWidth

/-- The key that the members describe. -/
def publicKey (k : Jwk) : Except JoseFault Key :=
  if k.keyType = utf8 "RSA" then k.rsaKey.map .rsa
  else if k.keyType = utf8 "EC" then k.curveKey.map .ec
  else if k.keyType = utf8 "OKP" then k.signatureKey.map .ed25519
  else .error (.keyType k.keyType)

/-- A number as a member writes it. -/
def number (v : Bytes) : Json := .str (Base64Url.encode v)

/-- The members that describe the public half of a key. -/
def describe : Key → Except Failure (List (Bytes × Json))
  | .rsa k =>
    .ok [(utf8 "e", number (Bytes.ofNatMin k.publicExponent)), (utf8 "kty", .text "RSA"),
      (utf8 "n", number (Bytes.ofNatMin k.modulus))]
  | .ec k =>
    match (Key.ec k).namedCurve with
    | .error fault => .error (.crypto fault)
    | .ok c =>
      match k.coordinates? with
      | none => .error (.jose .noCoordinates)
      | some (x, y) =>
        .ok [(utf8 "crv", .str c.name), (utf8 "kty", .text "EC"),
          (utf8 "x", number (Bytes.ofNat c.coordinateSize x)),
          (utf8 "y", number (Bytes.ofNat c.coordinateSize y))]
  | .ed25519 k =>
    .ok [(utf8 "crv", .text "Ed25519"), (utf8 "kty", .text "OKP"), (utf8 "x", number k.point)]
  | _ => .error (.jose .notExportable)

/-- Writes the public half of a key, with an identifier if there is one. -/
def ofKey (key : Key) (keyId : Option Bytes) : Except Failure Jwk :=
  (describe key).map fun members =>
    match keyId with
    | none => ⟨members⟩
    | some id => ⟨Json.put (utf8 "kid") (.str id) members⟩

end Jwk

/-- A list of keys. -/
structure JwkSet where
  keys : List Jwk

namespace JwkSet

/-- Reads a list of keys, all of them or none. -/
def readAll : List Json → Except JoseFault (List Jwk)
  | [] => .ok []
  | j :: rest => do
    let k ← Jwk.ofJson j
    let ks ← readAll rest
    pure (k :: ks)

/-- Reads a key set. -/
def ofJson (j : Json) : Except JoseFault JwkSet :=
  match j with
  | .obj _ =>
    match j.find? (utf8 "keys") with
    | some (.arr items) => (readAll items).map JwkSet.mk
    | _ => .error .keySetWithoutKeys
  | _ => .error .keySetNotObject

/-- The JSON form of a key set. -/
def toJson (s : JwkSet) : Json := .obj [(utf8 "keys", .arr (s.keys.map Jwk.toJson))]

/-- Whether two key sets have the same JSON form. -/
def same (a b : JwkSet) : Bool := a.toJson.same b.toJson

end JwkSet
end WalletResponder
