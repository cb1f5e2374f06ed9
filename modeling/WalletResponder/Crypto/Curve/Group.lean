import WalletResponder.Bytes
import WalletResponder.Crypto.BinaryField

/-!
# Groups of elliptic curves

The groups of points on curves, with their names. Over the integers modulo a prime a curve is given
by `y ^ 2 = x ^ 3 + a x + b`, over a binary field by `y ^ 2 + x y = x ^ 3 + a x ^ 2 + b`. In a known
group the point `(gx, gy)` has `n` different multiples, `n` is a prime, and the curve has `cofactor`
times as many points. Of a group that is described by numbers nothing of that is known; it has no
name, and its cofactor is zero.
-/

namespace WalletResponder

/-- What the coordinates of a curve are: integers modulo a prime or elements of a binary field. -/
inductive CoordinateField where
  | prime (p : Nat)
  | binary (f : BinaryField)
  deriving DecidableEq, Repr

/-- How many bytes an element has. -/
def CoordinateField.size : CoordinateField → Nat
  | prime p => Bytes.width p
  | binary f => (f.degree + 7) / 8

/-- A curve, a point on it and the order of the point. -/
structure Group where
  /-- The short name. -/
  name : Option Bytes
  /-- The content of the object identifier, empty if there is none. -/
  identifier : Bytes
  field : CoordinateField
  (a b gx gy n cofactor : Nat)
  deriving DecidableEq

namespace Group

/-- The group `prime256v1`. -/
def prime256v1 : Group where
  name := utf8 "prime256v1"
  identifier := [0x2a, 0x86, 0x48, 0xce, 0x3d, 0x03, 0x01, 0x07]
  field := .prime 0xffffffff00000001000000000000000000000000ffffffffffffffffffffffff
  a := 0xffffffff00000001000000000000000000000000fffffffffffffffffffffffc
  b := 0x5ac635d8aa3a93e7b3ebbd55769886bc651d06b0cc53b0f63bce3c3e27d2604b
  gx := 0x6b17d1f2e12c4247f8bce6e563a440f277037d812deb33a0f4a13945d898c296
  gy := 0x4fe342e2fe1a7f9b8ee7eb4a7c0f9e162bce33576b315ececbb6406837bf51f5
  n := 0xffffffff00000000ffffffffffffffffbce6faada7179e84f3b9cac2fc632551
  cofactor := 1

/-- The group `secp384r1`. -/
def secp384r1 : Group where
  name := utf8 "secp384r1"
  identifier := [0x2b, 0x81, 0x04, 0x00, 0x22]
  field := .prime 0xfffffffffffffffffffffffffffffffffffffffffffffffffffffffffffffffeffffffff0000000000000000ffffffff
  a := 0xfffffffffffffffffffffffffffffffffffffffffffffffffffffffffffffffeffffffff0000000000000000fffffffc
  b := 0xb3312fa7e23ee7e4988e056be3f82d19181d9c6efe8141120314088f5013875ac656398d8a2ed19d2a85c8edd3ec2aef
  gx := 0xaa87ca22be8b05378eb1c71ef320ad746e1d3b628ba79b9859f741e082542a385502f25dbf55296c3a545e3872760ab7
  gy := 0x3617de4a96262c6f5d9e98bf9292dc29f8f41dbd289a147ce9da3113b5f0b8c00a60b1ce1d7e819d7a431d7c90ea0e5f
  n := 0xffffffffffffffffffffffffffffffffffffffffffffffffc7634d81f4372ddf581a0db248b0a77aecec196accc52973
  cofactor := 1

/-- The group `secp521r1`. -/
def secp521r1 : Group where
  name := utf8 "secp521r1"
  identifier := [0x2b, 0x81, 0x04, 0x00, 0x23]
  field := .prime 0x1ffffffffffffffffffffffffffffffffffffffffffffffffffffffffffffffffffffffffffffffffffffffffffffffffffffffffffffffffffffffffffffffffff
  a := 0x1fffffffffffffffffffffffffffffffffffffffffffffffffffffffffffffffffffffffffffffffffffffffffffffffffffffffffffffffffffffffffffffffffc
  b := 0x51953eb9618e1c9a1f929a21a0b68540eea2da725b99b315f3b8b489918ef109e156193951ec7e937b1652c0bd3bb1bf073573df883d2c34f1ef451fd46b503f00
  gx := 0xc6858e06b70404e9cd9e3ecb662395b4429c648139053fb521f828af606b4d3dbaa14b5e77efe75928fe1dc127a2ffa8de3348b3c1856a429bf97e7e31c2e5bd66
  gy := 0x11839296a789a3bc0045c8a5fb42c7d1bd998f54449579b446817afbd17273e662c97ee72995ef42640c550b9013fad0761353c7086a272c24088be94769fd16650
  n := 0x1fffffffffffffffffffffffffffffffffffffffffffffffffffffffffffffffffa51868783bf2f966b7fcc0148f709a5d03bb5c9b8899c47aebb6fb71e91386409
  cofactor := 1

/-- The group `SM2`. -/
def sm2 : Group where
  name := utf8 "SM2"
  identifier := [0x2a, 0x81, 0x1c, 0xcf, 0x55, 0x01, 0x82, 0x2d]
  field := .prime 0xfffffffeffffffffffffffffffffffffffffffff00000000ffffffffffffffff
  a := 0xfffffffeffffffffffffffffffffffffffffffff00000000fffffffffffffffc
  b := 0x28e9fa9e9d9f5e344d5a9e4bcf6509a7f39789f515ab8f92ddbcbd414d940e93
  gx := 0x32c4ae2c1f1981195f9904466a39c9948fe30bbff2660be1715a4589334c74c7
  gy := 0xbc3736a2f4f6779c59bdcee36b692153d0a9877cc62a474002df32e52139f0a0
  n := 0xfffffffeffffffffffffffffffffffff7203df6b21c6052b53bbf40939d54123
  cofactor := 1

/-- How many bytes a coordinate has. -/
def size (g : Group) : Nat := g.field.size

/-- Whether the keys of a group are kept for schemes of its own: they agree on no secrets, and they
encrypt in their own way only. -/
def hasOwnSchemes (g : Group) : Bool := g.identifier == sm2.identifier

end Group
end WalletResponder
