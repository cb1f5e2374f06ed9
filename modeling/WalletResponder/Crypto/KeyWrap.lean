import WalletResponder.Crypto.Aes
import WalletResponder.Crypto.Fault

/-!
# AES key wrap

A key of `n ≥ 2` registers of eight bytes is wrapped, together with a check value, in six passes
over the registers. Each step encrypts the check value with one register, numbers the step and puts
the two halves back. Unwrapping takes the steps back in the opposite order and then looks at the
check value.
-/

namespace WalletResponder.KeyWrap

/-- The check value in the first register. -/
def check : Bytes := List.replicate 8 0xa6

/-- One step with number `t`: check value and register go in and come out. -/
def step (keys : List Block) (t : Nat) (a r : Bytes) : Bytes × Bytes :=
  let b := (Aes.encrypt keys (Block.first (a ++ r))).toBytes
  (Bytes.xor (b.take 8) (Bytes.ofNat 8 t), b.drop 8)

/-- Undoes `step`. -/
def unstep (keys : List Block) (t : Nat) (a r : Bytes) : Bytes × Bytes :=
  let b := (Aes.decrypt keys (Block.first (Bytes.xor a (Bytes.ofNat 8 t) ++ r))).toBytes
  (b.take 8, b.drop 8)

/-- One pass over the registers, whose first step has number `t`. -/
def pass (keys : List Block) : Nat → Bytes → List Bytes → Bytes × List Bytes
  | _, a, [] => (a, [])
  | t, a, r :: rs =>
    let (a, r) := step keys t a r
    let (a, rs) := pass keys (t + 1) a rs
    (a, r :: rs)

/-- Undoes `pass`. -/
def unpass (keys : List Block) : Nat → Bytes → List Bytes → Bytes × List Bytes
  | _, a, [] => (a, [])
  | t, a, r :: rs =>
    let (a, rs) := unpass keys (t + 1) a rs
    let (a, r) := unstep keys t a r
    (a, r :: rs)

/-- The last `k` of the passes, the first of them with step number `t`. -/
def passes (keys : List Block) : Nat → Nat → Bytes → List Bytes → Bytes × List Bytes
  | 0, _, a, rs => (a, rs)
  | k + 1, t, a, rs =>
    let (a, rs) := pass keys t a rs
    passes keys k (t + rs.length) a rs

/-- Undoes `passes`. -/
def unpasses (keys : List Block) : Nat → Nat → Bytes → List Bytes → Bytes × List Bytes
  | 0, _, a, rs => (a, rs)
  | k + 1, t, a, rs =>
    let (a, rs) := unpasses keys k (t + rs.length) a rs
    unpass keys t a rs

/-- Registers of eight bytes. -/
def registers : Bytes → List Bytes
  | a :: b :: c :: d :: e :: f :: g :: h :: r => [a, b, c, d, e, f, g, h] :: registers r
  | _ => []

/-- Whether a wrapping key has one of the three sizes. -/
def isKeySize (n : Nat) : Bool := n == 16 || n == 24 || n == 32

/-- Wraps a key of two or more registers; nothing wraps to nothing. -/
def wrap (kek key : Bytes) : Except CryptoFault Bytes :=
  if !isKeySize kek.length then .error .wrappingKeySize
  else if key.isEmpty then .ok []
  else if key.length < 16 || key.length % 8 != 0 then .error .wrapping
  else
    let (a, rs) := passes (Aes.roundKeys kek) 6 1 check (registers key)
    .ok (a ++ rs.flatten)

/-- Unwraps a key whose check value comes back. -/
def unwrap (kek wrapped : Bytes) : Except CryptoFault Bytes :=
  if wrapped.length < 24 || wrapped.length % 8 != 0 then .error .wrappedSize
  else if !isKeySize kek.length then .error .wrappingKeySize
  else
    let (a, rs) := unpasses (Aes.roundKeys kek) 6 1 (wrapped.take 8) (registers (wrapped.drop 8))
    if a = check then .ok rs.flatten else .error .unwrapping

end WalletResponder.KeyWrap
