import WalletResponder.Crypto.Words

/-!
# SHA-1

The 160-bit hash, for the mask and the label of RSA-OAEP. A message is padded to whole blocks of 64
bytes; each block is spread over eighty words, and a round mixes one of them into five words of
state.
-/

namespace WalletResponder

namespace Sha1

/-- Rotation to the left. -/
def rotl (x : UInt32) (n : UInt32) : UInt32 := (x <<< n) ||| (x >>> (32 - n))

/-- Five words of state. -/
structure State where
  (a b c d e : UInt32)

/-- The state before the first block. -/
def State.start : State := ⟨0x67452301, 0xefcdab89, 0x98badcfe, 0x10325476, 0xc3d2e1f0⟩

/-- Adds `n` words to the schedule; the newest comes first. -/
def extend : Nat → List UInt32 → List UInt32
  | 0, ws => ws
  | n + 1, ws =>
    extend n (rotl (ws.getD 2 0 ^^^ ws.getD 7 0 ^^^ ws.getD 13 0 ^^^ ws.getD 15 0) 1 :: ws)

/-- The eighty words of a block. -/
def schedule (block : List UInt32) : List UInt32 := (extend 64 block.reverse).reverse

/-- One round, in quarter `q`. -/
def round (q : Nat) (s : State) (w : UInt32) : State :=
  let (f, k) : UInt32 × UInt32 := match q with
    | 0 => ((s.b &&& s.c) ||| ((~~~ s.b) &&& s.d), 0x5a827999)
    | 1 => (s.b ^^^ s.c ^^^ s.d, 0x6ed9eba1)
    | 2 => ((s.b &&& s.c) ||| (s.b &&& s.d) ||| (s.c &&& s.d), 0x8f1bbcdc)
    | _ => (s.b ^^^ s.c ^^^ s.d, 0xca62c1d6)
  ⟨rotl s.a 5 + f + s.e + k + w, s.a, rotl s.b 30, s.c, s.d⟩

/-- Mixes a block into the state. -/
def compress (s : State) (block : List UInt32) : State :=
  let ws := schedule block
  let t := (ws.take 20).foldl (round 0) s
  let t := ((ws.drop 20).take 20).foldl (round 1) t
  let t := ((ws.drop 40).take 20).foldl (round 2) t
  let t := (ws.drop 60).foldl (round 3) t
  ⟨s.a + t.a, s.b + t.b, s.c + t.c, s.d + t.d, s.e + t.e⟩

/-- The hash of a message: 20 bytes. -/
def digest (m : Bytes) : Bytes :=
  let padded := padTo64 m
  let s := (pieces 16 (padded.length / 64) (words32 padded)).foldl compress State.start
  bytes32 s.a ++ bytes32 s.b ++ bytes32 s.c ++ bytes32 s.d ++ bytes32 s.e

end Sha1
end WalletResponder
