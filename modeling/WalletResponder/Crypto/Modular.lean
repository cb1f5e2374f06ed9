/-!
# Modular arithmetic

Powers, inverses, square roots and a test for primes, on natural numbers.
-/

namespace WalletResponder.Modular

/-- The power of `b` whose exponent is the `k` lower bits of `e` behind the bits already read into
`acc`, modulo `n`. -/
def powFrom (b e n : Nat) : Nat → Nat → Nat
  | 0, acc => acc
  | k + 1, acc =>
    let square := acc * acc % n
    powFrom b e n k (if e.testBit k then square * b % n else square)

/-- `b ^ e` modulo `n`. -/
def pow (b e n : Nat) : Nat := powFrom (b % n) e n (Nat.log2 e + 1) (1 % n)

/-- `a - b` modulo `p`, for `b` up to `p`. -/
def sub (p a b : Nat) : Nat := (a + (p - b)) % p

/-- The inverse of `a` modulo a prime. -/
def inversePrime (p a : Nat) : Nat := pow a (p - 2) p

/-- The steps of the extended division: `r` and `r'` are `s` and `s'` times the number, modulo the
modulus. -/
def divisionSteps : Nat → Nat → Nat → Int → Int → Nat × Int
  | 0, r, _, s, _ => (r, s)
  | fuel + 1, r, r', s, s' =>
    if r' = 0 then (r, s)
    else divisionSteps fuel r' (r % r') s' (s - (r / r' : Nat) * s')

/-- The inverse of `a` modulo `m`, if there is one. -/
def inverse? (m a : Nat) : Option Nat :=
  let (g, s) := divisionSteps (2 * Nat.log2 m + 4) a m 1 0
  if g = 1 then some (s % (m : Int)).toNat else none

/-- The product of `a + b w` and `c + d w` modulo `p`, where `w` is a root of `s`. -/
def mulWithRoot (p s : Nat) (u v : Nat × Nat) : Nat × Nat :=
  ((u.1 * v.1 + u.2 * v.2 % p * s) % p, (u.1 * v.2 + u.2 * v.1) % p)

/-- The power of `b` whose exponent is the `k` lower bits of `e` behind the bits already read into
`acc`, where numbers are sums with a root of `s`. -/
def powWithRoot (p s : Nat) (b : Nat × Nat) (e : Nat) : Nat → Nat × Nat → Nat × Nat
  | 0, acc => acc
  | k + 1, acc =>
    let square := mulWithRoot p s acc acc
    powWithRoot p s b e k (if e.testBit k then mulWithRoot p s square b else square)

/-- A square root of `v` modulo a prime that is one modulo four, if there is one. For a `t` such
that `s = t ^ 2 - v` has no root, it is the power of `t + w` by half of `p + 1`, where `w` is a root
of `s` outside of the field. -/
def rootByExtension (p v : Nat) : Nat :=
  let shifted := fun t => sub p (t * t) (v % p)
  match (List.range 256).find? fun t => pow (shifted t) ((p - 1) / 2) p == p - 1 with
  | some t => (powWithRoot p (shifted t) (t, 1) ((p + 1) / 2) (Nat.log2 p + 1) (1, 0)).1
  | none => 0

/-- A square root of `v` modulo an odd prime, if there is one. -/
def sqrt? (p v : Nat) : Option Nat :=
  let r := if p % 4 = 3 then pow v ((p + 1) / 4) p else rootByExtension p v
  if r * r % p = v % p then some r else none

/-- The first primes: small divisors, and the bases of the test. -/
def smallPrimes : List Nat :=
  [2, 3, 5, 7, 11, 13, 17, 19, 23, 29, 31, 37, 41, 43, 47, 53, 59, 61, 67, 71, 73, 79, 83, 89, 97,
    101, 103, 107, 109, 113, 127, 131, 137, 139, 149, 151, 157, 163, 167, 173, 179, 181, 191, 193,
    197, 199, 211, 223, 227, 229, 233, 239, 241, 251]

/-- Whether squaring `x` up to `k` times meets minus one modulo `n`. -/
def meetsMinusOne (n : Nat) : Nat → Nat → Bool
  | 0, x => x == n - 1
  | k + 1, x => x == n - 1 || meetsMinusOne n k (x * x % n)

/-- How often two divides `v`, up to `fuel` times, and what remains. -/
def oddPart : Nat → Nat → Nat × Nat
  | 0, v => (0, v)
  | fuel + 1, v =>
    if v ≠ 0 && v % 2 == 0 then
      let (k, odd) := oddPart fuel (v / 2)
      (k + 1, odd)
    else (0, v)

/-- Whether `n` passes the test with base `b`, where `n - 1 = 2 ^ k * odd`. -/
def passes (n k odd b : Nat) : Bool :=
  let x := pow b odd n
  x == 1 || meetsMinusOne n (k - 1) x

/-- Whether `n > 251 ^ 2` has no small divisor and passes the test with every small base. -/
def isProbablePrime (n : Nat) : Bool :=
  smallPrimes.all (fun q => n % q != 0) &&
    let (k, odd) := oddPart (Nat.log2 n) (n - 1)
    (smallPrimes.take 24).all (passes n k odd)

end WalletResponder.Modular
