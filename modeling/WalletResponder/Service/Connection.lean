import WalletResponder.Service.Handler

/-!
# Lines of a connection

A client sends bytes, which arrive in pieces of any size. Each line is served as soon as it has
ended; empty lines are not, and neither is a line that never ends. When more than the longest line
is waiting for its end, it is served as it stands, which denies it, and the connection is closed.

Two loops do that. `Wallet.drain` serves the lines that have ended one after another and takes each
of them off what is waiting; `Wallet.receiveAll` puts the pieces behind what is waiting, one after
another, and drains it. A client that does not listen is found out when the first reply is written.
-/

namespace WalletResponder

/-- A connection at work. -/
structure Connection where
  /-- What has arrived and was not served yet. -/
  waiting : Bytes := []
  /-- How many lines were served. -/
  count : Nat := 0
  effects : List Effect := []
  written : Bytes := []
  /-- Whether more is read. -/
  isOpen : Bool := true
  /-- Whether a write failed. -/
  isBroken : Bool := false

namespace Connection

/-- The lines that have ended, and what is waiting. -/
def split (s : Bytes) : List Bytes × Bytes :=
  let parts := s.splitOn 0x0a
  (parts.dropLast, parts.getLastD [])

/-- The first line and what stands behind its end, if a line has ended. -/
def nextLine? (waiting : Bytes) : Option (Bytes × Bytes) :=
  (waiting.after? 0x0a).map fun rest => (waiting.upTo 0x0a, rest)

/-- Writes a reply and the end of its line, which fails when the client does not listen. -/
def write (isDeaf : Bool) (reply : Bytes) (c : Connection) : Connection :=
  if isDeaf then { c with isOpen := false, isBroken := true }
  else { c with written := c.written ++ reply ++ [0x0a] }

@[simp] theorem waiting_write (isDeaf : Bool) (reply : Bytes) (c : Connection) :
    (c.write isDeaf reply).waiting = c.waiting := by
  unfold write; split <;> rfl

theorem length_nextLine? {waiting line rest : Bytes} (h : nextLine? waiting = some (line, rest)) :
    rest.length < waiting.length := by
  unfold nextLine? Bytes.after? at h
  split at h
  · simp at h
  · next c r hr =>
    simp only [Option.map_some, Option.some.injEq, Prod.mk.injEq] at h
    have hle := (List.dropWhile_suffix (l := waiting) (· != 0x0a)).length_le
    rw [hr, List.length_cons, h.2] at hle
    omega

end Connection

/-- What comes of a connection: what is done, what is written, and whether a write failed. -/
structure Served where
  effects : List Effect
  written : Bytes
  isBroken : Bool

namespace Wallet

open Connection

/-- Serves a line, with randomness of its own. -/
def serveLine (w : Wallet) (e : Entropy) (isDeaf : Bool) (line : Bytes) (c : Connection) :
    Connection :=
  let (effects, reply) := w.handleLine line (e.part c.count)
  { c with count := c.count + 1, effects := c.effects ++ effects }.write isDeaf reply

@[simp] theorem waiting_serveLine (w : Wallet) (e : Entropy) (isDeaf : Bool) (line : Bytes)
    (c : Connection) : (w.serveLine e isDeaf line c).waiting = c.waiting := by
  simp [serveLine]

/-- Serves the lines that have ended, up to the first whose reply cannot be written. -/
def drain (w : Wallet) (e : Entropy) (isDeaf : Bool) (c : Connection) : Connection :=
  if c.isOpen then
    match _h : nextLine? c.waiting with
    | none => c
    | some (line, rest) =>
      let next := { c with waiting := rest }
      w.drain e isDeaf (if line.isEmpty then next else w.serveLine e isDeaf line next)
  else c
termination_by c.waiting.length
decreasing_by
  have hlt := length_nextLine? _h
  split
  · exact hlt
  · rw [waiting_serveLine]; exact hlt

/-- Serves what a piece completes. More than the longest line without an end is served as well, and
closes the connection. -/
def receive (w : Wallet) (e : Entropy) (isDeaf : Bool) (c : Connection) (piece : Bytes) :
    Connection :=
  let c := w.drain e isDeaf { c with waiting := c.waiting ++ piece }
  if c.isOpen && maxLineBytes < c.waiting.length then
    { w.serveLine e isDeaf c.waiting c with isOpen := false }
  else c

/-- Reads pieces until there are no more or the connection is closed. -/
def receiveAll (w : Wallet) (e : Entropy) (isDeaf : Bool) : Connection → List Bytes → Connection
  | c, [] => c
  | c, piece :: pieces =>
    if c.isOpen then w.receiveAll e isDeaf (w.receive e isDeaf c piece) pieces else c

/-- Serves a connection whose bytes arrive in pieces. -/
def serveConnection (w : Wallet) (isDeaf : Bool) (pieces : List Bytes) (e : Entropy) : Served :=
  let c := w.receiveAll e isDeaf {} pieces
  ⟨c.effects, c.written, c.isBroken⟩

end Wallet
end WalletResponder
