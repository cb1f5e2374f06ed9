import WalletResponder.Service.Handler

/-!
# The log

The events of the audit trail are put at the end of a file, each as a line of its own with the time
at which it is written. That is done on the side. A log that is not kept or cannot be written takes
nothing, and neither does any log take an event that is not text; the reply is the same.
-/

namespace WalletResponder

/-- What an event puts at the end of a log: its line, and the end of the line. -/
def AuditEvent.entry? (ev : AuditEvent) (time : Int) : Option Bytes :=
  (ev.line? time).map (· ++ [0x0a])

/-- The event that an effect records. -/
def Effect.event? : Effect → Option AuditEvent
  | recorded ev => some ev
  | _ => none

/-- A log of the audit trail. -/
inductive AuditLog where
  /-- No log is kept. -/
  | absent
  /-- The file cannot be written. -/
  | unwritable
  | file (content : Bytes)
  deriving DecidableEq, Repr

namespace AuditLog

/-- Records an event. -/
def record (log : AuditLog) (ev : AuditEvent) (time : Int) : AuditLog :=
  match log, ev.entry? time with
  | file content, some entry => file (content ++ entry)
  | log, _ => log

/-- Records events; the time of each is taken when its turn comes, and `i` came before. -/
def recordFrom (stamp : Nat → Int) : Nat → AuditLog → List AuditEvent → AuditLog
  | _, log, [] => log
  | i, log, ev :: rest => recordFrom stamp (i + 1) (log.record ev (stamp i)) rest

end AuditLog

/-- A line that is to be handled, and what it meets: the network, the time at which its request is
served and those at which events are written, what is drawn, and how it is worded that it cannot be
read. -/
structure Turn where
  line : Bytes
  http : HttpFactory
  now : Int
  stamp : Nat → Int
  entropy : Entropy
  wording : Bytes → Bytes := Json.complaint

/-- Handles a line, and records what there is to be recorded. -/
def Wallet.answer (w : Wallet) (log : AuditLog) (stamp : Nat → Int) (line : Bytes) (e : Entropy) :
    AuditLog × Bytes :=
  let (effects, reply) := w.handleLine line e
  (log.recordFrom stamp 0 (effects.filterMap Effect.event?), reply)

namespace WalletConfig

/-- The wallet that takes a turn. -/
def wallet (config : WalletConfig) (t : Turn) : Wallet where
  config := config
  http := t.http
  now := t.now
  wording := t.wording

/-- Takes a turn. -/
def answer (config : WalletConfig) (log : AuditLog) (t : Turn) : AuditLog × Bytes :=
  (config.wallet t).answer log t.stamp t.line t.entropy

/-- Takes turns: the log afterwards, and the replies. -/
def answerAll (config : WalletConfig) : AuditLog → List Turn → AuditLog × List Bytes
  | log, [] => (log, [])
  | log, t :: rest =>
    let (log, reply) := config.answer log t
    let (log, replies) := config.answerAll log rest
    (log, reply :: replies)

end WalletConfig
end WalletResponder
