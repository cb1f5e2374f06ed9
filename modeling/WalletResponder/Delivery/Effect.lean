import WalletResponder.Failure
import WalletResponder.Json.Printer
import WalletResponder.Url.Form

/-!
# What happens along the way

Serving a request leaves traces in the world: a client for the network is made, a form is posted, an
event is recorded. They are values here (`Effect`), and a computation that leaves some (`Traced`) is
the list of them in order of time, with the result at the end. A failure ends a computation; what
happened before it has happened.
-/

namespace WalletResponder

/-- An event of the audit trail. -/
structure AuditEvent where
  name : Bytes
  payload : Json

/-- The line that records an event at a time. There is none if the payload is not text. -/
def AuditEvent.line? (ev : AuditEvent) (time : Int) : Option Bytes :=
  match (Json.obj [(utf8 "event", .str ev.name), (utf8 "payload", ev.payload),
      (utf8 "ts", .int time)]).dump with
  | .ok text => some text
  | .error _ => none

/-- What a computation does to the world. -/
inductive Effect where
  /-- A client for the network is asked for. -/
  | connected
  /-- A form is posted to a URL. -/
  | posted (url : Bytes) (params : FormParameters)
  /-- An event is recorded. -/
  | recorded (ev : AuditEvent)

/-- A computation that leaves effects behind. -/
structure Traced (α : Type) where
  effects : List Effect
  result : Except Failure α

namespace Traced

variable {α β : Type}

/-- A computation without effects. -/
def ofResult (r : Except Failure α) : Traced α := ⟨[], r⟩

/-- A computation that fails. -/
def fail (f : Failure) : Traced α := ⟨[], .error f⟩

/-- A single effect. -/
def leave (e : Effect) : Traced Unit := ⟨[e], .ok ()⟩

/-- One computation after another; none after a failure. -/
def andThen (t : Traced α) (next : α → Traced β) : Traced β :=
  match t.result with
  | .ok a =>
    let u := next a
    ⟨t.effects ++ u.effects, u.result⟩
  | .error f => ⟨t.effects, .error f⟩

instance : Monad Traced where
  pure a := ⟨[], .ok a⟩
  bind := andThen

/-- The events among the effects. -/
def events (t : Traced α) : List AuditEvent :=
  t.effects.filterMap fun
    | .recorded ev => some ev
    | _ => none

end Traced
end WalletResponder
