import WalletResponder.Proofs.Service.Log
import WalletResponder.Proofs.Wallet.Settings

/-!
# The records of requests

A line that is served and is a message (`IsMessage`) leaves one record of the message in the log,
and it leaves it first: whatever is recorded behind it, before the next line, is of a delivery
(`WalletConfig.messages_leave_records`). The record is there whether the kind is known, the request
is refused or the decision cannot be read, and whatever the network does, because it is made before
any of that is looked at (`Wallet.handle_of_kind`). It tells the kind, and the type and the client
of a request that is an object, and nothing else (`AuditEvent.Summarises`).

A line that is too long is not read, and leaves no record.
-/

namespace WalletResponder

open Json Traced

/-! ### Messages -/

/-- A line that is served and is a message of a kind. A message that names no kind has the empty
one. -/
structure IsMessage (line : Bytes) (m : Json) (kind : Bytes) : Prop where
  short : line.length ≤ Wallet.maxLineBytes
  parse : parse? line = some m
  isObject : m.isObject = true
  kind : IsSetting m "kind" (fun v s => v = .str s) [] kind

theorem IsMessage.memberOr {line : Bytes} {m : Json} {kind : Bytes} (h : IsMessage line m kind) :
    m.memberOr (utf8 "kind") asText [] = .ok kind := by
  rw [memberOr_eq_ok]
  simp only [asText_eq_ok]
  exact ⟨h.isObject, h.kind⟩

theorem IsMessage.isRecordable {line : Bytes} {m : Json} {kind : Bytes}
    (h : IsMessage line m kind) : (AuditEvent.summary kind (m.orNull "request")).IsRecordable :=
  Wallet.isRecordable_of_kind h.parse h.memberOr

namespace AuditEvent

/-- An event tells of a message its kind and, if its request is an object, the type and the client
of the request, or null for what the request does not have. It tells nothing else. -/
structure Summarises (ev : AuditEvent) (m : Json) (kind : Bytes) : Prop where
  name : ev.name = utf8 "request"
  kind : ev.payload.find? (utf8 "kind") = some (.str kind)
  request : ∀ request, m.find? (utf8 "request") = some request → request.isObject = true →
    ev.payload.find? (utf8 "type") = some (request.orNull "type") ∧
      ev.payload.find? (utf8 "client_id") = some (request.orNull "client_id")
  others : ∀ name v, ev.payload.find? name = some v → name ≠ utf8 "kind" →
    (name = utf8 "type" ∨ name = utf8 "client_id") ∧
      ∃ request, m.find? (utf8 "request") = some request ∧ request.isObject = true

theorem summarises_summary (m : Json) (kind : Bytes) :
    (summary kind (m.orNull "request")).Summarises m kind := by
  have hobject : (m.orNull "request").isObject = true →
      m.find? (utf8 "request") = some (m.orNull "request") := by
    unfold orNull
    cases m.find? (utf8 "request") with
    | none => exact nofun
    | some request => exact fun _ => rfl
  have hrequest : ∀ request, m.find? (utf8 "request") = some request →
      m.orNull "request" = request := by
    intro request h
    rw [orNull, h, Option.getD_some]
  unfold summary
  split
  · next h =>
    refine ⟨rfl, rfl, fun request hfind _ => ?_, fun name v hv hname => ?_⟩
    · rw [hrequest request hfind]
      exact ⟨rfl, rfl⟩
    · rw [find?_cons, find?_cons, find?_cons, if_neg (Ne.symm hname)] at hv
      refine ⟨?_, _, hobject h, h⟩
      split_ifs at hv with hclient htype
      · exact .inr hclient.symm
      · exact .inl htype.symm
      · cases hv
  · next h =>
    refine ⟨rfl, rfl, fun request hfind hrequestObject => ?_, fun name v hv hname => ?_⟩
    · exact absurd (hrequest request hfind ▸ hrequestObject) h
    · rw [find?_cons, if_neg (Ne.symm hname)] at hv
      cases hv

/-- The names of the events of deliveries. -/
def deliveryNames : List Bytes :=
  [utf8 "response_posted", utf8 "response_rejected", utf8 "redirect_encoded"]

end AuditEvent

/-! ### What is recorded behind a message -/

/-- Whatever is recorded is of a delivery. -/
def OfDeliveries {α : Type} (_ : α) (events : List AuditEvent) : Prop :=
  ∀ ev ∈ events, ev.name ∈ AuditEvent.deliveryNames

namespace Wallet

variable {w : Wallet} {e : Entropy}

theorem ofDeliveries_deliver (r : AuthorizationResponse) : Tells OfDeliveries (w.deliver r e) := by
  refine tells_bind rfl fun params _ => tells_bind (events_post w r.uri params) fun answer _ => ?_
  cases answer with
  | error text =>
    refine tells_leave (List.forall_mem_singleton.mpr ?_)
    simp [AuditEvent.deliveryNames, AuditEvent.failed, AuditEvent.ofResponse]
  | ok reply =>
    refine tells_leave (List.forall_mem_singleton.mpr ?_)
    cases reply.interpret <;>
      simp [AuditEvent.deliveryNames, AuditEvent.replied, AuditEvent.ofResponse]

theorem ofDeliveries_redirect (r : AuthorizationResponse) :
    Tells OfDeliveries (w.redirect r e) := by
  unfold redirect
  split
  · exact tells_fail _
  refine tells_bind rfl fun params _ => tells_leave (List.forall_mem_singleton.mpr ?_)
  simp [AuditEvent.deliveryNames, AuditEvent.redirected, AuditEvent.ofResponse]

/-- **What is done about a message is recorded as a delivery**, if it is recorded. -/
theorem ofDeliveries_attend (kind : Bytes) (m : Json) :
    ∀ ev ∈ (w.attend kind m e).events, ev.name ∈ AuditEvent.deliveryNames := by
  have hquiet : ∀ reply : Reply, reply.eventName? = none → OfDeliveries reply [] :=
    fun _ _ => List.forall_mem_nil _
  have htells : Tells OfDeliveries (w.attend kind m e) := by
    unfold attend
    split
    · exact tells_pure (List.forall_mem_nil _)
    · exact tells_serve_of hquiet fun q c _ => tells_perform_of hquiet
        (fun r _ => ofDeliveries_deliver r) (fun r _ => ofDeliveries_redirect r) _
  cases hresult : (w.attend kind m e).result with
  | ok reply => exact htells.ok reply hresult
  | error f =>
    rw [htells.error f hresult]
    exact List.forall_mem_nil _

/-- **A message is recorded first.** -/
theorem events_handleLine {line kind : Bytes} {m : Json} (h : IsMessage line m kind) :
    (w.handleLine line e).1.filterMap Effect.event? =
      .summary kind (m.orNull "request") :: (w.attend kind m e).events := by
  have hparse : Json.parse w.wording line = .ok m := by rw [Json.parse, h.parse]
  have hevents : (w.handle m e).events =
      .summary kind (m.orNull "request") :: (w.attend kind m e).events := by
    rw [handle_of_kind h.memberOr]
    rfl
  rw [handleLine, if_neg (Nat.not_lt.mpr h.short), hparse]
  exact hevents

end Wallet

/-! ### The log -/

namespace WalletConfig

variable {config : WalletConfig} {t : Turn} {m : Json} {kind : Bytes}

/-- The records of a message begin with that of the message. -/
theorem writtenOf_eq_cons (config : WalletConfig) (h : IsMessage t.line m kind) :
    ∃ rest, config.writtenOf t = ⟨.summary kind (m.orNull "request"), t.stamp 0⟩ :: rest ∧
      ∀ r ∈ rest, r.event.name ∈ AuditEvent.deliveryNames := by
  have htext := Record.isText_toJson
    (r := ⟨.summary kind (m.orNull "request"), t.stamp 0⟩) h.isRecordable
  have hevents : config.eventsOf t = .summary kind (m.orNull "request") ::
      ((config.wallet t).attend kind m t.entropy).events :=
    Wallet.events_handleLine h
  rw [writtenOf, recordsOf, hevents, Record.stamped, List.filter_cons, if_pos htext]
  refine ⟨_, rfl, fun r hr => ?_⟩
  have hr := List.mem_of_mem_filter hr
  exact Wallet.ofDeliveries_attend kind m _ (Record.mem_stamped hr).1

theorem writtenOf_of_long (h : Wallet.maxLineBytes < t.line.length) : config.writtenOf t = [] := by
  rw [writtenOf, recordsOf, eventsOf, Wallet.handleLine_of_long h]
  rfl

/-- **Every message leaves one record of its own**, which is the first of the line, whatever was in
the log and whatever comes of the message. It is a line of the log that reads back as the event.
A line that is too long leaves none. -/
theorem messages_leave_records (config : WalletConfig) (content : Bytes) (turns : List Turn) :
    (config.answerAll (.file content) turns).1 =
      .file (content ++ (turns.flatMap config.writtenOf).flatMap fun r => r.line ++ [0x0a]) ∧
    ∀ t ∈ turns,
      (∀ r ∈ config.writtenOf t, 0x0a ∉ r.line) ∧
      (∀ m kind, IsMessage t.line m kind → ∃ r rest, config.writtenOf t = r :: rest ∧
        r.event.Summarises m kind ∧ r.time = t.stamp 0 ∧
        (∀ r' ∈ rest, r'.event.name ∈ AuditEvent.deliveryNames) ∧
        (-2 ^ 63 ≤ r.time → r.time < 2 ^ 63 → parse? r.line = some (.obj
          [(utf8 "event", .str r.event.name), (utf8 "payload", r.event.payload),
            (utf8 "ts", .int r.time)]))) ∧
      (Wallet.maxLineBytes < t.line.length → config.writtenOf t = []) := by
  refine ⟨by rw [answerAll_file]; rfl, fun t _ => ⟨fun r _ => newline_notMem_renderWith _ _,
    fun m kind h => ?_, writtenOf_of_long⟩⟩
  obtain ⟨rest, hrecords, hrest⟩ := writtenOf_eq_cons config h
  refine ⟨_, rest, hrecords, AuditEvent.summarises_summary m kind, rfl, hrest,
    fun hlow hhigh => ?_⟩
  exact Record.parse?_line h.isRecordable ⟨hlow, by omega⟩

end WalletConfig

/-! ### Lines with and without a record -/

/-- A message of a kind that nobody knows. -/
def strangeMessage : Json :=
  .obj [(utf8 "kind", .text "PING"), (utf8 "request", .obj [(utf8 "type", .text "siop")])]

theorem isPlain_strangeMessage : strangeMessage.IsPlain :=
  ⟨by unfold InOrder; simp +decide, isPlain_str _,
    ⟨by unfold InOrder; simp +decide, isPlain_str _, trivial⟩, trivial⟩

theorem isMessage_strangeMessage :
    IsMessage strangeMessage.render strangeMessage (utf8 "PING") where
  short := by decide
  parse := parse?_render isPlain_strangeMessage (by decide)
  isObject := rfl
  kind := ⟨fun v hv => by cases hv; rfl, nofun⟩

/-- It is denied and recorded. -/
theorem strangeMessage_recorded :
    IsMessage strangeMessage.render strangeMessage (utf8 "PING") ∧
    (WalletConfig.standard.answerAll (.file []) [acceptedTurn strangeMessage.render]).1 =
      .file (Record.entry ⟨⟨utf8 "request", .obj [(utf8 "client_id", .null),
        (utf8 "kind", .text "PING"), (utf8 "type", .text "siop")]⟩, 1700000000⟩) ∧
    ∃ r rest, WalletConfig.standard.writtenOf (acceptedTurn strangeMessage.render) = r :: rest ∧
      r.event.Summarises strangeMessage (utf8 "PING") := by
  obtain ⟨hlog, hturns⟩ := WalletConfig.messages_leave_records .standard []
    [acceptedTurn strangeMessage.render]
  obtain ⟨-, hmessage, -⟩ := hturns _ List.mem_cons_self
  obtain ⟨r, rest, hrecords, hsummary, -⟩ := hmessage _ _ isMessage_strangeMessage
  refine ⟨isMessage_strangeMessage, ?_, r, rest, hrecords, hsummary⟩
  rw [hlog]
  decide +kernel

/-- A message with so many blanks behind it that the line is too long. -/
def paddedMessage : Bytes :=
  (Json.obj [(utf8 "kind", .text "BUILD")]).render ++ List.replicate Wallet.maxLineBytes 0x20

theorem length_paddedMessage : Wallet.maxLineBytes < paddedMessage.length := by
  rw [paddedMessage, List.length_append, List.length_replicate]
  exact Nat.lt_add_of_pos_left (by decide)

/-- What is in a new log when a line was handled. -/
def logOf (line : Bytes) : AuditLog :=
  (WalletConfig.standard.answer (.file []) (acceptedTurn line)).1

theorem logOf_of_long {line : Bytes} (h : Wallet.maxLineBytes < line.length) :
    logOf line = .file [] := by
  rw [logOf, WalletConfig.answer_file, WalletConfig.writtenOf_of_long h]
  rfl

/-- Neither a line that is too long is recorded nor one that is no message: a text that is no JSON,
a list, and an object whose kind is a number. -/
theorem lines_without_record :
    paddedMessage ≠ [] ∧ logOf paddedMessage = .file [] ∧ logOf (utf8 "PING") = .file [] ∧
      logOf (utf8 "[]") = .file [] ∧
      logOf (Json.obj [(utf8 "kind", .int 5)]).render = .file [] :=
  ⟨List.ne_nil_of_length_pos (Nat.zero_lt_of_lt length_paddedMessage),
    logOf_of_long length_paddedMessage, by decide +kernel, by decide +kernel, by decide +kernel⟩

end WalletResponder
