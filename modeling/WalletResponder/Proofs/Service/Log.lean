import WalletResponder.Proofs.Service.Deliveries

/-!
# The log and the replies

The log of a service tells what was replied (`WalletConfig.log_tells_replies`). It only grows at its
end, by a line for each event, and the line reads back as the event, whatever is in it. A line that
is handled leaves its trail there (`Trail`): an event when it is a message, and then, if the reply
tells of a delivery, the event of that delivery and nothing else.

Handling one line puts those of its records at the end of the log that are text
(`WalletConfig.answer_file`), and so does handling many (`WalletConfig.answerAll_file`), by
induction on the lines, for whatever was in the log before. What the records are, and that they
agree with the reply, is a matter of each line alone (`Wallet.trail_handleLine`).
-/

namespace WalletResponder

open Json Traced

/-! ### Records -/

/-- An event, and the time at which it is written. -/
structure Record where
  event : AuditEvent
  time : Int

namespace Record

/-- What is written of an event. -/
def toJson (r : Record) : Json :=
  .obj [(utf8 "event", .str r.event.name), (utf8 "payload", r.event.payload),
    (utf8 "ts", .int r.time)]

/-- The text that is written of an event. -/
def line (r : Record) : Bytes := r.toJson.render

/-- The line of an event in the log. -/
def entry (r : Record) : Bytes := r.line ++ [0x0a]

/-- Events with their times, from the time `i` on. -/
def stamped (stamp : Nat → Int) : Nat → List AuditEvent → List Record
  | _, [] => []
  | i, ev :: rest => ⟨ev, stamp i⟩ :: stamped stamp (i + 1) rest

variable {r : Record} {stamp : Nat → Int}

theorem isText_toJson (h : r.event.IsRecordable) : r.toJson.isText = true := by
  simp +decide [toJson, isText, membersAreText, h.name, h.isText]

theorem isPlain_toJson (h : r.event.IsRecordable) (htime : (Json.int r.time).IsPlain) :
    r.toJson.IsPlain :=
  ⟨by unfold InOrder; simp +decide, isPlain_str _, h.isPlain, htime, trivial⟩

/-- An event that is text has a line, and no other has one. -/
theorem entry?_eq (ev : AuditEvent) (time : Int) :
    ev.entry? time = if (toJson ⟨ev, time⟩).isText then some (entry ⟨ev, time⟩) else none := by
  have hdump : (toJson ⟨ev, time⟩).dump =
      if (toJson ⟨ev, time⟩).isText then .ok (line ⟨ev, time⟩) else .error .notText := rfl
  have hline : ∀ x, (toJson ⟨ev, time⟩).dump = x → ev.line? time = x.toOption := by
    rintro _ rfl
    unfold AuditEvent.line?
    rw [toJson]
    split
    · next h => rw [h]; rfl
    · next h => rw [h]; rfl
  rw [AuditEvent.entry?, hline _ hdump]
  split <;> rfl

/-- **The line of an event reads back.** -/
theorem parse?_line (h : r.event.IsRecordable) (htime : (Json.int r.time).IsPlain) :
    parse? r.line = some r.toJson :=
  parse?_render (isPlain_toJson h htime) (isText_toJson h)

theorem map_event_stamped : ∀ (i : Nat) (events : List AuditEvent),
    (stamped stamp i events).map event = events
  | _, [] => rfl
  | i, _ :: rest => by rw [stamped, List.map_cons, map_event_stamped (i + 1) rest]

theorem mem_stamped : ∀ {i : Nat} {events : List AuditEvent},
    r ∈ stamped stamp i events → r.event ∈ events ∧ ∃ k, r.time = stamp k
  | _, [], h => nomatch h
  | i, ev :: rest, h => by
    rcases List.mem_cons.mp h with rfl | h
    · exact ⟨List.mem_cons_self, i, rfl⟩
    · exact (mem_stamped h).imp_left (List.mem_cons_of_mem _)

end Record

/-- **Recording puts lines at the end of the log**, one for each event that is text. -/
theorem AuditLog.recordFrom_file (stamp : Nat → Int) : ∀ (i : Nat) (content : Bytes)
    (events : List AuditEvent), (file content).recordFrom stamp i events =
      file (content ++ ((Record.stamped stamp i events).filter fun r => r.toJson.isText).flatMap
        Record.entry)
  | _, content, [] => by
    rw [Record.stamped, List.filter_nil, List.flatMap_nil, List.append_nil]
    rfl
  | i, content, ev :: rest => by
    have hentry := Record.entry?_eq ev (stamp i)
    by_cases h : (Record.toJson ⟨ev, stamp i⟩).isText = true
    · have hrecord : (file content).record ev (stamp i) =
          file (content ++ Record.entry ⟨ev, stamp i⟩) := by
        unfold record
        rw [hentry, if_pos h]
      rw [recordFrom, hrecord, recordFrom_file, Record.stamped, List.filter_cons, if_pos h,
        List.flatMap_cons, List.append_assoc]
    · have hrecord : (file content).record ev (stamp i) = file content := by
        unfold record
        rw [hentry, if_neg h]
      rw [recordFrom, hrecord, recordFrom_file, Record.stamped, List.filter_cons, if_neg h]

/-! ### The trail of a line -/

/-- The name of the event of the delivery that a reply tells of, as it is read off the reply. -/
def Json.eventName? (reply : Json) : Option Bytes :=
  let status := (reply.find? (utf8 "status")).bind asText?
  let kind := (reply.find? (utf8 "kind")).bind asText?
  if status = some (utf8 "ACCEPTED") then some (utf8 "response_posted")
  else if status = some (utf8 "REJECTED") then some (utf8 "response_rejected")
  else if status = some (utf8 "OK") ∧ kind = some (utf8 "REDIRECT") then
    some (utf8 "redirect_encoded")
  else none

theorem Json.eventName?_ne {reply : Json} {name : Bytes} (h : reply.eventName? = some name) :
    name ≠ utf8 "request" := by
  unfold eventName? at h
  dsimp only at h
  split_ifs at h <;> cases h <;> decide

/-- The events that a line leaves when it gets a reply. -/
inductive Trail (line : Bytes) (reply : Json) : List AuditEvent → Prop where
  /-- The line is too long, or it is no message that names a kind. -/
  | unread (hunread : line.length ≤ Wallet.maxLineBytes → ∀ m, parse? line = some m →
      ∀ kind, m.memberOr (utf8 "kind") asText [] ≠ .ok kind)
    (h : reply.eventName? = none) : Trail line reply []
  /-- The line is a message, and nothing is delivered. -/
  | read {m : Json} {kind : Bytes} (hread : parse? line = some m)
    (hkind : m.memberOr (utf8 "kind") asText [] = .ok kind) (h : reply.eventName? = none) :
    Trail line reply [.summary kind (m.orNull "request")]
  /-- The line is a message, and the response to its request is delivered. -/
  | delivered {m : Json} {kind : Bytes} {ev : AuditEvent} (hread : parse? line = some m)
    (hkind : m.memberOr (utf8 "kind") asText [] = .ok kind)
    (hname : reply.eventName? = some ev.name) (hconcerns : ev.Concerns (m.orNull "request"))
    (huri : ev.name = utf8 "response_posted" →
      ∃ uri, ev.payload.find? (utf8 "redirect_uri") = some uri ∧
        reply.find? (utf8 "redirect_uri") = some uri) :
    Trail line reply [.summary kind (m.orNull "request"), ev]

/-- The events besides those of messages are the one that the reply tells of. -/
theorem Trail.names {line : Bytes} {reply : Json} {events : List AuditEvent}
    (h : Trail line reply events) :
    (events.map AuditEvent.name).filter (· ≠ utf8 "request") = reply.eventName?.toList := by
  cases h with
  | unread _ h => rw [h]; rfl
  | read _ _ h => rw [h]; rfl
  | @delivered _ _ ev _ _ hname _ _ =>
    have hne := eventName?_ne hname
    rw [hname, List.map_cons, List.map_cons, List.map_nil, List.filter_cons_of_neg
      (by simp [AuditEvent.summary]), List.filter_cons_of_pos (by simpa using hne)]
    rfl

namespace Reply

variable {r : Reply}

theorem eventName?_read (h : r.IsNamed) :
    (r.toJson.mapTexts Utf8.repair).eventName? = r.eventName? := by
  unfold Json.eventName?
  rw [find?_status_read h, find?_kind_read h]
  cases r <;> rfl

theorem find?_redirectUri_read {uri : Option Bytes} (h : ∀ u ∈ uri, Utf8.valid u = true) :
    ((accepted uri).toJson.mapTexts Utf8.repair).find? (utf8 "redirect_uri") =
      some (.ofOption uri) := by
  rw [find?_read (r := accepted uri) trivial]
  cases uri with
  | none => rfl
  | some u =>
    have hu := Utf8.repair_of_valid (h u rfl)
    exact congrArg (some ∘ Json.str) hu

theorem eq_accepted_of_posted (h : r.eventName? = some (utf8 "response_posted")) :
    ∃ uri, r = accepted uri := by
  cases r with
  | accepted uri => exact ⟨uri, rfl⟩
  | rejected => exact absurd h (by decide)
  | redirect uri => exact absurd (Option.some.inj h) (by decide)
  | _ => cases h

end Reply

theorem Json.isPlain_orNull {j : Json} (h : j.IsPlain) (name : String) :
    (j.orNull name).IsPlain := by
  unfold orNull
  cases hfind : j.find? (utf8 name) with
  | none => trivial
  | some v => exact isPlain_of_find? h hfind

namespace AuditEvent

/-- What is recorded of a message can be written and read again. -/
theorem isRecordable_summary {kind : Bytes} {request : Json} (hkind : Utf8.valid kind = true)
    (htext : request.isText = true) (hplain : request.IsPlain) :
    (summary kind request).IsRecordable := by
  refine ⟨(by decide : Utf8.valid (utf8 "request") = true), ?_, ?_⟩
  · unfold summary
    split
    · simp +decide [isText, membersAreText, isText_orNull htext, hkind]
    · simp +decide [isText, membersAreText, hkind]
  · unfold summary
    split
    · exact ⟨by unfold InOrder; simp +decide, isPlain_orNull hplain _, isPlain_str _,
        isPlain_orNull hplain _, trivial⟩
    · exact ⟨by unfold InOrder; simp +decide, isPlain_str _, trivial⟩

end AuditEvent

namespace Wallet

variable {w : Wallet} {m : Json} {line kind : Bytes} {e : Entropy}

/-- The name of a kind is text in a message that is text. -/
theorem valid_of_kind (hm : m.isText = true)
    (hkind : m.memberOr (utf8 "kind") asText [] = .ok kind) : Utf8.valid kind = true := by
  rcases find?_of_memberOr hkind with h | rfl
  · exact isText_of_find? hm h
  · rfl

/-- The event of a message can be written and read again. -/
theorem isRecordable_of_kind (hread : parse? line = some m)
    (hkind : m.memberOr (utf8 "kind") asText [] = .ok kind) :
    (AuditEvent.summary kind (m.orNull "request")).IsRecordable := by
  have hm := isText_of_parse? hread
  exact AuditEvent.isRecordable_summary (valid_of_kind hm hkind) (isText_orNull hm _)
    (isPlain_orNull (isPlain_of_parse? hread) _)

/-- What is done about a message that names a kind, when its event is recorded. -/
def attend (w : Wallet) (kind : Bytes) (m : Json) (e : Entropy) : Traced Reply :=
  match MessageKind.ofName? kind with
  | none => pure (.denied (utf8 "unknown_kind"))
  | some kind => w.serve kind (m.orNull "request") (m.orNull "consensus") e

theorem handle_of_kind (hkind : m.memberOr (utf8 "kind") asText [] = .ok kind) :
    w.handle m e = Traced.leave (.recorded (.summary kind (m.orNull "request"))) >>=
      fun _ => w.attend kind m e := by
  rw [handle, hkind]
  rfl

theorem tells_attend (hhttp : w.http.IsSound) (hm : m.isText = true) (kind : Bytes) :
    Tells (Reply.ComesWith (m.orNull "request")) (w.attend kind m e) := by
  unfold attend
  split
  · exact tells_pure (.nothing rfl)
  · exact tells_serve hhttp (isText_orNull hm _) _ _

theorem isNamed_replyOf_handle (w : Wallet) (m : Json) (e : Entropy) :
    (replyOf (w.handle m e)).IsNamed := by
  unfold replyOf
  split
  · next r hr => exact (kind?_handle hr).2
  · trivial

end Wallet

/-- A message whose reply comes with `events` leaves its own event and these. -/
theorem Trail.of_comesWith {line kind : Bytes} {m : Json} {r : Reply} {events : List AuditEvent}
    (hread : parse? line = some m) (hkind : m.memberOr (utf8 "kind") asText [] = .ok kind)
    (hnamed : r.IsNamed) (h : r.ComesWith (m.orNull "request") events) :
    Trail line (r.toJson.mapTexts Utf8.repair) (.summary kind (m.orNull "request") :: events) := by
  cases h with
  | nothing hnone => exact .read hread hkind (by rw [Reply.eventName?_read hnamed, hnone])
  | event htells =>
    refine .delivered hread hkind ?_ htells.concerns fun hposted => ?_
    · rw [Reply.eventName?_read hnamed, htells.name]
    · obtain ⟨uri, rfl⟩ := Reply.eq_accepted_of_posted (hposted ▸ htells.name)
      obtain ⟨htext, huri⟩ := htells.uri uri rfl
      exact ⟨_, huri, Reply.find?_redirectUri_read htext⟩

namespace Wallet

variable {w : Wallet}

/-- **A message leaves its trail**, and what it leaves can be written and read again. -/
theorem trail_handle (hhttp : w.http.IsSound) {line : Bytes} {m : Json}
    (hread : parse? line = some m) (e : Entropy) :
    (∀ ev ∈ (w.handle m e).events, ev.IsRecordable) ∧
      Trail line ((replyOf (w.handle m e)).toJson.mapTexts Utf8.repair)
        (w.handle m e).events := by
  have hm := isText_of_parse? hread
  have hnamed := isNamed_replyOf_handle w m e
  cases hkind : m.memberOr (utf8 "kind") asText [] with
  | error fault =>
    have hhandle : w.handle m e = Traced.fail (.json fault) := by rw [handle, hkind]; rfl
    rw [hhandle] at hnamed ⊢
    refine ⟨List.forall_mem_nil _, .unread (fun _ m' hread' kind h => ?_)
      (Reply.eventName?_read hnamed)⟩
    cases hread.symm.trans hread'
    cases hkind.symm.trans h
  | ok kind =>
    have hcomes := comesWith_replyOf (tells_attend (e := e) hhttp hm kind)
    rw [handle_of_kind hkind] at hnamed ⊢
    exact ⟨List.forall_mem_cons.mpr ⟨isRecordable_of_kind hread hkind, hcomes.isRecordable⟩,
      .of_comesWith hread hkind hnamed hcomes⟩

/-- **A line leaves its trail.** -/
theorem trail_handleLine (hhttp : w.http.IsSound) (line : Bytes) (e : Entropy) :
    (∀ ev ∈ (w.handleLine line e).1.filterMap Effect.event?, ev.IsRecordable) ∧
      ∃ reply, parse? (w.handleLine line e).2 = some reply ∧
        Trail line reply ((w.handleLine line e).1.filterMap Effect.event?) := by
  have hdenied : ∀ reason, ∃ reply, parse? (Reply.denied reason).line = some reply ∧
      reply.eventName? = none := fun reason =>
    ⟨_, Reply.parse?_line trivial, Reply.eventName?_read (r := .denied reason) trivial⟩
  unfold handleLine
  split
  · next hlong =>
    obtain ⟨reply, hreply, hnone⟩ := hdenied (utf8 "line_too_long")
    exact ⟨List.forall_mem_nil _, reply, hreply,
      .unread (fun hle => absurd hlong (Nat.not_lt.mpr hle)) hnone⟩
  · unfold Json.parse
    cases hparse : parse? line with
    | none =>
      obtain ⟨reply, hreply, hnone⟩ := hdenied (Failure.json (.malformed (w.wording line))).report
      exact ⟨List.forall_mem_nil _, reply, hreply,
        .unread (fun _ m hm => nomatch hparse.symm.trans hm) hnone⟩
    | some m =>
      obtain ⟨hrecordable, htrail⟩ := trail_handle hhttp hparse e
      exact ⟨hrecordable, _, Reply.parse?_line (isNamed_replyOf_handle w m e), htrail⟩

end Wallet

/-! ### Runs -/

/-- What a turn meets is sound: the network, and times, which are numbers of 64 bits. -/
structure Turn.IsSound (t : Turn) : Prop where
  http : t.http.IsSound
  stamp : ∀ i, -2 ^ 63 ≤ t.stamp i ∧ t.stamp i < 2 ^ 63

namespace WalletConfig

variable (config : WalletConfig)

/-- The events of a turn. -/
def eventsOf (t : Turn) : List AuditEvent :=
  ((config.wallet t).handleLine t.line t.entropy).1.filterMap Effect.event?

/-- The records of a turn. -/
def recordsOf (t : Turn) : List Record := Record.stamped t.stamp 0 (config.eventsOf t)

/-- The reply to the line of a turn. -/
def replyTo (t : Turn) : Bytes :=
  ((config.wallet t).handleLine t.line t.entropy).2

variable {config} {t : Turn}

theorem map_event_recordsOf : (config.recordsOf t).map Record.event = config.eventsOf t :=
  Record.map_event_stamped 0 _

theorem trail_eventsOf (config : WalletConfig) (h : t.IsSound) :
    (∀ ev ∈ config.eventsOf t, ev.IsRecordable) ∧
      ∃ reply, parse? (config.replyTo t) = some reply ∧ Trail t.line reply (config.eventsOf t) :=
  Wallet.trail_handleLine h.http t.line t.entropy

/-- The records of a turn are lines that read back. -/
theorem parse?_line_of_mem (h : t.IsSound) {r : Record} (hr : r ∈ config.recordsOf t) :
    0x0a ∉ r.line ∧ parse? r.line = some r.toJson := by
  obtain ⟨hev, k, htime⟩ := Record.mem_stamped hr
  obtain ⟨hlow, hhigh⟩ := h.stamp k
  have hplain : (Json.int r.time).IsPlain := by
    rw [htime]
    exact ⟨hlow, by omega⟩
  exact ⟨newline_notMem_renderWith _ _,
    Record.parse?_line ((trail_eventsOf config h).1 _ hev) hplain⟩

/-- The records of a turn that get into a log: those that are text. -/
def writtenOf (config : WalletConfig) (t : Turn) : List Record :=
  (config.recordsOf t).filter fun r => r.toJson.isText

/-- If what the turn meets is sound, these are all. -/
theorem writtenOf_eq (h : t.IsSound) : config.writtenOf t = config.recordsOf t :=
  List.filter_eq_self.mpr fun _ hr =>
    Record.isText_toJson ((trail_eventsOf config h).1 _ (Record.mem_stamped hr).1)

/-- **A turn puts its records at the end of the log.** -/
theorem answer_file (content : Bytes) : config.answer (.file content) t =
    (.file (content ++ (config.writtenOf t).flatMap Record.entry), config.replyTo t) :=
  Prod.ext (AuditLog.recordFrom_file t.stamp 0 content _) rfl

/-- **Turns put their records at the end of the log**, one after another. -/
theorem answerAll_file : ∀ (content : Bytes) (turns : List Turn),
    config.answerAll (.file content) turns =
      (.file (content ++ (turns.flatMap config.writtenOf).flatMap Record.entry),
        turns.map config.replyTo)
  | content, [] => by rw [List.flatMap_nil, List.flatMap_nil, List.append_nil]; rfl
  | content, t :: rest => by
    rw [answerAll, answer_file]
    dsimp only
    rw [answerAll_file, List.flatMap_cons, List.flatMap_append, List.append_assoc,
      List.map_cons]

/-- The deliveries in the log are those that the replies tell of, in their order. -/
theorem names_recordsOf : ∀ {turns : List Turn}, (∀ t ∈ turns, t.IsSound) →
    ((turns.flatMap config.recordsOf).map (·.event.name)).filter (· ≠ utf8 "request") =
      turns.filterMap fun t => (parse? (config.replyTo t)).bind eventName?
  | [], _ => rfl
  | t :: rest, h => by
    obtain ⟨ht, hrest⟩ := List.forall_mem_cons.mp h
    obtain ⟨-, reply, hreply, htrail⟩ := trail_eventsOf config ht
    have hnames := htrail.names
    rw [← map_event_recordsOf, List.map_map] at hnames
    rw [List.flatMap_cons, List.map_append, List.filter_append, names_recordsOf hrest,
      List.filterMap_cons, hreply, Option.bind_some]
    rw [← Function.comp_def AuditEvent.name Record.event]
    rw [hnames]
    cases reply.eventName? <;> rfl

/-- **The log tells what was replied.** Lines that are handled one after another put their records
at the end of the log, each as one line that reads back as the event, whatever is in it. Each line
leaves the trail that its reply tells of: the event of a delivery is there exactly if the reply says
so, behind the event of the message, and it names the client, the state and the mode of the request,
and the URI that the reply names. So the deliveries in the log are those that the replies tell of,
one for each, in the order of the replies. -/
theorem log_tells_replies (config : WalletConfig) (content : Bytes) (turns : List Turn)
    (h : ∀ t ∈ turns, t.IsSound) :
    config.answerAll (.file content) turns =
      (.file (content ++ (turns.flatMap config.recordsOf).flatMap fun r => r.line ++ [0x0a]),
        turns.map config.replyTo) ∧
    (∀ t ∈ turns,
      (∀ r ∈ config.recordsOf t, 0x0a ∉ r.line ∧ parse? r.line = some (.obj
        [(utf8 "event", .str r.event.name), (utf8 "payload", r.event.payload),
          (utf8 "ts", .int r.time)])) ∧
      ∃ reply, parse? (config.replyTo t) = some reply ∧
        Trail t.line reply ((config.recordsOf t).map Record.event)) ∧
    ((turns.flatMap config.recordsOf).map (·.event.name)).filter (· ≠ utf8 "request") =
      (turns.map config.replyTo).filterMap fun text => (parse? text).bind eventName? := by
  refine ⟨?_, fun t ht => ⟨fun r hr => parse?_line_of_mem (h t ht) hr, ?_⟩, ?_⟩
  · rw [answerAll_file, List.flatMap_congr fun t ht => writtenOf_eq (h t ht)]
    rfl
  · rw [map_event_recordsOf]
    exact (trail_eventsOf config (h t ht)).2
  · rw [names_recordsOf h, List.filterMap_map]
    rfl

end WalletConfig

/-! ### Two lines -/

/-- A request from a client that has a newline in its name. -/
def brokenRequest : Json :=
  .obj [(utf8 "client_id", .text "two\nlines"), (utf8 "nonce", .text "n"),
    (utf8 "response_mode", .text "direct_post"), (utf8 "response_uri", .text "https://verifier"),
    (utf8 "type", .text "siop")]

/-- A line that is handled while the verifier accepts whatever is posted. -/
def acceptedTurn (line : Bytes) : Turn where
  line := line
  http := .ok (some fun _ _ => .ok ⟨200, []⟩)
  now := 1700000000
  stamp := fun _ => 1700000000
  entropy := fun _ => 0

theorem isSound_acceptedTurn (line : Bytes) : (acceptedTurn line).IsSound where
  http := by
    refine ⟨fun _ h => (nomatch h), fun _ h _ _ _ _ hfailed => ?_, fun _ h _ _ _ hreply => ?_⟩
    · cases h
      cases hfailed
    · cases h
      cases hreply
      decide
  stamp _ := (by decide : (-2 ^ 63 : Int) ≤ 1700000000 ∧ (1700000000 : Int) < 2 ^ 63)

/-- A message that is to post a refusal, and a line that is no message. -/
def twoTurns : List Turn :=
  [acceptedTurn (MessageKind.post.message brokenRequest
      (.obj [(utf8 "type", .text "negative")])).render,
    acceptedTurn (utf8 "POST")]

/-- The newline in the name of a client does not break the log. -/
theorem log_of_two_turns : (∀ t ∈ twoTurns, t.IsSound) ∧
    (WalletConfig.standard.answerAll (.file []) twoTurns).1 = .file
      (Record.entry ⟨.summary (utf8 "POST") brokenRequest, 1700000000⟩ ++
        Record.entry ⟨⟨utf8 "response_posted", .obj [(utf8 "client_id", .text "two\nlines"),
          (utf8 "redirect_uri", .null), (utf8 "response_mode", .text "direct_post"),
          (utf8 "state", .null), (utf8 "status", .int 200)]⟩, 1700000000⟩) ∧
    ((twoTurns.flatMap WalletConfig.standard.recordsOf).map (·.event.name)).filter
      (· ≠ utf8 "request") = [utf8 "response_posted"] := by
  have hsound : ∀ t ∈ twoTurns, t.IsSound := by
    simp only [twoTurns, List.forall_mem_cons]
    exact ⟨isSound_acceptedTurn _, isSound_acceptedTurn _, List.forall_mem_nil _⟩
  obtain ⟨hlog, -, hnames⟩ := WalletConfig.log_tells_replies .standard [] twoTurns hsound
  refine ⟨hsound, ?_, ?_⟩
  · rw [hlog]
    decide +kernel
  · rw [hnames]
    decide +kernel

end WalletResponder
