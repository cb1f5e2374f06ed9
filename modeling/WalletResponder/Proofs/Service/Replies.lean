import WalletResponder.Proofs.Delivery.WireParameters
import WalletResponder.Proofs.Jarm.Refusals
import WalletResponder.Proofs.Json.Lines
import WalletResponder.Service.Log

/-!
# One reply for every line

Whatever a line is, a reply comes of it, and the reply is a line that a client can read
(`Wallet.reply_to_line`): text without a newline, an object with a status, and a reason exactly when
the status says that the line was denied. A reply that says what was done says so of what was asked
for.

**What a reply is read as.** Replies are written with their texts repaired, and their names are text
(`Reply.IsNamed`), so they read back with their texts repaired (`Reply.parse?_line`). The status,
the kind and whether there is a reason do not depend on repairs.
-/

namespace WalletResponder

open Json

namespace Reply

/-- What a reply says has become of a message. -/
def status : Reply → Bytes
  | built .. | redirect _ => utf8 "OK"
  | accepted _ => utf8 "ACCEPTED"
  | rejected => utf8 "REJECTED"
  | refused .. | denied _ => utf8 "DENIED"

/-- The kind of message that a reply says it is for. -/
def kind? : Reply → Option MessageKind
  | built .. => some .build
  | accepted _ | rejected => some .post
  | redirect _ => some .redirect
  | refused kind _ => some kind
  | denied _ => none

/-- The reason that a reply gives for a denial. -/
def reason? : Reply → Option Bytes
  | refused _ error => some error.code
  | denied reason => some reason
  | _ => none

/-- The names of the parameters that are shown are text. -/
def IsNamed : Reply → Prop
  | built _ _ params => ∀ p ∈ params, Utf8.valid p.1 = true
  | _ => True

variable {r : Reply}

theorem find?_status (r : Reply) : r.toJson.find? (utf8 "status") = some (.str r.status) := by
  cases r <;> rfl

theorem find?_kind (r : Reply) :
    r.toJson.find? (utf8 "kind") = r.kind?.map fun kind => .str kind.name := by
  cases r <;> rfl

theorem find?_error (r : Reply) : r.toJson.find? (utf8 "error") = r.reason?.map .str := by
  cases r <;> rfl

theorem status_eq_denied : r.status = utf8 "DENIED" ↔ ∃ reason, r.reason? = some reason := by
  cases r <;> simp +decide [status, reason?]

theorem valid_status (r : Reply) : Utf8.valid r.status = true := by
  cases r <;> rfl

theorem kind?_of_posted (h : r.status = utf8 "ACCEPTED" ∨ r.status = utf8 "REJECTED") :
    r.kind? = some .post := by
  revert h
  cases r <;> simp +decide [status, kind?]

theorem kind?_of_ok (h : r.status = utf8 "OK") :
    ∃ kind : MessageKind, (kind = .build ∨ kind = .redirect) ∧ r.kind? = some kind := by
  revert h
  cases r <;> simp +decide [status, kind?]

/-! ### Reading a reply -/

theorem isPlain_parametersJson (params : FormParameters) : (parametersJson params).IsPlain := by
  refine isPlain_object fun m hm => ?_
  obtain ⟨p, -, rfl⟩ := List.mem_map.mp hm
  exact isPlain_str p.2

/-- Replies are plain values. -/
theorem isPlain_toJson (r : Reply) : r.toJson.IsPlain := by
  cases r with
  | built mode uri params =>
    refine ⟨by unfold Json.InOrder; simp +decide, isPlain_str _, isPlain_parametersJson params,
      isPlain_str _, isPlain_str _, isPlain_str _, trivial⟩
  | accepted uri =>
    refine ⟨by unfold Json.InOrder; simp +decide, isPlain_str _, ?_, isPlain_str _, trivial⟩
    cases uri <;> trivial
  | rejected => exact ⟨by unfold Json.InOrder; simp +decide, isPlain_str _, isPlain_str _, trivial⟩
  | redirect uri =>
    exact ⟨by unfold Json.InOrder; simp +decide, isPlain_str _, isPlain_str _, isPlain_str _,
      trivial⟩
  | refused kind error =>
    exact ⟨by unfold Json.InOrder; simp +decide, isPlain_str _, isPlain_str _, isPlain_str _,
      isPlain_str _, trivial⟩
  | denied reason =>
    exact ⟨by unfold Json.InOrder; simp +decide, isPlain_str _, isPlain_str _, trivial⟩

theorem isText_blank_toJson (h : r.IsNamed) : r.toJson.blank.isText = true := by
  cases r with
  | built mode uri params =>
    have hparams : (parametersJson params).blank.isText = true := by
      refine isText_blank_object fun m hm => ?_
      obtain ⟨p, hp, rfl⟩ := List.mem_map.mp hm
      exact ⟨h p hp, rfl⟩
    rw [toJson, isText_blank_obj]
    simp +decide [hparams, Json.text, blank, isText]
  | accepted uri => cases uri <;> rfl
  | rejected => rfl
  | redirect uri => rfl
  | refused kind error => rfl
  | denied reason => rfl

/-- **A reply reads back with its texts repaired.** -/
theorem parse?_line (h : r.IsNamed) : parse? r.line = some (r.toJson.mapTexts Utf8.repair) :=
  parse?_dumpRepaired (isPlain_toJson r) (isText_blank_toJson h)

theorem find?_read (h : r.IsNamed) (name : Bytes) :
    (r.toJson.mapTexts Utf8.repair).find? name =
      (r.toJson.find? name).map (mapTexts Utf8.repair) :=
  find?_mapTexts spares_repair (isText_blank_toJson h) name

end Reply

/-! ### Which reply comes of a message -/

namespace Wallet

variable {w : Wallet} {m request consensus : Json} {e : Entropy} {r : Reply} {kind : MessageKind}

theorem kind?_perform {q : Request} {c : Consensus}
    (h : (w.perform kind q c e).result = .ok r) : r.kind? = some kind ∧ r.IsNamed := by
  cases kind with
  | build =>
    rw [perform, Traced.result_bind] at h
    obtain ⟨response, -, h⟩ := bind_eq_ok.mp h
    rw [Traced.result_bind] at h
    obtain ⟨params, hparams, h⟩ := bind_eq_ok.mp h
    cases h
    exact ⟨rfl, valid_names_wireParameters hparams⟩
  | post =>
    rw [perform, Traced.result_bind] at h
    obtain ⟨answer, -, h⟩ := bind_eq_ok.mp h
    cases answer with
    | accepted uri => cases h; exact ⟨rfl, trivial⟩
    | rejected => cases h; exact ⟨rfl, trivial⟩
  | redirect =>
    rw [perform, Traced.result_bind] at h
    obtain ⟨uri, -, h⟩ := bind_eq_ok.mp h
    cases h
    exact ⟨rfl, trivial⟩

/-- A reply to a request says for which kind of message it is, and does so rightly. -/
theorem kind?_serve (h : (w.serve kind request consensus e).result = .ok r) :
    r.kind? = some kind ∧ r.IsNamed := by
  unfold serve at h
  split at h
  · cases h; exact ⟨rfl, trivial⟩
  · cases h
  · rw [Traced.result_bind] at h
    obtain ⟨c, -, h⟩ := bind_eq_ok.mp h
    exact kind?_perform h

theorem name_of_ofName? {name : Bytes} (h : MessageKind.ofName? name = some kind) :
    kind.name = name := by
  simpa using List.find?_some h

/-- A text that is read is a member, or it is what is taken when there is none. -/
theorem find?_of_memberOr {name s base : Bytes} (h : m.memberOr name asText base = .ok s) :
    m.find? name = some (.str s) ∨ s = base := by
  cases m with
  | obj members =>
    rw [memberOr] at h
    split at h
    · next v hv =>
      exact .inl (asText_eq_ok.mp h ▸ hv)
    · exact .inr (Except.ok.inj h).symm
  | _ => cases h

/-- The kind of a message is a member of it. -/
theorem find?_kind_of_read (h : m.memberOr (utf8 "kind") asText [] = .ok kind.name) :
    m.find? (utf8 "kind") = some (.str kind.name) :=
  (find?_of_memberOr h).resolve_right (by cases kind <;> decide)

theorem kind?_handle (h : (w.handle m e).result = .ok r) :
    (∀ kind, r.kind? = some kind → m.find? (utf8 "kind") = some (.str kind.name)) ∧ r.IsNamed := by
  rw [handle, Traced.result_bind] at h
  obtain ⟨name, hname, h⟩ := bind_eq_ok.mp h
  rw [Traced.result_ofResult, ofJson_eq_ok] at hname
  rw [Traced.result_bind] at h
  obtain ⟨_, -, h⟩ := bind_eq_ok.mp h
  split at h
  · cases h; exact ⟨fun _ h => (nomatch h), trivial⟩
  · next kind hkind =>
    obtain ⟨hr, hnamed⟩ := kind?_serve h
    refine ⟨fun kind' hkind' => ?_, hnamed⟩
    cases hr.symm.trans hkind'
    rw [← name_of_ofName? hkind] at hname
    exact find?_kind_of_read hname

end Wallet

/-- A line is a message of a kind. -/
def MessageKind.IsAskedBy (kind : MessageKind) (line : Bytes) : Prop :=
  ∃ m, parse? line = some m ∧ m.find? (utf8 "kind") = some (.str kind.name)

namespace Wallet

variable {w : Wallet} {line : Bytes} {e : Entropy}

/-- **Whatever a line is, a reply comes of it**, for the kind of message that the line is. -/
theorem handleLine_reply (w : Wallet) (line : Bytes) (e : Entropy) :
    ∃ r : Reply, (w.handleLine line e).2 = r.line ∧ r.IsNamed ∧
      ∀ kind, r.kind? = some kind → kind.IsAskedBy line := by
  have hdenied : ∀ reason kind, (Reply.denied reason).kind? = some kind → kind.IsAskedBy line :=
    fun _ _ h => nomatch h
  unfold handleLine
  split
  · exact ⟨_, rfl, trivial, hdenied _⟩
  · unfold Json.parse
    cases hparse : parse? line with
    | none => exact ⟨_, rfl, trivial, hdenied _⟩
    | some m =>
      refine ⟨_, rfl, ?_⟩
      unfold replyOf
      split
      · next r hr =>
        obtain ⟨hkind, hnamed⟩ := kind?_handle hr
        exact ⟨hnamed, fun kind h => ⟨m, hparse, hkind kind h⟩⟩
      · exact ⟨trivial, hdenied _⟩

theorem handleLine_of_long (h : maxLineBytes < line.length) :
    w.handleLine line e = ([], (Reply.denied (utf8 "line_too_long")).line) := if_pos h

end Wallet

/-- What a client can rely on in the reply to a line. -/
structure Json.RepliesTo (reply : Json) (line : Bytes) : Prop where
  isObject : ∃ members, reply = .obj members
  status : ∃ status ∈ [utf8 "OK", utf8 "ACCEPTED", utf8 "REJECTED", utf8 "DENIED"],
    reply.find? (utf8 "status") = some (.str status)
  denied : reply.find? (utf8 "status") = some (.text "DENIED") ↔
    ∃ reason, reply.find? (utf8 "error") = some (.str reason)
  posted : reply.find? (utf8 "status") = some (.text "ACCEPTED") ∨
      reply.find? (utf8 "status") = some (.text "REJECTED") →
    reply.find? (utf8 "kind") = some (.text "POST") ∧ MessageKind.post.IsAskedBy line
  done : reply.find? (utf8 "status") = some (.text "OK") →
    ∃ kind : MessageKind, (kind = .build ∨ kind = .redirect) ∧
      reply.find? (utf8 "kind") = some (.str kind.name) ∧ kind.IsAskedBy line

namespace Reply

variable {r : Reply} {line : Bytes}

theorem find?_status_read (h : r.IsNamed) :
    (r.toJson.mapTexts Utf8.repair).find? (utf8 "status") = some (.str r.status) := by
  rw [find?_read h, find?_status, Option.map_some, mapTexts, Utf8.repair_of_valid r.valid_status]

theorem find?_kind_read (h : r.IsNamed) : (r.toJson.mapTexts Utf8.repair).find? (utf8 "kind") =
    r.kind?.map fun kind => .str kind.name := by
  rw [find?_read h, find?_kind]
  cases r.kind? with
  | none => rfl
  | some kind => cases kind <;> rfl

theorem find?_error_read (h : r.IsNamed) : (r.toJson.mapTexts Utf8.repair).find? (utf8 "error") =
    r.reason?.map fun reason => .str (Utf8.repair reason) := by
  rw [find?_read h, find?_error, Option.map_map]
  rfl

/-- The status is read off a reply. -/
theorem find?_status_eq (h : r.IsNamed) (status : String) :
    (r.toJson.mapTexts Utf8.repair).find? (utf8 "status") = some (.text status) ↔
      r.status = utf8 status := by
  rw [find?_status_read h, Option.some.injEq, Json.text, Json.str.injEq]

theorem repliesTo (hnamed : r.IsNamed) (hkind : ∀ kind, r.kind? = some kind → kind.IsAskedBy line) :
    (r.toJson.mapTexts Utf8.repair).RepliesTo line where
  isObject := by cases r <;> exact ⟨_, rfl⟩
  status := ⟨r.status, by cases r <;> simp [status], find?_status_read hnamed⟩
  denied := by
    rw [find?_status_eq hnamed, status_eq_denied, find?_error_read hnamed]
    cases r.reason? <;> simp
  posted h := by
    rw [find?_status_eq hnamed, find?_status_eq hnamed] at h
    have hpost := kind?_of_posted h
    rw [find?_kind_read hnamed, hpost]
    exact ⟨rfl, hkind _ hpost⟩
  done h := by
    rw [find?_status_eq hnamed] at h
    obtain ⟨kind, hor, hsome⟩ := kind?_of_ok h
    rw [find?_kind_read hnamed, hsome]
    exact ⟨kind, hor, rfl, hkind kind hsome⟩

end Reply

/-- **Every line gets one reply, which is a line.** Whatever the line is, in whatever bytes its faults
are worded, whatever the network does, and whatever becomes of the log: the reply is text without a
newline, and reads as an object that tells what has become of the message. A line that is too long
is not looked at: it is denied as such, and nothing is recorded or sent. -/
theorem Wallet.reply_to_line (w : Wallet) (log : AuditLog) (stamp : Nat → Int) (line : Bytes)
    (e : Entropy) :
    let (log', text) := w.answer log stamp line e
    0x0a ∉ text ∧ Utf8.valid text = true ∧
    (∃ reply, parse? text = some reply ∧ reply.RepliesTo line) ∧
    (65536 < line.length →
      log' = log ∧ (w.handleLine line e).1 = [] ∧
      parse? text = some (.obj [(utf8 "error", .text "line_too_long"),
        (utf8 "status", .text "DENIED")])) := by
  obtain ⟨r, hr, hnamed, hkind⟩ := w.handleLine_reply line e
  dsimp only [answer]
  rw [hr]
  refine ⟨newline_notMem_renderWith _ _, valid_dumpRepaired _,
    ⟨_, r.parse?_line hnamed, r.repliesTo hnamed hkind⟩, fun hlong => ?_⟩
  rw [← hr, handleLine_of_long hlong]
  exact ⟨rfl, rfl, Reply.parse?_line trivial⟩

end WalletResponder
