import WalletResponder.Proofs.Service.AuditTrail
import WalletResponder.Proofs.Service.Replies

/-!
# Deliveries and their events

A delivery that ends well leaves one event, and whatever fails on the way leaves none
(`Traced.Tells`). So the event of a delivery and the reply to its message tell the same
(`Wallet.tells_serve`): the response was accepted or not, or it was written into a redirect. The
event names the client, the state and the mode of the request (`AuditEvent.Concerns`), and it can be
written and read again, whatever characters are in it (`AuditEvent.IsRecordable`).

**What is text.** The request comes from a line, so what is repeated of it is text. So is the URI
that a verifier names. The error of a transport is not ours; that it is text is asked of the network
(`HttpFactory.IsSound`).
-/

namespace WalletResponder

open Json

/-! ### The parts of a request -/

section Parts

variable {j : Json} {name : String}

theorem requiredText_eq_ok {s : Bytes} :
    requiredText j name = .ok s ↔ j.find? (utf8 name) = some (.str s) := by
  unfold requiredText
  split
  · next t h => simp [h]
  · next h => simp only [reduceCtorEq, false_iff]; exact h s

theorem orNull_of_optionalText {s : Option Bytes} (h : optionalText j name = .ok s) :
    j.orNull name = .ofOption s := by
  unfold optionalText at h
  unfold Json.orNull
  split at h
  · next hfind => cases h; rw [hfind]; rfl
  · next hfind => cases h; rw [hfind]; rfl
  · next v _ hfind =>
    obtain ⟨text, htext, rfl⟩ := map_eq_ok.mp h
    rw [hfind]
    cases v with
    | str s => cases htext; rfl
    | _ => cases htext

theorem nameOf_of_ofName? {name : Bytes} {channel : Channel} {isProtected : Bool}
    (h : ResponseMode.ofName? name = some (channel, isProtected)) :
    ResponseMode.nameOf channel isProtected = name := by
  simpa using List.find?_some h

theorem ResponseMode.of_ofJson {mode : ResponseMode} (h : ResponseMode.ofJson j = .ok mode) :
    j.find? (utf8 "response_mode") = some (.str mode.name) ∧
      ∃ name, j.find? (utf8 name) = some (.str mode.uri) := by
  obtain ⟨name, hname, h⟩ := bind_eq_ok.mp h
  rw [requiredText_eq_ok] at hname
  split at h
  · cases h
  · next channel isProtected hkind =>
    obtain ⟨uri, huri, h⟩ := bind_eq_ok.mp h
    cases h
    refine ⟨?_, _, requiredText_eq_ok.mp huri⟩
    rw [hname, ← nameOf_of_ofName? hkind]
    rfl

end Parts

/-- The parts of a request that the events about it name, as they are written. -/
structure Request.IsWritten (q : Request) (j : Json) : Prop where
  clientId : j.find? (utf8 "client_id") = some (.str q.clientId)
  state : j.orNull "state" = .ofOption q.state
  mode : j.find? (utf8 "response_mode") = some (.str q.mode.name)
  uri : ∃ name, j.find? (utf8 name) = some (.str q.mode.uri)

theorem Request.isWritten_of_ofJson {j : Json} {wallet : JarmConfig} {q : Request}
    (h : ofJson j wallet = .ok q) : q.IsWritten j := by
  unfold ofJson at h
  split_ifs at h
  obtain ⟨type, -, h⟩ := bind_eq_ok.mp h
  split at h
  · obtain ⟨clientId, hclient, h⟩ := bind_eq_ok.mp h
    obtain ⟨state, hstate, h⟩ := bind_eq_ok.mp h
    obtain ⟨nonce, -, h⟩ := bind_eq_ok.mp h
    obtain ⟨mode, hmode, h⟩ := bind_eq_ok.mp h
    obtain ⟨metadata, -, h⟩ := bind_eq_ok.mp h
    obtain ⟨jarm, -, h⟩ := bind_eq_ok.mp h
    obtain ⟨query, -, h⟩ := bind_eq_ok.mp h
    cases h
    obtain ⟨hname, huri⟩ := ResponseMode.of_ofJson hmode
    exact ⟨requiredText_eq_ok.mp hclient, orNull_of_optionalText hstate, hname, huri⟩
  · cases h

/-! ### Events -/

namespace AuditEvent

/-- An event that can be written and read again. -/
structure IsRecordable (ev : AuditEvent) : Prop where
  name : Utf8.valid ev.name = true
  isText : ev.payload.isText = true
  isPlain : ev.payload.IsPlain

/-- An event is about the request that is written in `j`: it names the client, the state, which is
null when there is none, and the mode. -/
structure Concerns (ev : AuditEvent) (j : Json) : Prop where
  clientId : ∃ client, j.find? (utf8 "client_id") = some (.str client) ∧
    ev.payload.find? (utf8 "client_id") = some (.str client)
  state : ev.payload.find? (utf8 "state") = some (j.orNull "state")
  mode : ∃ mode, j.find? (utf8 "response_mode") = some (.str mode) ∧
    ev.payload.find? (utf8 "response_mode") = some (.str mode)

variable {q : Request} {c : Consensus} {r : AuthorizationResponse} {j : Json} {name : String}
  {more : List (Bytes × Json)}

/-- The names of what events about responses say besides which response it is. -/
def moreNames : List (List Bytes) :=
  [[], [utf8 "error"], [utf8 "status"], [utf8 "redirect_uri", utf8 "status"]]

theorem nodup_names (r : AuthorizationResponse) (h : more.map Prod.fst ∈ moreNames) :
    ((about r ++ more).map Prod.fst).Nodup := by
  have hnodup : ∀ names ∈ moreNames,
      ([utf8 "client_id", utf8 "response_mode", utf8 "state"] ++ names).Nodup := by decide
  rw [List.map_append]
  exact hnodup _ h

theorem valid_names (h : more.map Prod.fst ∈ moreNames) : ∀ m ∈ more, Utf8.valid m.1 = true := by
  have hvalid : ∀ names ∈ moreNames, ∀ name ∈ names, Utf8.valid name = true := by decide
  exact fun m hm => hvalid _ h m.1 (List.mem_map_of_mem hm)

theorem find?_ofResponse (h : more.map Prod.fst ∈ moreNames) (k : Bytes) :
    (ofResponse name r more).payload.find? k = (about r ++ more).lookup k :=
  find?_object (nodup_names r h) k

/-- An event about a response is about its request. -/
theorem concerns_ofResponse (hread : q.IsWritten j)
    (hbuild : AuthorizationResponse.build q c = .ok r)
    (h : more.map Prod.fst ∈ moreNames) : (ofResponse name r more).Concerns j := by
  have hbuilt := isBuilt_of_build hbuild
  refine ⟨⟨_, hread.clientId, ?_⟩, ?_, _, hread.mode, ?_⟩
  · rw [find?_ofResponse h, ← hbuilt.clientId]
    rfl
  · rw [find?_ofResponse h, hread.state, ← hbuilt.state]
    rfl
  · rw [find?_ofResponse h, ← hbuilt.mode]
    rfl

theorem isText_ofOption {s : Option Bytes} (h : ∀ t ∈ s, Utf8.valid t = true) :
    (Json.ofOption s).isText = true := by
  cases s with
  | none => rfl
  | some t => exact h t rfl

theorem isPlain_ofOption (s : Option Bytes) : (Json.ofOption s).IsPlain := by
  cases s <;> trivial

theorem isRecordable_ofResponse (hj : j.isText = true) (hread : q.IsWritten j)
    (hbuild : AuthorizationResponse.build q c = .ok r) (hname : Utf8.valid (utf8 name) = true)
    (hnames : more.map Prod.fst ∈ moreNames)
    (hmore : ∀ m ∈ more, m.2.isText = true ∧ m.2.IsPlain) :
    (ofResponse name r more).IsRecordable := by
  have hbuilt := isBuilt_of_build hbuild
  have hstateText : (Json.ofOption r.payload.state).isText = true := by
    rw [hbuilt.state, ← hread.state]
    exact isText_orNull hj _
  have habout : ∀ m ∈ about r, Utf8.valid m.1 = true ∧ m.2.isText = true ∧ m.2.IsPlain := by
    rw [about, hbuilt.clientId, hbuilt.mode]
    simp only [List.forall_mem_cons]
    exact ⟨⟨by decide, isText_of_find? hj hread.clientId, trivial⟩,
      ⟨by decide, isText_of_find? hj hread.mode, trivial⟩,
      ⟨by decide, hstateText, isPlain_ofOption _⟩, List.forall_mem_nil _⟩
  have hall := List.forall_mem_append.mpr
    ⟨habout, fun m hm => ⟨valid_names hnames m hm, hmore m hm⟩⟩
  exact ⟨hname, isText_object fun m hm => ⟨(hall m hm).1, (hall m hm).2.1⟩,
    isPlain_object fun m hm => (hall m hm).2.2⟩

end AuditEvent

/-! ### Replies and events -/

/-- The name of the event of the delivery that a reply tells of. -/
def Reply.eventName? : Reply → Option Bytes
  | accepted _ => some (utf8 "response_posted")
  | rejected => some (utf8 "response_rejected")
  | redirect _ => some (utf8 "redirect_encoded")
  | _ => none

theorem Reply.valid_eventName {r : Reply} {name : Bytes} (h : r.eventName? = some name) :
    Utf8.valid name = true := by
  cases r <;> cases h <;> decide

/-- An event and a reply tell of the same delivery, of the response to the request that is written
in `j`. -/
structure AuditEvent.TellsOf (ev : AuditEvent) (j : Json) (reply : Reply) : Prop where
  isRecordable : ev.IsRecordable
  name : reply.eventName? = some ev.name
  concerns : ev.Concerns j
  uri : ∀ uri, reply = .accepted uri → (∀ u ∈ uri, Utf8.valid u = true) ∧
    ev.payload.find? (utf8 "redirect_uri") = some (.ofOption uri)

/-- What a reply comes with: the event of the delivery that it tells of, or nothing. -/
inductive Reply.ComesWith (j : Json) : Reply → List AuditEvent → Prop where
  | nothing {reply : Reply} (h : reply.eventName? = none) : ComesWith j reply []
  | event {reply : Reply} {ev : AuditEvent} (h : ev.TellsOf j reply) : ComesWith j reply [ev]

/-- What is replied when a verifier has replied. -/
def Reply.ofAnswer : VerifierResponse → Reply
  | .accepted uri => .accepted uri
  | .rejected => .rejected

theorem Reply.ComesWith.isRecordable {j : Json} {reply : Reply} {events : List AuditEvent}
    (h : reply.ComesWith j events) : ∀ ev ∈ events, ev.IsRecordable := by
  cases h with
  | nothing _ => exact List.forall_mem_nil _
  | event h => exact List.forall_mem_singleton.mpr h.isRecordable

namespace Traced

variable {α β : Type} {R : α → List AuditEvent → Prop} {S : β → List AuditEvent → Prop}

/-- If a computation ends well, its events are `R`; if it fails, there are none. -/
structure Tells (R : α → List AuditEvent → Prop) (t : Traced α) : Prop where
  ok : ∀ a, t.result = .ok a → R a t.events
  error : ∀ f, t.result = .error f → t.events = []

theorem tells_fail (f : Failure) : Tells R (fail f) :=
  ⟨fun _ h => (nomatch h), fun _ _ => rfl⟩

theorem tells_pure {a : α} (h : R a []) : Tells R (pure a) :=
  ⟨fun _ ha => Except.ok.inj ha ▸ h, fun _ _ => rfl⟩

theorem tells_leave {ev : AuditEvent} {a : α} (h : R a [ev]) :
    Tells R (leave (.recorded ev) >>= fun _ => pure a) :=
  ⟨fun _ ha => Except.ok.inj ha ▸ h, fun _ h => (nomatch h)⟩

/-- What comes before the events does not matter. -/
theorem tells_bind {t : Traced α} {next : α → Traced β} (hquiet : t.events = [])
    (hnext : ∀ a, t.result = .ok a → Tells S (next a)) : Tells S (t >>= next) := by
  cases h : t.result with
  | error f =>
    rw [bind_of_error h]
    exact ⟨fun _ hb => (nomatch hb), fun _ _ => hquiet⟩
  | ok a =>
    obtain ⟨hok, herror⟩ := hnext a h
    refine ⟨fun b hb => ?_, fun f hf => ?_⟩
    · rw [events_bind_of_ok h, hquiet, List.nil_append]
      rw [bind_of_ok h] at hb
      exact hok b hb
    · rw [events_bind_of_ok h, hquiet, List.nil_append]
      rw [bind_of_ok h] at hf
      exact herror f hf

/-- What is done with a result when the events are over. -/
theorem Tells.map {t : Traced α} (h : Tells R t) {f : α → β}
    (hf : ∀ a events, R a events → S (f a) events) : Tells S (t >>= fun a => pure (f a)) := by
  cases hresult : t.result with
  | error fault =>
    rw [bind_of_error hresult]
    exact ⟨fun _ hb => (nomatch hb), fun _ _ => h.error fault hresult⟩
  | ok a =>
    refine ⟨fun b hb => ?_, fun fault hfault => ?_⟩
    · rw [bind_of_ok hresult] at hb
      obtain rfl := Except.ok.inj hb
      rw [events_bind_of_ok hresult]
      exact (List.append_nil t.events).symm ▸ hf a _ (h.ok a hresult)
    · rw [bind_of_ok hresult] at hfault
      exact nomatch hfault

end Traced

open Traced

/-! ### The network -/

/-- What the network does: statuses are numbers of 64 bits, and the text of an error of the
transport is text, if the URL was. -/
structure HttpFactory.IsSound (f : HttpFactory) : Prop where
  unavailable : ∀ text, f = .error (.transport text) → Utf8.valid text = true
  failed : ∀ client, f = .ok (some client) → ∀ url params text, Utf8.valid url = true →
    client url params = .error (.transport text) → Utf8.valid text = true
  status : ∀ client, f = .ok (some client) → ∀ url params reply, client url params = .ok reply →
    -2 ^ 63 ≤ reply.status ∧ reply.status < 2 ^ 63

namespace Wallet

variable {w : Wallet} {e : Entropy} {q : Request} {c : Consensus} {r : AuthorizationResponse}
  {j : Json} {url : Bytes} {params : FormParameters}

theorem events_post (w : Wallet) (url : Bytes) (params : FormParameters) :
    (w.post url params).events = [] := by
  unfold post
  split
  · rfl
  · rfl
  · rfl
  · split <;> rfl

/-- What comes of posting: a text that says why there is no reply, or a reply with its status. -/
theorem post_cases (h : w.http.IsSound) (hurl : Utf8.valid url = true)
    {answer : Except Bytes HttpReply} (hpost : (w.post url params).result = .ok answer) :
    (∃ text, answer = .error text ∧ Utf8.valid text = true) ∨
      ∃ reply, answer = .ok reply ∧ (Json.int reply.status).IsPlain := by
  unfold post at hpost
  split at hpost
  · next text hhttp =>
    cases hpost
    exact .inl ⟨text, rfl, h.unavailable text hhttp⟩
  · cases hpost
  · cases hpost
    exact .inl ⟨_, rfl, by decide⟩
  · next client hhttp =>
    split at hpost
    · next text hclient =>
      cases hpost
      exact .inl ⟨text, rfl, h.failed client hhttp url params text hurl hclient⟩
    · cases hpost
    · next reply hclient =>
      cases hpost
      obtain ⟨hlow, hhigh⟩ := h.status client hhttp url params reply hclient
      exact .inr ⟨reply, rfl, hlow, by omega⟩

/-- The URI that a verifier names is text. -/
theorem valid_redirectUri {body uri : Bytes} (h : HttpReply.redirectUri? body = some uri) :
    Utf8.valid uri = true := by
  unfold HttpReply.redirectUri? at h
  split at h
  · cases h
  · next answer hparse =>
    obtain ⟨v, hfind, hv⟩ := Option.bind_eq_some_iff.mp h
    cases v with
    | str s =>
      cases hv
      exact isText_of_find? (isText_of_parse? hparse) hfind
    | _ => cases hv

/-! ### Deliveries -/

section Delivered

variable (hj : j.isText = true) (hread : q.IsWritten j)
  (hbuild : AuthorizationResponse.build q c = .ok r)

include hj hread hbuild

/-- An event about a response tells of its delivery, if it has the name for that. -/
theorem tellsOf_ofResponse {reply : Reply} {name : String} {more : List (Bytes × Json)}
    (hname : reply.eventName? = some (utf8 name))
    (hnames : more.map Prod.fst ∈ AuditEvent.moreNames)
    (hmore : ∀ m ∈ more, m.2.isText = true ∧ m.2.IsPlain)
    (huri : ∀ uri, reply = .accepted uri → (∀ u ∈ uri, Utf8.valid u = true) ∧
      more.lookup (utf8 "redirect_uri") = some (.ofOption uri)) :
    (AuditEvent.ofResponse name r more).TellsOf j reply := by
  have hvalid := reply.valid_eventName hname
  refine ⟨AuditEvent.isRecordable_ofResponse hj hread hbuild hvalid hnames hmore, hname,
    AuditEvent.concerns_ofResponse hread hbuild hnames, fun uri h => ?_⟩
  obtain ⟨htext, hlookup⟩ := huri uri h
  refine ⟨htext, ?_⟩
  rw [AuditEvent.find?_ofResponse hnames]
  exact hlookup

theorem tellsOf_failed {reason : Bytes} (h : Utf8.valid reason = true) :
    (AuditEvent.failed r reason).TellsOf j .rejected :=
  tellsOf_ofResponse hj hread hbuild rfl (by simp [AuditEvent.moreNames])
    (List.forall_mem_singleton.mpr ⟨h, trivial⟩) fun _ h => (nomatch h)

theorem tellsOf_replied {status : Int} (hstatus : (Json.int status).IsPlain) :
    ∀ answer, (∀ uri, answer = .accepted (some uri) → Utf8.valid uri = true) →
      (AuditEvent.replied r status answer).TellsOf j (.ofAnswer answer)
  | .rejected, _ =>
    tellsOf_ofResponse hj hread hbuild rfl (by simp [AuditEvent.moreNames])
      (List.forall_mem_singleton.mpr ⟨rfl, hstatus⟩) fun _ h => (nomatch h)
  | .accepted uri, huri => by
    have htext : ∀ u ∈ uri, Utf8.valid u = true := fun u hu => huri u (by rw [hu])
    refine tellsOf_ofResponse hj hread hbuild rfl (by simp [AuditEvent.moreNames]) ?_
      fun _ h => ?_
    · simp only [List.forall_mem_cons]
      exact ⟨⟨AuditEvent.isText_ofOption htext, AuditEvent.isPlain_ofOption uri⟩,
        ⟨rfl, hstatus⟩, List.forall_mem_nil _⟩
    · cases h
      exact ⟨htext, rfl⟩

/-- **What comes of posting a response is told by one event.** -/
theorem tells_deliver (hhttp : w.http.IsSound) :
    Tells (fun answer => Reply.ComesWith j (.ofAnswer answer)) (w.deliver r e) := by
  have huri : Utf8.valid r.uri = true := by
    obtain ⟨name, hname⟩ := hread.uri
    rw [← congrArg ResponseMode.uri (isBuilt_of_build hbuild).mode] at hname
    exact isText_of_find? hj hname
  refine tells_bind rfl fun params _ => tells_bind (events_post w r.uri params) fun answer h => ?_
  obtain ⟨text, rfl, htext⟩ | ⟨reply, rfl, hstatus⟩ := post_cases hhttp huri h
  · have hreason := Utf8.valid_upTo (c := 0) (by decide) htext
    exact tells_leave (.event (tellsOf_failed hj hread hbuild hreason))
  · refine tells_leave (.event (tellsOf_replied hj hread hbuild hstatus _ fun uri hanswer => ?_))
    unfold HttpReply.interpret at hanswer
    split at hanswer
    · exact valid_redirectUri (VerifierResponse.accepted.inj hanswer)
    · cases hanswer

/-- **What comes of writing a response into a redirect is told by one event.** -/
theorem tells_redirect :
    Tells (fun uri => Reply.ComesWith j (.redirect uri)) (w.redirect r e) := by
  unfold redirect
  split
  · exact tells_fail _
  refine tells_bind rfl fun params _ => tells_leave (.event ?_)
  exact tellsOf_ofResponse hj hread hbuild rfl List.mem_cons_self (List.forall_mem_nil _)
    fun _ h => (nomatch h)

end Delivered

/-! ### Messages -/

theorem tells_ofParts {α β : Type} {R : β → List AuditEvent → Prop} {x : Except ContractFault α}
    {next : α → Traced β} (h : ∀ a, x = .ok a → Tells R (next a)) :
    Tells R (ofParts x >>= next) := by
  cases x with
  | error fault => exact tells_bind rfl fun _ ha => (nomatch ha)
  | ok a => exact tells_bind rfl fun _ ha => Except.ok.inj ha ▸ h a rfl

section Serving

variable {R : Reply → List AuditEvent → Prop}
  (hquiet : ∀ reply : Reply, reply.eventName? = none → R reply [])

include hquiet

/-- What is done about a request is told by its events if deliveries are. -/
theorem tells_perform_of
    (hdeliver : ∀ r, AuthorizationResponse.build q c = .ok r →
      Tells (fun answer => R (.ofAnswer answer)) (w.deliver r e))
    (hredirect : ∀ r, AuthorizationResponse.build q c = .ok r →
      Tells (fun uri => R (.redirect uri)) (w.redirect r e)) (kind : MessageKind) :
    Tells R (w.perform kind q c e) := by
  cases kind with
  | build =>
    refine tells_ofParts fun r _ => tells_bind rfl fun params _ => tells_pure (hquiet _ rfl)
  | post =>
    have hpost : Tells (fun answer => R (.ofAnswer answer)) (w.postResponse q c e) := by
      refine tells_ofParts fun r hbuild => ?_
      split
      · exact hdeliver r hbuild
      · exact tells_fail _
    have hreply : w.perform .post q c e = w.postResponse q c e >>= fun answer =>
        pure (Reply.ofAnswer answer) := by
      rw [perform]
      congr 1
      funext answer
      cases answer <;> rfl
    rw [hreply]
    exact hpost.map fun _ _ h => h
  | redirect =>
    have hwritten : Tells (fun uri => R (.redirect uri)) (w.redirectResponse q c e) :=
      tells_ofParts hredirect
    exact hwritten.map fun _ _ h => h

theorem tells_serve_of {kind : MessageKind} {consensus : Json}
    (hperform : ∀ q c, Request.ofJson j w.config.jarm = .ok q →
      Tells R (w.perform kind q c e)) : Tells R (w.serve kind j consensus e) := by
  unfold serve
  split
  · exact tells_pure (hquiet _ rfl)
  · exact tells_fail _
  · next request hrequest => exact tells_bind rfl fun c _ => hperform request c hrequest

end Serving

/-- **What is done about a request is told by its events.** -/
theorem tells_serve (hhttp : w.http.IsSound) (hj : j.isText = true) (kind : MessageKind)
    (consensus : Json) : Tells (Reply.ComesWith j) (w.serve kind j consensus e) := by
  have hquiet : ∀ reply : Reply, reply.eventName? = none → Reply.ComesWith j reply [] :=
    fun _ h => .nothing h
  refine tells_serve_of hquiet fun q c hrequest => ?_
  have hread := Request.isWritten_of_ofJson hrequest
  exact tells_perform_of hquiet (fun r hbuild => tells_deliver hj hread hbuild hhttp)
    (fun r hbuild => tells_redirect hj hread hbuild) kind

/-- A reply comes with what its computation tells. -/
theorem comesWith_replyOf {t : Traced Reply} (h : Tells (Reply.ComesWith j) t) :
    Reply.ComesWith j (replyOf t) t.events := by
  unfold replyOf
  split
  · next reply hreply => exact h.ok reply hreply
  · next f hf =>
    rw [h.error f hf]
    exact .nothing rfl

end Wallet
end WalletResponder
