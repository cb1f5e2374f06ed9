import WalletResponder.Delivery.Dispatch
import WalletResponder.Proofs.Result

/-!
# What a delivery does on the network

A delivery asks for a client once at most, and only when there are parameters to post. The client
posts them once, and what comes of that is the end: nothing is tried again
(`Wallet.dispatch_contacts_once`). What the network would do when it is asked a second time does not
matter, because it never is.

What can come of posting a form is told apart by three relations: there is no reply
(`HttpFactory.NoReply`), there is one (`HttpFactory.Replies`), or whoever carries the form fails in
a way of their own (`HttpFactory.Breaks`).
-/

namespace WalletResponder

/-! ### Traces -/

/-- A client is asked for. -/
def Effect.isConnection : Effect → Bool
  | .connected => true
  | _ => false

/-- A form is posted. -/
def Effect.isPost : Effect → Bool
  | .posted _ _ => true
  | _ => false

namespace Traced

variable {α β : Type}

/-- What a computation does on the network. -/
def network (t : Traced α) : List Effect :=
  t.effects.filter fun
    | .recorded _ => false
    | _ => true

theorem network_bind_of_ok {t : Traced α} {a : α} (h : t.result = .ok a) (next : α → Traced β) :
    (t >>= next).network = t.network ++ (next a).network := by
  rw [bind_of_ok h]
  exact List.filter_append _ _

theorem network_bind_of_error {t : Traced α} {f : Failure} (h : t.result = .error f)
    (next : α → Traced β) : (t >>= next).network = t.network := by
  rw [bind_of_error h]
  rfl

/-- What is done with a result leaves the network alone. -/
theorem network_map (f : α → β) (t : Traced α) : (t >>= fun a => pure (f a)).network = t.network := by
  cases h : t.result with
  | error fault => rw [network_bind_of_error h]
  | ok a =>
    rw [network_bind_of_ok h]
    exact List.append_nil _

/-- Recording an event is nothing that is done on the network. -/
theorem countP_effects (t : Traced α) {p : Effect → Bool} (h : ∀ ev, p (.recorded ev) = false) :
    t.effects.countP p = t.network.countP p := by
  unfold network
  rw [List.countP_filter]
  refine List.countP_congr fun effect _ => ?_
  cases effect with
  | recorded ev => simp [h ev]
  | _ => simp

end Traced

/-! ### What can come of posting a form -/

namespace HttpFactory

variable (f : HttpFactory) (url : Bytes) (params : FormParameters)

/-- There is no reply to a form: no client, or the transport fails. -/
inductive NoReply : Prop where
  | unavailable (text : Bytes) (h : f = .error (.transport text))
  | noClient (h : f = .ok none)
  | lost (client : HttpClient) (text : Bytes) (h : f = .ok (some client))
      (hlost : client url params = .error (.transport text))

/-- There is a reply to a form. -/
inductive Replies (reply : HttpReply) : Prop where
  | mk (client : HttpClient) (h : f = .ok (some client)) (hreply : client url params = .ok reply)

/-- Asking for a client or using it fails, and not because of the transport. -/
inductive Breaks (failure : Failure) : Prop where
  | factory (h : f = .error failure) (hown : ∀ text, failure ≠ .transport text)
  | client (client : HttpClient) (h : f = .ok (some client))
      (hfails : client url params = .error failure) (hown : ∀ text, failure ≠ .transport text)

end HttpFactory

namespace HttpReply

/-- A body names a URI to go on with: it is an object with that text as a member. -/
def NamesUri (body uri : Bytes) : Prop :=
  ∃ members, Json.parse? body = some (.obj members) ∧
    (Json.obj members).find? (utf8 "redirect_uri") = some (.str uri)

theorem redirectUri?_eq_some {body uri : Bytes} :
    redirectUri? body = some uri ↔ NamesUri body uri := by
  unfold redirectUri? NamesUri
  cases hparse : Json.parse? body with
  | none => simp
  | some j =>
    constructor
    · intro h
      obtain ⟨v, hfind, hv⟩ := Option.bind_eq_some_iff.mp h
      cases j with
      | obj members =>
        cases v with
        | str s => cases hv; exact ⟨members, rfl, hfind⟩
        | _ => cases hv
      | _ => cases hfind
    · rintro ⟨members, hj, hfind⟩
      cases hj
      simp [hfind, Json.asText?]

/-- A reply accepts the response with a URI, or without one, if its status is 200 and its body says
so. -/
theorem interpret_eq_accepted {reply : HttpReply} {uri : Option Bytes} :
    reply.interpret = .accepted uri ↔
      reply.status = 200 ∧ ∀ u, uri = some u ↔ NamesUri reply.body u := by
  unfold interpret
  split
  · next hstatus =>
    rw [VerifierResponse.accepted.injEq]
    constructor
    · rintro rfl
      exact ⟨hstatus, fun u => redirectUri?_eq_some⟩
    · rintro ⟨-, hnames⟩
      exact Option.ext fun u => redirectUri?_eq_some.trans (hnames u).symm
  · next hstatus => simp [hstatus]

theorem interpret_eq_rejected {reply : HttpReply} :
    reply.interpret = .rejected ↔ reply.status ≠ 200 := by
  unfold interpret
  split
  · next hstatus => simp [hstatus]
  · next hstatus => simp [hstatus]

end HttpReply

namespace Wallet

variable {w : Wallet} {r : AuthorizationResponse} {e : Entropy} {url : Bytes}
  {params : FormParameters}

/-! ### Posting -/

/-- What posting a form does on the network: a client is asked for, and posts it if there is one. -/
def contact (w : Wallet) (url : Bytes) (params : FormParameters) : List Effect :=
  match w.http with
  | .ok (some _) => [.connected, .posted url params]
  | _ => [.connected]

theorem network_post (w : Wallet) (url : Bytes) (params : FormParameters) :
    (w.post url params).network = w.contact url params := by
  unfold post contact
  cases w.http with
  | error f => cases f <;> rfl
  | ok client? =>
    cases client? with
    | none => rfl
    | some client =>
      dsimp only
      split <;> rfl

theorem result_post_eq_error {f : Failure} :
    (w.post url params).result = .error f ↔ w.http.Breaks url params f := by
  constructor
  · unfold post
    split
    · rintro ⟨⟩
    · next g hown hhttp =>
      rintro ⟨⟩
      exact .factory hhttp hown
    · rintro ⟨⟩
    · next client hhttp =>
      split
      · rintro ⟨⟩
      · next g hown hclient =>
        rintro ⟨⟩
        exact .client client hhttp hclient hown
      · rintro ⟨⟩
  · rintro (⟨hhttp, hown⟩ | ⟨client, hhttp, hclient, hown⟩)
    · cases f with
      | transport text => exact absurd rfl (hown text)
      | _ => simp [post, hhttp]
    · cases f with
      | transport text => exact absurd rfl (hown text)
      | _ => simp [post, hhttp, hclient]

theorem result_post_eq_reply {reply : HttpReply} :
    (w.post url params).result = .ok (.ok reply) ↔ w.http.Replies url params reply := by
  constructor
  · unfold post
    split
    · rintro ⟨⟩
    · rintro ⟨⟩
    · rintro ⟨⟩
    · next client hhttp =>
      split
      · rintro ⟨⟩
      · rintro ⟨⟩
      · next hclient =>
        rintro ⟨⟩
        exact .mk client hhttp hclient
  · rintro ⟨client, hhttp, hclient⟩
    simp [post, hhttp, hclient]

theorem exists_result_post_eq_text :
    (∃ text, (w.post url params).result = .ok (.error text)) ↔ w.http.NoReply url params := by
  constructor
  · rintro ⟨text, h⟩
    revert h
    unfold post
    split
    · next hhttp =>
      rintro ⟨⟩
      exact .unavailable text hhttp
    · rintro ⟨⟩
    · next hhttp => exact fun _ => .noClient hhttp
    · next client hhttp =>
      split
      · next hclient =>
        rintro ⟨⟩
        exact .lost client text hhttp hclient
      · rintro ⟨⟩
      · rintro ⟨⟩
  · rintro (⟨text, hhttp⟩ | hhttp | ⟨client, text, hhttp, hclient⟩)
    · exact ⟨text, by simp [post, hhttp]⟩
    · exact ⟨_, by rw [post, hhttp]⟩
    · exact ⟨text, by simp [post, hhttp, hclient]⟩

/-! ### Delivering -/

/-- Delivering a response posts its parameters, whatever comes of it. -/
theorem network_deliver (h : w.wireParameters r e = .ok params) :
    (w.deliver r e).network = w.contact r.uri params := by
  have hwire : (Traced.ofResult (w.wireParameters r e)).result = .ok params := h
  unfold deliver
  rw [Traced.network_bind_of_ok hwire]
  change [] ++ (w.post r.uri params >>= _).network = _
  cases hpost : (w.post r.uri params).result with
  | error f => rw [Traced.network_bind_of_error hpost, network_post, List.nil_append]
  | ok answer =>
    rw [Traced.network_bind_of_ok hpost, network_post, List.nil_append]
    cases answer with
    | error text => exact List.append_nil _
    | ok reply => exact List.append_nil _

theorem network_deliver_of_error {f : Failure} (h : w.wireParameters r e = .error f) :
    (w.deliver r e).network = [] :=
  Traced.network_bind_of_error (t := Traced.ofResult (w.wireParameters r e)) h _

/-- What a delivery by post comes to, once its parameters are there. -/
theorem result_dispatch (hchannel : r.channel = .directPost)
    (h : w.wireParameters r e = .ok params) :
    (w.dispatch r e).result = (w.post r.uri params).result.map fun
      | .error _ => .answered .rejected
      | .ok reply => .answered reply.interpret := by
  rw [dispatch, if_pos hchannel, Traced.result_bind, deliver, Traced.result_bind,
    Traced.result_ofResult, h]
  change ((w.post r.uri params >>= _).result >>= _) = _
  rw [Traced.result_bind]
  cases (w.post r.uri params).result with
  | error f => rfl
  | ok answer => cases answer <;> rfl

theorem network_dispatch (hchannel : r.channel = .directPost) :
    (w.dispatch r e).network = (w.deliver r e).network := by
  rw [dispatch, if_pos hchannel]
  exact Traced.network_map _ _

/-- Writing a redirect leaves the network alone. -/
theorem network_dispatch_of_redirect (hchannel : r.channel ≠ .directPost) :
    (w.dispatch r e).network = [] := by
  rw [dispatch, if_neg hchannel, redirect, if_neg hchannel]
  refine (Traced.network_map _ _).trans ?_
  cases h : w.wireParameters r e with
  | error f => exact Traced.network_bind_of_error (t := Traced.ofResult _) rfl _
  | ok params => rfl

/-- Parameters are posted to the URI of a response, and what comes of that is all that comes of the
delivery. -/
structure PostsOnce (w : Wallet) (r : AuthorizationResponse) (params : FormParameters)
    (t : Traced Outcome) : Prop where
  network : t.network = w.contact r.uri params
  rejected : t.result = .ok (.answered .rejected) ↔
    w.http.NoReply r.uri params ∨ ∃ reply, w.http.Replies r.uri params reply ∧ reply.status ≠ 200
  accepted (uri : Option Bytes) : t.result = .ok (.answered (.accepted uri)) ↔
    ∃ reply, w.http.Replies r.uri params reply ∧ reply.status = 200 ∧
      ∀ u, uri = some u ↔ HttpReply.NamesUri reply.body u
  broken (f : Failure) : t.result = .error f ↔ w.http.Breaks r.uri params f

theorem postsOnce_dispatch (hchannel : r.channel = .directPost)
    (h : w.wireParameters r e = .ok params) : w.PostsOnce r params (w.dispatch r e) where
  network := (network_dispatch hchannel).trans (network_deliver h)
  rejected := by
    rw [result_dispatch hchannel h, map_eq_ok, ← exists_result_post_eq_text]
    constructor
    · rintro ⟨answer | reply, hpost, hanswer⟩
      · exact .inl ⟨answer, hpost⟩
      · exact .inr ⟨reply, result_post_eq_reply.mp hpost,
          HttpReply.interpret_eq_rejected.mp (Outcome.answered.inj hanswer)⟩
    · rintro (⟨text, hpost⟩ | ⟨reply, hreply, hstatus⟩)
      · exact ⟨_, hpost, rfl⟩
      · exact ⟨_, result_post_eq_reply.mpr hreply,
          congrArg Outcome.answered (HttpReply.interpret_eq_rejected.mpr hstatus)⟩
  accepted uri := by
    rw [result_dispatch hchannel h, map_eq_ok]
    constructor
    · rintro ⟨answer | reply, hpost, hanswer⟩
      · cases hanswer
      · exact ⟨reply, result_post_eq_reply.mp hpost,
          HttpReply.interpret_eq_accepted.mp (Outcome.answered.inj hanswer)⟩
    · rintro ⟨reply, hreply, haccepted⟩
      exact ⟨_, result_post_eq_reply.mpr hreply,
        congrArg Outcome.answered (HttpReply.interpret_eq_accepted.mpr haccepted)⟩
  broken f := by
    rw [result_dispatch hchannel h, ← result_post_eq_error]
    cases (w.post r.uri params).result <;> simp [Except.map]

/-- A delivery does nothing on the network, or it posts the parameters of its response. -/
theorem network_dispatch_cases (w : Wallet) (r : AuthorizationResponse) (e : Entropy) :
    (w.dispatch r e).network = [] ∨
      ∃ params, (w.dispatch r e).network = w.contact r.uri params := by
  by_cases hchannel : r.channel = .directPost
  · cases h : w.wireParameters r e with
    | error f =>
      exact .inl ((network_dispatch hchannel).trans (network_deliver_of_error h))
    | ok params => exact .inr ⟨params, (network_dispatch hchannel).trans (network_deliver h)⟩
  · exact .inl (network_dispatch_of_redirect hchannel)

theorem countP_contact (w : Wallet) (url : Bytes) (params : FormParameters) :
    (w.contact url params).countP Effect.isConnection = 1 ∧
      (w.contact url params).countP Effect.isPost ≤ 1 := by
  unfold contact
  split
  · exact ⟨rfl, Nat.le_refl 1⟩
  · exact ⟨rfl, Nat.zero_le 1⟩

/-- Whatever a client is like and whatever a response is, nobody is asked twice. -/
theorem countP_dispatch_le (w : Wallet) (r : AuthorizationResponse) (e : Entropy) :
    (w.dispatch r e).effects.countP Effect.isConnection ≤ 1 ∧
      (w.dispatch r e).effects.countP Effect.isPost ≤ 1 := by
  rw [Traced.countP_effects _ fun _ => rfl, Traced.countP_effects _ fun _ => rfl]
  obtain h | ⟨params, h⟩ := network_dispatch_cases w r e
  · rw [h]
    exact ⟨Nat.zero_le 1, Nat.zero_le 1⟩
  · obtain ⟨hconnections, hposts⟩ := countP_contact w r.uri params
    rw [h]
    exact ⟨Nat.le_of_eq hconnections, hposts⟩

/-- **A delivery contacts the verifier once.** A client is asked for once at most, and posts once at
most. It is not asked for where the response is written into a redirect, and neither where there are
no parameters, whose failure is that of the delivery. Otherwise the parameters are posted once, to
the URI of the response: with no reply to them, or with a reply of another status than 200, the
response is rejected; with the status 200 it is accepted, and the URI to go on with is the text that
the body names, if it names one; and any failure that is not one of the transport is that of the
delivery. -/
theorem dispatch_contacts_once (w : Wallet) (r : AuthorizationResponse) (e : Entropy) :
    (w.dispatch r e).effects.countP Effect.isConnection ≤ 1 ∧
    (w.dispatch r e).effects.countP Effect.isPost ≤ 1 ∧
    (r.channel ≠ .directPost → (w.dispatch r e).network = []) ∧
    (∀ f, w.wireParameters r e = .error f →
      (w.dispatch r e).network = [] ∧ (w.dispatch r e).result = .error f) ∧
    ∀ params, r.channel = .directPost → w.wireParameters r e = .ok params →
      w.PostsOnce r params (w.dispatch r e) := by
  refine ⟨(countP_dispatch_le w r e).1, (countP_dispatch_le w r e).2,
    network_dispatch_of_redirect, fun f h => ?_, fun params hchannel h =>
      postsOnce_dispatch hchannel h⟩
  by_cases hchannel : r.channel = .directPost
  · refine ⟨(network_dispatch hchannel).trans (network_deliver_of_error h), ?_⟩
    rw [dispatch, if_pos hchannel, Traced.result_bind, deliver, Traced.result_bind,
      Traced.result_ofResult, h]
    rfl
  · refine ⟨network_dispatch_of_redirect hchannel, ?_⟩
    rw [dispatch, if_neg hchannel, redirect, if_neg hchannel, Traced.result_bind,
      Traced.result_bind, Traced.result_ofResult, h]
    rfl

end Wallet

/-- A wallet that talks to a verifier who accepts everything, and names where to go on. -/
def welcomedWallet : Wallet where
  config := WalletConfig.standard
  http := .ok (some fun _ _ => .ok ⟨200, utf8 "\x7b\"redirect_uri\":\"u\"\x7d"⟩)
  now := 0

/-- A refusal that is posted without protection. -/
def plainRefusal : AuthorizationResponse where
  channel := .directPost
  uri := utf8 "https://verifier"
  payload := ⟨.noConsensus, none, utf8 "verifier"⟩
  jarm := none

/-- A reply that names a URI is found, and the response is posted once for it. -/
theorem plainRefusal_posted_once :
    (welcomedWallet.dispatch plainRefusal fun _ => 0).network =
      [.connected, .posted (utf8 "https://verifier") [(utf8 "error", utf8 "access_denied")]] ∧
    (welcomedWallet.dispatch plainRefusal fun _ => 0).result =
      .ok (.answered (.accepted (some (utf8 "u")))) := by
  obtain ⟨-, -, -, -, hposts⟩ :=
    Wallet.dispatch_contacts_once welcomedWallet plainRefusal fun _ => 0
  have hposted := hposts [(utf8 "error", utf8 "access_denied")] rfl rfl
  have hnamed : HttpReply.redirectUri? (utf8 "\x7b\"redirect_uri\":\"u\"\x7d") =
      some (utf8 "u") := by decide +kernel
  refine ⟨hposted.network, (hposted.accepted _).mpr ⟨_, .mk _ rfl rfl, rfl, fun u => ?_⟩⟩
  rw [← HttpReply.redirectUri?_eq_some, hnamed]

end WalletResponder
