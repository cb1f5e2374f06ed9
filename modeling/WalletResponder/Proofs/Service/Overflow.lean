import WalletResponder.Proofs.Service.Framing
import WalletResponder.Proofs.Service.Replies

/-!
# Lines that are too long

What is waiting is looked at after each read. If it is longer than the longest line, it is denied,
and nothing more is read, even if the end of the line is on its way. So a stream is read up to the
first read after which it overflows (`Connection.taken`), and what was read is served
(`Wallet.serveConnection_taken`).

**The cut matters.** A line that is too long is denied like any other that is refused, if its end
comes with the read that makes it too long. That is possible for lines that are longer by less than
a read (`Connection.exists_kept_iff`). But if a line is too long there is always a cut for which the
connection is lost (`Connection.forall_kept_iff`). Without such lines all cuts are served alike
(`Wallet.serveConnection_of_lines`).
-/

namespace WalletResponder

namespace Connection

variable {s t line : Bytes} {pieces : List Bytes} {n : Nat}

/-! ### Overflow -/

/-- More is waiting for its end than the longest line. -/
def Overflows (s : Bytes) : Prop := Wallet.maxLineBytes < (split s).2.length

instance (s : Bytes) : Decidable (Overflows s) := inferInstanceAs (Decidable (_ < _))

theorem not_overflows_nil : ¬ Overflows [] := by decide

theorem isShort_iff : IsShort s ↔
    (∀ line ∈ (split s).1, line.length ≤ Wallet.maxLineBytes) ∧ ¬ Overflows s := by
  have hparts : List.splitOn 0x0a s = (split s).1 ++ [(split s).2] := by
    rw [split_eq, List.getLastD_eq_getLast?,
      List.getLast?_eq_some_getLast (List.splitOn_ne_nil _ s)]
    exact (List.dropLast_append_getLast (List.splitOn_ne_nil _ s)).symm
  rw [IsShort, hparts, List.forall_mem_append, List.forall_mem_singleton, Overflows, Nat.not_lt]

/-- Behind a stream that goes on without a newline there is no new line. -/
theorem split_append_of_notMem (h : 0x0a ∉ t) (s : Bytes) :
    split (s ++ t) = ((split s).1, (split s).2 ++ t) := by
  have htail : 0x0a ∉ (split s).2 ++ t := by simp [(split_tail s).1, h]
  rw [split_append, split_of_notMem htail, List.append_nil]

/-- The first newline behind a stream ends the line that its tail has begun. -/
theorem split_append_newline (h : 0x0a ∉ line) (s t : Bytes) :
    split (s ++ (line ++ 0x0a :: t)) =
      ((split s).1 ++ ((split s).2 ++ line) :: (split t).1, (split t).2) := by
  have htail : 0x0a ∉ (split s).2 ++ line := by simp [(split_tail s).1, h]
  rw [split_append, ← List.append_assoc, split_append_cons htail]

theorem length_split_tail (s : Bytes) : (split s).2.length ≤ s.length := by
  obtain ⟨-, htail | ⟨head, htail⟩⟩ := split_tail s
  · exact Nat.le_of_eq (congrArg List.length htail).symm
  · have := congrArg List.length htail
    rw [List.length_append, List.length_cons] at this
    omega

/-- The newline of a line is not in it. -/
theorem length_lt_of_mem_split (h : line ∈ (split s).1) : line.length < s.length := by
  induction hn : s.length using Nat.strongRecOn generalizing s with
  | ind n ih =>
    cases hnext : nextLine? s with
    | none =>
      rw [split_of_notMem (nextLine?_eq_none.mp hnext)] at h
      cases h
    | some next =>
      obtain ⟨first, rest⟩ := next
      have hlt := length_nextLine? hnext
      obtain ⟨hfirst, hs⟩ := nextLine?_eq_some hnext
      have hlength := congrArg List.length hs
      rw [List.length_append, List.length_cons] at hlength
      rw [hs, split_append_cons hfirst] at h
      rcases List.mem_cons.mp h with rfl | h
      · omega
      · have := ih rest.length (by omega) h rfl
        omega

theorem overflows_append_of_notMem (h : 0x0a ∉ t) (hs : Overflows s) : Overflows (s ++ t) := by
  rw [Overflows, split_append_of_notMem h, List.length_append]
  exact Nat.lt_add_right _ hs

theorem not_overflows_append (h : (split s).2.length + t.length ≤ Wallet.maxLineBytes) :
    ¬ Overflows (s ++ t) := by
  rw [Overflows, split_append]
  have := length_split_tail ((split s).2 ++ t)
  rw [List.length_append] at this
  exact Nat.not_lt.mpr (this.trans h)

/-! ### What is read -/

/-- What is read of a stream that goes on in pieces: all up to the first piece after which it
overflows. -/
def taken (s : Bytes) : List Bytes → Bytes
  | [] => s
  | p :: pieces => if Overflows (s ++ p) then s ++ p else taken (s ++ p) pieces

theorem taken_cons_of_overflows {p : Bytes} (h : Overflows (s ++ p)) (pieces : List Bytes) :
    taken s (p :: pieces) = s ++ p := if_pos h

theorem taken_cons {p : Bytes} (h : ¬ Overflows (s ++ p)) (pieces : List Bytes) :
    taken s (p :: pieces) = taken (s ++ p) pieces := if_neg h

theorem taken_prefix : ∀ (pieces : List Bytes) (s : Bytes), taken s pieces <+: s ++ pieces.flatten
  | [], s => by rw [taken, List.flatten_nil, List.append_nil]
  | p :: pieces, s => by
    rw [List.flatten_cons, ← List.append_assoc]
    by_cases h : Overflows (s ++ p)
    · rw [taken_cons_of_overflows h]
      exact List.prefix_append _ _
    · rw [taken_cons h]
      exact taken_prefix pieces (s ++ p)

/-- **Reading stops at the end of the stream, or by an overflow.** -/
theorem taken_eq_or : ∀ (pieces : List Bytes) (s : Bytes),
    taken s pieces = s ++ pieces.flatten ∨ Overflows (taken s pieces)
  | [], s => .inl (by rw [taken, List.flatten_nil, List.append_nil])
  | p :: pieces, s => by
    rw [List.flatten_cons, ← List.append_assoc]
    by_cases h : Overflows (s ++ p)
    · rw [taken_cons_of_overflows h]
      exact .inr h
    · rw [taken_cons h]
      exact taken_eq_or pieces (s ++ p)

theorem taken_of_not_overflows (h : ¬ Overflows (taken s pieces)) :
    taken s pieces = s ++ pieces.flatten :=
  (taken_eq_or pieces s).resolve_right h

/-- Pieces that fit into the longest line are read. -/
theorem taken_append : ∀ (pieces : List Bytes) {s : Bytes} (more : List Bytes),
    (split s).2.length + pieces.flatten.length ≤ Wallet.maxLineBytes →
      taken s (pieces ++ more) = taken (s ++ pieces.flatten) more
  | [], s, more, _ => by rw [List.flatten_nil, List.append_nil, List.nil_append]
  | p :: pieces, s, more, h => by
    rw [List.flatten_cons, List.length_append] at h
    have hp : (split (s ++ p)).2.length ≤ (split s).2.length + p.length := by
      rw [split_append, ← List.length_append]
      exact length_split_tail _
    rw [List.cons_append, taken_cons (not_overflows_append (by omega)),
      taken_append pieces more (by omega), List.flatten_cons, List.append_assoc]

/-- **No line that is read is longer than the longest line and a read.** Each read begins with no
more waiting than the longest line. -/
theorem length_lt_of_mem_taken (hn : ∀ p ∈ pieces, p.length ≤ n) (hs : ¬ Overflows s)
    (hlines : ∀ line ∈ (split s).1, line.length < Wallet.maxLineBytes + n) :
    ∀ line ∈ (split (taken s pieces)).1, line.length < Wallet.maxLineBytes + n := by
  induction pieces generalizing s with
  | nil => exact hlines
  | cons p pieces ih =>
    obtain ⟨hp, hpieces⟩ := List.forall_mem_cons.mp hn
    have hnext : ∀ line ∈ (split (s ++ p)).1, line.length < Wallet.maxLineBytes + n := by
      rw [split_append]
      refine List.forall_mem_append.mpr ⟨hlines, fun line hline => ?_⟩
      have := length_lt_of_mem_split hline
      rw [List.length_append] at this
      have := Nat.not_lt.mp hs
      omega
    by_cases h : Overflows (s ++ p)
    · rwa [taken_cons_of_overflows h]
    · rw [taken_cons h]
      exact ih hpieces h hnext

/-- **If no line is too long, an overflow is met in the tail of the stream only.** -/
theorem split_eq_of_prefix (hbegin : s <+: t)
    (hlines : ∀ line ∈ (split t).1, line.length ≤ Wallet.maxLineBytes) (hs : Overflows s) :
    (split t).1 = (split s).1 ∧ Overflows t := by
  obtain ⟨rest, rfl⟩ := hbegin
  by_cases hrest : 0x0a ∈ rest
  · obtain ⟨line, rest, rfl, hline⟩ := List.eq_append_cons_of_mem hrest
    rw [split_append_newline hline] at hlines
    have := hlines ((split s).2 ++ line) (by simp)
    rw [List.length_append] at this
    have hs : Wallet.maxLineBytes < (split s).2.length := hs
    omega
  · exact ⟨by rw [split_append_of_notMem hrest], overflows_append_of_notMem hrest hs⟩

/-! ### Cuts -/

/-- A stream arrives in reads of at most `n` bytes. -/
structure IsCut (n : Nat) (s : Bytes) (pieces : List Bytes) : Prop where
  flatten : pieces.flatten = s
  read : ∀ p ∈ pieces, p ≠ [] ∧ p.length ≤ n

theorem flatten_bytewise (s : Bytes) : (s.map fun b => [b]).flatten = s := by
  rw [← List.flatMap_def, List.flatMap_singleton']

theorem isCut_bytewise (hn : 0 < n) (s : Bytes) : IsCut n s (s.map fun b => [b]) where
  flatten := flatten_bytewise s
  read p hp := by
    obtain ⟨b, -, rfl⟩ := List.mem_map.mp hp
    exact ⟨List.cons_ne_nil _ _, hn⟩

theorem IsCut.taken_prefix (h : IsCut n s pieces) : taken [] pieces <+: s := by
  have := Connection.taken_prefix pieces []
  rwa [List.nil_append, h.flatten] at this

theorem IsCut.taken_eq (h : IsCut n s pieces) (hkept : ¬ Overflows (taken [] pieces)) :
    taken [] pieces = s := by
  rw [taken_of_not_overflows hkept, h.flatten, List.nil_append]

theorem IsCut.length_lt_of_mem_taken (h : IsCut n s pieces) :
    ∀ line ∈ (split (taken [] pieces)).1, line.length < Wallet.maxLineBytes + n :=
  Connection.length_lt_of_mem_taken (fun p hp => (h.read p hp).2) not_overflows_nil nofun

/-- **Without lines that are too long, all lines are read, whatever the cut.** -/
theorem IsCut.split_taken (h : IsCut n s pieces)
    (hlines : ∀ line ∈ (split s).1, line.length ≤ Wallet.maxLineBytes) :
    (split (taken [] pieces)).1 = (split s).1 ∧ (Overflows (taken [] pieces) ↔ Overflows s) := by
  by_cases hover : Overflows (taken [] pieces)
  · obtain ⟨hsplit, hs⟩ := split_eq_of_prefix h.taken_prefix hlines hover
    exact ⟨hsplit.symm, iff_of_true hover hs⟩
  · rw [h.taken_eq hover]
    exact ⟨rfl, Iff.rfl⟩

theorem IsCut.append {pieces' : List Bytes} (h : IsCut n s pieces) (h' : IsCut n t pieces') :
    IsCut n (s ++ t) (pieces ++ pieces') where
  flatten := by rw [List.flatten_append, h.flatten, h'.flatten]
  read := List.forall_mem_append.mpr ⟨h.read, h'.read⟩

/-- The reads in which a line can come: what fits comes byte by byte, and what is too much comes
with the newline. -/
def reads (line : Bytes) : List Bytes :=
  ((line.take Wallet.maxLineBytes).map fun b => [b]) ++ [line.drop Wallet.maxLineBytes ++ [0x0a]]

theorem isCut_reads (hn : 0 < n) (h : line.length < Wallet.maxLineBytes + n) :
    IsCut n (line ++ [0x0a]) (reads line) := by
  have hlast : IsCut n (line.drop Wallet.maxLineBytes ++ [0x0a])
      [line.drop Wallet.maxLineBytes ++ [0x0a]] := by
    refine ⟨List.append_nil _, List.forall_mem_singleton.mpr ⟨by simp, ?_⟩⟩
    rw [List.length_append, List.length_drop, List.length_singleton]
    omega
  have hcut := (isCut_bytewise hn (line.take Wallet.maxLineBytes)).append hlast
  rwa [← List.append_assoc, List.take_append_drop] at hcut

/-- A line that comes in these reads is read. -/
theorem taken_reads (hline : 0x0a ∉ line) (hs : (split s).2 = []) (more : List Bytes) :
    (split (s ++ (line ++ [0x0a]))).2 = [] ∧
      taken s (reads line ++ more) = taken (s ++ (line ++ [0x0a])) more := by
  have hended : (split (s ++ (line ++ [0x0a]))).2 = [] := by
    rw [split_append_newline hline]
    rfl
  have hfits : (split s).2.length +
      ((line.take Wallet.maxLineBytes).map fun b => [b]).flatten.length ≤ Wallet.maxLineBytes := by
    rw [hs, flatten_bytewise, List.length_take]
    exact (Nat.zero_add _).le.trans (Nat.min_le_left _ _)
  have hwhole : s ++ line.take Wallet.maxLineBytes ++
      (line.drop Wallet.maxLineBytes ++ [0x0a]) = s ++ (line ++ [0x0a]) := by
    rw [List.append_assoc, ← List.append_assoc (line.take _), List.take_append_drop]
  have hover : ¬ Overflows (s ++ (line ++ [0x0a])) := by
    rw [Overflows, hended]
    exact Nat.not_lt_zero _
  refine ⟨hended, ?_⟩
  rw [reads, List.append_assoc, taken_append _ _ hfits, flatten_bytewise, List.singleton_append,
    taken_cons (hwhole ▸ hover), hwhole]

/-- Without lines that are too long by a read there is a cut for which a stream is read to its
end. -/
theorem exists_kept (hn : 0 < n)
    (hlines : ∀ line ∈ (split t).1, line.length < Wallet.maxLineBytes + n) (htail : ¬ Overflows t)
    (hs : (split s).2 = []) : ∃ cut, IsCut n t cut ∧ taken s cut = s ++ t := by
  -- By induction on the stream, line by line; nothing is waiting when the next line begins.
  induction hlength : t.length using Nat.strongRecOn generalizing s t with
  | ind _ ih =>
    cases hnext : nextLine? t with
    | none =>
      have hm := nextLine?_eq_none.mp hnext
      rw [Overflows, split_of_notMem hm, Nat.not_lt] at htail
      have htaken := taken_append (s := s) (t.map fun b => [b]) []
        (by rw [hs, flatten_bytewise]; simpa using htail)
      rw [List.append_nil, flatten_bytewise] at htaken
      exact ⟨_, isCut_bytewise hn t, htaken⟩
    | some next =>
      obtain ⟨line, rest⟩ := next
      have hlt := length_nextLine? hnext
      obtain ⟨hline, rfl⟩ := nextLine?_eq_some hnext
      rw [split_append_cons hline] at hlines
      obtain ⟨hlong, hrest⟩ := List.forall_mem_cons.mp hlines
      rw [Overflows, split_append_cons hline] at htail
      obtain ⟨cut, hcut, htaken⟩ :=
        ih rest.length (by omega) hrest htail (taken_reads hline hs []).1 rfl
      refine ⟨reads line ++ cut, ?_, ?_⟩
      · rw [List.append_cons]
        exact (isCut_reads hn hlong).append hcut
      · rw [(taken_reads hline hs cut).2, htaken, List.append_assoc, ← List.append_cons]

/-- **Some cut keeps the connection** if no line is too long by a read or more. -/
theorem exists_kept_iff (hn : 0 < n) : (∃ cut, IsCut n s cut ∧ ¬ Overflows (taken [] cut)) ↔
    (∀ line ∈ (split s).1, line.length < Wallet.maxLineBytes + n) ∧ ¬ Overflows s := by
  constructor
  · rintro ⟨cut, hcut, hkept⟩
    rw [← hcut.taken_eq hkept]
    exact ⟨hcut.length_lt_of_mem_taken, hkept⟩
  · rintro ⟨hlines, htail⟩
    obtain ⟨cut, hcut, htaken⟩ := exists_kept (s := []) hn hlines htail rfl
    rw [List.nil_append] at htaken
    exact ⟨cut, hcut, htaken ▸ htail⟩

/-- **Every cut keeps the connection** only if no line is too long: a client that sends byte by byte
loses it at the first that is. -/
theorem forall_kept_iff (hn : 0 < n) :
    (∀ cut, IsCut n s cut → ¬ Overflows (taken [] cut)) ↔ IsShort s := by
  rw [isShort_iff]
  constructor
  · intro h
    have hkept := h _ (isCut_bytewise hn s)
    obtain ⟨hlines, htail⟩ :=
      (exists_kept_iff Nat.one_pos).mp ⟨_, isCut_bytewise Nat.one_pos s, hkept⟩
    exact ⟨fun line hline => Nat.le_of_lt_succ (hlines line hline), htail⟩
  · rintro ⟨hlines, htail⟩ cut hcut hover
    exact htail ((hcut.split_taken hlines).2.mp hover)

/-! ### Lines that are written -/

theorem split_flatMap : ∀ {replies : List Bytes}, (∀ reply ∈ replies, 0x0a ∉ reply) →
    split (replies.flatMap fun reply => reply ++ [0x0a]) = (replies, [])
  | [], _ => rfl
  | reply :: replies, h => by
    obtain ⟨hreply, hreplies⟩ := List.forall_mem_cons.mp h
    rw [List.flatMap_cons, List.append_assoc, List.singleton_append, split_append_cons hreply,
      split_flatMap hreplies]

end Connection

namespace Wallet

open Connection

variable (w : Wallet) (e : Entropy) {s : Bytes} {pieces pieces' : List Bytes}

/-! ### Service up to an overflow -/

/-- The reply to what is too long. -/
def tooLong : Bytes := (Reply.denied (utf8 "line_too_long")).line

/-- The replies to what was read of a stream: one for each line, and one for an overflow. -/
def answers (s : Bytes) : List Bytes :=
  ((lines s).zipIdx.map fun line => (w.handleLine line.1 (e.part line.2)).2) ++
    if Overflows s then [tooLong] else []

/-- A connection after a stream that was read up to an overflow, if there was one. -/
def afterReads (s : Bytes) : Connection :=
  if Overflows s then
    { w.served e {} (lines s ++ [(split s).2]) (split s).2 with isOpen := false }
  else w.afterStream e s

/-- **A piece takes the service of a stream to that of the longer stream**, and closes the
connection if this overflows. -/
theorem receive_afterStream_eq (s p : Bytes) :
    w.receive e false (w.afterStream e s) p = w.afterReads e (s ++ p) := by
  rw [receive, drain_afterStream, afterReads]
  by_cases h : Overflows (s ++ p)
  · have hlong : ((w.afterStream e (s ++ p)).isOpen &&
        maxLineBytes < (w.afterStream e (s ++ p)).waiting.length) = true := decide_eq_true h
    rw [if_pos hlong, if_pos h, serveLine_false]
    exact congrArg (fun c : Connection => { c with isOpen := false })
      (w.served_served e {} (lines (s ++ p)) [(split (s ++ p)).2] _ _)
  · rw [if_neg h, if_neg]
    exact fun hlong => h (of_decide_eq_true hlong)

theorem receiveAll_of_closed {c : Connection} (h : c.isOpen = false) :
    ∀ pieces : List Bytes, w.receiveAll e false c pieces = c
  | [] => rfl
  | p :: pieces => by rw [receiveAll, h]; rfl

/-- **The loop over all pieces is the service of what is read.** -/
theorem receiveAll_taken : ∀ (pieces : List Bytes) {s : Bytes}, ¬ Overflows s →
    w.receiveAll e false (w.afterStream e s) pieces = w.afterReads e (taken s pieces)
  | [], s, h => by rw [receiveAll, taken, afterReads, if_neg h]
  | p :: pieces, s, _ => by
    rw [receiveAll, if_pos (by rfl), receive_afterStream_eq]
    by_cases hp : Overflows (s ++ p)
    · rw [taken_cons_of_overflows hp, receiveAll_of_closed]
      rw [afterReads, if_pos hp]
    · rw [taken_cons hp, ← receiveAll_taken pieces hp, afterReads, if_neg hp]

/-- What overflows is denied as too long, and nothing is done. -/
theorem handleLine_tail (h : Overflows s) (e : Entropy) :
    w.handleLine (split s).2 e = ([], tooLong) := handleLine_of_long h

theorem effects_afterReads (s : Bytes) :
    (w.afterReads e s).effects = w.effectsInTurn e 0 (lines s) := by
  unfold afterReads
  split
  · next h =>
    change w.effectsInTurn e 0 (lines s ++ [(split s).2]) = _
    rw [effectsInTurn_append]
    simp [effectsInTurn, w.handleLine_tail h]
  · rfl

theorem repliesInTurn_eq (i : Nat) (lines : List Bytes) : w.repliesInTurn e i lines =
    ((lines.zipIdx i).map fun line => (w.handleLine line.1 (e.part line.2)).2).flatMap
      fun reply => reply ++ [0x0a] := by
  rw [repliesInTurn, List.flatMap_map]

theorem written_afterReads (s : Bytes) :
    (w.afterReads e s).written = (w.answers e s).flatMap fun reply => reply ++ [0x0a] := by
  rw [answers, List.flatMap_append, ← repliesInTurn_eq]
  unfold afterReads
  split
  · next h =>
    change w.repliesInTurn e 0 (lines s ++ [(split s).2]) = _
    rw [repliesInTurn_append]
    simp [repliesInTurn, w.handleLine_tail h]
  · simp [afterStream, served]

/-- **A connection is served up to an overflow.** -/
theorem serveConnection_taken (pieces : List Bytes) : w.serveConnection false pieces e =
    ⟨w.effectsInTurn e 0 (lines (taken [] pieces)),
      (w.answers e (taken [] pieces)).flatMap fun reply => reply ++ [0x0a], false⟩ := by
  have hnil : w.afterStream e [] = {} := w.served_nil e {}
  have hloop := w.receiveAll_taken e pieces not_overflows_nil
  rw [hnil] at hloop
  have hbroken : (w.afterReads e (taken [] pieces)).isBroken = false := by
    unfold afterReads
    split <;> rfl
  rw [serveConnection, hloop, effects_afterReads, written_afterReads, hbroken]

theorem newline_notMem_answers (s : Bytes) : ∀ reply ∈ w.answers e s, 0x0a ∉ reply := by
  intro reply hreply
  rcases List.mem_append.mp hreply with hreply | hreply
  · obtain ⟨line, -, rfl⟩ := List.mem_map.mp hreply
    obtain ⟨r, hr, -⟩ := w.handleLine_reply line.1 (e.part line.2)
    rw [hr]
    exact Json.newline_notMem_renderWith _ _
  · split at hreply
    · rw [List.mem_singleton.mp hreply]
      exact Json.newline_notMem_renderWith _ _
    · cases hreply

/-- **The lines that are written are the replies**, one for each line that was read, and one for an
overflow. -/
theorem split_written (pieces : List Bytes) :
    split (w.serveConnection false pieces e).written = (w.answers e (taken [] pieces), []) := by
  rw [serveConnection_taken]
  exact split_flatMap (w.newline_notMem_answers e _)

/-- **Without lines that are too long, a stream is served to its end**, whatever the cut. -/
theorem serveConnection_of_lines {n : Nat} (h : IsCut n s pieces)
    (hlines : ∀ line ∈ (split s).1, line.length ≤ maxLineBytes) :
    w.serveConnection false pieces e = ⟨w.effectsInTurn e 0 (lines s),
      (w.answers e s).flatMap fun reply => reply ++ [0x0a], false⟩ := by
  obtain ⟨hsplit, hover⟩ := h.split_taken hlines
  have hread : lines (taken [] pieces) = lines s := by rw [lines, hsplit, lines]
  rw [serveConnection_taken, hread]
  simp only [answers, hread, hover]

/-- **A connection is served up to an overflow.** However a stream is cut into reads of at most 4096
bytes: it is read from its start, to its end or up to a read after which more is waiting than the
longest line. Each non-empty line that ended until then is handled in turn and gets one reply, which
is a line; one that is too long is denied as such, and so is what overflows.

Without lines that are too long, but for one that never ends, this is the whole stream and does not
depend on the cut. A line that is too long by a read or more is never read to its end. One that is
too long at all is not in some cuts: all cuts are read to the end if and only if there is no such
line, and some if and only if none is too long by a read. -/
theorem serveConnection_until_overflow (h : IsCut 4096 s pieces) :
    w.serveConnection false pieces e = ⟨w.effectsInTurn e 0 (lines (taken [] pieces)),
      (w.answers e (taken [] pieces)).flatMap fun reply => reply ++ [0x0a], false⟩ ∧
    split (w.serveConnection false pieces e).written = (w.answers e (taken [] pieces), []) ∧
    taken [] pieces <+: s ∧ (taken [] pieces = s ∨ Overflows (taken [] pieces)) ∧
    (∀ line, maxLineBytes < line.length → ∀ e, w.handleLine line e = ([], tooLong)) ∧
    ((∀ line ∈ (split s).1, line.length ≤ maxLineBytes) →
      (∀ cut, IsCut 4096 s cut →
        w.serveConnection false cut e = ⟨w.effectsInTurn e 0 (lines s),
          (w.answers e s).flatMap fun reply => reply ++ [0x0a], false⟩) ∧
      (Overflows (taken [] pieces) ↔ Overflows s)) ∧
    (∀ line ∈ (split (taken [] pieces)).1, line.length < maxLineBytes + 4096) ∧
    ((∀ cut, IsCut 4096 s cut → ¬ Overflows (taken [] cut)) ↔ IsShort s) ∧
    ((∃ cut, IsCut 4096 s cut ∧ ¬ Overflows (taken [] cut)) ↔
      (∀ line ∈ (split s).1, line.length < maxLineBytes + 4096) ∧ ¬ Overflows s) := by
  refine ⟨w.serveConnection_taken e pieces, w.split_written e pieces, h.taken_prefix, ?_,
    fun line hline _ => handleLine_of_long hline, fun hlines => ⟨fun cut hcut => ?_, ?_⟩,
    h.length_lt_of_mem_taken, forall_kept_iff (by decide), exists_kept_iff (by decide)⟩
  · have hread := taken_eq_or pieces []
    rwa [List.nil_append, h.flatten] at hread
  · exact w.serveConnection_of_lines e hcut hlines
  · exact (h.split_taken hlines).2

/-- An empty line, another, and one that does not end, in two reads. -/
theorem serveConnection_until_end :
    let w : Wallet := { config := .standard, http := .ok none, now := 0 }
    let e : Entropy := fun _ => 0
    IsCut 4096 [0x0a, 0x5b, 0x0a, 0x5d] [[0x0a, 0x5b], [0x0a, 0x5d]] ∧
    split (w.serveConnection false [[0x0a, 0x5b], [0x0a, 0x5d]] e).written =
      ([(w.handleLine [0x5b] (e.part 0)).2], []) := by
  intro w e
  have hcut : IsCut 4096 [0x0a, 0x5b, 0x0a, 0x5d] [[0x0a, 0x5b], [0x0a, 0x5d]] :=
    ⟨rfl, by decide⟩
  have htaken : taken [] [[0x0a, 0x5b], [0x0a, 0x5d]] = [0x0a, 0x5b, 0x0a, 0x5d] := by decide
  have hlines : lines [0x0a, 0x5b, 0x0a, 0x5d] = [[0x5b]] := by decide
  have hover : ¬ Overflows [0x0a, 0x5b, 0x0a, 0x5d] := by decide
  refine ⟨hcut, ?_⟩
  rw [(serveConnection_until_overflow w e hcut).2.1, htaken, answers, hlines, if_neg hover]
  rfl

/-! ### A line that is too long by a byte -/

/-- The longest line. -/
def longestLine : Bytes := List.replicate maxLineBytes 0x78

/-- The longest line in reads. -/
def longestReads : List Bytes := List.replicate 16 (List.replicate 4096 0x78)

theorem flatten_longestReads : longestReads.flatten = longestLine :=
  List.flatten_replicate_replicate

theorem length_longestLine : longestLine.length = maxLineBytes := List.length_replicate

theorem newline_notMem_longLine : 0x0a ∉ longestLine ++ [0x78] := by simp [longestLine]

theorem length_longLine : maxLineBytes < (longestLine ++ [0x78]).length := by
  rw [List.length_append, length_longestLine]
  exact Nat.lt_succ_self _

theorem taken_longestReads (more : List Bytes) :
    taken [] (longestReads ++ more) = taken longestLine more := by
  rw [taken_append, flatten_longestReads, List.nil_append]
  rw [flatten_longestReads, length_longestLine]
  exact (Nat.zero_add _).le

theorem read_longestReads : ∀ p ∈ longestReads, p ≠ [] ∧ p.length ≤ 4096 := by
  intro p hp
  rw [(List.mem_replicate.mp hp).2]
  exact ⟨List.cons_ne_nil _ _, List.length_replicate.le⟩

/-- One more byte is too much. If the newline comes with it, the line is denied and the next one is
served; if the newline comes with the next read, it comes too late. -/
theorem late_newline_costs_connection :
    let w : Wallet := { config := .standard, http := .ok none, now := 0 }
    let e : Entropy := fun _ => 0
    let intime := longestReads ++ [[0x78, 0x0a, 0x5b, 0x5d, 0x0a]]
    let late := longestReads ++ [[0x78], [0x0a, 0x5b, 0x5d, 0x0a]]
    (∃ s, IsCut 4096 s intime ∧ IsCut 4096 s late) ∧
    split (w.serveConnection false intime e).written =
      ([tooLong, (w.handleLine [0x5b, 0x5d] (e.part 1)).2], []) ∧
    split (w.serveConnection false late e).written = ([tooLong], []) := by
  intro w e intime late
  refine ⟨⟨_, ⟨rfl, ?_⟩, ⟨?_, ?_⟩⟩, ?_, ?_⟩
  · exact List.forall_mem_append.mpr ⟨read_longestReads, by decide⟩
  · simp [intime, late]
  · exact List.forall_mem_append.mpr ⟨read_longestReads, by decide⟩
  · have hsplit : split (longestLine ++ [0x78, 0x0a, 0x5b, 0x5d, 0x0a]) =
        ([longestLine ++ [0x78], [0x5b, 0x5d]], []) := by
      rw [List.append_cons, split_append_cons newline_notMem_longLine]
      rfl
    have hover : ¬ Overflows (longestLine ++ [0x78, 0x0a, 0x5b, 0x5d, 0x0a]) := by
      rw [Overflows, hsplit]
      exact Nat.not_lt_zero _
    have hlines : lines (longestLine ++ [0x78, 0x0a, 0x5b, 0x5d, 0x0a]) =
        [longestLine ++ [0x78], [0x5b, 0x5d]] := by
      rw [lines, hsplit, List.filter_cons_of_pos (by simp)]
      rfl
    rw [split_written, taken_longestReads, taken_cons hover, taken, answers, hlines, if_neg hover,
      List.zipIdx_cons, List.map_cons, handleLine_of_long length_longLine]
    rfl
  · have hover : Overflows (longestLine ++ [0x78]) := by
      rw [Overflows, split_of_notMem newline_notMem_longLine]
      exact length_longLine
    rw [split_written, taken_longestReads, taken_cons_of_overflows hover, answers, lines,
      split_of_notMem newline_notMem_longLine, if_pos hover]
    rfl

end Wallet
end WalletResponder
