import Mathlib.Data.List.TakeWhile
import Mathlib.Logic.Relation
import WalletResponder.Proofs.Bytes.Splitting
import WalletResponder.Service.Connection

/-!
# Framing

A connection is served as if its stream were cut into lines first and the non-empty lines were
handled one after another. `Wallet.afterStream` is that service: it looks at the whole stream, not
at the pieces in which it came. The inner loop serves the lines of what is waiting
(`drain_eq_served`), a piece takes the service of a stream to the service of the longer stream
(`receive_afterStream`), and so the loop over all pieces is the service of the joined pieces
(`receiveAll_afterStream`), as long as no line is too long.
-/

namespace WalletResponder

namespace Connection

variable {s t line rest p : Bytes}

/-! ### Lines and the tail of a stream -/

theorem nextLine?_eq_none : nextLine? s = none ↔ 0x0a ∉ s := by
  unfold nextLine? Bytes.after?
  split
  · next h =>
    rw [List.dropWhile_eq_nil_iff] at h
    simp only [Option.map_none, true_iff]
    exact fun hm => by simpa using h _ hm
  · next h =>
    simp only [Option.map_some, reduceCtorEq, false_iff, not_not]
    by_contra hm
    have hall : ∀ x ∈ s, (x != 0x0a) = true := fun x hx => by
      simpa using fun he : x = 0x0a => hm (he ▸ hx)
    rw [List.dropWhile_eq_nil_iff.mpr hall] at h
    cases h

/-- The next line ends at the first newline. -/
theorem nextLine?_eq_some (h : nextLine? s = some (line, rest)) :
    0x0a ∉ line ∧ s = line ++ 0x0a :: rest := by
  unfold nextLine? Bytes.after? at h
  split at h
  · simp at h
  · next c r hr =>
    simp only [Option.map_some, Option.some.injEq, Prod.mk.injEq] at h
    obtain ⟨hl, rfl⟩ := h
    have hc : c = 0x0a := by
      have := List.head_dropWhile_not (fun x : UInt8 => x != 0x0a) (l := s) (by rw [hr]; simp)
      simpa [hr] using this
    refine ⟨fun hm => ?_, ?_⟩
    · rw [← hl] at hm
      simpa using List.mem_takeWhile_imp hm
    · rw [← hl, ← hc, ← hr, Bytes.upTo, hc]
      exact List.takeWhile_append_dropWhile.symm

theorem split_eq (s : Bytes) :
    split s = ((List.splitOn 0x0a s).dropLast, (List.splitOn 0x0a s).getLastD []) := by
  rw [split, Bytes.splitOn_eq]

theorem split_of_notMem (h : 0x0a ∉ s) : split s = ([], s) := by
  rw [split, Bytes.splitOn_of_notMem h]; rfl

theorem split_append_cons (h : 0x0a ∉ line) :
    split (line ++ 0x0a :: rest) = (line :: (split rest).1, (split rest).2) := by
  have hne := Bytes.splitOn_ne_nil 0x0a rest
  rw [split, Bytes.splitOn_append_cons h, split]
  cases hs : Bytes.splitOn 0x0a rest with
  | nil => exact absurd hs hne
  | cons a l => simp

/-- What arrives behind a stream continues its tail. -/
theorem split_append (s p : Bytes) :
    split (s ++ p) =
      ((split s).1 ++ (split ((split s).2 ++ p)).1, (split ((split s).2 ++ p)).2) := by
  induction hn : s.length using Nat.strongRecOn generalizing s with
  | ind n ih =>
    cases h : nextLine? s with
    | none => rw [split_of_notMem (nextLine?_eq_none.mp h)]; rfl
    | some lr =>
      obtain ⟨line, rest⟩ := lr
      have hlt := length_nextLine? h
      obtain ⟨hl, hs⟩ := nextLine?_eq_some h
      have ih := ih rest.length (by omega) rest rfl
      rw [hs, List.append_assoc, List.cons_append, split_append_cons hl, split_append_cons hl, ih]
      rfl

/-- The tail of a stream is what stands behind its last newline. -/
theorem split_tail (s : Bytes) :
    0x0a ∉ (split s).2 ∧ (s = (split s).2 ∨ ∃ head, s = head ++ 0x0a :: (split s).2) := by
  induction hn : s.length using Nat.strongRecOn generalizing s with
  | ind n ih =>
    cases h : nextLine? s with
    | none =>
      have hm := nextLine?_eq_none.mp h
      rw [split_of_notMem hm]
      exact ⟨hm, Or.inl rfl⟩
    | some lr =>
      obtain ⟨line, rest⟩ := lr
      have hlt := length_nextLine? h
      obtain ⟨hl, hs⟩ := nextLine?_eq_some h
      obtain ⟨hm, htail⟩ := ih rest.length (by omega) rest rfl
      rw [hs, split_append_cons hl]
      refine ⟨hm, Or.inr ?_⟩
      rcases htail with htail | ⟨head, htail⟩
      · exact ⟨line, by rw [← htail]⟩
      · refine ⟨line ++ 0x0a :: head, ?_⟩
        calc line ++ 0x0a :: rest
            = line ++ 0x0a :: (head ++ 0x0a :: (split rest).2) := by rw [← htail]
          _ = _ := by simp

/-- No line and no tail is longer than the longest line. -/
def IsShort (s : Bytes) : Prop := ∀ part ∈ List.splitOn 0x0a s, part.length ≤ Wallet.maxLineBytes

theorem IsShort.tail (h : IsShort s) : (split s).2.length ≤ Wallet.maxLineBytes := by
  rw [split_eq]
  refine h _ ?_
  rw [List.getLastD_eq_getLast?, List.getLast?_eq_some_getLast (List.splitOn_ne_nil _ s)]
  exact List.getLast_mem _

/-- The beginning of a stream of short lines is one: its tail begins a line of the stream. -/
theorem IsShort.of_append (h : IsShort (s ++ p)) : IsShort s := by
  induction hn : s.length using Nat.strongRecOn generalizing s with
  | ind n ih =>
    intro part hpart
    cases hnl : nextLine? s with
    | none =>
      have hm := nextLine?_eq_none.mp hnl
      rw [List.splitOn_eq_singleton hm, List.mem_singleton] at hpart
      subst hpart
      cases hp : nextLine? p with
      | none =>
        have := h (part ++ p) (by
          rw [List.splitOn_eq_singleton (by simp [hm, nextLine?_eq_none.mp hp])]; simp)
        rw [List.length_append] at this
        omega
      | some lr =>
        obtain ⟨line, rest⟩ := lr
        obtain ⟨hl, hp⟩ := nextLine?_eq_some hp
        have := h (part ++ line) (by
          rw [hp, ← List.append_assoc, List.splitOn_append_cons_self_of_not_mem (by simp [hm, hl])]
          simp)
        rw [List.length_append] at this
        omega
    | some lr =>
      obtain ⟨line, rest⟩ := lr
      have hlt := length_nextLine? hnl
      obtain ⟨hl, hs⟩ := nextLine?_eq_some hnl
      have hsplit : List.splitOn 0x0a (s ++ p) = line :: List.splitOn 0x0a (rest ++ p) := by
        rw [hs, List.append_assoc, List.cons_append, List.splitOn_append_cons_self_of_not_mem hl]
      rw [hs, List.splitOn_append_cons_self_of_not_mem hl] at hpart
      rcases List.mem_cons.mp hpart with rfl | hpart
      · exact h _ (by rw [hsplit]; simp)
      · refine ih rest.length (by omega) (fun part hpart => h part ?_) rfl part hpart
        rw [hsplit]
        exact List.mem_cons_of_mem _ hpart

/-- The lines of a stream that are served: those that ended and are not empty. -/
def lines (s : Bytes) : List Bytes := (split s).1.filter fun line => !line.isEmpty

theorem lines_append (s p : Bytes) : lines (s ++ p) = lines s ++ lines ((split s).2 ++ p) := by
  rw [lines, split_append, List.filter_append]; rfl

theorem lines_append_cons (h : 0x0a ∉ line) :
    lines (line ++ 0x0a :: rest) = if line.isEmpty then lines rest else line :: lines rest := by
  rw [lines, split_append_cons h, List.filter_cons]
  cases line.isEmpty <;> rfl

end Connection

namespace Wallet

open Connection

variable (w : Wallet) (e : Entropy)

/-! ### Line by line -/

/-- What is done for lines that are handled one after another; `i` lines came before. -/
def effectsInTurn (i : Nat) (lines : List Bytes) : List Effect :=
  (lines.zipIdx i).flatMap fun line => (w.handleLine line.1 (e.part line.2)).1

/-- What is written for lines that are handled one after another; `i` lines came before. -/
def repliesInTurn (i : Nat) (lines : List Bytes) : Bytes :=
  (lines.zipIdx i).flatMap fun line => (w.handleLine line.1 (e.part line.2)).2 ++ [0x0a]

theorem effectsInTurn_append (i : Nat) (l l' : List Bytes) :
    w.effectsInTurn e i (l ++ l') =
      w.effectsInTurn e i l ++ w.effectsInTurn e (i + l.length) l' := by
  simp only [effectsInTurn, List.zipIdx_append, List.flatMap_append]

theorem repliesInTurn_append (i : Nat) (l l' : List Bytes) :
    w.repliesInTurn e i (l ++ l') =
      w.repliesInTurn e i l ++ w.repliesInTurn e (i + l.length) l' := by
  simp only [repliesInTurn, List.zipIdx_append, List.flatMap_append]

/-- A connection after its lines were handled one after another. -/
def served (c : Connection) (lines : List Bytes) (waiting : Bytes) : Connection :=
  { c with
    waiting
    count := c.count + lines.length
    effects := c.effects ++ w.effectsInTurn e c.count lines
    written := c.written ++ w.repliesInTurn e c.count lines }

/-- The connection after a stream whose lines were handled one after another. -/
def afterStream (s : Bytes) : Connection := w.served e {} (lines s) (split s).2

theorem served_nil (c : Connection) : w.served e c [] c.waiting = c := by
  simp [served, effectsInTurn, repliesInTurn]

theorem served_served (c : Connection) (l l' : List Bytes) (t t' : Bytes) :
    w.served e (w.served e c l t) l' t' = w.served e c (l ++ l') t' := by
  simp only [served, effectsInTurn_append, repliesInTurn_append, List.length_append,
    Nat.add_assoc, List.append_assoc]

theorem serveLine_false (line : Bytes) (c : Connection) :
    w.serveLine e false line c = w.served e c [line] c.waiting := by
  simp [serveLine, write, served, effectsInTurn, repliesInTurn]

/-! ### The loops -/

/-- **The inner loop serves the lines that have ended** and leaves the tail. -/
theorem drain_eq_served (c : Connection) (hopen : c.isOpen = true) :
    w.drain e false c = w.served e c (lines c.waiting) (split c.waiting).2 := by
  induction hn : c.waiting.length using Nat.strongRecOn generalizing c with
  | ind n ih =>
    rw [drain, if_pos hopen]
    split
    · next h =>
      have hm := nextLine?_eq_none.mp h
      rw [lines, split_of_notMem hm]
      exact (w.served_nil e c).symm
    · next line rest h =>
      have hlt := length_nextLine? h
      obtain ⟨hl, hs⟩ := nextLine?_eq_some h
      rw [hs, split_append_cons hl, lines_append_cons hl]
      dsimp only
      by_cases hempty : line.isEmpty = true
      · rw [if_pos hempty, if_pos hempty]
        exact ih rest.length (by omega) { c with waiting := rest } hopen rfl
      · rw [if_neg hempty, if_neg hempty, serveLine_false]
        rw [ih rest.length (by omega) (w.served e { c with waiting := rest } [line] rest) hopen rfl]
        exact w.served_served e { c with waiting := rest } [line] (lines rest) rest (split rest).2

/-- The lines that a piece completes are served as lines of the longer stream. -/
theorem drain_afterStream (s p : Bytes) :
    w.drain e false { w.afterStream e s with waiting := (w.afterStream e s).waiting ++ p } =
      w.afterStream e (s ++ p) := by
  rw [drain_eq_served _ _ _ rfl, afterStream, afterStream, lines_append s p, split_append s p]
  exact w.served_served e {} (lines s) _ ((split s).2 ++ p) _

/-- **A piece takes the service of a stream to the service of the longer stream**: the overflow is
not met, since the tail of the longer stream is short. -/
theorem receive_afterStream (s p : Bytes) (h : IsShort (s ++ p)) :
    w.receive e false (w.afterStream e s) p = w.afterStream e (s ++ p) := by
  have htail : ¬ maxLineBytes < (w.afterStream e (s ++ p)).waiting.length :=
    Nat.not_lt.mpr h.tail
  rw [receive, drain_afterStream, if_neg]
  simpa using fun _ => Nat.not_lt.mp htail

/-- **The loop over all pieces is the service of the joined pieces.** -/
theorem receiveAll_afterStream : ∀ (pieces : List Bytes) (s : Bytes),
    IsShort (s ++ pieces.flatten) →
      w.receiveAll e false (w.afterStream e s) pieces = w.afterStream e (s ++ pieces.flatten)
  | [], s, _ => by rw [receiveAll, List.flatten_nil, List.append_nil]
  | p :: pieces, s, h => by
    rw [List.flatten_cons, ← List.append_assoc] at h ⊢
    rw [receiveAll, if_pos (by rfl), receive_afterStream _ _ _ _ h.of_append]
    exact receiveAll_afterStream pieces (s ++ p) h

theorem receiveAll_eq (pieces : List Bytes) (h : IsShort pieces.flatten) :
    w.receiveAll e false {} pieces = w.afterStream e pieces.flatten := by
  have hnil : w.afterStream e [] = {} := by
    rw [afterStream, lines, split_of_notMem (by simp)]
    exact w.served_nil e {}
  have := w.receiveAll_afterStream e pieces [] h
  rwa [hnil] at this

/-- The replies do not depend on the pieces in which the stream arrives. -/
theorem serveConnection_congr {pieces pieces' : List Bytes} (h : IsShort pieces.flatten)
    (hflat : pieces.flatten = pieces'.flatten) :
    w.serveConnection false pieces e = w.serveConnection false pieces' e := by
  rw [serveConnection, serveConnection, receiveAll_eq _ _ _ h, receiveAll_eq _ _ _ (hflat ▸ h),
    hflat]

/-- What is waiting while lines are taken off it. -/
def Shrinks : Bytes → Bytes → Prop :=
  Relation.ReflTransGen fun b b' => ∃ line, nextLine? b = some (line, b')

theorem Shrinks.length_le {b b' : Bytes} (h : Shrinks b b') : b'.length ≤ b.length := by
  induction h with
  | refl => exact Nat.le_refl _
  | tail _ hstep ih =>
    obtain ⟨line, hstep⟩ := hstep
    have := length_nextLine? hstep
    omega

/-- **Serving a connection is serving its lines.** If no line and no tail is longer than the longest
line, then however the stream is cut into reads of at most 4096 bytes: what is written is the reply
to each non-empty line that ended and a newline, in order, which is the same for every cut; after
any number of reads the connection is open, has written the replies to the lines so far, and what is
waiting is what stands behind the last newline; and while the lines of the next read are served
there is never more waiting than the longest line and a read. -/
theorem serveConnection_eq_lineByLine (pieces : List Bytes)
    (hread : ∀ p ∈ pieces, p.length ≤ 4096)
    (hshort : ∀ part ∈ List.splitOn 0x0a pieces.flatten, part.length ≤ maxLineBytes) :
    w.serveConnection false pieces e =
      ⟨w.effectsInTurn e 0 (lines pieces.flatten), w.repliesInTurn e 0 (lines pieces.flatten),
        false⟩ ∧
    (∀ pieces' : List Bytes, pieces.flatten = pieces'.flatten →
      w.serveConnection false pieces e = w.serveConnection false pieces' e) ∧
    ∀ before after, pieces = before ++ after →
      ∃ c, w.receiveAll e false {} before = c ∧ c.isOpen = true ∧ c.isBroken = false ∧
        c.written = w.repliesInTurn e 0 (lines before.flatten) ∧
        0x0a ∉ c.waiting ∧
        (before.flatten = c.waiting ∨ ∃ head, before.flatten = head ++ 0x0a :: c.waiting) ∧
        ∀ p ∈ after.head?, ∀ b, Shrinks (c.waiting ++ p) b → b.length ≤ maxLineBytes + 4096 := by
  refine ⟨?_, fun pieces' => w.serveConnection_congr e hshort, ?_⟩
  · rw [serveConnection, receiveAll_eq _ _ _ hshort]
    simp [afterStream, served]
  · rintro before after rfl
    have hbefore : IsShort before.flatten := by
      rw [List.flatten_append] at hshort
      exact IsShort.of_append hshort
    obtain ⟨hnone, htail⟩ := split_tail before.flatten
    refine ⟨_, receiveAll_eq _ _ _ hbefore, rfl, rfl, rfl, hnone, htail, fun p hp b hb => ?_⟩
    have hpiece := hread p (List.mem_append_right _ (List.mem_of_mem_head? hp))
    have hwaiting : (w.afterStream e before.flatten).waiting.length ≤ maxLineBytes := hbefore.tail
    have hle := hb.length_le
    rw [List.length_append] at hle
    omega

/-- Two reads, an empty line between the others, and a line that does not end. -/
theorem serveConnection_two_reads :
    let w : Wallet := { config := .standard, http := .ok none, now := 0 }
    let e : Entropy := fun _ => 0
    (w.serveConnection false [[0x5b, 0x0a, 0x0a], [0x5d, 0x0a, 0x5b]] e).written =
      ((w.handleLine [0x5b] (e.part 0)).2 ++ [0x0a]) ++
        ((w.handleLine [0x5d] (e.part 1)).2 ++ [0x0a]) := by
  intro w e
  have hlines : lines [[0x5b, 0x0a, 0x0a], [0x5d, 0x0a, 0x5b]].flatten = [[0x5b], [0x5d]] := by
    decide
  have h := (serveConnection_eq_lineByLine w e [[0x5b, 0x0a, 0x0a], [0x5d, 0x0a, 0x5b]]
    (by decide) (by decide)).1
  rw [h, hlines]
  simp [repliesInTurn]

end Wallet
end WalletResponder
