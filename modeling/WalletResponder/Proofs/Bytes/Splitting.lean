import Mathlib.Data.List.Basic
import Mathlib.Data.List.TakeWhile
import WalletResponder.Bytes

/-!
# Splitting byte strings

`Bytes.splitOn` collects the parts from the front in one pass. Here it is the splitting of lists
that the standard library knows (`splitOn_eq`), so that its laws apply: a byte string without the
separator is its only part, and a part in front of a separator comes off alone.
-/

namespace WalletResponder.Bytes

/-- One step of the pass: the part under way, in reverse, and the parts before it, last first. -/
def splitStep (c : UInt8) (r : Bytes × List Bytes) (x : UInt8) : Bytes × List Bytes :=
  if x == c then ([], r.1.reverse :: r.2) else (x :: r.1, r.2)

/-- All parts, when the pass is over. -/
def closeSplit (r : Bytes × List Bytes) : List Bytes := (r.1.reverse :: r.2).reverse

theorem closeSplit_foldl (c : UInt8) : ∀ (s : Bytes) (r : Bytes × List Bytes),
    closeSplit (s.foldl (splitStep c) r) =
      r.2.reverse ++ (List.splitOn c s).modifyHead (r.1.reverse ++ ·)
  | [], r => by simp [closeSplit]
  | x :: s, r => by
    rw [List.foldl_cons, closeSplit_foldl c s, List.splitOn_cons_eq_if_modifyHead, splitStep]
    by_cases h : x == c
    · rw [if_pos h, if_pos h]
      cases List.splitOn c s <;> simp
    · rw [if_neg h, if_neg h]
      cases List.splitOn c s <;> simp

/-- **One pass is the splitting of lists.** -/
theorem splitOn_eq (c : UInt8) (s : Bytes) : splitOn c s = List.splitOn c s := by
  have h : splitOn c s = closeSplit (s.foldl (splitStep c) ([], [])) := rfl
  rw [h, closeSplit_foldl]
  cases hs : List.splitOn c s with
  | nil => exact absurd hs (List.splitOn_ne_nil c s)
  | cons a l => simp

theorem splitOn_ne_nil (c : UInt8) (s : Bytes) : splitOn c s ≠ [] := by
  rw [splitOn_eq]; exact List.splitOn_ne_nil c s

/-- Without a separator there is one part. -/
theorem splitOn_of_notMem {c : UInt8} {s : Bytes} (h : c ∉ s) : splitOn c s = [s] := by
  rw [splitOn_eq]; exact List.splitOn_eq_singleton h

/-- What stands in front of the first separator is the first part. -/
theorem splitOn_append_cons {c : UInt8} {s : Bytes} (h : c ∉ s) (t : Bytes) :
    splitOn c (s ++ c :: t) = s :: splitOn c t := by
  rw [splitOn_eq, splitOn_eq]; exact List.splitOn_append_cons_self_of_not_mem h t

/-- The parts of a text with a separator in it are the parts on its left and those on its right. -/
theorem splitOn_append (c : UInt8) (t : Bytes) :
    ∀ s : Bytes, splitOn c (s ++ c :: t) = splitOn c s ++ splitOn c t
  | [] => by
    have h : c ∉ ([] : Bytes) := List.not_mem_nil
    rw [splitOn_append_cons h, splitOn_of_notMem h, List.singleton_append]
  | x :: s => by
    have ih := splitOn_append c t s
    rw [splitOn_eq, splitOn_eq, List.cons_append, List.splitOn_cons_eq_if_modifyHead,
      List.splitOn_cons_eq_if_modifyHead, ← splitOn_eq, ← splitOn_eq, ih]
    by_cases hx : x == c
    · rw [if_pos hx, if_pos hx, List.cons_append]
    · rw [if_neg hx, if_neg hx]
      cases hs : splitOn c s with
      | nil => exact absurd hs (splitOn_ne_nil c s)
      | cons a l =>
        rw [List.cons_append, List.modifyHead_cons, List.modifyHead_cons, List.cons_append]

theorem length_le_of_mem_splitOn {c : UInt8} : ∀ {s part : Bytes}, part ∈ splitOn c s →
    part.length ≤ s.length
  | [], part, h => by
    rw [splitOn_of_notMem (by simp), List.mem_singleton] at h
    rw [h]
  | x :: s, part, h => by
    rw [splitOn_eq, List.splitOn_cons_eq_if_modifyHead, ← splitOn_eq] at h
    have hs : ∀ {a : Bytes}, a ∈ splitOn c s → a.length ≤ s.length := length_le_of_mem_splitOn
    rw [List.length_cons]
    by_cases hx : x == c
    · rw [if_pos hx] at h
      rcases List.mem_cons.mp h with rfl | h
      · exact Nat.zero_le _
      · exact Nat.le_succ_of_le (hs h)
    · rw [if_neg hx] at h
      cases hparts : splitOn c s with
      | nil => exact absurd hparts (splitOn_ne_nil c s)
      | cons a l =>
        rw [hparts] at h hs
        rw [List.modifyHead_cons] at h
        rcases List.mem_cons.mp h with rfl | h
        · exact Nat.succ_le_succ (hs List.mem_cons_self)
        · exact Nat.le_succ_of_le (hs (List.mem_cons_of_mem a h))

/-! ## Before and after the first separator -/

variable {c : UInt8} {s : Bytes}

theorem upTo_append_dropWhile (c : UInt8) (s : Bytes) : s.upTo c ++ s.dropWhile (· != c) = s :=
  List.takeWhile_append_dropWhile

theorem notMem_upTo (c : UInt8) (s : Bytes) : c ∉ s.upTo c := fun h => by
  simpa using List.mem_takeWhile_imp h

theorem upTo_append_of_notMem (h : c ∉ s) (t : Bytes) : (s ++ t).upTo c = s ++ t.upTo c := by
  refine List.takeWhile_append_of_pos fun x hx => ?_
  have hne : x ≠ c := fun he => h (he ▸ hx)
  simpa using hne

theorem upTo_append_cons (h : c ∉ s) (t : Bytes) : (s ++ c :: t).upTo c = s := by
  have hnil : upTo c (c :: t) = [] := List.takeWhile_cons_of_neg (by simp)
  rw [upTo_append_of_notMem h, hnil, List.append_nil]

theorem dropWhile_append_of_notMem (h : c ∉ s) (t : Bytes) :
    (s ++ t).dropWhile (· != c) = t.dropWhile (· != c) := by
  refine List.dropWhile_append_of_pos fun x hx => ?_
  have hne : x ≠ c := fun he => h (he ▸ hx)
  simpa using hne

/-- What is left at the first separator has nothing in front of it. -/
theorem upTo_dropWhile (c : UInt8) : ∀ s : Bytes, upTo c (s.dropWhile (· != c)) = []
  | [] => rfl
  | x :: s => by
    by_cases hx : x = c
    · rw [hx, List.dropWhile_cons_of_neg (by simp), upTo, List.takeWhile_cons_of_neg (by simp)]
    · rw [List.dropWhile_cons_of_pos (by simpa using hx), upTo_dropWhile c s]

theorem after?_append_cons (h : c ∉ s) (t : Bytes) : (s ++ c :: t).after? c = some t := by
  rw [after?, dropWhile_append_of_notMem h, List.dropWhile_cons_of_neg (by simp)]

theorem notMem_of_after?_eq_none (h : s.after? c = none) : c ∉ s := by
  intro hc
  have hall := List.dropWhile_eq_nil_iff (p := (· != c)) (l := s)
  cases hd : s.dropWhile (· != c) with
  | nil => simpa using hall.mp hd c hc
  | cons x r =>
    rw [after?, hd] at h
    exact nomatch h

/-- A byte string with a separator in it ends in what stands after the first one. -/
theorem eq_append_of_after? {q : Bytes} (h : s.after? c = some q) : s = s.upTo c ++ c :: q := by
  have hs := upTo_append_dropWhile c s
  have hnil := upTo_dropWhile c s
  rw [after?] at h
  cases hd : s.dropWhile (· != c) with
  | nil =>
    rw [hd] at h
    exact nomatch h
  | cons x r =>
    rw [hd] at h hs hnil
    have hx : x = c := by
      by_contra hne
      rw [upTo, List.takeWhile_cons_of_pos (by simpa using hne)] at hnil
      exact List.cons_ne_nil _ _ hnil
    rw [hx, Option.some.inj h] at hs
    exact hs.symm

theorem getLast?_of_after? {q : Bytes} (h : s.after? c = some q) (hq : q ≠ []) :
    s.getLast? = q.getLast? := by
  have hs := eq_append_of_after? h
  rw [hs, List.getLast?_append_of_ne_nil _ (List.cons_ne_nil c q), List.getLast?_cons_of_ne_nil hq]

theorem length_upTo_le (c : UInt8) (s : Bytes) : (s.upTo c).length ≤ s.length :=
  (List.takeWhile_sublist _).length_le

theorem length_after?_le (c : UInt8) (s : Bytes) : ((s.after? c).getD []).length ≤ s.length := by
  cases h : s.after? c with
  | none => exact Nat.zero_le _
  | some q =>
    have hlength := congrArg List.length (eq_append_of_after? h)
    rw [List.length_append, List.length_cons] at hlength
    rw [Option.getD_some]
    omega

theorem after?_append {q : Bytes} (h : s.after? c = some q) (t : Bytes) :
    (s ++ t).after? c = some (q ++ t) := by
  have hs := eq_append_of_after? h
  have ht : s ++ t = s.upTo c ++ c :: (q ++ t) := by
    rw [← List.cons_append, ← List.append_assoc, ← hs]
  rw [ht, after?_append_cons (notMem_upTo c s)]

end WalletResponder.Bytes
