import Mathlib.Data.List.DropRight
import Mathlib.Data.List.Infix
import Mathlib.Tactic.Common

/-!
# Lines and trimming

The elements of a list between those at its two ends that satisfy a predicate. Trimming twice
trims no more than once.

A text of lines has the same end behind each of them, and is read back line by line
(`splitOn_unlines`).
-/

namespace Cthuwu

variable {α : Type} {p : α → Bool} {l : List α}

/-- Without the elements at both ends that satisfy `p`. -/
def trimBy (p : α → Bool) (l : List α) : List α :=
  (l.dropWhile p).rdropWhile p

theorem dropWhile_trimBy : (trimBy p l).dropWhile p = trimBy p l := by
  unfold trimBy
  cases h : l.dropWhile p with
  | nil => rfl
  | cons a rest =>
    have ha : p a = false := by
      have hhead := List.head_dropWhile_not p (by rw [h]; exact List.cons_ne_nil a rest)
      simpa only [h, List.head_cons] using hhead
    cases hr : (a :: rest).rdropWhile p with
    | nil => rfl
    | cons b rest' =>
      have hinit := List.rdropWhile_prefix p (a :: rest)
      rw [hr, List.cons_prefix_cons] at hinit
      rw [hinit.1, List.dropWhile_cons_of_neg (by rw [ha]; exact Bool.false_ne_true)]

theorem trimBy_trimBy : trimBy p (trimBy p l) = trimBy p l := by
  have h := dropWhile_trimBy (p := p) (l := l)
  unfold trimBy at h ⊢
  rw [h, List.rdropWhile_idempotent]

/-- Nothing is trimmed of a list in which nothing satisfies `p`. -/
theorem trimBy_eq_self (h : ∀ x ∈ l, p x = false) : trimBy p l = l := by
  have hdrop : l.dropWhile p = l := by
    cases l with
    | nil => rfl
    | cons a rest =>
      exact List.dropWhile_cons_of_neg (by rw [h a List.mem_cons_self]; exact Bool.false_ne_true)
  unfold trimBy
  rw [hdrop, List.rdropWhile_eq_self_iff]
  intro hne
  rw [h _ (List.getLast_mem hne)]
  exact Bool.false_ne_true

/-- An element that is not trimmed stays the first. -/
theorem head?_trimBy {x : α} (h : p x = false) : (trimBy p (x :: l)).head? = some x := by
  have hx : ¬p x = true := by rw [h]; exact Bool.false_ne_true
  unfold trimBy
  rw [List.dropWhile_cons_of_neg hx]
  cases hr : (x :: l).rdropWhile p with
  | nil => exact absurd (List.rdropWhile_eq_nil_iff.mp hr x List.mem_cons_self) hx
  | cons y rest =>
    have hinit := List.rdropWhile_prefix p (x :: l)
    rw [hr, List.cons_prefix_cons] at hinit
    rw [hinit.1, List.head?_cons]

/-- Nothing is trimmed between two elements that are not. -/
theorem trimBy_cons_append {x y : α} (hx : p x = false) (hy : p y = false) :
    trimBy p (x :: (l ++ [y])) = x :: (l ++ [y]) := by
  unfold trimBy
  rw [List.dropWhile_cons_of_neg (by rw [hx]; exact Bool.false_ne_true), ← List.cons_append,
    List.rdropWhile_concat_neg _ _ _ (by rw [hy]; exact Bool.false_ne_true)]

end Cthuwu

/-! ## Lines -/

namespace Cthuwu

variable {α : Type} [DecidableEq α] {e : α} {l : List α} {ls : List (List α)}

/-- Each line with its end. -/
def unlines (e : α) (ls : List (List α)) : List α :=
  ls.flatMap fun l => l ++ [e]

@[simp] theorem unlines_cons : unlines e (l :: ls) = l ++ e :: unlines e ls := by
  simp [unlines]

theorem unlines_append {ls' : List (List α)} :
    unlines e (ls ++ ls') = unlines e ls ++ unlines e ls' :=
  List.flatMap_append

theorem unlines_eq_intercalate : unlines e ls = [e].intercalate (ls ++ [[]]) := by
  induction ls with
  | nil => rfl
  | cons l ls ih =>
    rw [unlines_cons, ih]
    cases ls with
    | nil => simp
    | cons l' ls =>
      rw [List.cons_append, List.cons_append, List.cons_append, List.intercalate_cons_cons,
        List.append_assoc]
      rfl

/-- Lines are read back one by one, and nothing is left after the last. -/
theorem splitOn_unlines (h : ∀ l ∈ ls, e ∉ l) : (unlines e ls).splitOn e = ls ++ [[]] := by
  rw [unlines_eq_intercalate]
  refine List.splitOn_intercalate e (fun l hl => ?_) (by simp)
  rcases List.mem_append.mp hl with hl | hl
  · exact h l hl
  · rw [List.mem_singleton.mp hl]
    exact List.not_mem_nil

end Cthuwu
