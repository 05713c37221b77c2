import Mathlib.Data.List.Basic
import Mathlib.Data.List.Induction
import Mathlib.Data.List.Sort
import Cthuwu.Lib.Fallible

/-!
# Windows and ranges

A range is read in parts of a bounded span. The parts are in order and meet nowhere, and every
number of the range is in one of them.

`WindowBounded w limit ts` : no window `(t - w, t]` holds more than `limit` of the instants
`ts`, wherever it ends. A list is kept bounded by counting the window that ends at each new
instant (`WindowBounded.append`), and a sorted list is checked in one pass that drops what
has left the window before it counts (`checkWindows_ok`).
-/

namespace Cthuwu

/-- The numbers from `first` to `last`, both included. -/
structure Range where
  first : ℕ
  last : ℕ

def Range.Has (range : Range) (n : ℕ) : Prop :=
  range.first ≤ n ∧ n ≤ range.last

instance (range : Range) (n : ℕ) : Decidable (range.Has n) :=
  inferInstanceAs (Decidable (_ ∧ _))

/-- The parts of a range, each of at most `span + 1` numbers. -/
def parts (span first last : ℕ) : List Range :=
  if first ≤ last then
    { first := first
      last := min (first + span) last } :: parts span (first + span + 1) last
  else []
termination_by last + 1 - first

variable {span first last n : ℕ}

theorem parts_cons (h : first ≤ last) : parts span first last =
    { first := first
      last := min (first + span) last } :: parts span (first + span + 1) last := by
  rw [parts, if_pos h]

theorem parts_nil (h : last < first) : parts span first last = [] := by
  rw [parts, if_neg (Nat.not_le.mpr h)]

/-- A number is in the range when it is in one of its parts. -/
theorem exists_parts_has :
    (∃ range ∈ parts span first last, range.Has n) ↔ first ≤ n ∧ n ≤ last := by
  induction first using parts.induct span last with
  | case1 first h ih =>
    rw [parts_cons h, List.exists_mem_cons_iff, ih]
    unfold Range.Has
    dsimp only
    omega
  | case2 first h =>
    rw [parts_nil (Nat.not_le.mp h)]
    simp only [List.not_mem_nil, false_and, exists_false, false_iff]
    omega

/-- No number is in two parts. -/
theorem countP_parts (h : first ≤ n) (h' : n ≤ last) :
    (parts span first last).countP (·.Has n) = 1 := by
  induction first using parts.induct span last with
  | case1 first hle ih =>
    rw [parts_cons hle, List.countP_cons]
    by_cases hn : n ≤ first + span
    · have hrest : (parts span (first + span + 1) last).countP (·.Has n) = 0 := by
        rw [List.countP_eq_zero]
        intro range hrange hhas
        have := (exists_parts_has).mp ⟨range, hrange, of_decide_eq_true hhas⟩
        omega
      rw [hrest, if_pos]
      exact decide_eq_true ⟨h, Nat.le_min.mpr ⟨hn, h'⟩⟩
    · rw [ih (by omega), if_neg]
      intro hhas
      have := (of_decide_eq_true hhas).2
      dsimp only at this
      omega
  | case2 first hgt => omega

end Cthuwu

/-! ## Sliding windows -/

namespace Cthuwu

/-- The instants of `ts` in `(t - w, t]`. -/
def windowCount (w t : ℤ) (ts : List ℤ) : ℕ :=
  ts.countP fun s => t - w < s ∧ s ≤ t

/-- Every window of width `w` holds at most `limit` of the instants. -/
def WindowBounded (w : ℤ) (limit : ℕ) (ts : List ℤ) : Prop :=
  ∀ t, windowCount w t ts ≤ limit

variable {w t : ℤ} {limit : ℕ} {ts ts' : List ℤ}

theorem windowCount_append :
    windowCount w t (ts ++ ts') = windowCount w t ts + windowCount w t ts' :=
  List.countP_append ..

theorem WindowBounded.perm (h : WindowBounded w limit ts) (hperm : ts.Perm ts') :
    WindowBounded w limit ts' := fun t => by
  rw [windowCount, ← hperm.countP_eq]
  exact h t

theorem windowBounded_nil : WindowBounded w limit [] :=
  fun _ => Nat.zero_le _

/-- Of instants up to `t`, a window that ends later holds no more than the one ending at
`t`. -/
theorem windowCount_le_of_le {t' : ℤ} (hts : ∀ s ∈ ts, s ≤ t) (ht : t ≤ t') :
    windowCount w t' ts ≤ windowCount w t ts := by
  refine List.countP_mono_left fun s hs hmem => ?_
  have := hts s hs
  simp only [decide_eq_true_eq] at hmem ⊢
  omega

/-- A new instant, later than all others, whose own window has room. -/
theorem WindowBounded.append (h : WindowBounded w limit ts) (hts : ∀ s ∈ ts, s ≤ t)
    (hroom : windowCount w t ts < limit) : WindowBounded w limit (ts ++ [t]) := by
  intro t'
  rw [windowCount_append]
  by_cases ht : t ≤ t'
  · have hold := windowCount_le_of_le (w := w) hts ht
    have hnew : windowCount w t' [t] ≤ 1 := List.countP_le_length
    omega
  · have hnew : windowCount w t' [t] = 0 := by
      rw [windowCount, List.countP_eq_zero]
      intro s hs
      rw [List.mem_singleton.mp hs]
      simp only [decide_eq_true_eq]
      omega
    have := h t'
    omega

/-! ## The one-pass check -/

section Check

variable {ε : Type}

/-- Advance the window to `t` : `lower t` is the last instant no longer in it. -/
def slide (lower : ℤ → ℤ) (limit : ℕ) (err : ε) (window : List ℤ) (t : ℤ) : Except ε (List ℤ) := do
  let window := (window ++ [t]).dropWhile (· ≤ lower t)
  failIf (limit < window.length) err
  return window

/-- Slide a window over sorted instants. -/
def checkWindows (lower : ℤ → ℤ) (limit : ℕ) (err : ε) (ts : List ℤ) : Except ε Unit := do
  let _ ← ts.foldlM (slide lower limit err) []

theorem dropWhile_eq_filter {c : ℤ} (h : ts.Pairwise (· ≤ ·)) :
    ts.dropWhile (· ≤ c) = ts.filter (c < ·) := by
  induction ts with
  | nil => rfl
  | cons s ts ih =>
    obtain ⟨hs, hts⟩ := List.pairwise_cons.mp h
    by_cases hc : s ≤ c
    · rw [List.dropWhile_cons_of_pos (by simpa using hc), ih hts,
        List.filter_cons_of_neg (by simpa using hc)]
    · rw [List.dropWhile_cons_of_neg (by simpa using hc), eq_comm, List.filter_eq_self]
      intro s' hs'
      rcases List.mem_cons.mp hs' with rfl | hs'
      · simpa using hc
      · have := hs s' hs'
        simp only [decide_eq_true_eq]
        omega

/-- In a sorted list the window that ends at the last instant is what is above its lower
end. -/
theorem windowCount_last (h : ∀ s ∈ ts, s ≤ t) :
    windowCount w t (ts ++ [t]) = ((ts ++ [t]).filter (t - w < ·)).length := by
  rw [windowCount, List.countP_eq_length_filter]
  congr 1
  refine List.filter_congr fun s hs => ?_
  have : s ≤ t := by
    rcases List.mem_append.mp hs with hs | hs
    · exact h s hs
    · exact (List.mem_singleton.mp hs).le
  simp only [this, and_true]

/-- Sliding over `ts` from the window of `seen` checks the window of each instant. -/
theorem slideAll_ok {lower : ℤ → ℤ} {err : ε} (seen window : List ℤ)
    (hsorted : (seen ++ ts).Pairwise (· ≤ ·)) (hlower : ∀ t ∈ ts, lower t = t - w)
    (hwindow : ∀ t ∈ ts, (seen ++ [t]).filter (t - w < ·) = (window ++ [t]).dropWhile (· ≤ t - w)) :
    (∃ window', ts.foldlM (slide lower limit err) window = .ok window') ↔
      ∀ p t q, ts = p ++ t :: q → windowCount w t (seen ++ p ++ [t]) ≤ limit := by
  induction ts generalizing seen window with
  | nil => exact iff_of_true ⟨window, rfl⟩ (by simp)
  | cons t ts ih =>
    have hbefore : ∀ s ∈ seen, s ≤ t := fun s hs =>
      (List.pairwise_append.mp hsorted).2.2 s hs t List.mem_cons_self
    have hsorted' : (seen ++ [t] ++ ts).Pairwise (· ≤ ·) := by
      rwa [List.append_assoc, List.singleton_append]
    have hseen : (seen ++ [t]).Pairwise (· ≤ ·) := (List.pairwise_append.mp hsorted').1
    have hstep := hwindow t List.mem_cons_self
    have hcount : ((window ++ [t]).dropWhile (· ≤ t - w)).length =
        windowCount w t (seen ++ [t]) := by
      rw [windowCount_last hbefore, hstep]
    rw [List.foldlM_cons]
    simp only [slide, except_bind_ok, failIf_ok, except_pure_ok, exists_const, not_lt,
      hlower t List.mem_cons_self, hcount]
    have hnext : ∀ t' ∈ ts, (seen ++ [t] ++ [t']).filter (t' - w < ·) =
        ((window ++ [t]).dropWhile (· ≤ t - w) ++ [t']).dropWhile (· ≤ t' - w) := by
      intro t' ht'
      have htt' : t ≤ t' :=
        (List.pairwise_append.mp hsorted').2.2 t (by simp) t' ht'
      have hsub : ((seen ++ [t]).filter (t - w < ·) ++ [t']).Pairwise (· ≤ ·) := by
        refine List.pairwise_append.mpr ⟨hseen.filter _, List.pairwise_singleton .., ?_⟩
        intro a ha b hb
        rw [List.mem_singleton.mp hb]
        exact (List.pairwise_append.mp hsorted').2.2 a (List.mem_of_mem_filter ha) t' ht'
      rw [← hstep, dropWhile_eq_filter hsub, List.filter_append (seen ++ [t]),
        List.filter_append (List.filter _ _), List.filter_filter]
      congr 1
      refine List.filter_congr fun s _ => ?_
      rw [eq_comm, Bool.and_eq_left_iff_imp]
      simp only [decide_eq_true_eq]
      omega
    have htail := ih (seen ++ [t]) ((window ++ [t]).dropWhile (· ≤ t - w)) hsorted'
      (fun t' ht' => hlower t' (List.mem_cons_of_mem _ ht')) hnext
    constructor
    · rintro ⟨window', window₁, ⟨hle, rfl⟩, h⟩ p t' q heq
      cases p with
      | nil =>
        cases heq
        rw [List.append_nil]
        exact hle
      | cons a p =>
        cases heq
        rw [← List.singleton_append, ← List.append_assoc]
        exact htail.mp ⟨window', h⟩ p t' q rfl
    · intro h
      have hle := h [] t ts rfl
      rw [List.append_nil] at hle
      obtain ⟨window', h'⟩ := htail.mpr fun p t' q heq => by
        rw [List.append_assoc seen, List.singleton_append]
        exact h (t :: p) t' q (congrArg _ heq)
      exact ⟨window', _, ⟨hle, rfl⟩, h'⟩

/-- Sorted instants are bounded when the window of each of them is. -/
theorem windowBounded_of_sorted (hsorted : ts.Pairwise (· ≤ ·))
    (h : ∀ p t q, ts = p ++ t :: q → windowCount w t (p ++ [t]) ≤ limit) :
    WindowBounded w limit ts := by
  intro t
  induction ts using List.reverseRecOn with
  | nil => exact Nat.zero_le _
  | append_singleton ts s ih =>
    obtain ⟨hts, -, hbefore⟩ := List.pairwise_append.mp hsorted
    have hbefore : ∀ a ∈ ts, a ≤ s := fun a ha => hbefore a ha s (List.mem_singleton_self s)
    by_cases hst : s ≤ t
    · refine (windowCount_le_of_le (fun a ha => ?_) hst).trans (h ts s [] rfl)
      rcases List.mem_append.mp ha with ha | ha
      · exact hbefore a ha
      · exact (List.mem_singleton.mp ha).le
    · have hlast : windowCount w t [s] = 0 := by
        rw [windowCount, List.countP_eq_zero]
        intro a ha
        rw [List.mem_singleton.mp ha]
        simp only [decide_eq_true_eq]
        omega
      rw [windowCount_append, hlast]
      refine ih hts fun p t' q heq => h p t' (q ++ [s]) ?_
      rw [heq, List.append_assoc, List.cons_append]

/-- The check of sorted instants is exact. -/
theorem checkWindows_ok {lower : ℤ → ℤ} {err : ε} (hsorted : ts.Pairwise (· ≤ ·))
    (hlower : ∀ t ∈ ts, lower t = t - w) :
    checkWindows lower limit err ts = .ok () ↔ WindowBounded w limit ts := by
  have hcheck : checkWindows lower limit err ts = .ok () ↔
      ∃ window, ts.foldlM (slide lower limit err) [] = .ok window := by
    unfold checkWindows
    rw [except_bind_ok]
    simp only [except_pure_ok, and_true]
  rw [hcheck, slideAll_ok [] [] hsorted hlower fun t _ =>
    (dropWhile_eq_filter (List.pairwise_singleton ..)).symm]
  constructor
  · exact fun h => windowBounded_of_sorted hsorted h
  · rintro h p t q rfl
    refine le_trans ?_ (h t)
    rw [List.nil_append, windowCount, windowCount]
    refine List.Sublist.countP_le ?_
    exact List.Sublist.append_left (List.singleton_sublist.mpr List.mem_cons_self) p

end Check

end Cthuwu
