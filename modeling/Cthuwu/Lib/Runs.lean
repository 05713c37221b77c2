import Mathlib.Tactic.Common

/-!
# Runs of a machine

A machine takes one step per label : `Allowed` says which labels the outside may present
in a state, and `next` is what the machine does with one. `Reachable.invariant` proves a
property of every reachable state from one step of it. `restrict` allows fewer labels, so
that a property can be proved of the runs whose every step meets a condition, and `Admits`
checks one list of labels, so that a given run can be shown to be one. Where a condition is
exact for each step, `admits_restrict_iff` makes it exact for whole runs.

A log has its last entry first. `Each P log` says that every entry satisfies `P` beside the entries
before it, and `Since p q log` that some entry satisfies `q` and all later ones satisfy `p`. Both
are read off a log one entry at a time (`each_cons`, `since_cons`).
-/

namespace Cthuwu

/-- A deterministic machine on states `σ` with inputs `ℓ`. -/
structure Machine (σ ℓ : Type) where
  init : σ
  Allowed : σ → ℓ → Prop
  next : σ → ℓ → σ

namespace Machine

variable {σ ℓ : Type}

/-- The states some run from the initial one ends in. -/
inductive Reachable (M : Machine σ ℓ) : σ → Prop
  | init : Reachable M M.init
  | next {s : σ} {l : ℓ} (h : Reachable M s) (hl : M.Allowed s l) : Reachable M (M.next s l)

variable {M : Machine σ ℓ}

/-- A property of the initial state that every allowed step preserves holds of every
reachable state. The step may use that its own state is reachable. -/
theorem Reachable.invariant {P : σ → Prop} (hinit : P M.init)
    (hnext : ∀ s l, M.Reachable s → P s → M.Allowed s l → P (M.next s l)) {s : σ}
    (h : M.Reachable s) : P s := by
  induction h with
  | init => exact hinit
  | next h hl ih => exact hnext _ _ h ih hl

/-- The machine whose steps also satisfy `c`. -/
def restrict (M : Machine σ ℓ) (c : σ → ℓ → Prop) : Machine σ ℓ :=
  { M with Allowed := fun s l => M.Allowed s l ∧ c s l }

variable {c : σ → ℓ → Prop}

theorem Reachable.of_restrict {s : σ} (h : (M.restrict c).Reachable s) : M.Reachable s := by
  induction h with
  | init => exact .init
  | next _ hl ih => exact ih.next hl.1

/-- The labels may be presented one after another. -/
def Admits (M : Machine σ ℓ) (s : σ) : List ℓ → Prop
  | [] => True
  | l :: ls => M.Allowed s l ∧ M.Admits (M.next s l) ls

/-- A first label and those from the state it leads to. -/
theorem admits_cons {s s' : σ} {l : ℓ} {ls : List ℓ} (hallowed : M.Allowed s l)
    (hnext : M.next s l = s') (h : M.Admits s' ls) : M.Admits s (l :: ls) := by
  subst hnext
  exact ⟨hallowed, h⟩

/-- Labels that are always allowed may be presented in any order. -/
theorem admits_of_forall {s : σ} {ls : List ℓ} (h : ∀ t l, M.Allowed t l) : M.Admits s ls := by
  induction ls generalizing s with
  | nil => exact trivial
  | cons l ls ih => exact ⟨h s l, ih⟩

theorem Reachable.run {s : σ} (h : M.Reachable s) {ls : List ℓ} (hls : M.Admits s ls) :
    M.Reachable (ls.foldl M.next s) := by
  induction ls generalizing s with
  | nil => exact h
  | cons l ls ih => exact ih (h.next hls.1) hls.2

theorem Admits.restrict {s : σ} {ls : List ℓ} (h : M.Admits s ls) (hc : ∀ t, ∀ l ∈ ls, c t l) :
    (M.restrict c).Admits s ls := by
  induction ls generalizing s with
  | nil => exact trivial
  | cons l ls ih =>
    exact ⟨⟨h.1, hc s l List.mem_cons_self⟩,
      ih h.2 fun t l' hl' => hc t l' (List.mem_cons_of_mem _ hl')⟩

/-- A run is admitted when its first part is, and the rest is from where that leads. -/
theorem admits_append {s : σ} {ls ls' : List ℓ} :
    M.Admits s (ls ++ ls') ↔ M.Admits s ls ∧ M.Admits (ls.foldl M.next s) ls' := by
  induction ls generalizing s with
  | nil => exact ⟨fun h => ⟨trivial, h⟩, fun h => h.2⟩
  | cons l ls ih =>
    rw [List.cons_append, List.foldl_cons]
    exact (and_congr_right fun _ => ih).trans and_assoc.symm

/-- A run beside the run without the labels that are not kept : what both steps preserve together,
and a skipped step alone, holds of the states both lead to. -/
theorem Admits.related_filter {R : σ → σ → Prop} {keep : ℓ → Bool}
    (hkeep : ∀ s t l, R s t → M.Allowed s l → keep l = true → R (M.next s l) (M.next t l))
    (hskip : ∀ s t l, R s t → M.Allowed s l → keep l = false → R (M.next s l) t) {s t : σ}
    {ls : List ℓ} (h : M.Admits s ls) (hR : R s t) :
    R (ls.foldl M.next s) ((ls.filter keep).foldl M.next t) := by
  induction ls generalizing s t with
  | nil => exact hR
  | cons l ls ih =>
    by_cases hl : keep l = true
    · rw [List.filter_cons_of_pos hl]
      exact ih h.2 (hkeep s t l hR h.1 hl)
    · rw [List.filter_cons_of_neg hl]
      exact ih h.2 (hskip s t l hR h.1 (by simpa using hl))

theorem Admits.of_restrict {s : σ} {ls : List ℓ} (h : (M.restrict c).Admits s ls) :
    M.Admits s ls := by
  induction ls generalizing s with
  | nil => exact trivial
  | cons l ls ih => exact ⟨h.1.1, ih h.2⟩

/-- When a condition keeps an invariant, and what follows from the invariant shows that the condition
was met, the condition decides which runs satisfy what follows in all their states. -/
theorem admits_restrict_iff_shown {P Q : σ → Prop} (hshows : ∀ s, P s → Q s)
    (hkeeps : ∀ s l, M.Reachable s → P s → M.Allowed s l → c s l → P (M.next s l))
    (hmet : ∀ s l, M.Reachable s → P s → M.Allowed s l → Q (M.next s l) → c s l) {s : σ}
    (hs : M.Reachable s) (hP : P s) {ls : List ℓ} (hls : M.Admits s ls) :
    (∀ n, Q ((ls.take n).foldl M.next s)) ↔ (M.restrict c).Admits s ls := by
  induction ls generalizing s with
  | nil => exact iff_of_true (fun n => by rw [List.take_nil]; exact hshows s hP) trivial
  | cons l ls ih =>
    constructor
    · intro h
      have hc : c s l := hmet s l hs hP hls.1 (h 1)
      exact ⟨⟨hls.1, hc⟩,
        (ih (hs.next hls.1) (hkeeps s l hs hP hls.1 hc) hls.2).mp fun n => h (n + 1)⟩
    · rintro ⟨⟨-, hc⟩, h⟩ n
      cases n with
      | zero => exact hshows s hP
      | succ n => exact (ih (hs.next hls.1) (hkeeps s l hs hP hls.1 hc) hls.2).mpr h n

/-- When a condition decides what each step does to a property, it decides which runs keep the
property in all their states. -/
theorem admits_restrict_iff {P : σ → Prop}
    (hnext : ∀ s l, M.Reachable s → P s → M.Allowed s l → (P (M.next s l) ↔ c s l)) {s : σ}
    (hs : M.Reachable s) (hP : P s) {ls : List ℓ} (hls : M.Admits s ls) :
    (∀ n, P ((ls.take n).foldl M.next s)) ↔ (M.restrict c).Admits s ls :=
  admits_restrict_iff_shown (fun _ h => h) (fun s l hs hP hl => (hnext s l hs hP hl).mpr)
    (fun s l hs hP hl => (hnext s l hs hP hl).mp) hs hP hls

instance {c : σ → ℓ → Prop} [∀ s l, Decidable (M.Allowed s l)] [∀ s l, Decidable (c s l)] (s : σ)
    (l : ℓ) : Decidable ((M.restrict c).Allowed s l) :=
  inferInstanceAs (Decidable (M.Allowed s l ∧ c s l))

instance decidableAdmits [∀ s l, Decidable (M.Allowed s l)] (s : σ) :
    (ls : List ℓ) → Decidable (M.Admits s ls)
  | [] => isTrue trivial
  | l :: ls =>
    have := decidableAdmits (M.next s l) ls
    inferInstanceAs (Decidable (M.Allowed s l ∧ M.Admits (M.next s l) ls))

end Machine

end Cthuwu

/-! ## The past of a log -/

namespace Cthuwu

variable {ε : Type} {P : ε → List ε → Prop} {p q : ε → Prop} {e : ε} {log : List ε}

/-- Every entry satisfies `P` beside the entries before it. -/
def Each (P : ε → List ε → Prop) (log : List ε) : Prop :=
  ∀ later e earlier, log = later ++ e :: earlier → P e earlier

theorem each_nil : Each P [] := fun later e earlier h => by
  cases later <;> cases h

theorem each_cons : Each P (e :: log) ↔ P e log ∧ Each P log := by
  constructor
  · intro h
    exact ⟨h [] e log rfl, fun later e' earlier hlog => h (e :: later) e' earlier (by rw [hlog]; rfl)⟩
  · rintro ⟨he, h⟩ later e' earlier hlog
    cases later with
    | nil =>
      obtain ⟨rfl, rfl⟩ := List.cons.inj hlog
      exact he
    | cons e'' later => exact h later e' earlier (List.cons.inj hlog).2

theorem Each.append {l : List ε} (h : Each P log) (hl : ∀ e ∈ l, ∀ earlier, P e earlier) :
    Each P (l ++ log) := by
  induction l with
  | nil => exact h
  | cons e l ih =>
    exact (each_cons).mpr ⟨hl e List.mem_cons_self _, ih fun e he => hl e (List.mem_cons_of_mem _ he)⟩

/-- Some entry satisfies `q`, and all later ones satisfy `p`. -/
def Since (p q : ε → Prop) (log : List ε) : Prop :=
  ∃ later e earlier, log = later ++ e :: earlier ∧ q e ∧ ∀ e' ∈ later, p e'

theorem since_cons : Since p q (e :: log) ↔ q e ∨ p e ∧ Since p q log := by
  constructor
  · rintro ⟨later, e', earlier, hlog, hq, hp⟩
    cases later with
    | nil =>
      obtain ⟨rfl, rfl⟩ := List.cons.inj hlog
      exact .inl hq
    | cons e'' later =>
      obtain ⟨rfl, rfl⟩ := List.cons.inj hlog
      exact .inr ⟨hp e List.mem_cons_self, later, e', earlier, rfl, hq,
        fun x hx => hp x (List.mem_cons_of_mem _ hx)⟩
  · rintro (hq | ⟨hp, later, e', earlier, rfl, hq, hlater⟩)
    · exact ⟨[], e, log, rfl, hq, nofun⟩
    · refine ⟨e :: later, e', earlier, rfl, hq, fun x hx => ?_⟩
      rcases List.mem_cons.mp hx with rfl | hx
      · exact hp
      · exact hlater x hx

theorem Since.exists_mem (h : Since p q log) : ∃ e ∈ log, q e := by
  obtain ⟨later, e, earlier, rfl, hq, -⟩ := h
  exact ⟨e, by simp, hq⟩

end Cthuwu
