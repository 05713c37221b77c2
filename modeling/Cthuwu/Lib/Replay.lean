import Mathlib.Data.Nat.Notation
import Cthuwu.Lib.Fallible

/-!
# Replaying a numbered log

A log of events numbered from one determines the state at every generation : replay the
first `g` events. `sweep` checks queries in the order of their generations while it moves
through the log once ; `sweep_ok` says that each query is then checked in the state of its
own generation.
-/

namespace Cthuwu

variable {ε σ ι α : Type}

/-- Apply events one after the other. -/
def replay (apply : σ → ι → Except ε σ) (s : σ) (events : List ι) : Except ε σ :=
  events.foldlM apply s

variable {apply : σ → ι → Except ε σ} {s t : σ} {events events' : List ι}

theorem replay_cons_ok {e : ι} : replay apply s (e :: events) = .ok t ↔
      ∃ u, apply s e = .ok u ∧ replay apply u events = .ok t := by
  unfold replay
  rw [List.foldlM_cons, except_bind_ok]

theorem replay_append_ok : replay apply s (events ++ events') = .ok t ↔
      ∃ u, replay apply s events = .ok u ∧ replay apply u events' = .ok t := by
  unfold replay
  rw [List.foldlM_append, except_bind_ok]

theorem replay_singleton {e : ι} : replay apply s [e] = apply s e := by
  unfold replay
  rw [List.foldlM_cons]
  cases apply s e <;> rfl

/-- The events are numbered one by one from `i + 1`. -/
def Numbered (stamp : ι → ℕ) : ℕ → List ι → Prop
  | _, [] => True
  | i, e :: events => stamp e = i + 1 ∧ Numbered stamp (i + 1) events

variable {i : ℕ}

theorem numbered_append {stamp : ι → ℕ} : Numbered stamp i (events ++ events') ↔
      Numbered stamp i events ∧ Numbered stamp (i + events.length) events' := by
  induction events generalizing i with
  | nil => simp [Numbered]
  | cons e events ih =>
    rw [List.cons_append, Numbered, Numbered, ih, and_assoc, List.length_cons, Nat.add_right_comm,
      Nat.add_assoc]

theorem numbered_singleton {stamp : ι → ℕ} {e : ι} : Numbered stamp i [e] ↔ stamp e = i + 1 := by
  rw [Numbered, Numbered, and_true]

/-- Replay the log, checking its numbers on the way. -/
def replayNumbered (stamp : ι → ℕ) (err : ε) (apply : σ → ι → Except ε σ) :
    ℕ → σ → List ι → Except ε σ
  | _, s, [] => .ok s
  | index, s, e :: events => do
    failIf (stamp e ≠ index + 1) err
    let s ← apply s e
    replayNumbered stamp err apply (index + 1) s events

theorem replayNumbered_ok {stamp : ι → ℕ} {err : ε} {index : ℕ} :
    replayNumbered stamp err apply index s events = .ok t ↔
      Numbered stamp index events ∧ replay apply s events = .ok t := by
  induction events generalizing index s with
  | nil => exact ⟨fun h => ⟨trivial, h⟩, fun h => h.2⟩
  | cons e events ih =>
    rw [replayNumbered, except_check_ok, failIf_ok, not_ne_iff, except_bind_ok, Numbered,
      replay_cons_ok]
    simp only [ih]
    constructor
    · rintro ⟨hstamp, u, hu, hnum, ht⟩
      exact ⟨⟨hstamp, hnum⟩, u, hu, ht⟩
    · rintro ⟨⟨hstamp, hnum⟩, u, hu, ht⟩
      exact ⟨hstamp, u, hu, hnum, ht⟩

/-! ## Sweeping the log once -/

/-- Apply the pending events up to a generation and keep the rest. -/
def advance (stamp : ι → ℕ) (apply : σ → ι → Except ε σ) (generation : ℕ) (s : σ) :
    List ι → Except ε (σ × List ι)
  | [] => .ok (s, [])
  | e :: pending =>
    if stamp e ≤ generation then do
      let s ← apply s e
      advance stamp apply generation s pending
    else .ok (s, e :: pending)

/-- Check each query in the state of its generation. -/
def sweep (stamp : ι → ℕ) (apply : σ → ι → Except ε σ) (generation : α → Except ε ℕ)
    (check : σ → α → Except ε Unit) (s : σ) (pending : List ι) : List α → Except ε Unit
  | [] => .ok ()
  | x :: xs => do
    let g ← generation x
    let (s, pending) ← advance stamp apply g s pending
    check s x
    sweep stamp apply generation check s pending xs

variable {stamp : ι → ℕ} {generation : α → Except ε ℕ} {check : σ → α → Except ε Unit}

theorem advance_ok {g : ℕ} {rest : List ι} (hnum : Numbered stamp i events) (hi : i ≤ g) :
    advance stamp apply g s events = .ok (t, rest) ↔
      replay apply s (events.take (g - i)) = .ok t ∧ rest = events.drop (g - i) := by
  induction events generalizing i s with
  | nil =>
    rw [advance, List.take_nil, List.drop_nil, Except.ok.injEq, Prod.mk.injEq]
    constructor
    · rintro ⟨rfl, rfl⟩
      exact ⟨rfl, rfl⟩
    · rintro ⟨ht, rfl⟩
      exact ⟨Except.ok.inj ht, rfl⟩
  | cons e events ih =>
    obtain ⟨hstamp, hnum⟩ := hnum
    rw [advance, hstamp]
    by_cases hg : i + 1 ≤ g
    · have hsub : g - i = (g - (i + 1)) + 1 := by omega
      rw [if_pos hg, except_bind_ok, hsub, List.take_succ_cons, List.drop_succ_cons, replay_cons_ok]
      simp only [ih hnum hg]
      constructor
      · rintro ⟨u, hu, ht, hrest⟩
        exact ⟨⟨u, hu, ht⟩, hrest⟩
      · rintro ⟨⟨u, hu, ht⟩, hrest⟩
        exact ⟨u, hu, ht, hrest⟩
    · have hsub : g - i = 0 := by omega
      rw [if_neg hg, hsub, List.take_zero, List.drop_zero, Except.ok.injEq, Prod.mk.injEq]
      constructor
      · rintro ⟨rfl, rfl⟩
        exact ⟨rfl, rfl⟩
      · rintro ⟨ht, rfl⟩
        exact ⟨Except.ok.inj ht, rfl⟩

/-- Advancing from the state of generation `i` reaches the state of generation `g`. -/
theorem advance_drop_ok {g : ℕ} {u v : σ} {rest : List ι} (hnum : Numbered stamp 0 events)
    (hu : replay apply s (events.take i) = .ok u) (hig : i ≤ g) :
    advance stamp apply g u (events.drop i) = .ok (v, rest) ↔
      replay apply s (events.take g) = .ok v ∧ rest = events.drop g := by
  have hnum' : Numbered stamp (min i events.length) (events.drop i) := by
    rw [← List.take_append_drop i events, numbered_append, Nat.zero_add, List.length_take] at hnum
    exact hnum.2
  have hsplit : replay apply s (events.take g) = .ok v ↔
      replay apply u ((events.take g).drop i) = .ok v := by
    have htake : (events.take g).take i = events.take i := by
      rw [List.take_take, Nat.min_eq_left hig]
    conv_lhs => rw [← List.take_append_drop i (events.take g), htake, replay_append_ok]
    constructor
    · rintro ⟨u', hu', hv⟩
      cases hu.symm.trans hu'
      exact hv
    · exact fun hv => ⟨u, hu, hv⟩
  rw [advance_ok hnum' (by omega), List.drop_drop, hsplit, List.drop_take]
  by_cases hlen : i ≤ events.length
  · have hadd : i + (g - i) = g := by omega
    rw [Nat.min_eq_left hlen, hadd]
  · have hdrop : events.drop i = [] := List.drop_eq_nil_of_le (by omega)
    have hdropg : events.drop g = [] := List.drop_eq_nil_of_le (by omega)
    have hdropi : events.drop (i + (g - min i events.length)) = [] :=
      List.drop_eq_nil_of_le (by omega)
    rw [hdrop, hdropg, hdropi, List.take_nil, List.take_nil]

/-- From generation `i` on, the queries of a sorted list are each checked in the state of
their own generation. -/
theorem sweep_from_ok {key : α → ℕ} {u : σ} {xs : List α} (hnum : Numbered stamp 0 events)
    (hu : replay apply s (events.take i) = .ok u)
    (hkey : ∀ x ∈ xs, ∀ g, generation x = .ok g → g = key x)
    (hsorted : xs.Pairwise fun x y => key x ≤ key y) (hi : ∀ x ∈ xs, i ≤ key x) :
    sweep stamp apply generation check u (events.drop i) xs = .ok () ↔
      ∀ x ∈ xs, ∃ g v, generation x = .ok g ∧ replay apply s (events.take g) = .ok v ∧
        check v x = .ok () := by
  induction xs generalizing i u with
  | nil => exact iff_of_true rfl (by simp)
  | cons x xs ih =>
    obtain ⟨hx, hsorted⟩ := List.pairwise_cons.mp hsorted
    have hkey' : ∀ y ∈ xs, ∀ g, generation y = .ok g → g = key y := fun y hy =>
      hkey y (List.mem_cons_of_mem _ hy)
    have hreach : ∀ g, generation x = .ok g → i ≤ g ∧ ∀ y ∈ xs, g ≤ key y := by
      intro g hg
      rw [hkey x List.mem_cons_self g hg]
      exact ⟨hi x List.mem_cons_self, hx⟩
    rw [sweep, except_bind_ok, List.forall_mem_cons]
    constructor
    · rintro ⟨g, hg, h⟩
      obtain ⟨hig, hnext⟩ := hreach g hg
      rw [except_bind_ok] at h
      obtain ⟨⟨v, rest⟩, hv, h⟩ := h
      rw [advance_drop_ok hnum hu hig] at hv
      obtain ⟨hv, rfl⟩ := hv
      obtain ⟨hcheck, h⟩ := except_check_ok.mp h
      exact ⟨⟨g, v, hg, hv, hcheck⟩, (ih hv hkey' hsorted hnext).mp h⟩
    · rintro ⟨⟨g, v, hg, hv, hcheck⟩, hxs⟩
      obtain ⟨hig, hnext⟩ := hreach g hg
      refine ⟨g, hg, except_bind_ok.mpr ⟨(v, events.drop g), ?_, ?_⟩⟩
      · exact (advance_drop_ok hnum hu hig).mpr ⟨hv, rfl⟩
      · exact except_check_ok.mpr ⟨hcheck, (ih hv hkey' hsorted hnext).mpr hxs⟩

/-- A sweep over sorted queries checks each in the state of its generation. -/
theorem sweep_ok {key : α → ℕ} {xs : List α} (hnum : Numbered stamp 0 events)
    (hkey : ∀ x ∈ xs, ∀ g, generation x = .ok g → g = key x)
    (hsorted : xs.Pairwise fun x y => key x ≤ key y) :
    sweep stamp apply generation check s events xs = .ok () ↔
      ∀ x ∈ xs, ∃ g v, generation x = .ok g ∧ replay apply s (events.take g) = .ok v ∧
        check v x = .ok () :=
  sweep_from_ok (i := 0) hnum rfl hkey hsorted fun _ _ => Nat.zero_le _

end Cthuwu
