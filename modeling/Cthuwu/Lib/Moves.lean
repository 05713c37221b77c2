import Mathlib.Algebra.BigOperators.Group.List.Basic
import Mathlib.Algebra.Order.Group.Int
import Mathlib.Algebra.Ring.Int.Defs
import Cthuwu.Lib.Fallible

/-!
# Operations as lists of moves

What an operation does to a state is written as a list of moves, each justified in the state
where it happens. `Performs` strings them together, so that an invariant is proved once for
each kind of move (`Performs.invariant`), also when the world records more beside the state
(`Performs.recorded`).

`Does` reads the moves off an operation along its steps, whether it returns or fails. Moves have a
weight, and those of an operation that returns weigh nothing together : a measure that no move
raises by more than its weight does not grow (`Performs.measure`).
-/

namespace Cthuwu
open Fallible

/-- How moves act on a state, and when they can happen. -/
structure Moves (σ μ : Type) where
  apply : σ → μ → σ
  Justified : σ → μ → Prop

namespace Moves

variable {σ μ ω : Type} {M : Moves σ μ} {s s' s'' : σ} {m : μ} {ms ms' : List μ}

/-- The moves happen one after another, and lead to `s'`. -/
def Performs (M : Moves σ μ) (s : σ) : List μ → σ → Prop
  | [], s' => s' = s
  | m :: ms, s' => M.Justified s m ∧ M.Performs (M.apply s m) ms s'

theorem performs_nil : M.Performs s [] s := rfl

theorem performs_singleton (h : M.Justified s m) : M.Performs s [m] (M.apply s m) :=
  ⟨h, rfl⟩

theorem Performs.append (h : M.Performs s ms s') (h' : M.Performs s' ms' s'') :
    M.Performs s (ms ++ ms') s'' := by
  induction ms generalizing s with
  | nil =>
    obtain rfl : s' = s := h
    exact h'
  | cons m ms ih => exact ⟨h.1, ih h.2⟩

theorem Performs.eq (h : M.Performs s ms s') : s' = ms.foldl M.apply s := by
  induction ms generalizing s with
  | nil => exact h
  | cons m ms ih => exact ih h.2

/-- What each of the moves keeps, all of them keep, in a world with a view of the state. -/
theorem Performs.recorded {view : ω → σ} {act : ω → μ → ω} {P : ω → Prop} {w : ω}
    (hview : ∀ w m, view (act w m) = M.apply (view w) m) (h : M.Performs (view w) ms s') (hw : P w)
    (hmove : ∀ w, ∀ m ∈ ms, P w → M.Justified (view w) m → P (act w m)) : P (ms.foldl act w) := by
  induction ms generalizing w with
  | nil => exact hw
  | cons m ms ih =>
    have hrest : M.Performs (view (act w m)) ms s' := by
      rw [hview]
      exact h.2
    exact ih hrest (hmove w m List.mem_cons_self hw h.1)
      fun w next hnext => hmove w next (List.mem_cons_of_mem _ hnext)

/-- What each of the moves keeps, all of them keep. -/
theorem Performs.invariant {P : σ → Prop} (h : M.Performs s ms s') (hs : P s)
    (hmove : ∀ s, ∀ m ∈ ms, P s → M.Justified s m → P (M.apply s m)) : P s' := by
  rw [h.eq]
  exact h.recorded (ω := σ) (fun _ _ => rfl) hs hmove

/-- A measure grows by no more than what the moves weigh. -/
theorem Performs.measure {weight : μ → ℤ} {measure : σ → ℤ} (h : M.Performs s ms s')
    (hmove : ∀ s m, M.Justified s m → measure (M.apply s m) ≤ measure s + weight m) :
    measure s' ≤ measure s + (ms.map weight).sum := by
  induction ms generalizing s with
  | nil =>
    obtain rfl : s' = s := h
    rw [List.map_nil, List.sum_nil, add_zero]
  | cons m ms ih =>
    have hfirst := hmove s m h.1
    have hrest := ih h.2
    rw [List.map_cons, List.sum_cons]
    omega

/-! ## The moves of an operation -/

section Does

variable {ε α β : Type} {weight : μ → ℤ} {kind : μ → Prop}

/-- From `s`, the operation does what some justified moves of a kind do. When it returns, they
weigh nothing together. -/
def Does (M : Moves σ μ) (weight : μ → ℤ) (kind : μ → Prop) (x : Fallible ε σ α) (s : σ) : Prop :=
  ∃ ms, M.Performs s ms (x.after s) ∧ (∀ m ∈ ms, kind m) ∧
    ∀ a, (x.exec s).1 = .ok a → (ms.map weight).sum ≤ 0

variable {x : Fallible ε σ α} {f : α → Fallible ε σ β}

/-- A read does nothing. -/
theorem does_of_after (h : x.after s = s) : M.Does weight kind x s :=
  ⟨[], h, fun _ hm => absurd hm List.not_mem_nil, fun _ _ => le_rfl⟩

/-- Operations that run alike do the same. -/
theorem Does.of_exec {y : Fallible ε σ α} (h : M.Does weight kind y s) (hexec : x.exec s = y.exec s) :
    M.Does weight kind x s := by
  unfold Does Fallible.after at h ⊢
  rwa [hexec]

theorem does_pure (a : α) : M.Does weight kind (pure a : Fallible ε σ α) s :=
  does_of_after rfl

theorem does_get_bind {f : σ → Fallible ε σ β} (h : M.Does weight kind (f s) s) :
    M.Does weight kind (get >>= f) s := by
  unfold Does Fallible.after at h ⊢
  rwa [exec_get_bind]

/-- What follows a check may use that it has passed. -/
theorem does_lift_bind {x : Except ε α} (h : ∀ a, x = .ok a → M.Does weight kind (f a) s) :
    M.Does weight kind (liftM x >>= f) s := by
  cases x with
  | error e =>
    refine does_of_after ?_
    unfold Fallible.after
    rw [exec_lift_bind]
  | ok a =>
    have ha := h a rfl
    unfold Does Fallible.after at ha ⊢
    rwa [exec_lift_bind]

/-- What follows an operation may use what that has returned. -/
theorem Does.bind (hx : M.Does weight kind x s)
    (hf : ∀ a s', x.exec s = (.ok a, s') → M.Does weight kind (f a) s') :
    M.Does weight kind (x >>= f) s := by
  obtain ⟨ms, hperforms, hkind, hweight⟩ := hx
  unfold Fallible.after at hperforms
  rcases hexec : x.exec s with ⟨result, s'⟩
  rw [hexec] at hperforms hweight
  cases result with
  | error e =>
    refine ⟨ms, ?_, hkind, fun a ha => ?_⟩
    · unfold Fallible.after
      rwa [exec_bind, hexec]
    · rw [exec_bind, hexec] at ha
      cases ha
  | ok a =>
    obtain ⟨ms', hperforms', hkind', hweight'⟩ := hf a s' hexec
    unfold Fallible.after at hperforms'
    refine ⟨ms ++ ms', ?_, ?_, fun b hb => ?_⟩
    · unfold Fallible.after
      rw [exec_bind, hexec]
      exact hperforms.append hperforms'
    · intro m hm
      rcases List.mem_append.mp hm with hm | hm
      · exact hkind m hm
      · exact hkind' m hm
    · rw [exec_bind, hexec] at hb
      rw [List.map_append, List.sum_append]
      have hfirst := hweight a rfl
      have hrest := hweight' b hb
      omega

/-- A write that is one move of no weight. -/
theorem does_modify {f : σ → σ} {m : μ} (hm : M.Justified s m) (hkind : kind m)
    (hf : f s = M.apply s m) (hweight : weight m ≤ 0) :
    M.Does weight kind (modify f : Fallible ε σ PUnit) s := by
  refine ⟨[m], ⟨hm, hf⟩, ?_, fun _ _ => ?_⟩
  · rintro m' hm'
    rwa [List.mem_singleton.mp hm']
  · rwa [List.map_singleton, List.sum_singleton]

end Does

end Moves

end Cthuwu
