import Mathlib.Data.Finset.Lattice.Lemmas
import Cthuwu.Lib.Fallible

/-!
# Loops that fill a batch

A loop makes something of each element until the batch is full, and skips elements by what it
has made before. `foldlM_fill` says that such a loop makes the first elements that it does not
skip, and `mapM_ok` when making all of a list succeeds. A loop that checks each element against
those it has seen passes when each one is good and any two are apart (`foldlM_apart`).
-/

namespace Cthuwu

variable {ε α β K : Type} [DecidableEq K] {f : α → Except ε β} {l : List α} {ys : List β}

/-! ## Making all of a list -/

theorem mapM_ok : l.mapM f = .ok ys ↔ List.Forall₂ (fun x y => f x = .ok y) l ys := by
  induction l generalizing ys with
  | nil =>
    rw [List.mapM_nil, except_pure_ok, List.forall₂_nil_left_iff, eq_comm]
  | cons x l ih =>
    rw [List.mapM_cons, except_bind_ok]
    simp only [except_bind_ok, except_pure_ok, ih]
    constructor
    · rintro ⟨y, hy, ys, hys, rfl⟩
      exact .cons hy hys
    · rintro (_ | ⟨hy, hys⟩)
      exact ⟨_, hy, _, hys, rfl⟩

theorem exists_of_mem_mapM {y : β} (h : l.mapM f = .ok ys) (hy : y ∈ ys) :
    ∃ x ∈ l, f x = .ok y := by
  have hall := (mapM_ok).mp h
  clear h
  induction hall with
  | nil => exact absurd hy List.not_mem_nil
  | cons hfirst _ ih =>
    rcases List.mem_cons.mp hy with rfl | hy
    · exact ⟨_, List.mem_cons_self, hfirst⟩
    · obtain ⟨x, hx, hfx⟩ := ih hy
      exact ⟨x, List.mem_cons_of_mem _ hx, hfx⟩

theorem mapM_isOk : (l.mapM f).isOk ↔ ∀ x ∈ l, (f x).isOk := by
  induction l with
  | nil => exact iff_of_true rfl (by simp)
  | cons x l ih =>
    rw [List.mapM_cons, List.forall_mem_cons, ← ih]
    cases f x with
    | error err => exact iff_of_false Bool.false_ne_true fun h => absurd h.1 Bool.false_ne_true
    | ok y =>
      cases l.mapM f with
      | error err => exact iff_of_false Bool.false_ne_true fun h => absurd h.2 Bool.false_ne_true
      | ok ys => exact iff_of_true rfl ⟨rfl, rfl⟩

/-- A loop that remembers what it has seen passes when each element is good, clear of what was seen
before, and apart from the earlier ones. -/
theorem foldlM_apart {σ : Type} {step : σ → α → Except ε σ} (see : σ → α → σ) (Good : α → Prop)
    (Clear : σ → α → Prop) (Apart : α → α → Prop)
    (hstep : ∀ s x s', step s x = .ok s' ↔ (Good x ∧ Clear s x) ∧ s' = see s x)
    (hsee : ∀ s x y, Clear (see s x) y ↔ Clear s y ∧ Apart x y) {s s' : σ} :
    l.foldlM step s = .ok s' ↔
      (∀ x ∈ l, Good x ∧ Clear s x) ∧ l.Pairwise Apart ∧ s' = l.foldl see s := by
  induction l generalizing s with
  | nil =>
    rw [List.foldlM_nil, except_pure_ok]
    exact ⟨fun h => ⟨fun _ hx => absurd hx List.not_mem_nil, .nil, h.symm⟩, fun h => h.2.2.symm⟩
  | cons x l ih =>
    rw [List.foldlM_cons, except_bind_ok]
    simp only [hstep, ih, List.forall_mem_cons, List.pairwise_cons, List.foldl_cons]
    constructor
    · rintro ⟨_, ⟨hx, rfl⟩, hl, hapart, rfl⟩
      simp only [hsee] at hl
      exact ⟨⟨hx, fun y hy => ⟨(hl y hy).1, (hl y hy).2.1⟩⟩,
        ⟨fun y hy => (hl y hy).2.2, hapart⟩, rfl⟩
    · rintro ⟨⟨hx, hl⟩, ⟨hhead, hapart⟩, rfl⟩
      refine ⟨_, ⟨hx, rfl⟩, fun y hy => ?_, hapart, rfl⟩
      rw [hsee]
      exact ⟨(hl y hy).1, (hl y hy).2, hhead y hy⟩

variable {batch : List β} {made : Finset K}

/-- Make something of an element, unless the batch is full or the element is skipped. -/
def fill (limit : ℕ) (key : α → K) (skip : Finset K → α → Bool) (f : α → Except ε β)
    (filled : List β × Finset K) (x : α) : Except ε (List β × Finset K) :=
  if filled.1.length = limit ∨ skip filled.2 x = true then .ok filled
  else do
    let y ← f x
    return (filled.1 ++ [y], insert (key x) filled.2)

/-- The loop makes the first elements that are not skipped at its start. -/
theorem foldlM_fill (limit : ℕ) (key : α → K) (skip : Finset K → α → Bool) (f : α → Except ε β)
    (hskip : l.Pairwise fun x y => ∀ made, skip (insert (key x) made) y = skip made y)
    (hroom : batch.length ≤ limit) : l.foldlM (fill limit key skip f) (batch, made) = (do
      let ys ← ((l.filter (!skip made ·)).take (limit - batch.length)).mapM f
      return (batch ++ ys,
        (((l.filter (!skip made ·)).take (limit - batch.length)).map key).toFinset ∪ made)) := by
  induction l generalizing batch made with
  | nil => simp [Finset.empty_union]
  | cons x l ih =>
    obtain ⟨hhead, hskip⟩ := List.pairwise_cons.mp hskip
    rw [List.foldlM_cons, fill]
    dsimp only
    by_cases hfull : batch.length = limit
    · rw [if_pos (.inl hfull)]
      change l.foldlM (fill limit key skip f) (batch, made) = _
      rw [ih hskip hroom, hfull, Nat.sub_self, List.take_zero, List.take_zero]
    · by_cases hx : skip made x = true
      · rw [if_pos (.inr hx)]
        change l.foldlM (fill limit key skip f) (batch, made) = _
        rw [ih hskip hroom, List.filter_cons_of_neg (by simp [hx])]
      · have hlater : ∀ y ∈ l, (!skip (insert (key x) made) y) = !skip made y :=
          fun y hy => congrArg _ (hhead y hy made)
        have hlength : limit - batch.length = limit - (batch.length + 1) + 1 := by omega
        rw [if_neg (not_or.mpr ⟨hfull, hx⟩), List.filter_cons_of_pos (by simp [hx]), hlength,
          List.take_succ_cons, List.mapM_cons]
        cases f x with
        | error err => rfl
        | ok y =>
          change l.foldlM (fill limit key skip f) (batch ++ [y], insert (key x) made) = _
          have hgrown : (batch ++ [y]).length = batch.length + 1 := List.length_append
          rw [ih hskip (by omega), hgrown, List.filter_congr hlater, List.map_cons,
            List.toFinset_cons, Finset.insert_union, ← Finset.union_insert]
          change _ = (do
            let ys ← (do let ys ← _; return y :: ys)
            return _)
          rw [bind_assoc]
          simp only [pure_bind, List.append_assoc, List.singleton_append]

end Cthuwu
