import Mathlib.Data.List.Induction
import Mathlib.Data.Set.Insert
import Mathlib.Order.Basic
import Mathlib.Tactic.Order

/-!
# Selecting a greatest element for each key

A replica that keeps for each key the greatest element it has heard depends only on which
elements those are. `hearing` is one more element, heard for the first time or again : it is
commutative, associative and idempotent. `Selects` relates what was heard to what is kept, and
`Selects.agree` compares two replicas : when each has heard what the other keeps, they keep the
same.
-/

namespace Cthuwu

variable {α κ ρ : Type} [LinearOrder ρ] {key : α → κ} {rank : α → ρ}
  {heard heard' : Set α} {best best' : κ → Option α} {a b : α} {k : κ}

/-- For each key, `best` is a greatest of the elements heard. -/
structure Selects (key : α → κ) (rank : α → ρ) (heard : Set α) (best : κ → Option α) : Prop where
  sound : ∀ k a, best k = some a → a ∈ heard ∧ key a = k
  complete : ∀ a ∈ heard, ∃ b, best (key a) = some b ∧ rank a ≤ rank b

/-- The greater of the element kept and another one. -/
def greater (rank : α → ρ) (kept : Option α) (a : α) : α :=
  match kept with
  | none => a
  | some b => if rank b < rank a then a else b

/-- What is kept after hearing one more element. -/
def hearing [DecidableEq κ] (key : α → κ) (rank : α → ρ) (best : κ → Option α) (a : α) (k : κ) :
    Option α :=
  if k = key a then some (greater rank (best k) a) else best k

/-! ## Laws -/

theorem greater_idem (kept : Option α) :
    greater rank (some (greater rank kept a)) a = greater rank kept a := by
  cases kept with
  | none => simp [greater]
  | some c =>
    unfold greater
    dsimp only
    split_ifs <;> rfl

theorem greater_assoc (kept : Option α) :
    greater rank (some (greater rank kept a)) b = greater rank kept (greater rank (some a) b) := by
  cases kept with
  | none => rfl
  | some c =>
    unfold greater
    dsimp only
    split_ifs
    all_goals first | rfl | (exfalso; order)

theorem greater_comm (kept : Option α) (h : rank a = rank b → a = b) :
    greater rank (some (greater rank kept a)) b = greater rank (some (greater rank kept b)) a := by
  have heq (hab : ¬rank a < rank b) (hba : ¬rank b < rank a) : a = b :=
    h (le_antisymm (not_lt.mp hba) (not_lt.mp hab))
  cases kept with
  | none =>
    unfold greater
    dsimp only
    split_ifs with hab hba hba
    · exact absurd hba hab.asymm
    · rfl
    · rfl
    · exact heq hab hba
  | some c =>
    unfold greater
    dsimp only
    split_ifs
    all_goals first | rfl | (exfalso; order) | exact heq ‹_› ‹_›

section Laws

variable [DecidableEq κ]

/-- An element heard twice is heard once. -/
theorem hearing_idem : hearing key rank (hearing key rank best a) a = hearing key rank best a := by
  funext k
  unfold hearing
  split_ifs
  · rw [greater_idem]
  · rfl

/-- Two elements of a key count as the greater one. -/
theorem hearing_assoc (hkey : key a = key b) : hearing key rank (hearing key rank best a) b =
    hearing key rank best (greater rank (some a) b) := by
  have hgreater : key (greater rank (some a) b) = key b := by
    unfold greater
    dsimp only
    split_ifs
    · rfl
    · exact hkey
  funext k
  unfold hearing
  rw [hgreater, hkey]
  split_ifs
  · rw [greater_assoc]
  · rfl

/-- Two elements may be heard in either order. -/
theorem hearing_comm (h : rank a = rank b → a = b) :
    hearing key rank (hearing key rank best a) b = hearing key rank (hearing key rank best b) a := by
  funext k
  unfold hearing
  split_ifs
  · rw [greater_comm _ h]
  all_goals rfl

end Laws

/-! ## Selection -/

theorem selects_empty : Selects key rank ∅ fun _ => none where
  sound := fun _ _ h => by cases h
  complete := fun _ h => absurd h (Set.notMem_empty _)

theorem greater_eq (rank : α → ρ) (kept : Option α) (a : α) :
    greater rank kept a = a ∨ kept = some (greater rank kept a) := by
  unfold greater
  cases kept with
  | none => exact .inl rfl
  | some b =>
    dsimp only
    split_ifs
    · exact .inl rfl
    · exact .inr rfl

theorem le_greater (rank : α → ρ) (kept : Option α) (a : α) : rank a ≤ rank (greater rank kept a) ∧
      ∀ b, kept = some b → rank b ≤ rank (greater rank kept a) := by
  unfold greater
  cases kept with
  | none => exact ⟨le_rfl, fun b h => by cases h⟩
  | some b =>
    dsimp only
    split_ifs with hlt
    · exact ⟨le_rfl, fun c hc => by cases hc; exact hlt.le⟩
    · exact ⟨not_lt.mp hlt, fun c hc => by cases hc; exact le_rfl⟩

/-- Hearing an element keeps the greater one under its key. -/
theorem Selects.hear [DecidableEq κ] (h : Selects key rank heard best) :
    Selects key rank (insert a heard) (hearing key rank best a) := by
  refine ⟨fun k b hb => ?_, fun b hb => ?_⟩
  · unfold hearing at hb
    split_ifs at hb with hk
    · cases hb
      rcases greater_eq rank (best k) a with heq | hkept
      · rw [heq]
        exact ⟨Set.mem_insert a heard, hk.symm⟩
      · obtain ⟨hmem, hkey⟩ := h.sound k _ hkept
        exact ⟨Set.mem_insert_of_mem a hmem, hkey⟩
    · obtain ⟨hmem, hkey⟩ := h.sound k b hb
      exact ⟨Set.mem_insert_of_mem a hmem, hkey⟩
  · obtain ⟨hle, hkept⟩ := le_greater rank (best (key b)) a
    rcases Set.mem_insert_iff.mp hb with rfl | hb
    · exact ⟨_, if_pos rfl, hle⟩
    · obtain ⟨c, hc, hbc⟩ := h.complete b hb
      unfold hearing
      split_ifs with hk
      · exact ⟨_, rfl, hbc.trans (hkept c hc)⟩
      · exact ⟨c, hc, hbc⟩

/-- What is kept after hearing the elements of a list. -/
theorem selects_foldl [DecidableEq κ] (key : α → κ) (rank : α → ρ) (l : List α) :
    Selects key rank {a | a ∈ l} (l.foldl (hearing key rank) fun _ => none) := by
  induction l using List.reverseRecOn with
  | nil => simpa using selects_empty
  | append_singleton l a ih =>
    have hset : {b | b ∈ l ++ [a]} = insert a {b | b ∈ l} := by
      ext b
      simp [or_comm]
    rw [List.foldl_append, hset]
    exact ih.hear

/-- What is kept is no less than anything heard under the key. -/
theorem Selects.le (h : Selects key rank heard best) (ha : best k = some a) (hb : b ∈ heard)
    (hkey : key b = k) : rank b ≤ rank a := by
  obtain ⟨c, hc, hle⟩ := h.complete b hb
  rw [hkey, ha] at hc
  cases hc
  exact hle

/-- When no two elements heard have one rank, what is kept is the greatest. -/
theorem Selects.eq_some_iff (h : Selects key rank heard best)
    (hrank : ∀ a ∈ heard, ∀ b ∈ heard, rank a = rank b → a = b) : best k = some a ↔
      a ∈ heard ∧ key a = k ∧ ∀ b ∈ heard, key b = k → rank b ≤ rank a := by
  constructor
  · intro ha
    obtain ⟨hmem, hkey⟩ := h.sound k a ha
    exact ⟨hmem, hkey, fun b hb hkey => h.le ha hb hkey⟩
  · rintro ⟨hmem, rfl, hmax⟩
    obtain ⟨b, hb, hle⟩ := h.complete a hmem
    obtain ⟨hbmem, hbkey⟩ := h.sound _ b hb
    obtain rfl := hrank a hmem b hbmem (le_antisymm hle (hmax b hbmem hbkey))
    exact hb

theorem Selects.eq_none_iff (h : Selects key rank heard best) :
    best k = none ↔ ∀ a ∈ heard, key a ≠ k := by
  constructor
  · rintro hnone a ha rfl
    obtain ⟨b, hb, -⟩ := h.complete a ha
    rw [hnone] at hb
    cases hb
  · intro hall
    cases hbest : best k with
    | none => rfl
    | some a =>
      obtain ⟨hmem, hkey⟩ := h.sound k a hbest
      exact absurd hkey (hall a hmem)

/-- Two replicas, each of which has heard what the other keeps, keep the same. -/
theorem Selects.agree (h : Selects key rank heard best) (h' : Selects key rank heard' best')
    (hrank : ∀ a ∈ heard, ∀ b ∈ heard', rank a = rank b → a = b)
    (hto : ∀ k a, best k = some a → a ∈ heard') (hfrom : ∀ k a, best' k = some a → a ∈ heard) :
    best = best' := by
  funext k
  cases hbest : best k with
  | none =>
    refine (h'.eq_none_iff.mpr fun a ha hkey => ?_).symm
    obtain ⟨b, hb, -⟩ := h'.complete a ha
    rw [hkey] at hb
    exact h.eq_none_iff.mp hbest b (hfrom k b hb) (h'.sound k b hb).2
  | some a =>
    obtain ⟨hmem, hkey⟩ := h.sound k a hbest
    obtain ⟨b, hb, hle⟩ := h'.complete a (hto k a hbest)
    rw [hkey] at hb
    have hge := h.le hbest (hfrom k b hb) (h'.sound k b hb).2
    rw [hb, hrank a hmem b (h'.sound k b hb).1 (le_antisymm hle hge)]

end Cthuwu
