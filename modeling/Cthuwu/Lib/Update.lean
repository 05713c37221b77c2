import Mathlib.Data.List.Nodup
import Mathlib.Tactic.Common
import Mathlib.Data.List.Basic

/-!
# Lists changed in one place

A directory is a list of entries, one for every key. Writing an entry leaves the others, and where
it is new it comes last.

A list of records in which one record is found and changed. What is in the list afterwards was in
it before or is the changed record (`mem_modify`), no record is lost (`modify_of_mem`), and a
relation between any two records is kept when the changed record keeps it (`pairwise_modify`).
-/

namespace Cthuwu

variable {κ α β : Type} [DecidableEq κ] {key : κ} {value : α} {entry : κ × α} {l : List (κ × α)}

/-- The entries with that of the key replaced, or with a new one. -/
def putEntry (key : κ) (value : α) (l : List (κ × α)) : List (κ × α) :=
  if l.any (fun entry => entry.1 = key) = true then
    l.map fun entry => if entry.1 = key then (key, value) else entry
  else l ++ [(key, value)]

theorem mem_putEntry (h : entry ∈ putEntry key value l) :
    entry = (key, value) ∨ entry ∈ l ∧ entry.1 ≠ key := by
  unfold putEntry at h
  split_ifs at h with hany
  · obtain ⟨old, hold, rfl⟩ := List.mem_map.mp h
    split_ifs with hkey
    · exact .inl rfl
    · exact .inr ⟨hold, hkey⟩
  · rcases List.mem_append.mp h with hold | hnew
    · refine .inr ⟨hold, fun hkey => hany ?_⟩
      exact List.any_eq_true.mpr ⟨entry, hold, decide_eq_true hkey⟩
    · exact .inl (List.mem_singleton.mp hnew)

end Cthuwu

/-! ## Lists changed in one place -/

namespace Cthuwu

variable {α κ : Type} {l : List α} {i : ℕ} {x y : α} {f : α → α} {p : α → Bool}

/-- The first element that satisfies `p`, with its place. -/
def position (p : α → Bool) (l : List α) : Option (ℕ × α) := do
  let index ← l.findIdx? p
  let x ← l[index]?
  return (index, x)

theorem position_eq_some (h : position p l = some (i, x)) : l[i]? = some x ∧ p x = true := by
  unfold position at h
  cases hindex : l.findIdx? p with
  | none =>
    rw [hindex] at h
    cases h
  | some index =>
    obtain ⟨hlt, hp, -⟩ := List.findIdx?_eq_some_iff_getElem.mp hindex
    have hget : l[index]? = some l[index] := List.getElem?_eq_getElem hlt
    rw [hindex] at h
    simp only [Option.bind_eq_bind, Option.bind_some, hget] at h
    obtain ⟨rfl, rfl⟩ := Prod.mk.inj (Option.some.inj h)
    exact ⟨hget, hp⟩

theorem position_eq_none (h : position p l = none) : ∀ x ∈ l, p x = false := by
  unfold position at h
  cases hindex : l.findIdx? p with
  | none => exact List.findIdx?_eq_none_iff.mp hindex
  | some index =>
    obtain ⟨hlt, -, -⟩ := List.findIdx?_eq_some_iff_getElem.mp hindex
    rw [hindex] at h
    simp only [Option.bind_eq_bind, Option.bind_some, List.getElem?_eq_getElem hlt] at h
    cases h

/-- The element is the first that satisfies `p`. -/
theorem position_snd (p : α → Bool) (l : List α) : (position p l).map Prod.snd = l.find? p := by
  unfold position
  induction l with
  | nil => rfl
  | cons x l ih =>
    rw [List.findIdx?_cons, List.find?_cons]
    by_cases hx : p x = true
    · simp [hx]
    · simp only [Bool.not_eq_true] at hx
      rw [hx, ← ih]
      cases l.findIdx? p with
      | none => rfl
      | some index =>
        simp only [Bool.false_eq_true, if_false, Option.map_some, Option.bind_eq_bind,
          Option.bind_some, List.getElem?_cons_succ]
        cases l[index]? <;> rfl

theorem find?_of_position (h : position p l = some (i, x)) : l.find? p = some x := by
  rw [← position_snd, h]
  rfl

theorem find?_of_position_none (h : position p l = none) : l.find? p = none := by
  rw [← position_snd, h]
  rfl

/-- A new element is found at the end. -/
theorem position_append (h : position p l = none) (hx : p x = true) :
    position p (l ++ [x]) = some (l.length, x) := by
  have hnone : l.findIdx? p = none :=
    List.findIdx?_eq_none_iff.mpr fun y hy => position_eq_none h y hy
  unfold position
  rw [List.findIdx?_append, hnone]
  simp [List.findIdx?_cons, hx]

/-- The list around the place. -/
theorem exists_split (h : l[i]? = some x) :
    ∃ l₁ l₂, l = l₁ ++ x :: l₂ ∧ ∀ f : α → α, l.modify i f = l₁ ++ f x :: l₂ := by
  obtain ⟨hlt, rfl⟩ := List.getElem?_eq_some_iff.mp h
  refine ⟨l.take i, l.drop (i + 1), ?_, fun f => ?_⟩
  · rw [← List.drop_eq_getElem_cons hlt, List.take_append_drop]
  · rw [List.modify_eq_take_cons_drop hlt]

/-- What is in the changed list was in it, or is the changed element. -/
theorem mem_modify (hx : l[i]? = some x) (h : y ∈ l.modify i f) : y ∈ l ∨ y = f x := by
  obtain ⟨l₁, l₂, rfl, hmodify⟩ := exists_split hx
  rw [hmodify] at h
  simp only [List.mem_append, List.mem_cons] at h ⊢
  tauto

/-- No element is lost. -/
theorem modify_of_mem (hx : l[i]? = some x) (h : y ∈ l) :
    y ∈ l.modify i f ∨ y = x ∧ f x ∈ l.modify i f := by
  obtain ⟨l₁, l₂, rfl, hmodify⟩ := exists_split hx
  rw [hmodify]
  simp only [List.mem_append, List.mem_cons] at h ⊢
  tauto

theorem changed_mem_modify (hx : l[i]? = some x) : f x ∈ l.modify i f := by
  obtain ⟨l₁, l₂, rfl, hmodify⟩ := exists_split hx
  rw [hmodify]
  simp

theorem map_modify {key : α → κ} (hkey : ∀ x, key (f x) = key x) :
    (l.modify i f).map key = l.map key := by
  cases hx : l[i]? with
  | none => rw [List.modify_eq_self (List.getElem?_eq_none_iff.mp hx)]
  | some x =>
    obtain ⟨l₁, l₂, rfl, hmodify⟩ := exists_split hx
    rw [hmodify]
    simp [hkey]

/-- A symmetric relation between any two elements is kept when the changed element keeps it. -/
theorem pairwise_modify {R : α → α → Prop} (hsymm : ∀ x y, R x y → R y x) (hx : l[i]? = some x)
    (hf : ∀ y ∈ l, R x y → R (f x) y) (h : l.Pairwise R) : (l.modify i f).Pairwise R := by
  obtain ⟨l₁, l₂, rfl, hmodify⟩ := exists_split hx
  rw [hmodify]
  rw [List.pairwise_append, List.pairwise_cons] at h ⊢
  obtain ⟨hfront, ⟨hback, hrest⟩, hcross⟩ := h
  refine ⟨hfront, ⟨fun y hy => ?_, hrest⟩, fun y hy z hz => ?_⟩
  · exact hf y (by simp [hy]) (hback y hy)
  · rcases List.mem_cons.mp hz with rfl | hz
    · exact hsymm _ _ (hf y (by simp [hy]) (hsymm _ _ (hcross y hy x List.mem_cons_self)))
    · exact hcross y hy z (List.mem_cons_of_mem _ hz)

theorem modify_append (l : List α) (x : α) (f : α → α) :
    (l ++ [x]).modify l.length f = l ++ [f x] := by
  induction l with
  | nil => rfl
  | cons y l ih => exact congrArg (y :: ·) ih

end Cthuwu
