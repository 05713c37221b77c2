import Mathlib.Data.List.Basic
import Mathlib.Data.List.MinMax
import Mathlib.Data.List.Nodup
import Mathlib.Tactic.Common

/-!
# Hash chains

A hash chain is a list of numbered entries each of which names the hash of the one before.
`Chained n parent l` says that `l` continues, from the number `n`, a chain whose last hash is
`parent`. Appending an entry asks of it only its number and the last hash
(`chained_concat`), and in a chain numbers determine entries and neighbours are linked.
Entries of different numbers, each of which is a first one or linked to another of them, can
be put in order to form a chain (`exists_chained`).
-/

namespace Cthuwu

/-- Where the entries of a chain keep their number, their predecessor's hash and their own. -/
structure Link (α H : Type) where
  number : α → ℕ
  parent : α → Option H
  hash : α → H

namespace Link

variable {α H : Type} {L : Link α H} {n : ℕ} {parent : Option H} {l l' : List α} {x y : α}

/-- The entries continue a chain. -/
def Chained (L : Link α H) (n : ℕ) (parent : Option H) : List α → Prop
  | [] => True
  | x :: l => L.number x = n ∧ L.parent x = parent ∧ L.Chained (n + 1) (some (L.hash x)) l

/-- The hash of the last entry, or the one the chain continues from. -/
def lastHash (L : Link α H) (parent : Option H) (l : List α) : Option H :=
  (l.getLast?.map L.hash).or parent

@[simp] theorem lastHash_nil : L.lastHash parent [] = parent :=
  rfl

@[simp] theorem lastHash_concat : L.lastHash parent (l ++ [x]) = some (L.hash x) := by
  simp [lastHash]

theorem lastHash_cons : L.lastHash parent (x :: l) = L.lastHash (some (L.hash x)) l := by
  unfold lastHash
  rw [List.getLast?_cons]
  cases l.getLast? <;> rfl

/-- A chain is continued from its last hash. -/
theorem chained_append : L.Chained n parent (l ++ l') ↔
    L.Chained n parent l ∧ L.Chained (n + l.length) (L.lastHash parent l) l' := by
  induction l generalizing n parent with
  | nil => simp [Chained]
  | cons x l ih =>
    rw [List.cons_append, Chained, Chained, ih, lastHash_cons, List.length_cons, and_assoc,
      and_assoc, Nat.add_right_comm, Nat.add_assoc]

theorem chained_concat : L.Chained n parent (l ++ [x]) ↔
    L.Chained n parent l ∧ L.number x = n + l.length ∧ L.parent x = L.lastHash parent l := by
  rw [chained_append]
  simp [Chained]

/-- An entry's number is its place. -/
theorem Chained.number_eq (h : L.Chained n parent l) {i : ℕ} (hx : l[i]? = some x) :
    L.number x = n + i := by
  induction l generalizing n parent i with
  | nil => cases hx
  | cons y l ih =>
    cases i with
    | zero =>
      cases hx
      exact h.1
    | succ i =>
      rw [ih h.2.2 hx]
      omega

theorem Chained.parent_zero (h : L.Chained n parent l) (hx : l[0]? = some x) :
    L.parent x = parent := by
  cases l with
  | nil => cases hx
  | cons y l =>
    cases hx
    exact h.2.1

/-- An entry names the hash of the one before. -/
theorem Chained.parent_succ (h : L.Chained n parent l) {i : ℕ} (hx : l[i]? = some x)
    (hy : l[i + 1]? = some y) : L.parent y = some (L.hash x) := by
  induction l generalizing n parent i with
  | nil => cases hx
  | cons z l ih =>
    cases i with
    | zero =>
      cases hx
      exact h.2.2.parent_zero hy
    | succ i => exact ih h.2.2 hx hy

theorem Chained.numbers (h : L.Chained n parent l) : l.map L.number = List.range' n l.length := by
  induction l generalizing n parent with
  | nil => rfl
  | cons x l ih =>
    rw [List.map_cons, h.1, ih h.2.2]
    rfl

/-- No two entries have the same number. -/
theorem Chained.nodup (h : L.Chained n parent l) : (l.map L.number).Nodup := by
  rw [h.numbers]
  exact List.nodup_range'

/-- An entry is the first one, or linked to the one before. -/
theorem Chained.linked (h : L.Chained n parent l) (hx : x ∈ l) :
    (L.number x = n ∧ L.parent x = parent) ∨
      ∃ y ∈ l, L.number x = L.number y + 1 ∧ L.parent x = some (L.hash y) := by
  obtain ⟨i, hi⟩ := List.mem_iff_getElem?.mp hx
  cases i with
  | zero => exact .inl ⟨h.number_eq hi, h.parent_zero hi⟩
  | succ i =>
    have hlt : i < l.length := Nat.lt_of_succ_lt (List.getElem?_eq_some_iff.mp hi).1
    have hy : l[i]? = some l[i] := List.getElem?_eq_getElem hlt
    refine .inr ⟨l[i], List.getElem_mem hlt, ?_, h.parent_succ hy hi⟩
    rw [h.number_eq hi, h.number_eq hy]
    rfl

/-- The last entry has the greatest number. -/
theorem Chained.number_le (h : L.Chained n parent (l ++ [y])) (hx : x ∈ l ++ [y]) :
    L.number x ≤ L.number y := by
  obtain ⟨i, hi⟩ := List.mem_iff_getElem?.mp hx
  have hlt := (List.getElem?_eq_some_iff.mp hi).1
  rw [List.length_append, List.length_singleton] at hlt
  rw [h.number_eq hi, ((chained_concat).mp h).2.1]
  omega

/-- Two chains in which only one entry has a hash are the same up to where they agree on one. -/
theorem Chained.take_eq_take {parent' : Option H} (h : L.Chained n parent l)
    (h' : L.Chained n parent' l') (hinj : ∀ x ∈ l, ∀ y ∈ l', L.hash x = L.hash y → x = y) {i j : ℕ}
    (hx : l[i]? = some x) (hy : l'[j]? = some y) (hsame : L.hash x = L.hash y) :
    i = j ∧ l.take (i + 1) = l'.take (i + 1) := by
  induction i generalizing j x y with
  | zero =>
    obtain rfl := hinj x (List.mem_of_getElem? hx) y (List.mem_of_getElem? hy) hsame
    obtain rfl : j = 0 := by
      have := (h.number_eq hx).symm.trans (h'.number_eq hy)
      omega
    exact ⟨rfl, by rw [List.take_add_one, List.take_add_one, hx, hy, List.take_zero, List.take_zero]⟩
  | succ i ih =>
    obtain rfl := hinj x (List.mem_of_getElem? hx) y (List.mem_of_getElem? hy) hsame
    obtain rfl : j = i + 1 := by
      have := (h.number_eq hx).symm.trans (h'.number_eq hy)
      omega
    -- both name the hash of the entry before
    have hlt : i < l.length := Nat.lt_of_succ_lt (List.getElem?_eq_some_iff.mp hx).1
    have hlt' : i < l'.length := Nat.lt_of_succ_lt (List.getElem?_eq_some_iff.mp hy).1
    have hu : l[i]? = some l[i] := List.getElem?_eq_getElem hlt
    have hw : l'[i]? = some l'[i] := List.getElem?_eq_getElem hlt'
    have hparent := (h.parent_succ hu hx).symm.trans (h'.parent_succ hw hy)
    refine ⟨rfl, ?_⟩
    rw [List.take_add_one, (ih hu hw (Option.some.inj hparent)).2, hx, ← hy, ← List.take_add_one]

/-- An entry that is linked to the entries of a chain, with a number that none of them has but
as great as any, continues the chain. -/
theorem Chained.concat (h : L.Chained n parent l) (hfresh : ∀ y ∈ l, L.number y ≠ L.number x)
    (hle : ∀ y ∈ l, L.number y ≤ L.number x)
    (hx : (L.number x = n ∧ L.parent x = parent) ∨
      ∃ y ∈ l, L.number x = L.number y + 1 ∧ L.parent x = some (L.hash y)) :
    L.Chained n parent (l ++ [x]) := by
  rw [chained_concat]
  rcases hx with ⟨hnumber, hparent⟩ | ⟨y, hy, hnumber, hparent⟩
  · cases l with
    | nil => exact ⟨h, hnumber, hparent⟩
    | cons z l => exact absurd (h.1.trans hnumber.symm) (hfresh z List.mem_cons_self)
  · -- the entry it is linked to is the last : the next one would have its number
    rcases List.eq_nil_or_concat l with rfl | ⟨front, last, rfl⟩
    · cases hy
    · rw [List.concat_eq_append] at h hy hfresh hle ⊢
      have hlast : last ∈ front ++ [last] := List.mem_concat_self
      have hlt : L.number last < L.number x := lt_of_le_of_ne (hle last hlast) (hfresh last hlast)
      have hge : L.number y ≤ L.number last := h.number_le hy
      have hsame : L.number y = L.number last := by omega
      have heq : y = last := List.inj_on_of_nodup_map h.nodup hy hlast hsame
      subst heq
      refine ⟨h, ?_, by rw [hparent, lastHash_concat]⟩
      rw [hnumber, ((chained_concat).mp h).2.1, List.length_append, List.length_singleton]
      rfl

/-- Linked entries of different numbers form a chain. -/
theorem exists_chained (hnodup : (l.map L.number).Nodup)
    (hlinked : ∀ x ∈ l, (L.number x = n ∧ L.parent x = parent) ∨
      ∃ y ∈ l, L.number x = L.number y + 1 ∧ L.parent x = some (L.hash y)) :
    ∃ chain, chain.Perm l ∧ L.Chained n parent chain := by
  induction hlength : l.length generalizing l with
  | zero =>
    rw [List.length_eq_zero_iff.mp hlength]
    exact ⟨[], .nil, trivial⟩
  | succ k ih =>
    have hne : l ≠ [] := List.ne_nil_of_length_eq_add_one hlength
    obtain ⟨top, htop⟩ := Option.ne_none_iff_exists'.mp fun hnone =>
      hne (List.argmax_eq_none (f := L.number).mp hnone)
    have hmax : ∀ x ∈ l, L.number x ≤ L.number top := fun x hx => List.le_of_mem_argmax hx htop
    obtain ⟨front, back, rfl⟩ := List.append_of_mem (List.argmax_mem htop)
    have hperm : (front ++ top :: back).Perm (top :: (front ++ back)) := List.perm_middle
    have hrest : ∀ x ∈ front ++ back, x ∈ front ++ top :: back := fun x hx =>
      hperm.mem_iff.mpr (List.mem_cons_of_mem _ hx)
    have hnumbers := (hperm.map L.number).nodup_iff.mp hnodup
    rw [List.map_cons, List.nodup_cons] at hnumbers
    have hfresh : ∀ x ∈ front ++ back, L.number x ≠ L.number top := fun x hx heq =>
      hnumbers.1 (heq ▸ List.mem_map_of_mem hx)
    have hother : ∀ y ∈ front ++ top :: back, L.number y ≠ L.number top → y ∈ front ++ back := by
      intro y hy hne
      rcases List.mem_cons.mp (hperm.mem_iff.mp hy) with rfl | hy
      · exact absurd rfl hne
      · exact hy
    obtain ⟨chain, hchain, hchained⟩ := ih hnumbers.2
      (fun x hx => (hlinked x (hrest x hx)).imp_right fun ⟨y, hy, hnumber, hparent⟩ =>
        ⟨y, hother y hy (by have := hmax x (hrest x hx); omega), hnumber, hparent⟩)
      (by simpa using (hperm.length_eq.symm.trans hlength))
    refine ⟨chain ++ [top], ?_, hchained.concat (fun y hy => hfresh y (hchain.mem_iff.mp hy))
      (fun y hy => hmax y (hrest y (hchain.mem_iff.mp hy))) ?_⟩
    · exact (List.perm_append_singleton top chain).trans ((hchain.cons top).trans hperm.symm)
    · refine (hlinked top (List.mem_append_right _ List.mem_cons_self)).imp_right ?_
      rintro ⟨y, hy, hnumber, hparent⟩
      exact ⟨y, hchain.mem_iff.mpr (hother y hy (by omega)), hnumber, hparent⟩

end Link

end Cthuwu
