import Mathlib.Data.List.Rotate

/-!
# Taking turns

A queue is read round from a cursor : `l.rotate c` is the order in which the turns come. `Ahead b a l`
says that the turn of `b` comes before that of `a`. It stays so while others leave the queue behind
the cursor's back (`Ahead.sublist`), while others join it (`Ahead.insert`), and while others take their
turn (`Ahead.next`), and whoever takes a turn before `b` is not `a`. `exists_turn` is a search for the
first that is ready, and `rotate_filter_sublist` and `rotate_eraseIdx_sublist` say where a cursor has
to stand after others have left.
-/

namespace Cthuwu

variable {α : Type} {a b n : α} {l l' p q : List α}

/-- The first `b` comes before every `a`. -/
def Ahead (b a : α) (l : List α) : Prop :=
  ∃ x y, l = x ++ b :: y ∧ a ∉ x

/-- Whoever is last comes after all others. -/
theorem ahead_concat (hb : b ∈ l) (ha : a ∉ l) : Ahead b a (l ++ [a]) := by
  obtain ⟨x, y, rfl⟩ := List.append_of_mem hb
  refine ⟨x, y ++ [a], by simp, fun hmem => ha (List.mem_append_left _ hmem)⟩

theorem Ahead.sublist (h : Ahead b a l) (hnodup : l.Nodup) (hsub : l'.Sublist l) (hb : b ∈ l') :
    Ahead b a l' := by
  obtain ⟨x, y, rfl, ha⟩ := h
  obtain ⟨hx, hy, hdisjoint⟩ := List.nodup_append.mp hnodup
  obtain ⟨x', y', rfl, hx', hy'⟩ := List.sublist_append_iff.mp hsub
  have hbx : b ∉ x := fun hmem => hdisjoint b hmem b List.mem_cons_self rfl
  have hby : b ∉ y := (List.nodup_cons.mp hy).1
  have hmem : b ∈ y' := (List.mem_append.mp hb).resolve_left fun hmem => hbx (hx'.subset hmem)
  rcases List.sublist_cons_iff.mp hy' with hsub | ⟨z, rfl, -⟩
  · exact absurd (hsub.subset hmem) hby
  · exact ⟨x', z, rfl, fun hmem => ha (hx'.subset hmem)⟩

theorem Ahead.insert (h : Ahead b a (p ++ q)) (hn : n ≠ a) : Ahead b a (p ++ n :: q) := by
  obtain ⟨x, y, hsplit, ha⟩ := h
  rcases List.append_eq_append_iff.mp hsplit with ⟨z, rfl, rfl⟩ | ⟨z, rfl, hrest⟩
  · refine ⟨p ++ n :: z, y, by simp, ?_⟩
    simp only [List.mem_append, List.mem_cons, not_or] at ha ⊢
    exact ⟨ha.1, hn.symm, ha.2⟩
  · cases z with
    | nil =>
      rw [List.nil_append] at hrest
      refine ⟨x ++ [n], y, by simp [hrest], ?_⟩
      simpa using ⟨ha, hn.symm⟩
    | cons b' z =>
      obtain ⟨rfl, rfl⟩ := List.cons.inj hrest
      exact ⟨x, z ++ n :: q, by simp, ha⟩

/-- The turn of another, who then comes last. -/
theorem Ahead.next {x y : List α} {s : α} (h : Ahead b a (x ++ s :: y)) (hs : s ≠ b) (hb : b ∉ x) :
    s ≠ a ∧ Ahead b a (y ++ (x ++ [s])) := by
  obtain ⟨x', y', hsplit, ha⟩ := h
  rcases List.append_eq_append_iff.mp hsplit with ⟨z, rfl, hrest⟩ | ⟨z, rfl, hrest⟩
  · cases z with
    | nil => exact absurd (List.cons.inj hrest).1 hs
    | cons s' z =>
      obtain ⟨rfl, rfl⟩ := List.cons.inj hrest
      simp only [List.mem_append, List.mem_cons, not_or] at ha
      exact ⟨fun hsa => ha.2.1 hsa.symm, z, y' ++ (x ++ [s]), by simp, ha.2.2⟩
  · cases z with
    | nil => exact absurd (List.cons.inj hrest).1.symm hs
    | cons b' z =>
      obtain ⟨rfl, -⟩ := List.cons.inj hrest
      exact absurd (by simp) hb

/-! ## Cursors -/

section Cursors

variable {c i : ℕ}

theorem rotate_append {x y : List α} (h : x.length = c) : (x ++ y).rotate c = y ++ x := by
  rw [← h, List.rotate_append_length_eq]

theorem rotate_eq (h : c ≤ l.length) : l.rotate c = l.drop c ++ l.take c :=
  List.rotate_eq_drop_append_take h

theorem rotate_concat (h : c ≤ l.length) (n : α) : ∃ p q, l.rotate c = p ++ q ∧
    (l ++ [n]).rotate c = p ++ n :: q := by
  refine ⟨l.drop c, l.take c, rotate_eq h, ?_⟩
  have hsplit : l ++ [n] = l.take c ++ (l.drop c ++ [n]) := by
    rw [← List.append_assoc, List.take_append_drop]
  rw [hsplit, rotate_append (List.length_take_of_le h), List.append_assoc, List.singleton_append]

/-- Nobody before the cursor leaves, and the cursor stays where it is. -/
theorem rotate_filter_sublist {f : α → Bool} (h : c ≤ l.length) (hf : ∀ x ∈ l.take c, f x = true) :
    ((l.filter f).rotate c).Sublist (l.rotate c) := by
  have hfilter : l.filter f = l.take c ++ (l.drop c).filter f := by
    conv_lhs => rw [← List.take_append_drop c l, List.filter_append, List.filter_eq_self.mpr hf]
  rw [hfilter, rotate_append (List.length_take_of_le h), rotate_eq h]
  exact List.filter_sublist.append_right _

/-- One leaves, and the cursor moves along when that was before it. -/
theorem rotate_eraseIdx_sublist (h : c ≤ l.length) :
    ((l.eraseIdx i).rotate (if i < c then c - 1 else c)).Sublist (l.rotate c) := by
  have hlength : (l.take c).length = c := List.length_take_of_le h
  rw [rotate_eq h]
  split_ifs with hi
  · have herase : l.eraseIdx i = (l.take c).eraseIdx i ++ l.drop c := by
      conv_lhs => rw [← List.take_append_drop c l]
      exact List.eraseIdx_append_of_lt_length (by omega) _
    rw [herase, rotate_append (by rw [List.length_eraseIdx_of_lt (by omega), hlength])]
    exact (List.eraseIdx_sublist _ _).append_left _
  · have herase : l.eraseIdx i = l.take c ++ (l.drop c).eraseIdx (i - c) := by
      conv_lhs => rw [← List.take_append_drop c l]
      rw [List.eraseIdx_append_of_length_le (by omega), hlength]
    rw [herase, rotate_append hlength]
    exact (List.eraseIdx_sublist _ _).append_right _

/-- The first who is ready from the cursor on. Who comes before is not ready, and with the cursor
past the one that was found, that one comes last. -/
theorem exists_turn {ready : α → Bool} (h : ((List.range l.length).map fun offset =>
      (c % l.length + offset) % l.length).find? (fun i => l[i]?.any ready) = some i) :
    ∃ x s y, l[i]? = some s ∧ ready s = true ∧ l.rotate c = x ++ s :: y ∧
      (∀ t ∈ x, ready t = false) ∧ l.rotate ((i + 1) % l.length) = y ++ (x ++ [s]) := by
  rw [List.find?_map, Option.map_eq_some_iff] at h
  obtain ⟨k, hfind, rfl⟩ := h
  obtain ⟨hready, hk, hbefore⟩ := List.find?_range_eq_some.mp hfind
  have hplace : ∀ j < l.length, l[(c % l.length + j) % l.length]? = (l.rotate c)[j]? := by
    intro j hj
    rw [List.getElem?_rotate hj, Nat.mod_add_mod, Nat.add_comm]
  have hk : k < l.length := List.mem_range.mp hk
  simp only [Function.comp_apply, hplace k hk] at hready
  obtain ⟨s, hs, hready⟩ := (Option.any_eq_true _ _).mp hready
  obtain ⟨hlt, rfl⟩ := List.getElem?_eq_some_iff.mp hs
  have hsplit : l.rotate c = (l.rotate c).take k ++ (l.rotate c)[k] :: (l.rotate c).drop (k + 1) := by
    rw [List.getElem_cons_drop, List.take_append_drop]
  refine ⟨_, _, _, (hplace k hk).trans hs, hready, hsplit, ?_, ?_⟩
  · intro t ht
    obtain ⟨j, hj, rfl⟩ := List.getElem_of_mem ht
    rw [List.length_take] at hj
    have hjl : j < l.length := by omega
    have hnot := hbefore j (by omega)
    simp only [Function.comp_apply, hplace j hjl, Bool.not_eq_true'] at hnot
    rw [List.getElem_take]
    rw [List.getElem?_eq_getElem (by rw [List.length_rotate]; exact hjl)] at hnot
    simpa using hnot
  · have hrotate : l.rotate (((c % l.length + k) % l.length + 1) % l.length) =
        (l.rotate c).rotate (k + 1) := by
      rw [List.rotate_rotate, List.rotate_mod, ← List.rotate_mod l (_ + 1), Nat.mod_add_mod,
        Nat.add_assoc, Nat.mod_add_mod, List.rotate_mod]
    rw [hrotate]
    conv_lhs => rw [hsplit, List.append_cons]
    refine rotate_append ?_
    rw [List.length_append, List.length_take, List.length_singleton]
    omega

end Cursors

end Cthuwu
