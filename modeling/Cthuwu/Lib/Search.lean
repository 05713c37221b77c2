import Mathlib.Data.Finset.Card
import Mathlib.Logic.Relation
import Cthuwu.Lib.Fallible

/-!
# Depth-first search

A search from a node marks what it is visiting and what it has visited. It goes to the children of a
node one after another, and fails when it meets a node that it is still visiting. What it has visited
in the end descends from where it began (`visit_sound`) and holds all children (`visit_closed`). When
children rank above their parents it never meets a node again, and `n` nested calls are enough for
fewer than `n` nodes (`visit_succeeds`).
-/

namespace Cthuwu

section Search

variable {α ε : Type} [DecidableEq α] (children : α → Except ε (List α)) (cycle : ε)

/-- Visit a node with at most `n` nested calls. A nested call sees the node as being visited. -/
def visit : ℕ → Finset α → α → Finset α → Except ε (Finset α)
  | 0, _, _, _ => .error cycle
  | n + 1, visiting, node, visited => do
    if node ∈ visited then return visited
    failIf (node ∈ visiting) cycle
    let found ← children node
    let visited ← found.foldlM (fun visited child => visit n (insert node visiting) child visited)
      visited
    return insert node visited

/-- An edge to a child. -/
def Edge (a b : α) : Prop :=
  ∃ found, children a = .ok found ∧ b ∈ found

/-- A path of edges down. -/
abbrev Descends : α → α → Prop :=
  Relation.ReflTransGen (Edge children)

variable {children cycle} {n : ℕ} {visiting visited visited' : Finset α} {node : α}

theorem visit_succ : visit children cycle (n + 1) visiting node visited = .ok visited' ↔
    (node ∈ visited ∧ visited' = visited) ∨
      (node ∉ visited ∧ node ∉ visiting ∧ ∃ found, children node = .ok found ∧ ∃ after,
        found.foldlM (fun visited child => visit children cycle n (insert node visiting) child
          visited) visited = .ok after ∧ visited' = insert node after) := by
  rw [visit]
  by_cases h : node ∈ visited
  · rw [if_pos h]
    simp [h, eq_comm, pure, Except.pure]
  · rw [if_neg h]
    simp only [h, false_and, false_or, not_false_eq_true, true_and]
    simp only [except_bind_ok, failIf_ok, exists_unit, except_pure_ok]
    simp only [eq_comm]

/-- What holds of each visit of a child holds of the visits of all. -/
theorem foldlM_visit {P : Finset α → Finset α → Prop} {f : Finset α → α → Except ε (Finset α)}
    (hrefl : ∀ visited, P visited visited)
    (htrans : ∀ a b c, P a b → P b c → P a c) {l : List α}
    (hstep : ∀ child ∈ l, ∀ a b, f a child = .ok b → P a b)
    (h : l.foldlM f visited = .ok visited') : P visited visited' := by
  induction l generalizing visited with
  | nil =>
    rw [List.foldlM_nil, except_pure_ok] at h
    exact h ▸ hrefl _
  | cons child l ih =>
    rw [List.foldlM_cons, except_bind_ok] at h
    obtain ⟨between, hfirst, hrest⟩ := h
    refine htrans _ _ _ (hstep child List.mem_cons_self _ _ hfirst) (ih ?_ hrest)
    exact fun c hc => hstep c (List.mem_cons_of_mem _ hc)

theorem visit_mono (h : visit children cycle n visiting node visited = .ok visited') :
    visited ⊆ visited' := by
  induction n generalizing visiting node visited visited' with
  | zero => cases h
  | succ n ih =>
    rcases (visit_succ).mp h with ⟨-, rfl⟩ | ⟨-, -, found, -, after, hafter, rfl⟩
    · exact subset_rfl
    · refine subset_trans ?_ (Finset.subset_insert _ _)
      exact foldlM_visit (P := (· ⊆ ·)) (fun _ => subset_rfl) (fun _ _ _ => subset_trans)
        (fun _ _ _ _ hvisit => ih hvisit) hafter

theorem visit_mem (h : visit children cycle n visiting node visited = .ok visited') :
    node ∈ visited' := by
  cases n with
  | zero => cases h
  | succ n =>
    rcases (visit_succ).mp h with ⟨hmem, rfl⟩ | ⟨-, -, found, -, after, -, rfl⟩
    · exact hmem
    · exact Finset.mem_insert_self _ _

/-- The nodes that a search has visited descend from where it began. -/
theorem visit_sound (h : visit children cycle n visiting node visited = .ok visited') :
    ∀ v ∈ visited', v ∈ visited ∨ Descends children node v := by
  induction n generalizing visiting node visited visited' with
  | zero => cases h
  | succ n ih =>
    rcases (visit_succ).mp h with ⟨-, rfl⟩ | ⟨-, -, found, hfound, after, hafter, rfl⟩
    · exact fun v hv => .inl hv
    · intro v hv
      rcases Finset.mem_insert.mp hv with rfl | hv
      · exact .inr .refl
      · refine foldlM_visit (P := fun a b => ∀ v ∈ b, v ∈ a ∨ Descends children node v)
          (fun _ _ => .inl) (fun a b c hab hbc v hv => ?_) (fun child hchild a b hvisit v hv => ?_)
          hafter v hv
        · exact (hbc v hv).elim (hab v) .inr
        · exact (ih hvisit v hv).imp_right (.head ⟨found, hfound, hchild⟩)

/-- The children of what was visited between two sets are in the second. -/
def Closes (children : α → Except ε (List α)) (a b : Finset α) : Prop :=
  a ⊆ b ∧ ∀ v ∈ b, v ∉ a → ∃ found, children v = .ok found ∧ ∀ c ∈ found, c ∈ b

theorem Closes.trans {a b c : Finset α} (h : Closes children a b) (h' : Closes children b c) :
    Closes children a c := by
  refine ⟨h.1.trans h'.1, fun v hv hnot => ?_⟩
  by_cases hb : v ∈ b
  · obtain ⟨found, hfound, hall⟩ := h.2 v hb hnot
    exact ⟨found, hfound, fun x hx => h'.1 (hall x hx)⟩
  · exact h'.2 v hv hb

/-- All children of what a search has visited are visited. -/
theorem visit_closed (h : visit children cycle n visiting node visited = .ok visited') :
    Closes children visited visited' := by
  induction n generalizing visiting node visited visited' with
  | zero => cases h
  | succ n ih =>
    rcases (visit_succ).mp h with ⟨-, rfl⟩ | ⟨-, -, found, hfound, after, hafter, rfl⟩
    · exact ⟨subset_rfl, fun v hv hnot => absurd hv hnot⟩
    · have hcloses : Closes children visited after :=
        foldlM_visit (fun _ => ⟨subset_rfl, fun v hv hnot => absurd hv hnot⟩)
          (fun _ _ _ => Closes.trans) (fun _ _ _ _ hvisit => ih hvisit) hafter
      have hall : ∀ c ∈ found, c ∈ after := by
        intro c hc
        obtain ⟨l, l', rfl⟩ := List.append_of_mem hc
        rw [List.foldlM_append, except_bind_ok] at hafter
        obtain ⟨between, -, hrest⟩ := hafter
        rw [List.foldlM_cons, except_bind_ok] at hrest
        obtain ⟨next, hvisit, hrest⟩ := hrest
        exact foldlM_visit (P := (· ⊆ ·)) (fun _ => subset_rfl) (fun _ _ _ => subset_trans)
          (fun _ _ _ _ => visit_mono) hrest (visit_mem hvisit)
      refine ⟨hcloses.1.trans (Finset.subset_insert _ _), fun v hv hnot => ?_⟩
      rcases Finset.mem_insert.mp hv with rfl | hv
      · exact ⟨found, hfound, fun c hc => Finset.mem_insert_of_mem (hall c hc)⟩
      · obtain ⟨found', hfound', hall'⟩ := hcloses.2 v hv hnot
        exact ⟨found', hfound', fun c hc => Finset.mem_insert_of_mem (hall' c hc)⟩

/-- A search from nothing visits everything below where it began, and nothing else. -/
theorem mem_visit (h : visit children cycle n visiting node ∅ = .ok visited') {v : α} :
    v ∈ visited' ↔ Descends children node v := by
  constructor
  · exact fun hv => (visit_sound h v hv).resolve_left (Finset.notMem_empty v)
  · intro hdescends
    induction hdescends with
    | refl => exact visit_mem h
    | tail _ hedge ih =>
      obtain ⟨found, hfound, hmem⟩ := hedge
      obtain ⟨found', hfound', hall⟩ := (visit_closed h).2 _ ih (Finset.notMem_empty _)
      cases hfound.symm.trans hfound'
      exact hall _ hmem

/-- Where children rank above their parents, a search among a set of nodes comes to an end. -/
theorem visit_succeeds {nodes : Finset α} {rank : α → ℕ}
    (hchildren : ∀ a ∈ nodes, ∃ found, children a = .ok found ∧
      ∀ c ∈ found, c ∈ nodes ∧ rank a < rank c)
    (hnode : node ∈ nodes) (hvisiting : ∀ v ∈ visiting, v ∈ nodes ∧ rank v < rank node)
    (hn : nodes.card < n + visiting.card) :
    ∃ visited', visit children cycle n visiting node visited = .ok visited' := by
  induction n generalizing visiting node visited with
  | zero =>
    have hle : visiting.card ≤ nodes.card := Finset.card_le_card fun v hv => (hvisiting v hv).1
    omega
  | succ n ih =>
    by_cases hvisited : node ∈ visited
    · exact ⟨visited, (visit_succ).mpr (.inl ⟨hvisited, rfl⟩)⟩
    · have hnot : node ∉ visiting := fun hmem => lt_irrefl _ (hvisiting node hmem).2
      obtain ⟨found, hfound, hall⟩ := hchildren node hnode
      have hfold : ∀ l : List α, (∀ c ∈ l, c ∈ found) → ∀ a, ∃ after, l.foldlM (fun visited child =>
          visit children cycle n (insert node visiting) child visited) a = .ok after := by
        intro l hl
        induction l with
        | nil => exact fun a => ⟨a, rfl⟩
        | cons child l ihl =>
          intro a
          obtain ⟨hchild, hrank⟩ := hall child (hl child List.mem_cons_self)
          have hbelow : ∀ v ∈ insert node visiting, v ∈ nodes ∧ rank v < rank child := by
            intro v hv
            rcases Finset.mem_insert.mp hv with rfl | hv
            · exact ⟨hnode, hrank⟩
            · exact ⟨(hvisiting v hv).1, (hvisiting v hv).2.trans hrank⟩
          have hvisit : ∃ between, visit children cycle n (insert node visiting) child a =
              .ok between :=
            ih hchild hbelow (by rw [Finset.card_insert_of_notMem hnot]; omega)
          obtain ⟨between, hbetween⟩ := hvisit
          obtain ⟨after, hafter⟩ := ihl (fun c hc => hl c (List.mem_cons_of_mem _ hc)) between
          refine ⟨after, ?_⟩
          rw [List.foldlM_cons, hbetween]
          exact hafter
      obtain ⟨after, hafter⟩ := hfold found (fun _ hc => hc) visited
      exact ⟨insert node after, (visit_succ).mpr
        (.inr ⟨hvisited, hnot, found, hfound, after, hafter, rfl⟩)⟩

end Search

end Cthuwu
