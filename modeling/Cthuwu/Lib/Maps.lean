import Mathlib.Data.List.AList
import Mathlib.Data.Finset.Card
import Mathlib.Data.List.Sort
import Cthuwu.Lib.Fallible

/-!
# Maps, sets and the loops that check them

`HashMap` is an association list without duplicate keys : the order of its entries stands
for the unspecified iteration order of a hash map. `values_insert_fresh` and
`countP_values_insert` say what an insertion does to the values, so that counts over them
follow, and `sortedPairs` is the order of a `BTreeMap`.

`forM_ok` and `insertAll_ok` characterise the two loops a validator is made of : check
every element, and collect keys that must not repeat. `get_groupBy` says that collecting
the elements of a list by key, as `entry(..).or_default()` does, gives each key its own
sublist. `sorted` lists a finite set in increasing order.

`retain` keeps the entries of a map that pass a test, as deleting while iterating does.
-/

namespace Cthuwu

/-- A map with at most one value per key. -/
structure HashMap (K V : Type) where
  alist : AList fun _ : K => V

namespace HashMap

variable {K V : Type}

def empty : HashMap K V :=
  ⟨∅⟩

/-- The keys with their values, in iteration order. -/
def pairs (m : HashMap K V) : List (K × V) :=
  m.alist.entries.map fun e => (e.1, e.2)

/-- The values, in iteration order. -/
def values (m : HashMap K V) : List V :=
  m.pairs.map (·.2)

/-- The number of entries. -/
def len (m : HashMap K V) : ℕ :=
  m.alist.entries.length

/-- Every value is rewritten where it stands. -/
def mapWithKey {W : Type} (f : K → V → W) (m : HashMap K V) : HashMap K W :=
  ⟨⟨m.alist.entries.map (.map id f), m.alist.nodupKeys.map₂ _ _⟩⟩

variable [DecidableEq K]

def get (m : HashMap K V) (k : K) : Option V :=
  m.alist.lookup k

def contains (m : HashMap K V) (k : K) : Bool :=
  (m.get k).isSome

def insert (m : HashMap K V) (k : K) (v : V) : HashMap K V :=
  ⟨m.alist.insert k v⟩

def erase (m : HashMap K V) (k : K) : HashMap K V :=
  ⟨m.alist.erase k⟩

variable {m : HashMap K V} {k k' : K} {v w : V}

@[simp] theorem get_empty (k : K) : (empty : HashMap K V).get k = none :=
  AList.lookup_empty k

@[simp] theorem get_insert : (m.insert k v).get k = some v :=
  AList.lookup_insert m.alist

theorem get_insert_ne (h : k' ≠ k) : (m.insert k v).get k' = m.get k' :=
  AList.lookup_insert_ne h

theorem get_insert_apply : (m.insert k v).get k' = if k' = k then some v else m.get k' := by
  split_ifs with h
  · rw [h, get_insert]
  · exact get_insert_ne h

theorem contains_eq_false : m.contains k = false ↔ m.get k = none := by
  unfold contains
  rw [Option.isSome_eq_false_iff, Option.isNone_iff_eq_none]

theorem get_erase_apply : (m.erase k).get k' = if k' = k then none else m.get k' := by
  split_ifs with h
  · rw [h]
    exact AList.lookup_erase k m.alist
  · exact AList.lookup_erase_ne h

theorem get_mapWithKey {W : Type} (f : K → V → W) : (m.mapWithKey f).get k = (m.get k).map (f k) :=
  List.dlookup_map₂ k

/-- Write the value of a key where it stands, as through `get_mut`. -/
def replace (m : HashMap K V) (k : K) (v : V) : HashMap K V :=
  m.mapWithKey fun k' w => if k' = k then v else w

theorem get_replace (h : m.get k = some w) :
    (m.replace k v).get k' = if k' = k then some v else m.get k' := by
  unfold replace
  rw [get_mapWithKey]
  split_ifs with hk
  · rw [hk, h, Option.map_some]
  · exact Option.map_id'

theorem replace_self (h : m.get k = some v) : m.replace k v = m := by
  unfold replace mapWithKey
  congr 2
  refine (List.map_congr_left fun e he => ?_).trans (List.map_id _)
  obtain ⟨k', w⟩ := e
  unfold Sigma.map
  dsimp only [id_eq]
  split_ifs with hk
  · have hw : m.get k' = some w := AList.mem_lookup_iff.mpr he
    rw [hk, h] at hw
    cases hw
    rfl
  · rfl

theorem mem_pairs : (k, v) ∈ m.pairs ↔ m.get k = some v := by
  unfold pairs get
  rw [List.mem_map, ← Option.mem_def, AList.mem_lookup_iff]
  constructor
  · rintro ⟨e, he, heq⟩
    cases heq
    exact he
  · exact fun h => ⟨⟨k, v⟩, h, rfl⟩

theorem mem_values : v ∈ m.values ↔ ∃ k, m.get k = some v := by
  unfold values
  rw [List.mem_map]
  constructor
  · rintro ⟨⟨k, _⟩, he, rfl⟩
    exact ⟨k, (mem_pairs).mp he⟩
  · rintro ⟨k, hk⟩
    exact ⟨(k, v), (mem_pairs).mpr hk, rfl⟩

theorem get_mem_values (h : m.get k = some v) : v ∈ m.values :=
  (mem_values).mpr ⟨k, h⟩

/-- Every entry satisfies what every key and its value do. -/
theorem forall_pairs {p : K × V → Prop} :
    (∀ x ∈ m.pairs, p x) ↔ ∀ k v, m.get k = some v → p (k, v) :=
  ⟨fun h k v hkv => h (k, v) ((mem_pairs).mpr hkv), fun h x hx => h x.1 x.2 ((mem_pairs).mp hx)⟩

theorem forall_values {p : V → Prop} : (∀ v ∈ m.values, p v) ↔ ∀ k v, m.get k = some v → p v :=
  ⟨fun h _ v hkv => h v (get_mem_values hkv), fun h v hv => ((mem_values).mp hv).elim (h · v)⟩

omit [DecidableEq K] in
theorem map_pairs {β : Type} (f : V → β) : (m.pairs.map fun x => f x.2) = m.values.map f := by
  unfold values
  rw [List.map_map]
  rfl

omit [DecidableEq K] in
@[simp] theorem length_values : m.values.length = m.len := by
  unfold values pairs len
  rw [List.length_map, List.length_map]

/-- The keys of the map. -/
def keys (m : HashMap K V) : List K :=
  m.pairs.map (·.1)

theorem mem_keys : k ∈ m.keys ↔ ∃ v, m.get k = some v := by
  unfold keys
  rw [List.mem_map]
  constructor
  · rintro ⟨⟨_, v⟩, he, rfl⟩
    exact ⟨v, (mem_pairs).mp he⟩
  · rintro ⟨v, hv⟩
    exact ⟨(k, v), (mem_pairs).mpr hv, rfl⟩

omit [DecidableEq K] in
@[simp] theorem length_keys : m.keys.length = m.len := by
  unfold keys pairs len
  rw [List.length_map, List.length_map]

omit [DecidableEq K] in
theorem nodup_keys (m : HashMap K V) : m.keys.Nodup := by
  unfold keys pairs
  rw [List.map_map]
  exact m.alist.keys_nodup

/-- Values that hold their own key. -/
theorem map_values_key {f : V → K} (h : ∀ k v, m.get k = some v → k = f v) :
    m.values.map f = m.keys := by
  unfold values keys
  rw [List.map_map]
  exact List.map_congr_left fun entry hentry => (h entry.1 entry.2 ((mem_pairs).mp hentry)).symm

/-- There are no more distinct keys than entries. -/
theorem length_le_len {l : List K} (hnodup : l.Nodup) (h : ∀ k ∈ l, ∃ v, m.get k = some v) :
    l.length ≤ m.len := by
  rw [← length_keys]
  exact (List.subperm_of_subset hnodup fun k hk => (mem_keys).mpr (h k hk)).length_le

/-- A map whose keys another has is no longer than it. -/
theorem len_le_len {W : Type} {m' : HashMap K W} (h : ∀ k v, m.get k = some v → ∃ w, m'.get k = some w) :
    m.len ≤ m'.len := by
  rw [← length_keys]
  exact length_le_len m.nodup_keys fun k hk => ((mem_keys).mp hk).elim (h k)

/-- The value of a key and what erasing the key leaves are all the values. -/
theorem values_perm (h : m.get k = some v) : m.values.Perm (v :: (m.erase k).values) := by
  have hmem : k ∈ m.alist.entries.keys :=
    AList.mem_keys.mp (AList.lookup_isSome.mp (Option.isSome_iff_exists.mpr ⟨v, h⟩))
  obtain ⟨w, l₁, l₂, -, hl, herase⟩ := List.exists_of_kerase hmem
  have hw : m.get k = some w := AList.mem_lookup_iff.mpr (by rw [hl]; simp)
  cases h.symm.trans hw
  unfold values pairs
  have herase : (m.erase k).alist.entries = l₁ ++ l₂ := herase
  rw [herase, hl]
  simp only [List.map_append, List.map_cons]
  exact List.perm_middle

/-- Maps that give every key the same value hold the same entries. -/
theorem pairs_perm {m' : HashMap K V} (h : ∀ k, m.get k = m'.get k) : m.pairs.Perm m'.pairs := by
  rw [List.perm_ext_iff_of_nodup m.nodup_keys.of_map m'.nodup_keys.of_map]
  rintro ⟨k, v⟩
  rw [mem_pairs, mem_pairs, h]

theorem values_insert : (m.insert k v).values = v :: (m.erase k).values :=
  rfl

theorem values_insert_fresh (h : m.get k = none) : (m.insert k v).values = v :: m.values := by
  unfold values pairs insert
  dsimp only
  rw [AList.entries_insert_of_notMem (AList.lookup_eq_none.mp h)]
  rfl

theorem len_insert_fresh (h : m.get k = none) : (m.insert k v).len = m.len + 1 := by
  rw [← length_values, values_insert_fresh h, List.length_cons, length_values]

theorem len_insert_present (h : m.get k = some w) : (m.insert k v).len = m.len := by
  rw [← length_values, ← length_values, values_insert, (values_perm h).length_eq]
  rfl

/-- Replacing a value by one with the same image permutes the images. -/
theorem map_values_insert {β : Type} {f : V → β} (h : m.get k = some w) (hf : f v = f w) :
    ((m.insert k v).values.map f).Perm (m.values.map f) := by
  rw [values_insert, List.map_cons, hf, ← List.map_cons]
  exact ((values_perm h).map f).symm

/-- Replacing a value that counts adds nothing to the count. -/
theorem countP_values_insert_le {p : V → Bool} (h : m.get k = some w) (hw : p w = true) :
    (m.insert k v).values.countP p ≤ m.values.countP p := by
  rw [values_insert, (values_perm h).countP_eq, List.countP_cons, List.countP_cons, if_pos hw]
  have : (if p v = true then 1 else 0) ≤ 1 := by split_ifs <;> omega
  omega

/-- The values that count are those of the keys whose value counts. -/
theorem countP_values {p : V → Bool} {s : Finset K} (h : ∀ k v, m.get k = some v → k ∈ s) :
    m.values.countP p = (s.filter fun k => (m.get k).any p = true).card := by
  have hcount : m.values.countP p = ((m.pairs.filter fun x => p x.2).map (·.1)).length := by
    unfold values
    rw [List.countP_map, List.countP_eq_length_filter, List.length_map]
    rfl
  have hnodup : ((m.pairs.filter fun x => p x.2).map (·.1)).Nodup :=
    m.nodup_keys.sublist (List.filter_sublist.map _)
  rw [hcount, ← List.toFinset_card_of_nodup hnodup]
  congr 1
  ext k
  simp only [List.mem_toFinset, List.mem_map, List.mem_filter, Finset.mem_filter,
    Option.any_eq_true]
  constructor
  · rintro ⟨⟨_, v⟩, ⟨hmem, hv⟩, rfl⟩
    have hget := (mem_pairs).mp hmem
    exact ⟨h _ v hget, v, hget, hv⟩
  · rintro ⟨-, v, hget, hv⟩
    exact ⟨(k, v), ⟨(mem_pairs).mpr hget, hv⟩, rfl⟩

/-- The entries in the order of their keys, as a `BTreeMap` iterates. -/
def sortedPairs [LinearOrder K] (m : HashMap K V) : List (K × V) :=
  m.pairs.insertionSort fun x y => x.1 ≤ y.1

omit [DecidableEq K] in
theorem sortedPairs_perm [LinearOrder K] (m : HashMap K V) : m.sortedPairs.Perm m.pairs :=
  List.perm_insertionSort _ _

theorem forall_sortedPairs [LinearOrder K] {p : K × V → Prop} :
    (∀ x ∈ m.sortedPairs, p x) ↔ ∀ k v, m.get k = some v → p (k, v) := by
  rw [← forall_pairs]
  exact forall_congr' fun x => imp_congr_left m.sortedPairs_perm.mem_iff

end HashMap

/-! ## Loops -/

section Loops

variable {ε α β : Type}

theorem forM_ok {f : α → Except ε Unit} {l : List α} :
    l.forM f = .ok () ↔ ∀ x ∈ l, f x = .ok () := by
  induction l with
  | nil => exact iff_of_true rfl (by simp)
  | cons x l ih =>
    rw [List.forall_mem_cons, ← ih]
    exact except_check_ok

variable {K : Type} [DecidableEq K]

/-- Look each element up and insert its key into `seen`, failing when it is there already,
then check the element against what was found. -/
def insertAll (find : α → Except ε β) (key : α → K) (dup : ε) (check : α → β → Except ε Unit)
    (seen : Finset K) (l : List α) : Except ε (Finset K) :=
  l.foldlM (fun seen x => do
    let found ← find x
    failIf (key x ∈ seen) dup
    check x found
    return insert (key x) seen) seen

variable {find : α → Except ε β} {check : α → β → Except ε Unit} {key : α → K}

/-- The loop succeeds exactly when every element passes and no key repeats. -/
theorem insertAll_ok {dup : ε} {seen seen' : Finset K} {l : List α} :
    insertAll find key dup check seen l = .ok seen' ↔
      (∀ x ∈ l, key x ∉ seen ∧ ∃ found, find x = .ok found ∧ check x found = .ok ()) ∧
        (l.map key).Nodup ∧ seen' = seen ∪ (l.map key).toFinset := by
  unfold insertAll
  induction l generalizing seen with
  | nil =>
    rw [List.foldlM_nil]
    refine ⟨fun h => ⟨by simp, List.nodup_nil, ?_⟩, fun h => ?_⟩
    · cases h
      simp
    · rw [h.2.2]
      simp [pure, Except.pure]
  | cons y l ih =>
    rw [List.foldlM_cons, except_bind_ok]
    simp only [except_bind_ok (α := β), except_check_ok, failIf_ok, except_pure_ok]
    constructor
    · rintro ⟨_, ⟨found, hfind, hfresh, hcheck, rfl⟩, h⟩
      obtain ⟨hall, hnodup, rfl⟩ := ih.mp h
      refine ⟨?_, ?_, ?_⟩
      · intro x hx
        rcases List.mem_cons.mp hx with rfl | hx
        · exact ⟨hfresh, found, hfind, hcheck⟩
        · obtain ⟨hnot, hx⟩ := hall x hx
          exact ⟨fun hmem => hnot (Finset.mem_insert_of_mem hmem), hx⟩
      · refine List.nodup_cons.mpr ⟨fun hmem => ?_, hnodup⟩
        obtain ⟨x, hx, hkey⟩ := List.mem_map.mp hmem
        exact (hall x hx).1 (hkey ▸ Finset.mem_insert_self ..)
      · rw [List.map_cons, List.toFinset_cons, Finset.insert_union, Finset.union_insert]
    · rintro ⟨hall, hnodup, rfl⟩
      obtain ⟨hfresh, found, hfind, hcheck⟩ := hall y List.mem_cons_self
      obtain ⟨hnot, hnodup⟩ := List.nodup_cons.mp hnodup
      refine ⟨insert (key y) seen, ⟨found, hfind, hfresh, hcheck, rfl⟩, ih.mpr ⟨?_, hnodup, ?_⟩⟩
      · intro x hx
        obtain ⟨hseen, hx'⟩ := hall x (List.mem_cons_of_mem _ hx)
        refine ⟨fun hmem => ?_, hx'⟩
        rcases Finset.mem_insert.mp hmem with heq | hmem
        · exact hnot (heq ▸ List.mem_map_of_mem hx)
        · exact hseen hmem
      · rw [List.map_cons, List.toFinset_cons, Finset.insert_union, Finset.union_insert]

/-- From an empty set, the keys collected are those of the list. -/
theorem insertAll_empty_ok {dup : ε} {seen : Finset K} {l : List α} :
    insertAll find key dup check ∅ l = .ok seen ↔
      (∀ x ∈ l, ∃ found, find x = .ok found ∧ check x found = .ok ()) ∧ (l.map key).Nodup ∧
        seen = (l.map key).toFinset := by
  rw [insertAll_ok, Finset.empty_union]
  simp only [Finset.notMem_empty, not_false_eq_true, true_and]

variable {V : Type}

/-- `for x in l : *map.entry(key x).or_default() = update(..)`. -/
def groupBy (key : α → K) (default : V) (update : V → α → V) (l : List α) : HashMap K V :=
  l.foldl (fun m x => m.insert (key x) (update ((m.get (key x)).getD default) x)) .empty

/-- A key that occurs holds the update over the elements it occurs at. -/
theorem get_groupBy {default : V} {update : V → α → V} {l : List α} {k : K} :
    (groupBy key default update l).get k =
      if k ∈ l.map key then some ((l.filter (key · = k)).foldl update default) else none := by
  unfold groupBy
  induction l using List.reverseRecOn with
  | nil => simp
  | append_singleton l x ih =>
    rw [List.foldl_append, List.foldl_cons, List.foldl_nil, List.map_append, List.filter_append,
      HashMap.get_insert_apply]
    by_cases hk : k = key x
    · subst hk
      have hin : key x ∈ l.map key ++ [x].map key := by simp
      have hfilter : [x].filter (key · = key x) = [x] := by simp
      rw [if_pos rfl, if_pos hin, hfilter, List.foldl_append, ih]
      split_ifs with hl
      · rfl
      · have hnone : l.filter (key · = key x) = [] := by
          rw [List.filter_eq_nil_iff]
          intro y hy hkey
          exact hl (List.mem_map.mpr ⟨y, hy, of_decide_eq_true hkey⟩)
        rw [hnone]
        rfl
    · have hfilter : [x].filter (key · = k) = [] := by
        simp [Ne.symm hk]
      rw [if_neg hk, ih, hfilter, List.append_nil]
      simp [hk]

/-- Collecting into a set. -/
theorem foldl_insert (f : α → K) (l : List α) (seen : Finset K) :
    l.foldl (fun set x => insert (f x) set) seen = (l.map f).toFinset ∪ seen := by
  induction l generalizing seen with
  | nil => simp
  | cons x l ih =>
    rw [List.foldl_cons, ih, List.map_cons, List.toFinset_cons, Finset.union_insert,
      Finset.insert_union]

/-- Every group satisfies what the update over each key's elements does. -/
theorem forall_groupBy {default : V} {update : V → α → V} {l : List α} {p : K × V → Prop} :
    (∀ x ∈ (groupBy key default update l).pairs, p x) ↔
      ∀ x ∈ l, p (key x, (l.filter (key · = key x)).foldl update default) := by
  rw [HashMap.forall_pairs]
  simp only [get_groupBy, Option.ite_none_right_eq_some, Option.some.injEq]
  constructor
  · intro h x hx
    exact h _ _ ⟨List.mem_map_of_mem hx, rfl⟩
  · rintro h k v ⟨hk, rfl⟩
    obtain ⟨x, hx, rfl⟩ := List.mem_map.mp hk
    exact h x hx

end Loops

/-! ## Sorted sets -/

section Sorted

variable {α : Type} [LinearOrder α] {s : Finset α} {l l' : List α} {x : α}

theorem insertionSort_of_perm (h : l.Perm l') :
    l.insertionSort (· ≤ ·) = l'.insertionSort (· ≤ ·) := by
  have hl := List.perm_insertionSort (· ≤ ·) l
  have hl' := List.perm_insertionSort (· ≤ ·) l'
  exact List.Perm.eq_of_pairwise' (List.pairwise_insertionSort _ _)
    (List.pairwise_insertionSort _ _) (hl.trans (h.trans hl'.symm))

/-- The elements in increasing order. -/
def sorted (s : Finset α) : List α :=
  Quot.liftOn s.1 (List.insertionSort (· ≤ ·)) fun _ _ => insertionSort_of_perm

theorem coe_sorted (s : Finset α) : (sorted s : Multiset α) = s.1 := by
  rcases s with ⟨⟨l⟩, hl⟩
  exact Quot.sound (List.perm_insertionSort _ l)

@[simp] theorem mem_sorted : x ∈ sorted s ↔ x ∈ s := by
  rw [← Finset.mem_val, ← coe_sorted, Multiset.mem_coe]

@[simp] theorem length_sorted : (sorted s).length = s.card := by
  rw [Finset.card_def, ← coe_sorted, Multiset.coe_card]

theorem nodup_sorted : (sorted s).Nodup := by
  rw [← Multiset.coe_nodup, coe_sorted]
  exact s.nodup

theorem isChain_sorted : (sorted s).IsChain (· < ·) := by
  have hle : (sorted s).Pairwise (· ≤ ·) := by
    rcases s with ⟨⟨l⟩, hl⟩
    exact List.pairwise_insertionSort _ l
  rw [List.isChain_iff_pairwise]
  exact (hle.and nodup_sorted).imp fun h => lt_of_le_of_ne h.1 h.2

end Sorted

end Cthuwu

/-! ## Entries that stay -/

namespace Cthuwu.HashMap

variable {K V : Type}

/-- The entries that pass the test. -/
def retain (p : K → V → Bool) (m : HashMap K V) : HashMap K V :=
  ⟨⟨m.alist.entries.filter fun e => p e.1 e.2, m.alist.nodupKeys.sublist List.filter_sublist⟩⟩

variable {p : K → V → Bool}

theorem len_retain_le {m : HashMap K V} : (m.retain p).len ≤ m.len :=
  List.length_filter_le _ _

theorem len_mapWithKey {W : Type} {f : K → V → W} {m : HashMap K V} :
    (m.mapWithKey f).len = m.len :=
  List.length_map ..

variable [DecidableEq K]

theorem get_retain {m : HashMap K V} {k : K} : (m.retain p).get k = (m.get k).filter (p k) := by
  refine Option.ext fun v => ?_
  rw [Option.filter_eq_some_iff, ← mem_pairs, ← mem_pairs]
  unfold pairs retain
  simp only [List.mem_map, List.mem_filter, Prod.mk.injEq]
  constructor
  · rintro ⟨e, ⟨he, hp⟩, rfl, rfl⟩
    exact ⟨⟨e, he, rfl, rfl⟩, hp⟩
  · rintro ⟨⟨e, he, rfl, rfl⟩, hp⟩
    exact ⟨e, ⟨he, hp⟩, rfl, rfl⟩

theorem get_retain_eq_some {m : HashMap K V} {k : K} {v : V} :
    (m.retain p).get k = some v ↔ m.get k = some v ∧ p k v = true := by
  rw [get_retain, Option.filter_eq_some_iff]

theorem len_erase_le {m : HashMap K V} {k : K} : (m.erase k).len ≤ m.len := by
  unfold len erase
  exact (List.kerase_sublist k m.alist.entries).length_le

end Cthuwu.HashMap
