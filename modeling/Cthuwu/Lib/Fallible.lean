import Mathlib.Logic.Basic
import Mathlib.Data.Set.Defs
import Mathlib.Tactic.Common

/-!
# Fallible operations on a mutable state

An operation that may fail runs on a state and returns the state it left behind
together with its value or its error. Writes made before a failure stay in the
state, as they do behind `&mut self` : atomicity is a theorem about an operation,
not a property of the model.

`bind_ok` and `bind_error` take a sequence apart at its first step. `ReadOnly`
operations never write, `Infallible` ones never fail, and an `Atomic` operation
leaves the state alone whenever it fails. An operation that only reads until its
last infallible write is atomic (`ReadOnly.bind_atomic`, `Infallible.atomic`).
-/

namespace Cthuwu

/-- An operation on a state `σ` that returns `α` or fails with `ε`. -/
abbrev Fallible (ε σ α : Type) := ExceptT ε (StateM σ) α

/-- Fail with `err` when `c` holds. -/
def failIf {ε : Type} (c : Prop) [Decidable c] (err : ε) : Except ε Unit :=
  if c then .error err else .ok ()

/-- The value of an option, or `err`. -/
def okOr {ε α : Type} (o : Option α) (err : ε) : Except ε α :=
  match o with
  | some a => .ok a
  | none => .error err

@[simp] theorem failIf_ok {ε : Type} {c : Prop} [Decidable c] {err : ε} {u : Unit} :
    failIf c err = .ok u ↔ ¬c := by
  unfold failIf
  split_ifs with h <;> simp [h]

@[simp] theorem okOr_ok {ε α : Type} {o : Option α} {err : ε} {a : α} :
    okOr o err = .ok a ↔ o = some a := by
  cases o <;> simp [okOr]

/-- A sequence succeeds when its first step does and the rest does after it. -/
theorem except_bind_ok {ε α β : Type} {x : Except ε α} {f : α → Except ε β} {b : β} :
    (x >>= f) = .ok b ↔ ∃ a, x = .ok a ∧ f a = .ok b := by
  cases x <;> simp [Bind.bind, Except.bind]

/-- A sequence fails at its first step, or after it. -/
theorem except_bind_error {ε α β : Type} {x : Except ε α} {f : α → Except ε β} {e : ε} :
    (x >>= f) = .error e ↔ x = .error e ∨ ∃ a, x = .ok a ∧ f a = .error e := by
  cases x <;> simp [Bind.bind, Except.bind]

@[simp] theorem failIf_error {ε : Type} {c : Prop} [Decidable c] {err e : ε} :
    failIf c err = .error e ↔ c ∧ err = e := by
  unfold failIf
  split_ifs with h <;> simp [h]

@[simp] theorem okOr_error {ε α : Type} {o : Option α} {err e : ε} :
    okOr o err = .error e ↔ o = none ∧ err = e := by
  cases o <;> simp [okOr]

@[simp] theorem except_pure_ok {ε α : Type} {a b : α} : (pure a : Except ε α) = .ok b ↔ a = b :=
  ⟨Except.ok.inj, congrArg _⟩

@[simp] theorem except_mapError_ok {ε ε' α : Type} {x : Except ε α} {f : ε → ε'} {a : α} :
    x.mapError f = .ok a ↔ x = .ok a := by
  cases x <;> simp [Except.mapError]

theorem toOption_eq_some {ε α : Type} {x : Except ε α} {a : α} :
    x.toOption = some a ↔ x = .ok a := by
  cases x <;> simp [Except.toOption]

/-- What a check returns says nothing. -/
theorem exists_unit {p : Unit → Prop} : (∃ u, p u) ↔ p () :=
  ⟨fun ⟨_, h⟩ => h, fun h => ⟨(), h⟩⟩

theorem forall_unit {p : Unit → Prop} : (∀ u, p u) ↔ p () :=
  ⟨fun h => h (), fun h _ => h⟩

/-- A check passes when it returns, and the rest does. -/
theorem except_check_ok {ε β : Type} {x : Except ε Unit} {f : Unit → Except ε β} {b : β} :
    (x >>= f) = .ok b ↔ x = .ok () ∧ f () = .ok b :=
  (except_bind_ok).trans ⟨fun ⟨_, h⟩ => h, fun h => ⟨(), h⟩⟩

namespace Fallible

variable {ε σ α β : Type}

/-- Run an operation from a state. -/
def exec (x : Fallible ε σ α) (s : σ) : Except ε α × σ :=
  x.run s

/-- The state an operation leaves behind. -/
def after (x : Fallible ε σ α) (s : σ) : σ :=
  (x.exec s).2

theorem exec_bind (x : Fallible ε σ α) (f : α → Fallible ε σ β) (s : σ) :
    (x >>= f).exec s = match x.exec s with
      | (.ok a, s') => (f a).exec s'
      | (.error e, s') => (.error e, s') := by
  simp only [exec, ExceptT.run_bind]
  change (match (x.run s).1 with | .ok a => (f a).run | .error e => _) (x.run s).2 = _
  rcases x.run s with ⟨_ | _, _⟩ <;> rfl

variable {x : Fallible ε σ α} {f : α → Fallible ε σ β} {s : σ}

/-- A sequence succeeds when its first step does and the rest does from the state
the first step left. -/
theorem bind_ok {s'' : σ} {b : β} : (x >>= f).exec s = (.ok b, s'') ↔
      ∃ a s', x.exec s = (.ok a, s') ∧ (f a).exec s' = (.ok b, s'') := by
  rw [exec_bind]
  rcases h : x.exec s with ⟨_ | _, _⟩ <;> simp

@[simp] theorem exec_pure (a : α) (s : σ) : (pure a : Fallible ε σ α).exec s = (.ok a, s) :=
  (rfl)

@[simp] theorem exec_throw (e : ε) (s : σ) : (throw e : Fallible ε σ α).exec s = (.error e, s) :=
  (rfl)

@[simp] theorem exec_set (t s : σ) : (set t : Fallible ε σ PUnit).exec s = (.ok ⟨⟩, t) :=
  (rfl)

@[simp] theorem exec_modify (f : σ → σ) (s : σ) :
    (modify f : Fallible ε σ PUnit).exec s = (.ok ⟨⟩, f s) :=
  (rfl)

@[simp] theorem exec_lift (x : Except ε α) (s : σ) :
    (liftM x : Fallible ε σ α).exec s = (x, s) := by
  cases x <;> rfl

@[simp] theorem exec_get_bind (f : σ → Fallible ε σ β) (s : σ) :
    (get >>= f).exec s = (f s).exec s := by
  rw [exec_bind]
  rfl

@[simp] theorem exec_set_bind (t : σ) (f : PUnit → Fallible ε σ β) (s : σ) :
    (set t >>= f).exec s = (f ⟨⟩).exec t := by
  rw [exec_bind, exec_set]

@[simp] theorem exec_modify_bind (g : σ → σ) (f : PUnit → Fallible ε σ β) (s : σ) :
    (modify g >>= f).exec s = (f ⟨⟩).exec (g s) := by
  rw [exec_bind, exec_modify]

/-- A handler runs from the state the failure left. -/
theorem exec_tryCatch (x : Fallible ε σ α) (handle : ε → Fallible ε σ α) (s : σ) :
    (tryCatch x handle).exec s = match x.exec s with
      | (.ok a, s') => (.ok a, s')
      | (.error e, s') => (handle e).exec s' := by
  simp only [exec]
  change (match (x.run s).1 with | .ok a => _ | .error e => (handle e).run) (x.run s).2 = _
  rcases x.run s with ⟨_ | _, _⟩ <;> rfl

/-- A check decides whether the rest runs. -/
theorem exec_lift_bind (x : Except ε α) (f : α → Fallible ε σ β) (s : σ) :
    (liftM x >>= f).exec s = match x with
      | .ok a => (f a).exec s
      | .error e => (.error e, s) := by
  rw [exec_bind, exec_lift]
  cases x <;> rfl

/-- A check that succeeds leaves the state to the rest. -/
theorem lift_bind_ok {x : Except ε α} {s' : σ} {b : β} :
    (liftM x >>= f).exec s = (.ok b, s') ↔ ∃ a, x = .ok a ∧ (f a).exec s = (.ok b, s') := by
  rw [bind_ok]
  simp only [exec_lift, Prod.mk.injEq]
  constructor
  · rintro ⟨a, _, ⟨hx, rfl⟩, hf⟩
    exact ⟨a, hx, hf⟩
  · rintro ⟨a, hx, hf⟩
    exact ⟨a, s, ⟨hx, rfl⟩, hf⟩

/-- Run an operation on a part of the state where it stands. The part is written back also
when the operation fails. -/
def onPart {ε' τ : Type} (err : ε' → ε) (get : σ → τ) (set : τ → σ → σ) (x : Fallible ε' τ α) :
    Fallible ε σ α :=
  ExceptT.mk fun s => ((x.exec (get s)).1.mapError err, set (x.exec (get s)).2 s)

@[simp] theorem exec_onPart {ε' τ : Type} (err : ε' → ε) (get : σ → τ) (set : τ → σ → σ)
    (x : Fallible ε' τ α) (s : σ) : (onPart err get set x).exec s =
      ((x.exec (get s)).1.mapError err, set (x.exec (get s)).2 s) :=
  rfl

/-! ## Reading, failing and leaving no trace -/

/-- The operation never changes the state. -/
def ReadOnly (x : Fallible ε σ α) : Prop :=
  ∀ s, x.after s = s

/-- The operation never fails. -/
def Infallible (x : Fallible ε σ α) : Prop :=
  ∀ s, ∃ a, (x.exec s).1 = .ok a

/-- A failed operation leaves the state as it was. -/
def Atomic (x : Fallible ε σ α) : Prop :=
  ∀ s e, (x.exec s).1 = .error e → x.after s = s

theorem readOnly_get : ReadOnly (get : Fallible ε σ σ) := fun _ => rfl

theorem readOnly_lift (x : Except ε α) : ReadOnly (liftM x : Fallible ε σ α) := fun s => by
  simp [after]

theorem infallible_set (t : σ) : Infallible (set t : Fallible ε σ PUnit) := fun _ => ⟨_, rfl⟩

theorem infallible_modify (f : σ → σ) : Infallible (modify f : Fallible ε σ PUnit) :=
  fun _ => ⟨_, rfl⟩

theorem infallible_pure (a : α) : Infallible (pure a : Fallible ε σ α) := fun _ => ⟨_, rfl⟩

theorem Infallible.bind (hx : Infallible x) (hf : ∀ a, Infallible (f a)) :
    Infallible (x >>= f) := by
  intro s
  obtain ⟨a, ha⟩ := hx s
  rw [exec_bind]
  rcases h : x.exec s with ⟨r, s'⟩
  rw [h] at ha
  simp only at ha
  subst ha
  exact hf a s'

theorem ReadOnly.atomic (hx : ReadOnly x) : Atomic x := fun s _ _ => hx s

theorem atomic_throw (e : ε) : Atomic (throw e : Fallible ε σ α) := fun _ _ _ => rfl

theorem Infallible.atomic (hx : Infallible x) : Atomic x := by
  intro s e he
  obtain ⟨a, ha⟩ := hx s
  rw [ha] at he
  cases he

/-- Reads before an atomic operation keep it atomic. -/
theorem ReadOnly.bind_atomic (hx : ReadOnly x) (hf : ∀ a, Atomic (f a)) : Atomic (x >>= f) := by
  intro s e he
  have hs := hx s
  unfold after at hs ⊢
  rw [exec_bind] at he ⊢
  rcases h : x.exec s with ⟨r, s'⟩
  rw [h] at he hs
  simp only at hs
  subst hs
  cases r with
  | error e' => rfl
  | ok a => exact hf a s' e he

/-- What cannot fail after an atomic operation keeps it atomic. -/
theorem Atomic.bind_infallible (hx : Atomic x) (hf : ∀ a, Infallible (f a)) : Atomic (x >>= f) := by
  intro s e he
  unfold after
  rw [exec_bind] at he ⊢
  rcases h : x.exec s with ⟨r, s'⟩
  rw [h] at he
  cases r with
  | error e' =>
    have hs := hx s e' (congrArg Prod.fst h)
    unfold after at hs
    rwa [h] at hs
  | ok a =>
    obtain ⟨b, hb⟩ := hf a s'
    exact absurd (hb.symm.trans he) (by simp)

/-- A failed operation leaves this state as it was. -/
def AtomicAt (x : Fallible ε σ α) (s : σ) : Prop :=
  ∀ e, (x.exec s).1 = .error e → x.after s = s

theorem AtomicAt.atomic (h : ∀ s, AtomicAt x s) : Atomic x := h

theorem Atomic.at (h : Atomic x) (s : σ) : AtomicAt x s := h s

/-- An operation may use the state it has read. -/
theorem atomicAt_get_bind {f : σ → Fallible ε σ β} (h : AtomicAt (f s) s) :
    AtomicAt (get >>= f) s := by
  intro e he
  unfold after
  rw [exec_get_bind] at he ⊢
  exact h e he

/-- What follows a check may use that it has passed. -/
theorem atomicAt_lift_bind {x : Except ε α} (h : ∀ a, x = .ok a → AtomicAt (f a) s) :
    AtomicAt (liftM x >>= f) s := by
  intro e he
  unfold after
  rw [exec_bind, exec_lift] at he ⊢
  cases x with
  | error err => rfl
  | ok a => exact h a rfl e he

/-- What cannot fail here is atomic here. -/
theorem atomicAt_of_ok {s' : σ} {a : α} (h : x.exec s = (.ok a, s')) : AtomicAt x s := by
  intro e he
  rw [h] at he
  cases he

/-- What surely succeeds after an operation that is atomic here keeps it atomic. -/
theorem AtomicAt.bind_ok (hx : AtomicAt x s)
    (hf : ∀ a s', x.exec s = (.ok a, s') → ∃ b s'', (f a).exec s' = (.ok b, s'')) :
    AtomicAt (x >>= f) s := by
  intro e he
  unfold after
  rw [exec_bind] at he ⊢
  rcases h : x.exec s with ⟨r, s'⟩
  rw [h] at he
  cases r with
  | error e' =>
    have hs := hx e' (congrArg Prod.fst h)
    unfold after at hs
    rwa [h] at hs
  | ok a =>
    obtain ⟨b, s'', hb⟩ := hf a s' h
    simp only [hb] at he
    cases he

/-! ### Exactly when -/

/-- The operation returns. -/
def Succeeds (x : Fallible ε σ α) (s : σ) : Prop :=
  ∃ a s', x.exec s = (.ok a, s')

theorem succeeds_pure (a : α) (s : σ) : Succeeds (pure a : Fallible ε σ α) s :=
  ⟨a, s, rfl⟩

theorem succeeds_bind :
    Succeeds (x >>= f) s ↔ ∃ a s', x.exec s = (.ok a, s') ∧ Succeeds (f a) s' := by
  constructor
  · rintro ⟨b, s'', h⟩
    obtain ⟨a, s', ha, hb⟩ := (bind_ok).mp h
    exact ⟨a, s', ha, b, s'', hb⟩
  · rintro ⟨a, s', ha, b, s'', hb⟩
    exact ⟨b, s'', (bind_ok).mpr ⟨a, s', ha, hb⟩⟩

theorem succeeds_get_bind {f : σ → Fallible ε σ β} : Succeeds (get >>= f) s ↔ Succeeds (f s) s := by
  unfold Succeeds
  rw [exec_get_bind]

theorem succeeds_lift_bind {x : Except ε α} :
    Succeeds (liftM x >>= f) s ↔ ∃ a, x = .ok a ∧ Succeeds (f a) s := by
  unfold Succeeds
  rw [exec_lift_bind]
  cases x <;> simp

/-- An operation is atomic here when it returns, or leaves the state as it was. -/
theorem atomicAt_iff : AtomicAt x s ↔ Succeeds x s ∨ x.after s = s := by
  unfold AtomicAt Succeeds after
  rcases x.exec s with ⟨e | a, s'⟩
  · simp
  · simp

theorem atomicAt_pure (a : α) (s : σ) : AtomicAt (pure a : Fallible ε σ α) s :=
  (atomicAt_iff).mpr (.inr rfl)

theorem atomicAt_get_bind_iff {f : σ → Fallible ε σ β} :
    AtomicAt (get >>= f) s ↔ AtomicAt (f s) s := by
  unfold AtomicAt after
  rw [exec_get_bind]

theorem atomicAt_lift_bind_iff {x : Except ε α} :
    AtomicAt (liftM x >>= f) s ↔ ∀ a, x = .ok a → AtomicAt (f a) s := by
  refine ⟨fun h a hx => ?_, atomicAt_lift_bind⟩
  subst hx
  unfold AtomicAt after at h ⊢
  rwa [exec_lift_bind] at h

/-- A check that fails is atomic. -/
theorem atomicAt_check_iff {x : Except ε Unit} {f : Unit → Fallible ε σ β} :
    AtomicAt (liftM x >>= f) s ↔ (x = .ok () → AtomicAt (f ()) s) :=
  (atomicAt_lift_bind_iff).trans ⟨fun h => h (), fun h _ => h⟩

/-- What cannot fail does not matter. -/
theorem atomicAt_bind_infallible (hf : ∀ a, Infallible (f a)) :
    AtomicAt (x >>= f) s ↔ AtomicAt x s := by
  unfold AtomicAt after
  rw [exec_bind]
  rcases x.exec s with ⟨e | a, s'⟩
  · simp only [Except.error.injEq]
  · obtain ⟨b, hb⟩ := hf a s'
    simp [hb]

/-- An operation on a part that is atomic there is atomic. -/
theorem atomicAt_onPart {ε' τ : Type} {err : ε' → ε} {get : σ → τ} {set : τ → σ → σ}
    {x : Fallible ε' τ α} (h : AtomicAt x (get s)) (hset : set (get s) s = s) :
    AtomicAt (onPart err get set x) s := by
  intro e he
  unfold after
  rw [exec_onPart] at he ⊢
  cases hx : (x.exec (get s)).1 with
  | error e' =>
    have hafter : (x.exec (get s)).2 = get s := h e' hx
    rw [hafter, hset]
  | ok a =>
    rw [hx] at he
    cases he

/-- A sequence of reads is a read. -/
theorem ReadOnly.bind (hx : ReadOnly x) (hf : ∀ a, ReadOnly (f a)) : ReadOnly (x >>= f) := by
  intro s
  have hs := hx s
  unfold after at hs ⊢
  rw [exec_bind]
  rcases h : x.exec s with ⟨r, s'⟩
  rw [h] at hs
  simp only at hs
  subst hs
  cases r with
  | error e' => rfl
  | ok a => exact hf a s'

end Fallible

end Cthuwu
