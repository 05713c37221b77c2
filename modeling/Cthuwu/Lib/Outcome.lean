import Cthuwu.Lib.Fallible

/-!
# Outcomes of fallible operations

`Ends Q x s` says that the operation, run from `s`, ends with a result and a state that satisfy `Q`,
whether it returns or fails. The rules take a sequence apart from the left, as a weakest
precondition would. `Preserves P x` says that the operation keeps `P` whatever becomes of it.

A transaction runs on a state and either returns a value with the state it wrote, or
reverts with a reason and writes nothing. `Revertible.bind_ok` and
`Revertible.lift_bind_ok` take a successful transaction apart step by step;
`Avoids e` says that no run reverts with `e`, and is proved along the same steps.
-/

namespace Cthuwu.Fallible

variable {ε σ α β : Type} {Q Q' : Except ε α → σ → Prop} {s : σ}

/-- The result and the state the operation ends with. -/
def Ends (Q : Except ε α → σ → Prop) (x : Fallible ε σ α) (s : σ) : Prop :=
  Q (x.exec s).1 (x.exec s).2

/-- What holds when an operation fails, or after the rest when it returns. -/
def andThen (Q : Except ε β → σ → Prop) (f : α → Fallible ε σ β) : Except ε α → σ → Prop
  | .ok a, s => Ends Q (f a) s
  | .error e, s => Q (.error e) s

variable {f : α → Fallible ε σ β} {x : Fallible ε σ α} {handle : ε → Fallible ε σ α}

theorem andThen_ok {Q : Except ε β → σ → Prop} {a : α} :
    andThen Q f (.ok a) s = Ends Q (f a) s := rfl

theorem Ends.mono (h : Ends Q x s) (hQ : ∀ r s', Q r s' → Q' r s') : Ends Q' x s :=
  hQ _ _ h

/-- What the outcome says of the state. -/
theorem Ends.after {P : σ → Prop} (h : Ends Q x s) (hP : ∀ r s', Q r s' → P s') : P (x.after s) :=
  hP _ _ h

theorem ends_of_exec {r : Except ε α} {s' : σ} (hexec : x.exec s = (r, s')) (h : Q r s') :
    Ends Q x s := by
  unfold Ends
  rwa [hexec]

theorem Ends.of_exec {r : Except ε α} {s' : σ} (h : Ends Q x s) (hexec : x.exec s = (r, s')) :
    Q r s' := by
  unfold Ends at h
  rwa [hexec] at h

theorem ends_lift {x : Except ε α} (h : Q x s) : Ends Q (liftM x : Fallible ε σ α) s := by
  unfold Ends
  rwa [exec_lift]

theorem ends_pure {a : α} (h : Q (.ok a) s) : Ends Q (pure a : Fallible ε σ α) s := h

theorem ends_throw {e : ε} (h : Q (.error e) s) : Ends Q (throw e : Fallible ε σ α) s := h

theorem ends_modify {f : σ → σ} {Q : Except ε PUnit → σ → Prop} (h : Q (.ok ⟨⟩) (f s)) :
    Ends Q (modify f : Fallible ε σ PUnit) s := h

theorem ends_bind {Q : Except ε β → σ → Prop} (h : Ends (andThen Q f) x s) :
    Ends Q (x >>= f) s := by
  unfold Ends at h ⊢
  rw [exec_bind]
  rcases hexec : x.exec s with ⟨e | a, s'⟩ <;> rw [hexec] at h <;> exact h

/-- A sequence after a first step with a known outcome. -/
theorem Ends.bind {P : Except ε α → σ → Prop} {Q : Except ε β → σ → Prop} (h : Ends P x s)
    (hok : ∀ a s', P (.ok a) s' → Ends Q (f a) s')
    (herror : ∀ e s', P (.error e) s' → Q (.error e) s') : Ends Q (x >>= f) s := by
  refine ends_bind (h.mono fun r s' hr => ?_)
  cases r with
  | error e => exact herror e s' hr
  | ok a => exact hok a s' hr

/-- A sequence after a first step that is known by its run. -/
theorem ends_bind_of_exec {Q : Except ε β → σ → Prop}
    (hok : ∀ a s', x.exec s = (.ok a, s') → Ends Q (f a) s')
    (herror : ∀ e s', x.exec s = (.error e, s') → Q (.error e) s') : Ends Q (x >>= f) s := by
  unfold Ends
  rw [exec_bind]
  rcases hexec : x.exec s with ⟨e | a, s'⟩
  · exact herror e s' hexec
  · exact hok a s' hexec

theorem ends_get_bind {Q : Except ε β → σ → Prop} {f : σ → Fallible ε σ β} (h : Ends Q (f s) s) :
    Ends Q (get >>= f) s := by
  unfold Ends at h ⊢
  rwa [exec_get_bind]

theorem ends_modify_bind {Q : Except ε β → σ → Prop} {g : σ → σ} {f : PUnit → Fallible ε σ β}
    (h : Ends Q (f ⟨⟩) (g s)) : Ends Q (modify g >>= f) s := by
  unfold Ends at h ⊢
  rwa [exec_modify_bind]

theorem ends_set_bind {Q : Except ε β → σ → Prop} {t : σ} {f : PUnit → Fallible ε σ β}
    (h : Ends Q (f ⟨⟩) t) : Ends Q (set t >>= f) s := by
  unfold Ends at h ⊢
  rwa [exec_set_bind]

/-- What follows a check may use that it has passed. -/
theorem ends_lift_bind {Q : Except ε β → σ → Prop} {x : Except ε α}
    (herror : ∀ e, x = .error e → Q (.error e) s) (h : ∀ a, x = .ok a → Ends Q (f a) s) :
    Ends Q (liftM x >>= f) s := by
  unfold Ends at h ⊢
  rw [exec_lift_bind]
  cases x with
  | error e => exact herror e rfl
  | ok a => exact h a rfl

/-- A handler ends what has failed. -/
theorem ends_tryCatch (h : Ends (fun r s' => match r with
      | .ok a => Q (.ok a) s'
      | .error e => Ends Q (handle e) s') x s) : Ends Q (tryCatch x handle) s := by
  unfold Ends at h ⊢
  rw [exec_tryCatch]
  rcases hexec : x.exec s with ⟨e | a, s'⟩ <;> rw [hexec] at h <;> exact h

/-! ## Invariants of operations -/

/-- The operation keeps a property of the state, whether it returns or fails. -/
def Preserves (P : σ → Prop) (x : Fallible ε σ α) : Prop :=
  ∀ s, P s → P (x.after s)

variable {P : σ → Prop}

theorem preserves_pure (a : α) : Preserves P (pure a : Fallible ε σ α) := fun _ h => h

theorem preserves_throw (e : ε) : Preserves P (throw e : Fallible ε σ α) := fun _ h => h

theorem preserves_lift (x : Except ε α) : Preserves P (liftM x : Fallible ε σ α) := fun s h => by
  unfold after
  rwa [exec_lift]

theorem preserves_modify {f : σ → σ} (hf : ∀ s, P s → P (f s)) :
    Preserves P (modify f : Fallible ε σ PUnit) := hf

theorem preserves_get_bind {f : σ → Fallible ε σ β} (hf : ∀ s, P s → Preserves P (f s)) :
    Preserves P (get >>= f) := fun s h => by
  unfold after
  rw [exec_get_bind]
  exact hf s h s h

theorem Preserves.bind (hx : Preserves P x) (hf : ∀ a, Preserves P (f a)) :
    Preserves P (x >>= f) := by
  intro s h
  have hfirst := hx s h
  unfold after at hfirst ⊢
  rw [exec_bind]
  rcases hexec : x.exec s with ⟨e | a, s'⟩ <;> rw [hexec] at hfirst
  · exact hfirst
  · exact hf a s' hfirst

theorem Preserves.tryCatch (hx : Preserves P x) (hhandle : ∀ e, Preserves P (handle e)) :
    Preserves P (tryCatch x handle) := by
  intro s h
  have hfirst := hx s h
  unfold after at hfirst ⊢
  rw [exec_tryCatch]
  rcases hexec : x.exec s with ⟨e | a, s'⟩ <;> rw [hexec] at hfirst
  · exact hhandle e s' hfirst
  · exact hfirst

end Cthuwu.Fallible

/-! ## Transactions that revert -/

namespace Cthuwu

/-- A transaction on a state `σ` that returns `α` or reverts with `ε`. -/
abbrev Revertible (ε σ α : Type) := StateT σ (Except ε) α

namespace Revertible

variable {ε σ α β : Type}

theorem run_bind_eq (x : Revertible ε σ α) (f : α → Revertible ε σ β) (s : σ) :
    (x >>= f).run s = x.run s >>= fun p => (f p.1).run p.2 :=
  rfl

variable {f : α → Revertible ε σ β} {e : ε}

/-- A transaction succeeds when its first step does and the rest does from the state
the first step wrote. -/
theorem bind_ok {x : Revertible ε σ α} {s : σ} {r : β × σ} :
    (x >>= f).run s = .ok r ↔ ∃ p, x.run s = .ok p ∧ (f p.1).run p.2 = .ok r := by
  rw [run_bind_eq, except_bind_ok]

@[simp] theorem run_lift (x : Except ε α) (s : σ) :
    (liftM x : Revertible ε σ α).run s = x.map (·, s) := by
  cases x <;> rfl

/-- A check that succeeds leaves the state to the rest. -/
theorem lift_bind_ok {x : Except ε α} {s : σ} {r : β × σ} :
    (liftM x >>= f).run s = .ok r ↔ ∃ a, x = .ok a ∧ (f a).run s = .ok r := by
  rw [bind_ok, run_lift]
  cases x <;> simp [Except.map]

@[simp] theorem run_get_bind (f : σ → Revertible ε σ β) (s : σ) : (get >>= f).run s = (f s).run s :=
  (rfl)

@[simp] theorem run_modify_bind (g : σ → σ) (f : PUnit → Revertible ε σ β) (s : σ) :
    (modify g >>= f).run s = (f ⟨⟩).run (g s) :=
  (rfl)

@[simp] theorem run_pure_ok (a : α) (s : σ) : (pure a : Revertible ε σ α).run s = .ok (a, s) :=
  (rfl)

@[simp] theorem run_modify_ok (g : σ → σ) (s : σ) :
    (modify g : Revertible ε σ PUnit).run s = .ok (⟨⟩, g s) :=
  (rfl)

/-! ## Reasons that never occur -/

/-- No run of `x` reverts with `e`. -/
def Avoids (e : ε) (x : Revertible ε σ α) : Prop :=
  ∀ s, x.run s ≠ .error e

theorem Avoids.bind {x : Revertible ε σ α} (hx : x.Avoids e) (hf : ∀ a, (f a).Avoids e) :
    (x >>= f).Avoids e := by
  intro s h
  rw [run_bind_eq] at h
  cases hr : x.run s with
  | error e' =>
    rw [hr] at h
    exact hx s (hr.trans (congrArg _ (Except.error.inj h)))
  | ok p =>
    rw [hr] at h
    exact hf p.1 p.2 h

theorem avoids_lift {x : Except ε α} (hx : x ≠ .error e) :
    (liftM x : Revertible ε σ α).Avoids e := by
  intro s h
  rw [run_lift] at h
  cases x with
  | error e' => exact hx (congrArg _ (Except.error.inj h))
  | ok a => cases h

/-- A computation known to succeed is replaced by its value. -/
theorem avoids_ok_bind {a : α} (h : (f a).Avoids e) :
    ((liftM (Except.ok a : Except ε α) : Revertible ε σ α) >>= f).Avoids e :=
  h

theorem avoids_get : (get : Revertible ε σ σ).Avoids e :=
  fun _ => nofun

theorem avoids_modify (g : σ → σ) : (modify g : Revertible ε σ PUnit).Avoids e :=
  fun _ => nofun

theorem avoids_pure (a : α) : (pure a : Revertible ε σ α).Avoids e :=
  fun _ => nofun

end Revertible

end Cthuwu
