import Cthuwu.Inference.Effects

/-!
# What a public key leaves behind

A public command may store a credential after all others, and nothing else : it replaces, removes
and overtakes no credential it did not store, and changes no model id (`Unharmed`). Only the
clean-up of a key that was not valid can break this, since it clears whichever key is loaded then.
-/

namespace Cthuwu.Inference

open Fallible

variable {w v : World} {c d : ℕ}

/-! ## Credentials of others -/

/-- What a step of a public command does to what others have stored and chosen. -/
structure Unharmed (c : ℕ) (w w' : World) : Prop where
  key : ∀ key, w.router.veniceApiKey = some key → w.storedBy ≠ some c →
    w'.router.veniceApiKey = some key
  slots : ∀ name values, w.router.environment name = some values →
    ∃ added, w'.router.environment name = some (values ++ added)
  moved : ∀ name, w.router.environment name = none → w'.router.environment name = none ∨
    name = veniceVariable ∧ ∃ added, w'.router.environment name =
      some (w.router.veniceApiKey.toList.map (.new "primary") ++ added)
  models : { w'.router.selection with provider := w.router.selection.provider } = w.router.selection

theorem unharmed_of_eq {w' : World} (h : w'.router = w.router) : Unharmed c w w' where
  key key hkey _ := by rw [h, hkey]
  slots name values hvalues := ⟨[], by rw [h, hvalues, List.append_nil]⟩
  moved name hnone := .inl (by rw [h, hnone])
  models := by rw [h]

/-- A key or a slot keeps a public key out. -/
def Router.Loaded (r : Router) : Prop :=
  (r.veniceApiKey.isSome || r.environment.contains veniceVariable) = true

theorem Router.not_loaded {r : Router} :
    ¬r.Loaded ↔ r.veniceApiKey = none ∧ r.environment veniceVariable = none := by
  simp [Router.Loaded, Environment.contains]

def IsKey (argument key : String) : Prop :=
  asksStatus argument = false ∧ validateVeniceKey argument = .ok key

namespace World

@[simp] theorem disturb_router : w.disturb.router = w.router := by
  unfold disturb
  split_ifs <;> rfl

@[simp] theorem disturb_pending : w.disturb.pending = w.pending := by
  unfold disturb
  split_ifs <;> rfl

@[simp] theorem disturb_started : w.disturb.started = w.started := by
  unfold disturb
  split_ifs <;> rfl

@[simp] theorem disturb_storedBy : w.disturb.storedBy = w.storedBy := by
  unfold disturb
  split_ifs <;> rfl

def provisioned (w : World) (c : ℕ) (key : String) : World :=
  { router := w.router.withKey key
    pending := Function.update w.pending c (some .provisioning)
    started := c :: w.started
    storedBy := some c
    marks := Function.update w.marks c ⟨w.router.selection.provider = .venice, false⟩ }

/-- A public key is no key, is refused, or is stored. -/
theorem provision_cases (w : World) (c : ℕ) (argument : String) :
    (¬∃ key, IsKey argument key) ∧ w.provision c argument = { w with started := c :: w.started } ∨
      (∃ key, IsKey argument key) ∧ w.router.Loaded ∧
        w.provision c argument = { w.disturb with started := c :: w.started } ∨
      ∃ key, IsKey argument key ∧ ¬w.router.Loaded ∧
        w.provision c argument = w.provisioned c key := by
  unfold provision
  rw [exec_publicKey]
  by_cases hstatus : asksStatus argument = true
  · rw [if_pos hstatus]
    refine .inl ⟨fun ⟨key, hkey⟩ => ?_, ?_⟩
    · rw [hkey.1] at hstatus
      cases hstatus
    · simp only
      rw [if_pos hstatus]
  rw [if_neg hstatus]
  have hstatus : asksStatus argument = false := by simpa using hstatus
  cases hkey : validateVeniceKey argument with
  | error e =>
    refine .inl ⟨fun ⟨key, hkey'⟩ => ?_, rfl⟩
    rw [hkey'.2] at hkey
    cases hkey
  | ok key =>
    simp only
    by_cases hloaded :
        (w.router.veniceApiKey.isSome || w.router.environment.contains veniceVariable) = true
    · rw [if_pos hloaded]
      refine .inr (.inl ⟨⟨key, hstatus, hkey⟩, hloaded, ?_⟩)
      simp only [hstatus, Bool.false_eq_true, if_false]
      have hrouter : w.router = w.disturb.router := (disturb_router).symm
      rw [hrouter]
    · rw [if_neg hloaded]
      exact .inr (.inr ⟨key, ⟨hstatus, hkey⟩, hloaded, rfl⟩)

end World

theorem unharmed_provision (w : World) (c : ℕ) (argument : String) :
    Unharmed c w (w.provision c argument) := by
  rcases w.provision_cases c argument with ⟨-, h⟩ | ⟨-, -, h⟩ | ⟨key, -, hloaded, h⟩
  · exact unharmed_of_eq (by rw [h])
  · exact unharmed_of_eq (by rw [h, World.disturb_router])
  · obtain ⟨hkey, -⟩ := (Router.not_loaded).mp hloaded
    rw [h]
    exact
      { key := fun key' hkey' _ => by
          rw [hkey] at hkey'
          cases hkey'
        slots := fun name values hvalues => ⟨[], by rw [List.append_nil]; exact hvalues⟩
        moved := fun name hnone => .inl hnone
        models := rfl }

/-- A slot that is added comes after those there are, and after the key of the key file. -/
theorem unharmed_add {w' : World} {slot value : String} (h : w'.router =
    ((storeConfigured (.add veniceVariable slot value)).exec w.router).2) : Unharmed c w w' := by
  rw [exec_storeConfigured] at h
  cases hkept : w.router.primaryKept with
  | error e =>
    rw [hkept] at h
    exact unharmed_of_eq h
  | ok env =>
    rw [hkept] at h
    have hrouter : w'.router = { w.router with environment := w'.router.environment } := by
      simp only at h
      split at h <;> rw [h]
    have hslots : w'.router.environment = env ∨ w'.router.environment =
        Function.update env veniceVariable
          (some ((env veniceVariable).getD [] ++ [.new slot value])) := by
      simp only at h
      split at h
      · next env' happly => exact .inr (by rw [h]; exact apply_add happly)
      · exact .inl (by rw [h])
    have hother : ∀ name, name ≠ veniceVariable →
        w'.router.environment name = w.router.environment name := by
      intro name hname
      have henv : env name = w.router.environment name := by
        rcases primaryKept_ok hkept with ⟨rfl, -⟩ | ⟨-, key, -, rfl⟩
        · rfl
        · exact Function.update_of_ne hname _ _
      rcases hslots with h' | h'
      · rw [h', henv]
      · rw [h', Function.update_of_ne hname, henv]
    refine ⟨fun key hkey _ => by rw [hrouter]; exact hkey, fun name values hvalues => ?_,
      fun name hnone => ?_, by rw [hrouter]⟩
    · by_cases hname : name = veniceVariable
      · subst hname
        rcases primaryKept_ok hkept with ⟨rfl, -⟩ | ⟨hnone, -⟩
        · rcases hslots with h' | h'
          · exact ⟨[], by rw [h', hvalues, List.append_nil]⟩
          · refine ⟨[.new slot value], ?_⟩
            rw [h', Function.update_self, hvalues]
            rfl
        · rw [hvalues] at hnone
          cases hnone
      · exact ⟨[], by rw [hother name hname, hvalues, List.append_nil]⟩
    · by_cases hname : name = veniceVariable
      · subst hname
        rcases primaryKept_ok hkept with ⟨rfl, hkey⟩ | ⟨-, key, hkey, rfl⟩
        · rcases hslots with h' | h'
          · exact .inl (by rw [h', hnone])
          · refine .inr ⟨rfl, [.new slot value], ?_⟩
            rw [h', Function.update_self, hnone, hkey hnone]
            rfl
        · rcases hslots with h' | h'
          · refine .inr ⟨rfl, [], ?_⟩
            rw [h', Function.update_self, hkey]
            rfl
          · refine .inr ⟨rfl, [.new slot value], ?_⟩
            rw [h', Function.update_self, Function.update_self, hkey]
            rfl
      · exact .inl (by rw [hother name hname, hnone])

theorem unharmed_donated (w : World) (c : ℕ) (valid : Bool) : Unharmed c w (w.donated c valid) := by
  unfold World.donated
  split
  · next donor key hpending =>
    cases valid with
    | false => exact unharmed_of_eq rfl
    | true =>
      refine @unharmed_add w c _ donor key ?_
      simp only [if_true, World.control, World.finish, World.disturb_router]
      rfl
  · exact unharmed_of_eq rfl

end Cthuwu.Inference
