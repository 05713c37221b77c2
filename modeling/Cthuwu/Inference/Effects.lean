import Cthuwu.Inference.Commands

/-!
# What the commands do

One lemma for each command on the router, from which every statement about runs is derived. A
command on the slots either changes the slots of its variable or nothing (`exec_command`), a key
command stores its key or nothing (`exec_publicKey`, `exec_operatorKey`), and the commands on the
route leave the credentials alone.
-/

namespace Cthuwu.Inference

open Fallible

variable {r : Router} {env : Environment} {op : EnvOp}

/-! ## Slots -/

def EnvOp.apply (op : EnvOp) (env : Environment) : Except String Environment := do
  validateName op.name
  let values ← op.result env
  return Function.update env op.name values

theorem exec_command : (Environment.command op).exec env = match op.apply env with
    | .ok env' => (.ok (), env')
    | .error e => (.error e, env) := by
  unfold Environment.command EnvOp.apply
  rw [exec_lift_bind]
  cases validateName op.name with
  | error e => rfl
  | ok _ =>
    simp only
    rw [exec_get_bind, exec_lift_bind]
    cases op.result env <;> rfl

theorem exec_onEnvironment : (onEnvironment (Environment.command op)).exec r =
    match op.apply r.environment with
      | .ok env' => (.ok (), { r with environment := env' })
      | .error e => (.error e, r) := by
  unfold onEnvironment
  rw [exec_onPart, exec_command]
  cases op.apply r.environment <;> rfl

variable {name value argument : String} {env' : Environment}

theorem apply_add {slot : String} (h : (EnvOp.add name slot value).apply env = .ok env') :
    env' = Function.update env name (some ((env name).getD [] ++ [.new slot value])) := by
  unfold EnvOp.apply EnvOp.result putSlot at h
  simp only [except_bind_ok, exists_unit, failIf_ok, except_pure_ok] at h
  obtain ⟨-, values, ⟨-, hnew, slots, ⟨-, rfl⟩, rfl⟩, rfl⟩ := h
  have hkept : ((env name).getD []).filter (fun entry => entry.name ≠ slot) =
      (env name).getD [] := by
    rw [List.filter_eq_self]
    intro entry hentry
    simp only [List.any_eq_true, not_exists, not_and, decide_eq_true_eq] at hnew
    simpa using hnew entry hentry
  rw [hkept]
  rfl

/-- A first slot is set where no slot is in its way. -/
theorem apply_set (h : (EnvOp.set name value).apply env = .ok env') :
    env' = Function.update env name (some (.new "primary" value ::
      ((env name).getD []).filter fun entry => entry.name ≠ "primary")) := by
  unfold EnvOp.apply EnvOp.result putSlot at h
  simp only [except_bind_ok, exists_unit, failIf_ok, except_pure_ok] at h
  obtain ⟨-, values, ⟨-, slots, ⟨-, rfl⟩, rfl⟩, rfl⟩ := h
  rfl

/-- Setting the first slot twice leaves the second value. -/
theorem apply_set_set {value' : String} (hnone : env name = none)
    (h : (EnvOp.set name value).apply env = .ok env') :
    (EnvOp.set name value').apply env' = (EnvOp.set name value').apply env := by
  rw [apply_set h]
  unfold EnvOp.apply EnvOp.result putSlot
  simp [EnvOp.name, hnone, Entry.new]

/-! ## Keys -/

/-- A command keeps every credential and the provider. -/
structure Router.KeepsCredentials (r r' : Router) : Prop where
  environment : r'.environment = r.environment
  key : r'.veniceApiKey = r.veniceApiKey
  provider : r'.selection.provider = r.selection.provider
  openai : r'.openaiConfigured = r.openaiConfigured

theorem exec_publicKey : (veniceKeyCommand argument false).exec r =
    if asksStatus argument then (.ok false, r)
    else match validateVeniceKey argument with
      | .error e => (.error e, r)
      | .ok key =>
        if (r.veniceApiKey.isSome || r.environment.contains veniceVariable) then (.ok false, r)
        else (.ok true, r.withKey key) := by
  unfold veniceKeyCommand
  by_cases hstatus : asksStatus argument = true
  · rw [if_pos hstatus, if_pos hstatus]
    rfl
  rw [if_neg hstatus, if_neg hstatus, exec_lift_bind]
  cases validateVeniceKey argument with
  | error e => rfl
  | ok key =>
    simp only
    rw [exec_get_bind]
    simp only [Bool.not_false, Bool.and_true]
    by_cases hloaded : (r.veniceApiKey.isSome || r.environment.contains veniceVariable) = true
    · rw [if_pos hloaded, if_pos hloaded]
      rfl
    · rw [if_neg hloaded, if_neg hloaded]
      have hslots : ¬r.environment.contains veniceVariable = true := fun h => hloaded (by simp [h])
      rw [if_neg hslots]
      rfl

theorem exec_operatorKey : (veniceKeyCommand argument true).exec r =
    if asksStatus argument then (.ok false, r)
    else match validateVeniceKey argument with
      | .error e => (.error e, r)
      | .ok key =>
        if r.environment.contains veniceVariable then
          match (EnvOp.set veniceVariable key).apply r.environment with
            | .ok env' => (.ok true, ({ r with environment := env' }).withKey key)
            | .error e => (.error e, r)
        else (.ok true, r.withKey key) := by
  unfold veniceKeyCommand
  by_cases hstatus : asksStatus argument = true
  · rw [if_pos hstatus, if_pos hstatus]
    rfl
  rw [if_neg hstatus, if_neg hstatus, exec_lift_bind]
  cases validateVeniceKey argument with
  | error e => rfl
  | ok key =>
    simp only
    rw [exec_get_bind]
    simp only [Bool.not_true, Bool.and_false, Bool.false_eq_true, if_false]
    by_cases hslots : r.environment.contains veniceVariable = true
    · rw [if_pos hslots, if_pos hslots, exec_bind, exec_onEnvironment]
      cases (EnvOp.set veniceVariable key).apply r.environment <;> rfl
    · rw [if_neg hslots, if_neg hslots]
      rfl

/-- The slots after the key of the key file has moved into them. -/
def Router.primaryKept (r : Router) : Except String Environment :=
  if r.environment.contains veniceVariable then .ok r.environment
  else match r.veniceApiKey with
    | none => .ok r.environment
    | some key => (EnvOp.set veniceVariable key).apply r.environment

theorem primaryKept_ok (h : r.primaryKept = .ok env') :
    env' = r.environment ∧ (r.environment veniceVariable = none → r.veniceApiKey = none) ∨
      r.environment veniceVariable = none ∧ ∃ key,
      r.veniceApiKey = some key ∧
        env' = Function.update r.environment veniceVariable (some [.new "primary" key]) := by
  unfold Router.primaryKept at h
  split_ifs at h with hslots
  · refine .inl ⟨(Except.ok.inj h).symm, fun hnone => ?_⟩
    rw [Environment.contains, hnone] at hslots
    cases hslots
  · have hnone : r.environment veniceVariable = none := by
      simpa [Environment.contains] using hslots
    cases hkey : r.veniceApiKey with
    | none =>
      rw [hkey] at h
      exact .inl ⟨(Except.ok.inj h).symm, fun _ => rfl⟩
    | some key =>
      rw [hkey] at h
      refine .inr ⟨hnone, key, rfl, ?_⟩
      rw [apply_set h, hnone]
      rfl

theorem exec_keepPrimary : keepPrimary.exec r = match r.primaryKept with
    | .ok env' => (.ok (), { r with environment := env' })
    | .error e => (.error e, r) := by
  obtain ⟨environment, apiKey, selection, route, openai⟩ := r
  unfold keepPrimary Router.primaryKept
  rw [exec_get_bind]
  dsimp only
  by_cases hslots : environment.contains veniceVariable = true
  · rw [if_pos hslots, if_pos hslots]
    rfl
  · rw [if_neg hslots, if_neg hslots]
    cases apiKey with
    | none => rfl
    | some key => exact exec_onEnvironment

theorem exec_storeConfigured : (storeConfigured op).exec r = match r.primaryKept with
    | .error e => (.error e, r)
    | .ok env' => match op.apply env' with
      | .ok env'' => (.ok (), { r with environment := env'' })
      | .error e => (.error e, { r with environment := env' }) := by
  unfold storeConfigured
  rw [exec_bind, exec_keepPrimary]
  cases r.primaryKept with
  | error e => rfl
  | ok env' =>
    simp only
    rw [exec_onEnvironment]

theorem keeps_storeConfigured : ∃ env', ((storeConfigured op).exec r).2 =
    { r with environment := env' } := by
  rw [exec_storeConfigured]
  cases r.primaryKept with
  | error e => exact ⟨r.environment, rfl⟩
  | ok env' =>
    simp only
    cases op.apply env' with
    | error e => exact ⟨env', rfl⟩
    | ok env'' => exact ⟨env'', rfl⟩

/-- The loaded key does not matter to the slots where Venice has slots already. -/
theorem storeConfigured_environment {r' : Router} (henv : r'.environment = r.environment)
    (hkey : r.environment.contains veniceVariable = true ∨ r'.veniceApiKey = r.veniceApiKey) :
    ((storeConfigured op).exec r').2.environment = ((storeConfigured op).exec r).2.environment := by
  have hkept : r'.primaryKept = r.primaryKept := by
    unfold Router.primaryKept
    rw [henv]
    rcases hkey with hslots | hkey
    · rw [if_pos hslots, if_pos hslots]
    · rw [hkey]
  rw [exec_storeConfigured, exec_storeConfigured, hkept]
  cases r.primaryKept with
  | error e => exact henv
  | ok env' =>
    simp only
    cases op.apply env' <;> rfl

/-- Nor does it where the first slot is set over its copy. -/
theorem storeConfigured_set_environment {r' : Router} (hname : name = veniceVariable)
    (henv : r'.environment = r.environment) (hkey : r'.veniceApiKey = none)
    (hok : ((storeConfigured (.set name value)).exec r).1.isOk = true) :
    ((storeConfigured (.set name value)).exec r').2.environment =
      ((storeConfigured (.set name value)).exec r).2.environment := by
  subst hname
  have hkept' : r'.primaryKept = .ok r.environment := by
    unfold Router.primaryKept
    rw [hkey, henv, ite_self]
  have happly : ∀ env', r.primaryKept = .ok env' → (EnvOp.set veniceVariable value).apply env' =
        (EnvOp.set veniceVariable value).apply r.environment := by
    intro env' hkept
    unfold Router.primaryKept at hkept
    split_ifs at hkept with hslots
    · rw [← Except.ok.inj hkept]
    · have hnone : r.environment veniceVariable = none := by
        simpa [Environment.contains] using hslots
      cases hloaded : r.veniceApiKey with
      | none =>
        rw [hloaded] at hkept
        rw [← Except.ok.inj hkept]
      | some key =>
        rw [hloaded] at hkept
        exact apply_set_set hnone hkept
  rw [exec_storeConfigured] at hok ⊢
  rw [exec_storeConfigured, hkept']
  cases hkept : r.primaryKept with
  | error e =>
    rw [hkept] at hok
    cases hok
  | ok env' =>
    simp only [hkept] at hok ⊢
    rw [happly env' hkept] at hok ⊢
    cases hset : (EnvOp.set veniceVariable value).apply r.environment with
    | error e =>
      rw [hset] at hok
      cases hok
    | ok env'' => rfl

/-- Clearing the variable of Venice clears the key of the key file too. -/
theorem snd_environmentCommand : ((environmentCommand op).exec r).2 =
    if op.name ∈ ["UWUBOT_PROVIDER", "UWUBOT_MODEL", "CTHUWU_RPC_ENDPOINT"] then r
    else ((onEnvironment (Environment.command op)).exec
      (if op = .unset veniceVariable then r.withoutKey else r)).2 := by
  unfold environmentCommand
  rw [exec_lift_bind]
  unfold failIf
  by_cases hreserved : op.name ∈ ["UWUBOT_PROVIDER", "UWUBOT_MODEL", "CTHUWU_RPC_ENDPOINT"]
  · rw [if_pos hreserved, if_pos hreserved]
  · rw [if_neg hreserved, if_neg hreserved]
    by_cases hunset : op = .unset veniceVariable
    · rw [if_pos hunset, if_pos hunset]
      rfl
    · rw [if_neg hunset, if_neg hunset]

theorem exec_switchProvider {now : ℕ} {provider : Provider} : (switchProvider now provider).exec r =
      if provider = .openai ∧ r.openaiConfigured = false ∧
        r.environment.candidates openaiVariable now = [] then
        (.error "the OpenAI-compatible provider has no locally configured API key", r)
      else (.ok (), { r with selection := { r.selection with provider } }) := by
  unfold switchProvider
  rw [exec_get_bind, exec_lift_bind]
  unfold failIf
  split_ifs <;> rfl

theorem keeps_switchModel {model : String} : r.KeepsCredentials ((switchModel model).exec r).2 := by
  have hkeeps : r.KeepsCredentials r := ⟨rfl, rfl, rfl, rfl⟩
  unfold switchModel
  rw [exec_lift_bind]
  cases validateModelId model with
  | error e => exact hkeeps
  | ok model =>
    simp only
    rw [exec_get_bind, exec_lift_bind]
    cases hprovider : r.selection.provider with
    | deterministic => exact hkeeps
    | venice | ollama | openai => exact ⟨rfl, rfl, hprovider.symm ▸ rfl, rfl⟩

end Cthuwu.Inference
