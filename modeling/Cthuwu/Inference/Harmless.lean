import Cthuwu.Inference.Without

/-!
# Public provisioning does no harm

A public key that was not valid is cleaned up by clearing whichever key is loaded, and the provider
that its storing selected stays. `Blameless` is what the clean-up has to find : no key but its own,
and a provider that would be selected without it. In every run whose clean-ups find that, no public
command harms a credential or a model id, and one that fails leaves the credentials and the provider
as in the run without it (`public_provisioning_harmless`). The Venice model in memory is always the
one of the loaded key and the selection (`Routed`).
-/

namespace Cthuwu.Inference

open Fallible

variable {w : World} {c : ℕ} {r : Router}

/-- A clean-up finds its own key or none, still out of the way of all others, and the provider that
would be selected without it. -/
def Blameless (w : World) : Event → Prop
  | .validated c false => (w.storedBy = some c ∨ w.router.veniceApiKey = none) ∧
      (w.marks c).providerKept = true ∧ (w.marks c).disturbed = false
  | _ => True

instance (w : World) : (e : Event) → Decidable (Blameless w e)
  | .validated c false => inferInstanceAs (Decidable
      ((w.storedBy = some c ∨ w.router.veniceApiKey = none) ∧ (w.marks c).providerKept = true ∧
        (w.marks c).disturbed = false))
  | .validated _ true | .provision _ _ | .donate _ _ _ | .donated _ _ | .provider _ _ | .model _
  | .venicePrivacy _ | .operatorKey _ | .configure _ _ | .configured _ _ | .environment _
  | .failed _ _ _ _ | .verified _ _ _ => isTrue trivial

/-- What the operator set up : every slot, the key of the key file and the provider. -/
def Router.setup (r : Router) : Environment × Option String × Provider :=
  (r.environment, r.veniceApiKey, r.selection.provider)

/-! ## The model in memory -/

def Router.Routed (r : Router) : Prop :=
  r.veniceRoute = r.selection.route r.veniceApiKey

theorem Router.Routed.environment (h : r.Routed) (env : Environment) :
    ({ r with environment := env }).Routed := h

theorem routed_onEnvironment (h : r.Routed) (op : EnvOp) :
    ((onEnvironment (Environment.command op)).exec r).2.Routed := by
  rw [exec_onEnvironment]
  cases op.apply r.environment with
  | error e => exact h
  | ok env => exact h.environment env

theorem routed_storeConfigured (h : r.Routed) (op : EnvOp) :
    ((storeConfigured op).exec r).2.Routed := by
  obtain ⟨env, hr⟩ := @keeps_storeConfigured r op
  rw [hr]
  exact h.environment env

theorem routed_switchModel (h : r.Routed) (model : String) :
    ((switchModel model).exec r).2.Routed := by
  unfold switchModel
  rw [exec_lift_bind]
  cases validateModelId model with
  | error e => exact h
  | ok model =>
    simp only
    rw [exec_get_bind, exec_lift_bind]
    cases r.selection.setModel r.selection.provider model with
    | error e => exact h
    | ok selection => exact rfl

theorem routed_environmentCommand (h : r.Routed) (op : EnvOp) :
    ((environmentCommand op).exec r).2.Routed := by
  rw [snd_environmentCommand]
  split_ifs
  · exact h
  · have hcleared : r.withoutKey.Routed := rfl
    exact routed_onEnvironment hcleared op
  · exact routed_onEnvironment h op

theorem routed_operatorKey (h : r.Routed) (argument : String) :
    ((veniceKeyCommand argument true).exec r).2.Routed := by
  rw [exec_operatorKey]
  by_cases hstatus : asksStatus argument = true
  · rw [if_pos hstatus]
    exact h
  rw [if_neg hstatus]
  cases validateVeniceKey argument with
  | error e => exact h
  | ok key =>
    simp only
    by_cases hslots : r.environment.contains veniceVariable = true
    · rw [if_pos hslots]
      cases (EnvOp.set veniceVariable key).apply r.environment with
      | error e => exact h
      | ok env => exact rfl
    · rw [if_neg hslots]
      exact rfl

theorem routed_next (h : w.router.Routed) (e : Event) : (w.next e).router.Routed := by
  cases e with
  | provision c argument =>
    simp only [World.next]
    rcases w.provision_cases c argument with ⟨-, hw⟩ | ⟨-, -, hw⟩ | ⟨key, -, -, hw⟩ <;> rw [hw]
    · exact h
    · change w.disturb.router.Routed
      rwa [World.disturb_router]
    · exact rfl
  | validated c valid =>
    simp only [World.next, World.validated]
    split_ifs
    · exact h
    · exact rfl
    · exact h
  | donated c valid =>
    simp only [World.next, World.donated]
    split
    · split_ifs
      · refine routed_storeConfigured ?_ _
        change w.disturb.router.Routed
        rwa [World.disturb_router]
      · exact h
    · exact h
  | provider provider now =>
    simp only [World.next, World.provider]
    rw [exec_switchProvider]
    split_ifs <;> exact h
  | operatorKey argument =>
    simp only [World.next, World.operatorKey]
    have hrouter := routed_operatorKey h argument
    generalize (veniceKeyCommand argument true).exec w.router = result at hrouter ⊢
    obtain ⟨stored, router⟩ := result
    split
    · next router' hresult =>
      obtain ⟨-, rfl⟩ := Prod.mk.inj hresult
      exact hrouter
    · next stored' router' _ hresult =>
      obtain ⟨-, rfl⟩ := Prod.mk.inj hresult
      exact hrouter
  | configured c valid =>
    simp only [World.next, World.configured]
    split
    · split_ifs
      · refine routed_storeConfigured ?_ _
        change w.disturb.router.Routed
        rwa [World.disturb_router]
      · exact routed_storeConfigured h _
      · exact h
    · exact h
  | model model => exact routed_switchModel h model
  | venicePrivacy requireTee => exact rfl
  | environment op => exact routed_environmentCommand h op
  | donate | configure | failed | verified => exact h

theorem unharmed_next {e : Event} (hpublic : e.public = some c) (hblameless : Blameless w e) :
    Unharmed c w (w.next e) := by
  cases e with
  | provision d argument =>
    obtain rfl := Option.some.inj hpublic
    exact unharmed_provision w d argument
  | donate d inboxDigest key => exact unharmed_of_eq rfl
  | donated d valid =>
    obtain rfl := Option.some.inj hpublic
    exact unharmed_donated w d valid
  | validated d valid =>
    obtain rfl := Option.some.inj hpublic
    simp only [World.next, World.validated]
    split_ifs with hpending hvalid
    · exact unharmed_of_eq rfl
    · obtain rfl : valid = false := by simpa using hvalid
      -- a key of another command would be in the way of the one cleared here
      refine
        { key := fun key hkey hother => ?_
          slots := fun name values hvalues => ⟨[], by rw [List.append_nil]; exact hvalues⟩
          moved := fun name hnone => .inl hnone
          models := rfl }
      rcases hblameless.1 with hown | hnone
      · exact absurd hown hother
      · rw [hkey] at hnone
        cases hnone
    · exact unharmed_of_eq rfl
  | provider | operatorKey | environment | model | venicePrivacy | failed | verified | configure
  | configured => cases hpublic

/-- A command that failed has left what the run without it leaves. -/
theorem setup_failed {v : World} {e : Event} (h : Shadowed c w v)
    (he : e = .validated c false ∨ e = .donated c false) (hallowed : w.Allowed e)
    (hblameless : Blameless w e) : (w.next e).router.setup = v.router.setup := by
  rcases he with rfl | rfl
  · have hpending : w.pending c = some .provisioning := hallowed
    obtain ⟨hkey, hkept, hdist⟩ := hblameless
    have halike : Alike c w v := h.alike (.inr (by simp [hpending])) hdist
    have hnone : v.router.veniceApiKey = none := by
      by_cases hstored : w.storedBy = some c
      · exact (halike.own hstored).2
      · rw [halike.others hstored]
        exact hkey.resolve_left hstored
    simp only [World.next, World.validated, if_pos hpending, Bool.false_eq_true, if_false]
    unfold Router.setup
    rw [hnone, halike.environment, halike.provider hkept]
    rfl
  · obtain ⟨donor, key, hpending⟩ := hallowed
    have hwaits : w.pending c ≠ none := by
      simp [hpending]
    obtain ⟨hmarks, hstored⟩ := h.unstored (.inr hwaits) (by simp [hpending])
    have halike : Alike c w v := h.alike (.inr hwaits) (by rw [hmarks])
    simp only [World.next, World.donated, hpending, Bool.false_eq_true, if_false]
    unfold Router.setup
    rw [halike.environment, halike.others hstored, halike.provider (by rw [hmarks])]
    rfl

/-! ## Runs -/

theorem shadowed_start (r : Router) (c : ℕ) : Shadowed c (.start r) (.start r) where
  fresh _ := rfl
  unstored _ _ := ⟨rfl, nofun⟩
  configures _ _ := nofun
  alike _ _ :=
    { pending := fun _ _ => rfl
      environment := rfl
      openai := rfl
      own := nofun
      others := fun _ => rfl
      provider := fun _ => rfl }

/-- Where a run is after some events. -/
def World.run (r : Router) (events : List Event) : World :=
  events.foldl World.next (.start r)

/-- The events of all other commands. -/
def without (c : ℕ) (events : List Event) : List Event :=
  events.filter fun e => e.command ≠ some c

theorem shadowed_run {events : List Event} (h : (machine r).Admits (.start r) events) (c : ℕ) :
    Shadowed c (.run r events) (.run r (without c events)) := by
  refine h.related_filter (fun w v e hw _ he => ?_) (fun w v e hw hallowed he => ?_)
    (shadowed_start r c)
  · exact shadowed_other hw (by simpa using he)
  · exact shadowed_own hw (by simpa using he) hallowed

theorem routed_run (hr : r.Routed) (events : List Event) : (World.run r events).router.Routed := by
  unfold World.run
  have hstart : (World.start r).router.Routed := hr
  generalize World.start r = w at hstart ⊢
  induction events generalizing w with
  | nil => exact hstart
  | cons e events ih => exact ih _ (routed_next hstart e)

/-- In a run whose clean-ups are blameless every step of a public command spares what others stored
and chose, a command that fails leaves the credentials and the provider of the run without it, and
the Venice model in memory follows the loaded key. -/
theorem public_provisioning_harmless (environment : Environment) (veniceApiKey : Option String)
    (selection : Selection) (openaiConfigured : Bool) (r : Router)
    (hr : r = Router.start environment veniceApiKey selection openaiConfigured)
    (events : List Event)
    (hevents : ((machine r).restrict Blameless).Admits (.start r) events) (n : ℕ)
    (hn : n < events.length) :
    (∀ c, events[n].public = some c →
      Unharmed c (.run r (events.take n)) (.run r (events.take (n + 1)))) ∧
    (∀ c, events[n] = .validated c false ∨ events[n] = .donated c false →
      (World.run r (events.take (n + 1))).router.setup =
        (World.run r (without c (events.take (n + 1)))).router.setup) ∧
    (World.run r (events.take (n + 1))).router.Routed := by
  have htake : events.take (n + 1) = events.take n ++ [events[n]] :=
    List.take_succ_eq_append_getElem hn
  have hnext : World.run r (events.take (n + 1)) =
      (World.run r (events.take n)).next events[n] := by
    unfold World.run
    rw [htake, List.foldl_append]
    rfl
  have hsplit : events = events.take n ++ events[n] :: events.drop (n + 1) := by
    rw [← List.drop_eq_getElem_cons hn, List.take_append_drop]
  rw [hsplit] at hevents
  obtain ⟨hbefore, ⟨hallowed, hblameless⟩, -⟩ := Machine.admits_append.mp hevents
  rw [hnext]
  refine ⟨fun c hpublic => unharmed_next hpublic hblameless, fun c hfailed => ?_,
    routed_next (routed_run (by rw [hr]; rfl) _) _⟩
  have hskip : without c (events.take (n + 1)) = without c (events.take n) := by
    unfold without
    rw [htake, List.filter_append]
    rcases hfailed with h | h <;> simp [h, Event.command]
  rw [hskip]
  exact setup_failed (shadowed_run hbefore.of_restrict c) hfailed hallowed hblameless

/-! ## Clean-ups -/

def sampleRouter : Router :=
  .start (fun _ => none) none
    { provider := .ollama
      veniceModel := "e2ee-deepseek-v4-flash"
      veniceRequireTee := true
      ollamaModel := "qwen3:8b"
      openaiModel := "local" } false

/-- The operator selects Venice while a public key waits for its validation, which fails. -/
def sampleEvents : List Event :=
  [.provision 0 "candidate", .provider .venice 10, .donate 1 "digest" "second",
    .validated 0 false, .donated 1 false]

theorem public_provisioning_harmless_sample :
    (World.run sampleRouter (sampleEvents.take 4)).router.setup =
      (World.run sampleRouter (without 0 (sampleEvents.take 4))).router.setup := by
  exact (public_provisioning_harmless _ _ _ _ sampleRouter rfl sampleEvents
    (by decide +kernel) 3 (by decide)).2.1 0 (.inl rfl)

/-- A clean-up that is not blameless leaves traces : Venice stays selected after a key that was not
valid, and the key of the operator that replaced it is cleared instead. -/
theorem failed_key_leaves_traces :
    (∃ events : List Event, (machine sampleRouter).Admits (.start sampleRouter) events ∧
      events = [.provision 0 "candidate", .validated 0 false] ∧
      (World.run sampleRouter (without 0 events)).router.selection.provider = .ollama ∧
      (World.run sampleRouter events).router.selection.provider = .venice) ∧
    ∃ events : List Event, (machine sampleRouter).Admits (.start sampleRouter) events ∧
      events = [.provision 0 "candidate", .operatorKey "operator", .validated 0 false] ∧
      (World.run sampleRouter (without 0 events)).router.veniceApiKey = some "operator" ∧
      (World.run sampleRouter events).router.veniceApiKey = none := by
  exact ⟨⟨_, by decide +kernel, rfl, by decide +kernel, by decide +kernel⟩,
    ⟨_, by decide +kernel, rfl, by decide +kernel, by decide +kernel⟩⟩

end Cthuwu.Inference
