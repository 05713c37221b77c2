import Cthuwu.Inference.Provisioning

/-!
# A run without one command

A run is compared with the run without the steps of one command. `Alike` says how far both agree
while the command waits for its validation : in the slots, in the key unless the command has stored
it, and in the provider while it is the one that would be selected anyway. Every step of the others
keeps the two runs alike, unless it is one that the stored key disturbs (`shadowed_other`), and so
does the step that stores the key (`shadowed_own`).
-/

namespace Cthuwu.Inference

open Fallible

variable {w v w' v' : World} {c d : ℕ} {r : Router}

/-- The world agrees with the one without command `c`, but for the key that `c` has stored. -/
structure Alike (c : ℕ) (w v : World) : Prop where
  pending : ∀ d, d ≠ c → v.pending d = w.pending d
  environment : v.router.environment = w.router.environment
  openai : v.router.openaiConfigured = w.router.openaiConfigured
  own : w.storedBy = some c → w.router.veniceApiKey.isSome = true ∧ v.router.veniceApiKey = none
  others : w.storedBy ≠ some c → v.router.veniceApiKey = w.router.veniceApiKey
  provider : (w.marks c).providerKept = true →
    v.router.selection.provider = w.router.selection.provider

/-- How a run and the one without command `c` compare : alike before `c` starts, and while it waits
for its validation undisturbed. -/
structure Shadowed (c : ℕ) (w v : World) : Prop where
  fresh : c ∉ w.started → w.pending c = none
  /-- A command that stores no key leaves no marks. -/
  unstored : c ∉ w.started ∨ w.pending c ≠ none → w.pending c ≠ some .provisioning →
    w.marks c = ⟨true, false⟩ ∧ w.storedBy ≠ some c
  configures : ∀ d op, w.pending d = some (.configuring op) → op.veniceKey.isSome = true
  alike : c ∉ w.started ∨ w.pending c ≠ none → (w.marks c).disturbed = false → Alike c w v

/-! ## What the others leave alone -/

/-- A step of another command, seen from command `c`. -/
structure Frame (c : ℕ) (w w' : World) : Prop where
  started : c ∈ w'.started ↔ c ∈ w.started
  pending : w'.pending c = w.pending c
  storedBy : w'.storedBy = some c → w.storedBy = some c
  marks : w'.marks c = w.marks c ∨ w'.marks c = { w.marks c with providerKept := true } ∨
    w.storedBy = some c ∧ w'.marks c = { w.marks c with disturbed := true }

theorem frame_refl : Frame c w w where
  started := Iff.rfl
  pending := rfl
  storedBy h := h
  marks := .inl rfl

theorem disturb_marks (w : World) (c : ℕ) : w.disturb.marks c = w.marks c ∨
    w.hasLooseKey = true ∧ w.storedBy = some c ∧
      w.disturb.marks c = { w.marks c with disturbed := true } := by
  unfold World.disturb
  by_cases hloose : w.hasLooseKey = true
  · rw [if_pos hloose]
    by_cases hstored : w.storedBy = some c
    · exact .inr ⟨hloose, hstored, if_pos hstored⟩
    · exact .inl (if_neg hstored)
  · rw [if_neg hloose]
    exact .inl rfl

theorem frame_disturb : Frame c w w.disturb where
  started := by rw [World.disturb_started]
  pending := by rw [World.disturb_pending]
  storedBy h := by rwa [World.disturb_storedBy] at h
  marks := (disturb_marks w c).imp_right fun h => .inr h.2

/-- A step that only changes the router after another one. -/
theorem Frame.router (h : Frame c w w') (r : Router) : Frame c w { w' with router := r } :=
  ⟨h.started, h.pending, h.storedBy, h.marks⟩

theorem Frame.start (h : Frame c w w') (hd : d ≠ c) :
    Frame c w { w' with started := d :: w'.started } :=
  ⟨by rw [← h.started, List.mem_cons, or_iff_right hd.symm], h.pending, h.storedBy, h.marks⟩

theorem Frame.await (h : Frame c w w') (hd : d ≠ c) (pending : Option Pending) :
    Frame c w { w' with pending := Function.update w'.pending d pending } :=
  ⟨h.started, by rw [← h.pending]; exact Function.update_of_ne hd.symm _ _, h.storedBy, h.marks⟩

theorem frame_provision (hd : d ≠ c) (argument : String) : Frame c w (w.provision d argument) := by
  rcases w.provision_cases d argument with ⟨-, h⟩ | ⟨-, -, h⟩ | ⟨key, -, -, h⟩ <;> rw [h]
  · exact (frame_refl).start hd
  · have hstart : Frame c w { w.disturb with started := d :: w.disturb.started } :=
      (frame_disturb).start hd
    rwa [World.disturb_started] at hstart
  · exact
      { started := by
          change c ∈ d :: w.started ↔ _
          rw [List.mem_cons, or_iff_right hd.symm]
        pending := Function.update_of_ne hd.symm _ _
        storedBy := fun h => absurd (Option.some.inj h) hd
        marks := .inl (Function.update_of_ne hd.symm _ _) }

theorem frame_validated (hd : d ≠ c) (valid : Bool) : Frame c w (w.validated d valid) := by
  have hfinish : Frame c w (w.finish d) := (frame_refl).await hd none
  unfold World.validated
  split_ifs
  · exact hfinish
  · exact ⟨hfinish.started, hfinish.pending, nofun, hfinish.marks⟩
  · exact frame_refl

theorem frame_donated (hd : d ≠ c) (valid : Bool) : Frame c w (w.donated d valid) := by
  unfold World.donated
  split
  · split_ifs
    · exact ((frame_disturb).await hd none).router _
    · exact (frame_refl).await hd none
  · exact frame_refl

theorem frame_configured (hd : d ≠ c) (valid : Bool) : Frame c w (w.configured d valid) := by
  unfold World.configured
  split
  · split_ifs
    · exact ((frame_disturb).await hd none).router _
    · exact ((frame_refl).await hd none).router _
    · exact (frame_refl).await hd none
  · exact frame_refl

theorem frame_provider (provider : Provider) (now : ℕ) : Frame c w (w.provider now provider) := by
  unfold World.provider
  dsimp only
  split_ifs
  · exact ⟨Iff.rfl, rfl, id, .inr (.inl rfl)⟩
  · exact frame_refl

theorem frame_operatorKey (argument : String) : Frame c w (w.operatorKey argument) := by
  unfold World.operatorKey
  split
  · exact ⟨Iff.rfl, rfl, nofun, .inr (.inl rfl)⟩
  · exact (frame_refl).router _

theorem frame_environment (op : EnvOp) : Frame c w (w.environment op) := by
  refine ⟨Iff.rfl, rfl, fun h => ?_, .inl rfl⟩
  unfold World.environment at h
  split at h
  · cases h
  · exact h

variable {e : Event}

theorem frame_next (he : e.command ≠ some c) : Frame c w (w.next e) := by
  have hd {d : ℕ} (h : some d ≠ some c) : d ≠ c := fun hd => h (congrArg some hd)
  cases e with
  | provision d argument => exact frame_provision (hd he) argument
  | validated d valid => exact frame_validated (hd he) valid
  | donate d inboxDigest key => exact ((frame_refl).start (hd he)).await (hd he) _
  | donated d valid => exact frame_donated (hd he) valid
  | provider provider now => exact frame_provider provider now
  | operatorKey argument => exact frame_operatorKey argument
  | configure d op => exact ((frame_refl).start (hd he)).await (hd he) _
  | configured d valid => exact frame_configured (hd he) valid
  | environment op => exact frame_environment op
  | model | venicePrivacy | failed | verified => exact (frame_refl).router _

/-! ## The others act alike -/

/-- An undisturbed key of `c` stands in no other command's way. -/
theorem Alike.disturb (h : Alike c w v) (hdist : (w.disturb.marks c).disturbed = false) :
    Alike c w.disturb v ∧
      (w.storedBy = some c → w.router.environment.contains veniceVariable = true) := by
  rcases disturb_marks w c with hmarks | ⟨-, -, hmarks⟩
  · refine ⟨?_, fun hstored => ?_⟩
    · exact
        { pending := by rw [World.disturb_pending]; exact h.pending
          environment := by rw [World.disturb_router]; exact h.environment
          openai := by rw [World.disturb_router]; exact h.openai
          own := by rw [World.disturb_router, World.disturb_storedBy]; exact h.own
          others := by rw [World.disturb_router, World.disturb_storedBy]; exact h.others
          provider := by rw [World.disturb_router, hmarks]; exact h.provider }
    · by_contra hslots
      have hloose : w.hasLooseKey = true := by
        simp only [World.hasLooseKey, (h.own hstored).1, Bool.true_and]
        simpa using hslots
      have hmarked : (w.disturb.marks c).disturbed = true := by
        unfold World.disturb
        rw [if_pos hloose]
        simp [hstored]
      rw [hmarked] at hdist
      cases hdist
  · rw [hmarks] at hdist
    cases hdist

theorem Alike.loaded (h : Alike c w v)
    (hslots : w.storedBy = some c → w.router.environment.contains veniceVariable = true) :
    v.router.Loaded ↔ w.router.Loaded := by
  unfold Router.Loaded
  rw [h.environment]
  by_cases hstored : w.storedBy = some c
  · simp [hslots hstored]
  · rw [h.others hstored]

/-- Both sides take a step that changes neither keys nor provider, and the slots alike. -/
theorem Alike.router (h : Alike c w v) {r r' : Router} (henv : r'.environment = r.environment)
    (hw : r.veniceApiKey = w.router.veniceApiKey ∧
      r.selection.provider = w.router.selection.provider ∧
      r.openaiConfigured = w.router.openaiConfigured)
    (hv : r'.veniceApiKey = v.router.veniceApiKey ∧
      r'.selection.provider = v.router.selection.provider ∧
      r'.openaiConfigured = v.router.openaiConfigured) :
    Alike c { w with router := r } { v with router := r' } where
  pending := h.pending
  environment := henv
  openai := by rw [hw.2.2, hv.2.2, h.openai]
  own hstored := by rw [hw.1, hv.1]; exact h.own hstored
  others hstored := by rw [hw.1, hv.1]; exact h.others hstored
  provider hkept := by rw [hw.2.1, hv.2.1]; exact h.provider hkept

theorem Alike.await (h : Alike c w v) (d : ℕ) (pending : Option Pending) :
    Alike c { w with pending := Function.update w.pending d pending }
      { v with pending := Function.update v.pending d pending } :=
  { h with
    pending := fun d' hd' => by
      by_cases hd : d' = d
      · subst hd
        simp only [Function.update_self]
      · simp only [Function.update_of_ne hd]
        exact h.pending d' hd' }

/-- What the other side keeps besides its router and what is pending does not matter. -/
theorem Alike.of_eq (h : Alike c w v) (hrouter : v'.router = v.router)
    (hpending : v'.pending = v.pending) : Alike c w v' where
  pending := by rw [hpending]; exact h.pending
  environment := by rw [hrouter]; exact h.environment
  openai := by rw [hrouter]; exact h.openai
  own := by rw [hrouter]; exact h.own
  others := by rw [hrouter]; exact h.others
  provider := by rw [hrouter]; exact h.provider

theorem Alike.start (h : Alike c w v) (started : List ℕ) : Alike c { w with started } v :=
  { h with }

theorem alike_provision (h : Alike c w v) (hd : d ≠ c) (argument : String)
    (hdist : ((w.provision d argument).marks c).disturbed = false) :
    Alike c (w.provision d argument) (v.provision d argument) := by
  rcases w.provision_cases d argument with ⟨hno, hw⟩ | ⟨hkey, hloaded, hw⟩ | ⟨key, hkey, hloaded, hw⟩
    <;> rw [hw] at hdist ⊢
  · rcases v.provision_cases d argument with ⟨-, hv⟩ | ⟨hkey, -⟩ | ⟨key, hkey, -⟩
    · rw [hv]
      exact (h.start _).of_eq rfl rfl
    · exact absurd hkey hno
    · exact absurd ⟨key, hkey⟩ hno
  · obtain ⟨halike, hslots⟩ := h.disturb hdist
    rcases v.provision_cases d argument with ⟨hno, -⟩ | ⟨-, -, hv⟩ | ⟨-, -, hfree, -⟩
    · exact absurd hkey hno
    · rw [hv]
      exact (halike.start _).of_eq World.disturb_router World.disturb_pending
    · exact absurd ((h.loaded hslots).mpr hloaded) hfree
  · have hstored : w.storedBy ≠ some c := by
      intro hstored
      have hsome := (h.own hstored).1
      rw [(Router.not_loaded.mp hloaded).1] at hsome
      cases hsome
    have hfree : ¬v.router.Loaded := fun hv =>
      hloaded ((h.loaded fun hc => absurd hc hstored).mp hv)
    rcases v.provision_cases d argument with ⟨hno, -⟩ | ⟨-, hv, -⟩ | ⟨key', hkey', -, hv⟩
    · exact absurd ⟨key, hkey⟩ hno
    · exact absurd hv hfree
    · obtain rfl : key' = key := Except.ok.inj (hkey'.2.symm.trans hkey.2)
      rw [hv]
      have hother : some d ≠ some c := fun h => hd (Option.some.inj h)
      exact
        { pending := (h.await d (some .provisioning)).pending
          environment := h.environment
          openai := h.openai
          own := fun hown => absurd hown hother
          others := fun _ => rfl
          provider := fun _ => rfl }

theorem alike_validated (h : Alike c w v) (hd : d ≠ c) (valid : Bool) :
    Alike c (w.validated d valid) (v.validated d valid) := by
  have hfinish : Alike c (w.finish d) (v.finish d) := h.await d none
  unfold World.validated
  rw [h.pending d hd]
  split_ifs
  · exact hfinish
  · exact
      { pending := hfinish.pending
        environment := h.environment
        openai := h.openai
        own := nofun
        others := fun _ => rfl
        provider := h.provider }
  · exact h

theorem alike_storeConfigured (h : Alike c w v) (op : EnvOp)
    (henv : ((storeConfigured op).exec v.router).2.environment =
      ((storeConfigured op).exec w.router).2.environment) :
    Alike c (w.control (storeConfigured op)) (v.control (storeConfigured op)) := by
  obtain ⟨env, hw⟩ := @keeps_storeConfigured w.router op
  obtain ⟨env', hv⟩ := @keeps_storeConfigured v.router op
  refine h.router henv ?_ ?_
  · rw [hw]
    exact ⟨rfl, rfl, rfl⟩
  · rw [hv]
    exact ⟨rfl, rfl, rfl⟩

/-- A key is stored in a slot after the key of `c` was disturbed. -/
theorem Alike.store (h : Alike c w v) (hdist : (w.disturb.marks c).disturbed = false) (op : EnvOp)
    (hrouter : v'.router = v.router) (hpending : v'.pending = v.pending) :
    Alike c ((w.disturb.finish d).control (storeConfigured op))
      ((v'.finish d).control (storeConfigured op)) := by
  obtain ⟨halike, hslots⟩ := h.disturb hdist
  have hfinish : Alike c (w.disturb.finish d) (v'.finish d) :=
    (halike.of_eq hrouter hpending).await d none
  refine alike_storeConfigured hfinish op ?_
  change ((storeConfigured op).exec v'.router).2.environment =
    ((storeConfigured op).exec w.disturb.router).2.environment
  rw [World.disturb_router, hrouter]
  refine storeConfigured_environment h.environment ?_
  by_cases hstored : w.storedBy = some c
  · exact .inl (hslots hstored)
  · exact .inr (h.others hstored)

theorem alike_donated (h : Alike c w v) (hd : d ≠ c) (valid : Bool)
    (hdist : ((w.donated d valid).marks c).disturbed = false) :
    Alike c (w.donated d valid) (v.donated d valid) := by
  unfold World.donated at hdist ⊢
  rw [h.pending d hd]
  split at hdist
  · next donor key hpending =>
    cases valid with
    | false => exact h.await d none
    | true => exact h.store hdist _ World.disturb_router World.disturb_pending
  · exact h

theorem alike_configured (h : Alike c w v) (hd : d ≠ c)
    (hkey : ∀ op, w.pending d = some (.configuring op) → op.veniceKey.isSome = true) (valid : Bool)
    (hdist : ((w.configured d valid).marks c).disturbed = false) :
    Alike c (w.configured d valid) (v.configured d valid) := by
  unfold World.configured at hdist ⊢
  rw [h.pending d hd]
  split at hdist
  · next op hpending =>
    cases valid with
    | false => exact h.await d none
    | true =>
      simp only [if_true] at hdist ⊢
      have hrouter : (if World.disturbs v.router op = true then v.disturb else v).router = v.router := by
        split_ifs
        · exact World.disturb_router
        · rfl
      have hwaits : (if World.disturbs v.router op = true then v.disturb else v).pending = v.pending := by
        split_ifs
        · exact World.disturb_pending
        · rfl
      by_cases hdisturbs : World.disturbs w.router op = true
      · rw [if_pos hdisturbs] at hdist ⊢
        exact h.store hdist op hrouter hwaits
      · rw [if_neg hdisturbs]
        refine alike_storeConfigured ((h.of_eq hrouter hwaits).await d none) op ?_
        change ((storeConfigured op).exec
          (if World.disturbs v.router op = true then v.disturb else v).router).2.environment =
            ((storeConfigured op).exec w.router).2.environment
        rw [hrouter]
        by_cases hstored : w.storedBy = some c
        · cases op with
          | set name value =>
            have hname : name = veniceVariable := by
              by_contra hname
              have hsome := hkey _ hpending
              simp [EnvOp.veniceKey, hname] at hsome
            exact storeConfigured_set_environment hname h.environment (h.own hstored).2
              (by simpa [World.disturbs] using hdisturbs)
          | add | unset | remove | enable | disable => exact absurd rfl hdisturbs
        · exact storeConfigured_environment h.environment (.inr (h.others hstored))
  · exact h

theorem alike_provider (h : Alike c w v) (provider : Provider) (now : ℕ) :
    Alike c (w.provider now provider) (v.provider now provider) := by
  unfold World.provider
  dsimp only
  rw [exec_switchProvider, exec_switchProvider, h.environment, h.openai]
  by_cases hrefused : provider = .openai ∧ w.router.openaiConfigured = false ∧
    w.router.environment.candidates openaiVariable now = []
  · rw [if_pos hrefused, if_pos hrefused]
    exact h
  · rw [if_neg hrefused, if_neg hrefused]
    simp only [Except.isOk, Except.toBool, if_true]
    exact
      { pending := h.pending
        environment := rfl
        openai := rfl
        own := h.own
        others := h.others
        provider := fun _ => rfl }

theorem alike_operatorKey (h : Alike c w v) (argument : String) :
    Alike c (w.operatorKey argument) (v.operatorKey argument) := by
  unfold World.operatorKey
  rw [exec_operatorKey, exec_operatorKey, h.environment]
  by_cases hstatus : asksStatus argument = true
  · rw [if_pos hstatus, if_pos hstatus]
    exact h
  rw [if_neg hstatus, if_neg hstatus]
  cases validateVeniceKey argument with
  | error e => exact h
  | ok key =>
    simp only
    have hstored {r r' : Router} (henv : r'.environment = r.environment)
        (hopenai : r'.openaiConfigured = r.openaiConfigured) :
        Alike c { w.selectProvider with
            router := r.withKey key
            storedBy := none } { v.selectProvider with
            router := r'.withKey key
            storedBy := none } :=
      { pending := h.pending
        environment := henv
        openai := hopenai
        own := nofun
        others := fun _ => rfl
        provider := fun _ => rfl }
    by_cases hslots : w.router.environment.contains veniceVariable = true
    · rw [if_pos hslots, if_pos hslots]
      cases (EnvOp.set veniceVariable key).apply w.router.environment with
      | error e => exact h
      | ok env => exact hstored rfl h.openai
    · rw [if_neg hslots, if_neg hslots]
      exact hstored h.environment h.openai

theorem alike_environment (h : Alike c w v) (op : EnvOp) :
    Alike c (w.environment op) (v.environment op) := by
  have hclear : Alike c
      { w with
        router := if op = .unset veniceVariable then w.router.withoutKey else w.router
        storedBy := if op = .unset veniceVariable then none else w.storedBy }
      { v with
        router := if op = .unset veniceVariable then v.router.withoutKey else v.router } := by
    split_ifs with hunset
    · exact
        { pending := h.pending
          environment := h.environment
          openai := h.openai
          own := nofun
          others := fun _ => rfl
          provider := h.provider }
    · exact h
  unfold World.environment World.control
  rw [snd_environmentCommand, snd_environmentCommand]
  by_cases hreserved : op.name ∈ ["UWUBOT_PROVIDER", "UWUBOT_MODEL", "CTHUWU_RPC_ENDPOINT"]
  · have hunset : op ≠ .unset veniceVariable := by
      rintro rfl
      exact absurd hreserved (by decide)
    rw [if_pos hreserved, if_pos hreserved, if_neg hunset]
    exact h.of_eq rfl rfl
  · rw [if_neg hreserved, if_neg hreserved, exec_onEnvironment, exec_onEnvironment,
      hclear.environment]
    cases op.apply _ with
    | error e => exact hclear.of_eq rfl rfl
    | ok env =>
      exact
        { pending := hclear.pending
          environment := rfl
          openai := hclear.openai
          own := hclear.own
          others := hclear.others
          provider := hclear.provider }

theorem alike_next (h : Alike c w v) (he : e.command ≠ some c)
    (hkey : ∀ d op, w.pending d = some (.configuring op) → op.veniceKey.isSome = true)
    (hdist : ((w.next e).marks c).disturbed = false) : Alike c (w.next e) (v.next e) := by
  have hd {d : ℕ} (h : some d ≠ some c) : d ≠ c := fun hd => h (congrArg some hd)
  cases e with
  | provision d argument => exact alike_provision h (hd he) argument hdist
  | validated d valid => exact alike_validated h (hd he) valid
  | donate d inboxDigest key =>
    exact ((h.start (d :: w.started)).await d _).of_eq rfl rfl
  | donated d valid => exact alike_donated h (hd he) valid hdist
  | provider provider now => exact alike_provider h provider now
  | operatorKey argument => exact alike_operatorKey h argument
  | configure d op => exact ((h.start (d :: w.started)).await d _).of_eq rfl rfl
  | configured d valid => exact alike_configured h (hd he) (hkey d) valid hdist
  | environment op => exact alike_environment h op
  | model model =>
    have hw := @keeps_switchModel w.router model
    have hv := @keeps_switchModel v.router model
    exact h.router (hv.environment.trans (h.environment.trans hw.environment.symm))
      ⟨hw.key, hw.provider, hw.openai⟩ ⟨hv.key, hv.provider, hv.openai⟩
  | venicePrivacy requireTee => exact h.router h.environment ⟨rfl, rfl, rfl⟩ ⟨rfl, rfl, rfl⟩
  | failed name slot failure now =>
    exact h.router (congrArg (·.failed name slot failure now) h.environment)
      ⟨rfl, rfl, rfl⟩ ⟨rfl, rfl, rfl⟩
  | verified name slot value =>
    exact h.router (congrArg (·.verified name slot value) h.environment)
      ⟨rfl, rfl, rfl⟩ ⟨rfl, rfl, rfl⟩

/-! ## One step of the two runs -/

theorem pending_next (w : World) (e : Event) : (w.next e).pending = w.pending ∨
    ∃ d pending, e.command = some d ∧ (w.next e).pending = Function.update w.pending d pending ∧
      ∀ op, pending = some (.configuring op) → op.veniceKey.isSome = true := by
  cases e with
  | provision d argument =>
    simp only [World.next]
    rcases w.provision_cases d argument with ⟨-, h⟩ | ⟨-, -, h⟩ | ⟨key, -, -, h⟩ <;> rw [h]
    · exact .inl rfl
    · exact .inl World.disturb_pending
    · exact .inr ⟨d, some .provisioning, rfl, rfl, nofun⟩
  | validated d valid =>
    simp only [World.next, World.validated]
    split_ifs
    · exact .inr ⟨d, none, rfl, rfl, nofun⟩
    · exact .inr ⟨d, none, rfl, rfl, nofun⟩
    · exact .inl rfl
  | donate d inboxDigest key =>
    refine .inr ⟨d, _, rfl, rfl, fun op h => ?_⟩
    obtain ⟨key, -, hkey⟩ := Option.map_eq_some_iff.mp h
    cases hkey
  | donated d valid =>
    simp only [World.next, World.donated]
    split
    · split_ifs
      · refine .inr ⟨d, none, rfl, ?_, nofun⟩
        change Function.update w.disturb.pending d none = _
        rw [World.disturb_pending]
      · exact .inr ⟨d, none, rfl, rfl, nofun⟩
    · exact .inl rfl
  | configure d op =>
    refine .inr ⟨d, _, rfl, rfl, fun op' h => ?_⟩
    obtain ⟨value, hvalue, hop⟩ := Option.map_eq_some_iff.mp h
    cases hop
    obtain ⟨key, hkey, -⟩ := Option.bind_eq_some_iff.mp hvalue
    rw [hkey]
    rfl
  | configured d valid =>
    simp only [World.next, World.configured]
    split
    · split_ifs
      · refine .inr ⟨d, none, rfl, ?_, nofun⟩
        change Function.update w.disturb.pending d none = _
        rw [World.disturb_pending]
      · exact .inr ⟨d, none, rfl, rfl, nofun⟩
      · exact .inr ⟨d, none, rfl, rfl, nofun⟩
    · exact .inl rfl
  | provider provider now =>
    simp only [World.next, World.provider]
    split_ifs <;> exact .inl rfl
  | operatorKey argument =>
    simp only [World.next, World.operatorKey]
    split <;> exact .inl rfl
  | model | venicePrivacy | environment | failed | verified => exact .inl rfl

theorem configures_next {e : Event}
    (h : ∀ d op, w.pending d = some (.configuring op) → op.veniceKey.isSome = true) (d : ℕ)
    (op : EnvOp) (hop : (w.next e).pending d = some (.configuring op)) :
    op.veniceKey.isSome = true := by
  rcases pending_next w e with hpending | ⟨d', pending, -, hpending, hkey⟩ <;>
    rw [hpending] at hop
  · exact h d op hop
  · by_cases hd : d = d'
    · subst hd
      rw [Function.update_self] at hop
      exact hkey op hop
    · rw [Function.update_of_ne hd] at hop
      exact h d op hop

theorem shadowed_other (h : Shadowed c w v) (he : e.command ≠ some c) :
    Shadowed c (w.next e) (v.next e) := by
  have hframe : Frame c w (w.next e) := frame_next he
  have hwaits : c ∉ (w.next e).started ∨ (w.next e).pending c ≠ none →
      c ∉ w.started ∨ w.pending c ≠ none := by
    rw [hframe.started, hframe.pending]
    exact id
  refine
    { fresh := fun hfresh => ?_
      unstored := fun hwait hpending => ?_
      configures := configures_next h.configures
      alike := fun hwait hdist => ?_ }
  · rw [hframe.pending]
    exact h.fresh fun hstarted => hfresh (hframe.started.mpr hstarted)
  · rw [hframe.pending] at hpending
    obtain ⟨hmarks, hstored⟩ := h.unstored (hwaits hwait) hpending
    refine ⟨?_, fun hs => hstored (hframe.storedBy hs)⟩
    rcases hframe.marks with hmarks' | hmarks' | ⟨hs, -⟩
    · rw [hmarks', hmarks]
    · rw [hmarks', hmarks]
    · exact absurd hs hstored
  · have hdist' : (w.marks c).disturbed = false := by
      rcases hframe.marks with hmarks | hmarks | ⟨-, hmarks⟩ <;> rw [hmarks] at hdist
      · exact hdist
      · exact hdist
      · cases hdist
    exact alike_next (h.alike (hwaits hwait) hdist') he h.configures hdist

/-- A command that waits no more is compared no more. -/
theorem shadowed_ended (hstarted : c ∈ w.started) (hpending : w.pending c = none)
    (hconfigures : ∀ d op, w.pending d = some (.configuring op) → op.veniceKey.isSome = true) :
    Shadowed c w v := by
  have hnever : ¬(c ∉ w.started ∨ w.pending c ≠ none) :=
    not_or.mpr ⟨not_not.mpr hstarted, not_not.mpr hpending⟩
  exact
    { fresh := fun hfresh => absurd hstarted hfresh
      unstored := fun hwait => absurd hwait hnever
      configures := hconfigures
      alike := fun hwait => absurd hwait hnever }

/-- A command that has to be validated first has stored nothing yet. -/
theorem shadowed_begin (h : Shadowed c w v) (hfresh : c ∉ w.started) (pending : Option Pending)
    (hconfigures : ∀ d op, (w.begin c pending).pending d = some (.configuring op) →
      op.veniceKey.isSome = true) : Shadowed c (w.begin c pending) v := by
  have hunstored := h.unstored (.inl hfresh) (by rw [h.fresh hfresh]; nofun)
  have halike : Alike c w v := h.alike (.inl hfresh) (by rw [hunstored.1])
  refine
    { fresh := fun hfresh' => absurd List.mem_cons_self hfresh'
      unstored := fun _ _ => hunstored
      configures := hconfigures
      alike := fun _ _ => { halike with pending := fun d hd => ?_ } }
  change v.pending d = Function.update w.pending c pending d
  rw [Function.update_of_ne hd]
  exact halike.pending d hd

theorem shadowed_provision (h : Shadowed c w v) (hfresh : c ∉ w.started) (argument : String)
    (hconfigures : ∀ d op, (w.provision c argument).pending d = some (.configuring op) →
      op.veniceKey.isSome = true) : Shadowed c (w.provision c argument) v := by
  have hunstored := h.unstored (.inl hfresh) (by rw [h.fresh hfresh]; nofun)
  have halike : Alike c w v := h.alike (.inl hfresh) (by rw [hunstored.1])
  rcases w.provision_cases c argument with ⟨-, hw⟩ | ⟨-, -, hw⟩ | ⟨key, -, hloaded, hw⟩ <;>
    rw [hw] at hconfigures ⊢
  · exact shadowed_ended List.mem_cons_self (h.fresh hfresh) hconfigures
  · refine shadowed_ended List.mem_cons_self ?_ hconfigures
    change w.disturb.pending c = none
    rw [World.disturb_pending]
    exact h.fresh hfresh
  · have hmarks : (w.provisioned c key).marks c =
        ⟨w.router.selection.provider = .venice, false⟩ := Function.update_self c _ _
    have hpending : (w.provisioned c key).pending c = some .provisioning :=
      Function.update_self c _ _
    refine
      { fresh := fun hfresh' => absurd List.mem_cons_self hfresh'
        unstored := fun _ hnot => absurd hpending hnot
        configures := hconfigures
        alike := fun _ _ => ?_ }
    -- the slots are those of before, and so is the provider where it was Venice already
    exact
      { pending := fun d hd => by
          rw [halike.pending d hd]
          exact (Function.update_of_ne hd _ _).symm
        environment := halike.environment
        openai := halike.openai
        own := fun _ =>
          ⟨rfl, (halike.others hunstored.2).trans (Router.not_loaded.mp hloaded).1⟩
        others := fun hother => absurd rfl hother
        provider := fun hkept => by
          rw [hmarks] at hkept
          have hvenice : w.router.selection.provider = .venice := by simpa using hkept
          rw [halike.provider (by rw [hunstored.1]), hvenice]
          rfl }

/-- A step of the command itself, which the other run does not take. -/
theorem shadowed_own (h : Shadowed c w v) (he : e.command = some c) (hallowed : w.Allowed e) :
    Shadowed c (w.next e) v := by
  have hconfigures := @configures_next w e h.configures
  have hstarted (hwaits : w.pending c ≠ none) : c ∈ w.started := by
    by_contra hfresh
    exact hwaits (h.fresh hfresh)
  cases e with
  | provision d argument =>
    obtain rfl := Option.some.inj he
    exact shadowed_provision h hallowed argument hconfigures
  | donate d inboxDigest key =>
    obtain rfl := Option.some.inj he
    exact shadowed_begin h hallowed _ hconfigures
  | configure d op =>
    obtain rfl := Option.some.inj he
    exact shadowed_begin h hallowed.1 _ hconfigures
  | validated d valid =>
    obtain rfl := Option.some.inj he
    have hpending : w.pending d = some .provisioning := hallowed
    have hin : d ∈ w.started := hstarted (by rw [hpending]; nofun)
    simp only [World.next, World.validated, if_pos hpending] at hconfigures ⊢
    cases valid <;> exact shadowed_ended hin (Function.update_self d _ _) hconfigures
  | donated d valid =>
    obtain rfl := Option.some.inj he
    obtain ⟨donor, key, hpending⟩ := hallowed
    have hin : d ∈ w.started := hstarted (by rw [hpending]; nofun)
    simp only [World.next, World.donated, hpending] at hconfigures ⊢
    cases valid with
    | false => exact shadowed_ended hin (Function.update_self d _ _) hconfigures
    | true =>
      refine shadowed_ended ?_ (Function.update_self d _ _) hconfigures
      change d ∈ w.disturb.started
      rwa [World.disturb_started]
  | configured d valid =>
    obtain rfl := Option.some.inj he
    obtain ⟨op, hpending⟩ := hallowed
    have hin : d ∈ w.started := hstarted (by rw [hpending]; nofun)
    simp only [World.next, World.configured, hpending] at hconfigures ⊢
    cases valid with
    | false => exact shadowed_ended hin (Function.update_self d _ _) hconfigures
    | true =>
      refine shadowed_ended ?_ (Function.update_self d _ _) hconfigures
      simp only [World.control, World.finish, if_true]
      split_ifs
      · rwa [World.disturb_started]
      · exact hin
  | provider | operatorKey | environment | model | venicePrivacy | failed | verified => cases he

end Cthuwu.Inference
