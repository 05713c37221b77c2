import Cthuwu.Offers.Durable

/-!
# Authority to complete an offer

A run of the runtime with a clock that never goes back, and the consents it has received. An offer
is completed only on a consent of its own acolyte that came from its own inbox in time and repeats
its exact tuple; a retired offer is never completed again, and a newer offer retires no consent
before its deadline (`ConsentSafe`). All of it holds as long as the text of an error fits its
action and a result of the gateway is saved (`consent_safe`) : otherwise the action loses the
delivery that its phase waits for.
-/

namespace Cthuwu.Offers

open Council TokenEye Fallible

section Runs

variable [Hashing]

structure Received where
  inboxId : String
  sender : Address
  consent : ParsedConsent
  now : ℕ

def Received.Grants (received : Received) (a : BrandingAction) : Prop :=
  Offers.Grants received.inboxId received.sender received.consent received.now a

namespace Request

def now : Request → ℕ
  | enqueueOffer _ _ _ _ _ _ _ now => now
  | replaceReferrer _ _ _ _ _ _ _ now => now
  | acceptConsent _ _ _ _ now => now
  | decline _ _ _ _ now => now
  | deferDue _ now => now
  | maintainOne _ _ _ now => now
  | acknowledgeDelivery _ _ _ now => now

def received : Request → List Received
  | acceptConsent _ inboxId sender consent now => [⟨inboxId, sender, consent, now⟩]
  | _ => []

def draws : Request → Option OfferId
  | enqueueOffer _ _ _ _ _ _ offerId _ => some offerId
  | replaceReferrer _ _ _ _ _ _ offerId _ => some offerId
  | _ => none

/-- The text of an error fits, and a result of the gateway is saved. -/
def Fits : Request → Prop
  | maintainOne faults reply _ _ => reply.Fits faults
  | _ => True

end Request

structure World where
  runtime : Runtime
  clock : ℕ
  received : List Received

def World.next (minter : Address) (w : World) (request : Request) : World :=
  ⟨request.next minter w.runtime, request.now, w.received ++ request.received⟩

/-- Every action is older than the clock, and those that may be completed have their consent. -/
structure World.Sound (minter : Address) (w : World) : Prop where
  valid : w.runtime.state.Valid minter
  created : ∀ a ∈ w.runtime.state.actions, a.createdAtUnix ≤ w.clock
  authorized : ∀ a ∈ w.runtime.state.actions, a.phase.mayComplete = true →
    ∃ received ∈ w.received, received.Grants a

/-- A store as it is opened, with the consents that were received before. -/
structure Opening (minter : Address) where
  world : World
  sound : world.Sound minter

/-- The runtime over a store, with a clock that never goes back. -/
def consentMachine (minter : Address) (opening : Opening minter) : Machine World Request where
  init := opening.world
  Allowed w request := w.clock ≤ request.now
  next := World.next minter

def World.Completes (w w' : World) (P : String → CompleteOperation → Prop) : Prop :=
  ∃ new, w'.runtime.invocations = w.runtime.invocations ++ new ∧ ∀ invocation ∈ new,
    ∀ actionId operation, invocation = .complete actionId operation → P actionId operation

/-- Offers are completed on the consent of their acolyte only, and never after they were retired. -/
structure ConsentSafe (minter : Address) (M : Machine World Request) : Prop where
  valid : ∀ w, M.Reachable w → w.runtime.state.validate minter = .ok ()
  authorized : ∀ w, M.Reachable w → ∀ request, M.Allowed w request →
    w.Completes (M.next w request) fun actionId operation => ∃ a ∈ w.runtime.state.actions,
      a.Completes actionId operation ∧ ∃ received ∈ w.received, received.Grants a
  retired : ∀ w, M.Reachable w → ∀ a ∈ w.runtime.state.actions, a.phase.retired = true →
    ∀ requests, M.Admits w requests → (∀ request ∈ requests, request.draws ≠ some a.offerId) →
      w.Completes (requests.foldl M.next w) fun actionId _ =>
        actionId ≠ completionActionId a.offerId
  kept : ∀ w, M.Reachable w → ∀ request, M.Allowed w request → request.draws ≠ none →
    KeepsLive request.now w.runtime.state.actions (M.next w request).runtime.state.actions
  alone : ∀ w, M.Reachable w → w.runtime.state.actions.Pairwise fun a b =>
    a.phase.terminal = false → b.phase.terminal = false →
      ¬(a.inboxId = b.inboxId ∧ a.acolyte = b.acolyte)

/-! ## One call -/

variable {minter : Address} {w : World} {request : Request}

/-- What a call may add to the queue. -/
def Request.New (w : World) (request : Request) (b : BrandingAction) : Prop :=
  (b.phase = .requested ∧ request.draws = some b.offerId ∧ b.createdAtUnix = request.now) ∨
    ∃ received ∈ request.received, received.Grants b ∧ ∃ a ∈ w.runtime.state.actions,
      a.phase.retired = false ∧ b.offerId = a.offerId ∧ b.createdAtUnix = a.createdAtUnix

/-- What a call leaves in memory, and what it asks the gateway to complete. -/
structure Called (minter : Address) (w w' : World) (request : Request) : Prop where
  valid : w'.runtime.state.Valid minter
  evolves : Evolves (request.New w) w.runtime.state.actions w'.runtime.state.actions
  completes : w.Completes w' fun actionId operation =>
    ∃ a ∈ w.runtime.state.actions, a.Completes actionId operation
  keeps : request.draws ≠ none →
    KeepsLive request.now w.runtime.state.actions w'.runtime.state.actions

variable {P : String → CompleteOperation → Prop}

theorem completes_of_same {w' : World} (h : w'.runtime.invocations = w.runtime.invocations) :
    w.Completes w' P :=
  ⟨[], h.trans (List.append_nil _).symm, fun _ hi => absurd hi List.not_mem_nil⟩

theorem called_of_saves {α : Type} {fault : Option String} {result : Except String α}
    {runtime : Runtime} (hdraws : request.draws = none)
    (h : Saves minter fault (fun _ => False) w.runtime result runtime) :
    Called minter w ⟨runtime, request.now, w.received ++ request.received⟩ request := by
  have hsome : ∃ s, runtime.state = s ∧ runtime.invocations = w.runtime.invocations ∧
      Follows minter (fun _ => False) w.runtime s := by
    cases result with
    | error error =>
      obtain ⟨-, s, rfl, hfollows⟩ := h
      exact ⟨s, rfl, rfl, hfollows⟩
    | ok value =>
      obtain ⟨s, rfl, hfollows⟩ := h
      exact ⟨s, rfl, rfl, hfollows⟩
  obtain ⟨s, rfl, hinvocations, hfollows⟩ := hsome
  exact ⟨hfollows.valid, hfollows.evolves.mono fun _ => False.elim,
    completes_of_same hinvocations, fun h => absurd hdraws h⟩

theorem called_refl (h : w.Sound minter) :
    Called minter w ⟨w.runtime, request.now, w.received ++ request.received⟩ request :=
  ⟨h.valid, .refl _, completes_of_same rfl, fun _ _ ha _ _ => ha⟩

theorem called_next (h : w.Sound minter) (hclock : w.clock ≤ request.now)
    (hfits : request.Fits) : Called minter w (w.next minter request) request := by
  have hcreated : ∀ a ∈ w.runtime.state.actions, a.createdAtUnix ≤ request.now :=
    fun a ha => (h.created a ha).trans hclock
  have hplace : ∀ {index : ℕ} {a : BrandingAction}, w.runtime.state.actions[index]? = some a →
      a.createdAtUnix ≤ request.now := fun ha => hcreated _ (List.mem_of_getElem? ha)
  cases request with
  | enqueueOffer fault inboxId acolyte agentId referrer quote offerId now =>
    refine Ends.after (P := fun runtime => Called minter w ⟨runtime, _, _⟩ _) ends_enqueueOffer ?_
    rintro (error | _ | _) r' hqueued
    · rw [show r' = w.runtime from hqueued]
      exact called_refl h
    · rcases hqueued with rfl | ⟨-, -, -, s, rfl, hkeeps, hfollows⟩
      · exact called_refl h
      · exact ⟨hfollows.valid, hfollows.evolves.mono fun _ => False.elim, completes_of_same rfl,
          fun _ => hkeeps.live⟩
    · obtain ⟨s, rfl, hkeeps, hfollows⟩ := hqueued
      refine ⟨hfollows.valid, hfollows.evolves.mono ?_, completes_of_same rfl, fun _ => hkeeps.live⟩
      rintro b rfl
      exact .inl ⟨rfl, rfl, rfl⟩
  | replaceReferrer fault inboxId acolyte agentId referrer name offerId now =>
    refine Ends.after (P := fun runtime => Called minter w ⟨runtime, _, _⟩ _)
      ends_replaceReferrer ?_
    rintro _ r' (rfl | ⟨s, quote, rfl, hkeeps, hfollows⟩ | ⟨-, -, hstate, hinvocations⟩)
    · exact called_refl h
    · refine ⟨hfollows.valid, hfollows.evolves.mono ?_, completes_of_same rfl, fun _ => hkeeps⟩
      rintro b rfl
      exact .inl ⟨rfl, rfl, rfl⟩
    · refine ⟨hstate ▸ h.valid, ?_, completes_of_same hinvocations, fun _ a ha _ _ => ?_⟩
      · change Evolves _ _ r'.state.actions
        rw [hstate]
        exact .refl _
      · change a ∈ r'.state.actions
        rw [hstate]
        exact ha
  | acceptConsent fault inboxId sender consent now =>
    refine Ends.after (P := fun runtime => Called minter w ⟨runtime, _, _⟩ _) ends_acceptConsent ?_
    rintro _ r' (rfl | ⟨s, rfl, hfollows⟩)
    · exact called_refl h
    · refine ⟨hfollows.valid, hfollows.evolves.mono ?_, completes_of_same rfl,
        fun h => absurd rfl h⟩
      rintro b ⟨hgrants, hsource⟩
      exact .inr ⟨_, List.mem_singleton_self _, hgrants, hsource⟩
  | decline fault inboxId sender offerId now =>
    refine Ends.after (P := fun runtime => Called minter w ⟨runtime, _, _⟩ _)
      (ends_decline h.valid fun index a ha => ?_) ?_
    · unfold BrandingSnapshot.declinable at ha
      simp only [except_bind_ok, exists_unit] at ha
      obtain ⟨found, hfound, -, heq⟩ := ha
      obtain rfl := except_pure_ok.mp heq
      exact hplace (offer_ok hfound).1
    · rintro _ r' (rfl | ⟨-, hsaves⟩)
      · exact called_refl h
      · exact called_of_saves rfl hsaves
  | deferDue fault now =>
    exact Ends.after (P := fun runtime => Called minter w ⟨runtime, _, _⟩ _)
      (ends_deferDue h.valid) fun _ _ hsaves => called_of_saves rfl hsaves
  | maintainOne faults reply agentId now =>
    refine Ends.after (P := fun runtime => Called minter w ⟨runtime, _, _⟩ _)
      (ends_maintainOne h.valid (fun a ha _ => hcreated a ha) hfits) ?_
    rintro _ r' (rfl | ⟨-, hturned⟩)
    · exact called_refl h
    · exact ⟨hturned.follows.valid, hturned.follows.evolves.mono fun _ => False.elim,
        hturned.invoked, fun h => absurd rfl h⟩
  | acknowledgeDelivery fault commitment delivered now =>
    refine Ends.after (P := fun runtime => Called minter w ⟨runtime, _, _⟩ _)
      (ends_acknowledge h.valid fun index a ha => hplace (position_eq_some ha).1) ?_
    rintro _ r' (rfl | ⟨-, hsaves⟩)
    · exact called_refl h
    · exact called_of_saves rfl hsaves

/-! ## Runs -/

/-- A consent grants whatever keeps the authority of the action it was given for. -/
theorem Received.Grants.of_authority {received : Received} {a b : BrandingAction}
    (h : received.Grants a) (heq : b.authority = a.authority) : received.Grants b := by
  have hinspection : b.inspection = a.inspection := congrArg Authority.inspection heq
  have hdeadline : b.deadline = a.deadline := by
    unfold BrandingAction.deadline
    rw [hinspection]
  refine ⟨h.offer.trans (congrArg Authority.offerId heq).symm,
    ⟨h.conversation.1.trans (congrArg Authority.inboxId heq).symm,
      h.conversation.2.trans (congrArg Authority.acolyte heq).symm⟩,
    ⟨h.echo.contract, h.echo.minter.trans (congrArg Authority.minter heq).symm,
      h.echo.acolyte.trans (congrArg Authority.acolyte heq).symm,
      h.echo.referrer.trans (congrArg Authority.referrer heq).symm,
      h.echo.controllerAgentId.trans (congrArg Authority.controllerAgentId heq).symm,
      h.echo.initialDeclaredPrice.trans (congrArg Authority.initialDeclaredPrice heq).symm,
      h.echo.acolyteName.trans (congrArg Authority.acolyteName heq).symm, ?_⟩,
    (congrArg Authority.consent heq).trans h.signature, ?_⟩
  · rw [hinspection]
    exact h.echo.inspection
  · rw [hdeadline]
    exact h.window

theorem sound_next (h : w.Sound minter) (hclock : w.clock ≤ request.now) (hfits : request.Fits) :
    (w.next minter request).Sound minter := by
  have hcalled := called_next h hclock hfits
  refine ⟨hcalled.valid, fun b hb => ?_, fun b hb hmay => ?_⟩
  · rcases hcalled.evolves b hb with ⟨a, ha, hab⟩ | ⟨-, -, hnow⟩ | ⟨_, -, -, a, ha, -, -, hcreated⟩
    · exact hab.created.trans_le ((h.created a ha).trans hclock)
    · exact hnow.le
    · exact hcreated.trans_le ((h.created a ha).trans hclock)
  · rcases hcalled.evolves b hb with ⟨a, ha, hab⟩ | ⟨hphase, -⟩ | ⟨received, hin, hgrants, -⟩
    · obtain ⟨hmay, heq⟩ := hab.authority hmay
      obtain ⟨received, hin, hgrants⟩ := h.authorized a ha hmay
      exact ⟨received, List.mem_append_left _ hin, hgrants.of_authority heq⟩
    · rw [hphase] at hmay
      cases hmay
    · exact ⟨received, List.mem_append_right _ hin, hgrants⟩

/-- The offer is retired in every action that has it. -/
def World.Retired (offerId : OfferId) (w : World) : Prop :=
  ∀ a ∈ w.runtime.state.actions, a.offerId = offerId → a.phase.retired = true

theorem retired_of_mem (h : w.Sound minter) {a : BrandingAction}
    (ha : a ∈ w.runtime.state.actions) (hretired : a.phase.retired = true) :
    w.Retired a.offerId := by
  intro b hb hoffer
  by_contra hlive
  have hne : a ≠ b := fun heq => hlive (heq ▸ hretired)
  have hsymm : Std.Symm BrandingAction.Apart := ⟨fun _ _ => BrandingAction.Apart.symm⟩
  exact (h.valid.apart.forall ha hb hne).offer hoffer.symm

theorem retired_next (h : w.Sound minter) (hclock : w.clock ≤ request.now) (hfits : request.Fits)
    {offerId : OfferId} (hdraws : request.draws ≠ some offerId) (hretired : w.Retired offerId) :
    (w.next minter request).Retired offerId := by
  intro b hb hoffer
  rcases (called_next h hclock hfits).evolves b hb with
    ⟨a, ha, hab⟩ | ⟨-, hdrawn, -⟩ | ⟨_, -, -, a, ha, hlive, hsame, -⟩
  · exact hab.retired (hretired a ha (hab.offer.symm.trans hoffer))
  · exact absurd (hoffer ▸ hdrawn) hdraws
  · rw [hretired a ha (hsame.symm.trans hoffer)] at hlive
    cases hlive

theorem World.Completes.mono {w' : World} {P' : String → CompleteOperation → Prop}
    (h : w.Completes w' P) (hP : ∀ actionId operation, P actionId operation →
      P' actionId operation) : w.Completes w' P' := by
  obtain ⟨new, heq, hnew⟩ := h
  exact ⟨new, heq, fun i hi actionId operation hc => hP _ _ (hnew i hi actionId operation hc)⟩

theorem World.Completes.trans {w' w'' : World} (h : w.Completes w' P) (h' : w'.Completes w'' P) :
    w.Completes w'' P := by
  obtain ⟨new, heq, hnew⟩ := h
  obtain ⟨new', heq', hnew'⟩ := h'
  refine ⟨new ++ new', ?_, fun i hi => (List.mem_append.mp hi).elim (hnew i) (hnew' i)⟩
  rw [heq', heq, List.append_assoc]

theorem not_retired_of_mayComplete {phase : BrandingPhase} (h : phase.mayComplete = true) :
    phase.retired = false := by
  cases phase <;> first | rfl | cases h

theorem completes_retired (h : w.Sound minter) (hclock : w.clock ≤ request.now)
    (hfits : request.Fits) {offerId : OfferId} (hretired : w.Retired offerId) :
    w.Completes (w.next minter request) fun actionId _ => actionId ≠ completionActionId offerId := by
  refine (called_next h hclock hfits).completes.mono ?_
  rintro actionId operation ⟨a, ha, hmay, hid, -⟩ rfl
  have hoffer := completionActionId_inj ((h.valid.actions a ha).actionId _ hid)
  have hphase := hretired a ha hoffer.symm
  rw [not_retired_of_mayComplete hmay] at hphase
  cases hphase

theorem sound_reachable {opening : Opening minter} (h : ((consentMachine minter opening).restrict
    fun _ request => request.Fits).Reachable w) : w.Sound minter := by
  refine h.invariant (P := World.Sound minter) opening.sound ?_
  exact fun w request _ hsound hallowed => sound_next hsound hallowed.1 hallowed.2

/-- Offers are completed on the consent of their acolyte only, as long as every error fits its
action and every result is saved. -/
theorem consent_safe (minter : Address) (opening : Opening minter) :
    ConsentSafe minter ((consentMachine minter opening).restrict fun _ request => request.Fits) where
  valid w h := BrandingSnapshot.validate_ok.mpr (sound_reachable h).valid
  authorized w h request hallowed := by
    have hsound := sound_reachable h
    refine (called_next hsound hallowed.1 hallowed.2).completes.mono ?_
    rintro actionId operation ⟨a, ha, hcompletes⟩
    exact ⟨a, ha, hcompletes, hsound.authorized a ha hcompletes.1⟩
  retired w h a ha hretired requests hadmits hdraws := by
    have hstart := retired_of_mem (sound_reachable h) ha hretired
    clear hretired ha
    induction requests generalizing w with
    | nil => exact completes_of_same rfl
    | cons request requests ih =>
      obtain ⟨hallowed, hadmits⟩ := hadmits
      have hsound := sound_reachable h
      have hrest := ih _ (h.next hallowed) hadmits
        (fun request hrequest => hdraws request (List.mem_cons_of_mem _ hrequest))
        (retired_next hsound hallowed.1 hallowed.2 (hdraws request List.mem_cons_self) hstart)
      exact (completes_retired hsound hallowed.1 hallowed.2 hstart).trans hrest
  kept w h request hallowed hdraws :=
    (called_next (sound_reachable h) hallowed.1 hallowed.2).keeps hdraws
  alone w h := (sound_reachable h).valid.apart.imp BrandingAction.Apart.conversation

end Runs

/-! ## An offer that loses its delivery -/

section Sample

attribute [local instance] zeroHashing

def sampleCommon : CommonResult :=
  { kind := "branding_inspection"
    disposition := .ready
    chainId := 8453
    contract := brandingContractAddress
    runtimeCodeHash := brandingRuntimeCodeHash
    identityRegistry := Offers.identityRegistry
    uwu := uwuContract
    observedBlockNumber := 9
    observedBlockHash := 10
    observedBlockTimestamp := 190
    minter := 1
    acolyte := 2
    tokenId := 2
    controllerAgentId := 7
    referrer := 3
    initialDeclaredPrice := 10000
    firstWeekUpkeep := 10
    acolyteName := acolyteName 2
    consentNonce := 0
    brandingStatus := .unminted
    owner := 0
    onchainControllerAgentId := 0
    onchainReferrer := 0
    onchainDeclaredPrice := 0
    paidThrough := 0
    nameTrait := none
    ethBalanceWei := 0
    ethTargetWei := 0
    ethShortfallWei := 0
    uwuBalance := 100000
    uwuTarget := 0
    uwuShortfallWei := 0
    exactOperations := []
    conservativeOperations := []
    pendingOperations := [] }

def sampleOpening : Opening 1 where
  world := ⟨⟨sampleSnapshot, sampleSnapshot, []⟩, 100, []⟩
  sound := by
    refine ⟨BrandingSnapshot.validate_ok.mp sampleSnapshot_valid, fun a ha => ?_,
      fun a ha hmay => ?_⟩
    · rw [List.mem_singleton.mp ha]
      decide
    · rw [List.mem_singleton.mp ha] at hmay
      cases hmay

/-- The gateway has inspected the offer, and the store does not take what became of it. -/
def sampleTurn : Request :=
  .maintainOne ⟨none, some "no space left on device", none⟩ (.inspection ⟨sampleCommon⟩) 7 200

theorem sampleTurn_run : ((consentMachine 1 sampleOpening).next
      (consentMachine 1 sampleOpening).init sampleTurn).runtime.state.actions.map
        (fun a => (a.phase, a.pendingDelivery.isSome)) =
    [(.offerPendingDelivery, false)] := by decide +kernel

/-- The offer waits for a delivery that was dropped with the error of its save. -/
theorem unsaved_offer_loses_delivery : ¬ConsentSafe 1 (consentMachine 1 sampleOpening) := by
  intro h
  have hclock : (consentMachine 1 sampleOpening).Allowed (consentMachine 1 sampleOpening).init
      sampleTurn := (by decide : 100 ≤ 200)
  have hvalid := BrandingSnapshot.validate_ok.mp (h.valid _ (.next .init hclock))
  have hlast : (BrandingPhase.offerPendingDelivery, false) ∈
      ((consentMachine 1 sampleOpening).next (consentMachine 1 sampleOpening).init
        sampleTurn).runtime.state.actions.map fun a => (a.phase, a.pendingDelivery.isSome) := by
    rw [sampleTurn_run]
    exact List.mem_singleton_self _
  obtain ⟨a, ha, heq⟩ := List.mem_map.mp hlast
  obtain ⟨hphase, hpending⟩ := Prod.mk.inj heq
  have hshape := (hvalid.actions a ha).phase
  unfold BrandingAction.checkPhase at hshape
  rw [hphase] at hshape
  have hawaits := (not_not.mp (failIf_ok.mp hshape)).2.2.2.2
  unfold BrandingAction.awaits at hawaits
  rw [Option.isSome_eq_false_iff, Option.isNone_iff_eq_none] at hpending
  rw [hpending] at hawaits
  cases hawaits

end Sample

end Cthuwu.Offers
