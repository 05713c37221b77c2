import Cthuwu.Propagation.Checks

/-!
# What an operation does

A `Request` is one call of a public operation, and `Effect` what a successful one writes.
`Justified` says when an effect can happen : what the operation has checked. `run_effect`
inverts every request into a justified effect, and `run_atomic` says that a request that
fails leaves the engine as it was. Invariants are proved from effects and never unfold an
operation.
-/

namespace Cthuwu.Propagation

open Council PropagationEngine Fallible

variable [Hashing]

/-! ## Requests -/

inductive Request
  | createCampaign (id : CampaignId) (councilId : CouncilId) (root : CthulhuId)
      (payload : PropagationPayload) (strategy : PropagationStrategy) (policy : PropagationPolicy)
      (createdAt expiresAt : ℤ)
  | registerCandidate (profile : CandidateProfile)
  | setOptOut (cthulhu : CthulhuId) (optedOut : Bool)
  | setBlocked (owner blocked : CthulhuId) (isBlocked : Bool)
  | sendInitial (campaignId : CampaignId) (itemId : PropagationItemId)
      (authenticatedSender recipient : CthulhuId)
  | forward (parentItemId itemId : PropagationItemId) (authenticatedSender recipient : CthulhuId)
  | sendWithValidator (campaignId : CampaignId) (parentItemId : Option PropagationItemId)
      (itemId : PropagationItemId) (authenticatedSender recipient : CthulhuId)
      (validator : PropagationPolicyValidator)
  | respond (itemId : PropagationItemId) (authenticatedRecipient : CthulhuId) (accept : Bool)
  | acknowledge (itemId : PropagationItemId) (acknowledgementId : AcknowledgementId)
      (authenticatedRecipient : CthulhuId)
  | acknowledgeOutcome (itemId : PropagationItemId) (acknowledgementId : AcknowledgementId)
      (authenticatedRecipient : CthulhuId) (outcome : ContributionOutcome) (evidenceHash : String)
  | revokeCampaign (campaignId : CampaignId) (authenticatedRoot : CthulhuId) (reason : String)
  | recordOutcome (claim : OutcomeClaim) (model : IncentiveModel)

inductive Reply
  | campaign (campaign : Campaign)
  | done
  | delivery (result : DeliveryResult)
  | status (status : ItemStatus)
  | acknowledgement (acknowledgement : Acknowledgement)
  | credit (explanation : CreditExplanation)

def Reply.item : Reply → Option PropagationItem
  | delivery (.created item _) => some item
  | _ => none

/-- The points a reply reports for the claim of its request. -/
def Request.award : Request → Reply → Option (OutcomeClaim × ℕ)
  | recordOutcome claim _, .credit explanation => some (claim, explanation.awardedPoints)
  | _, _ => none

/-- Call the operation at `now`. -/
def Request.run (now : ℤ) : Request → Op Reply
  | createCampaign id councilId root payload strategy policy createdAt expiresAt => do
    let campaign ← PropagationEngine.createCampaign id councilId root payload strategy policy
      createdAt expiresAt
    return .campaign campaign
  | registerCandidate profile => do
    PropagationEngine.registerCandidate profile
    return .done
  | setOptOut cthulhu optedOut => do
    PropagationEngine.setOptOut cthulhu optedOut
    return .done
  | setBlocked owner blocked isBlocked => do
    PropagationEngine.setBlocked owner blocked isBlocked
    return .done
  | sendInitial campaignId itemId authenticatedSender recipient => do
    let result ← PropagationEngine.sendInitial campaignId itemId authenticatedSender recipient now
    return .delivery result
  | forward parentItemId itemId authenticatedSender recipient => do
    let result ← PropagationEngine.forward parentItemId itemId authenticatedSender recipient now
    return .delivery result
  | sendWithValidator campaignId parentItemId itemId authenticatedSender recipient validator => do
    let result ← PropagationEngine.sendWithValidator campaignId parentItemId itemId
      authenticatedSender recipient now validator
    return .delivery result
  | respond itemId authenticatedRecipient accept => do
    let status ← PropagationEngine.respond itemId authenticatedRecipient accept now
    return .status status
  | acknowledge itemId acknowledgementId authenticatedRecipient => do
    let acknowledgement ← PropagationEngine.acknowledge itemId acknowledgementId
      authenticatedRecipient now
    return .acknowledgement acknowledgement
  | acknowledgeOutcome itemId acknowledgementId authenticatedRecipient outcome evidenceHash => do
    let acknowledgement ← PropagationEngine.acknowledgeOutcome itemId acknowledgementId
      authenticatedRecipient outcome evidenceHash now
    return .acknowledgement acknowledgement
  | revokeCampaign campaignId authenticatedRoot reason => do
    PropagationEngine.revokeCampaign campaignId authenticatedRoot reason now
    return .done
  | recordOutcome claim model => do
    let explanation ← PropagationEngine.recordOutcome claim model
    return .credit explanation

/-! ## Effects -/

inductive Effect
  | idle
  | created (campaign : Campaign)
  | registered (profile : CandidateProfile)
  | toggled (kind : LocalPolicyEventKind)
  | delivered (item : PropagationItem)
  | answered (id : PropagationItemId) (item : PropagationItem) (status : ItemStatus)
  | acknowledged (item : PropagationItem) (acknowledgement : Acknowledgement)
  | revoked (id : CampaignId) (campaign : Campaign) (revokedAt : ℤ) (reason : String)
  | credited (claim : OutcomeClaim) (points : ℕ)

namespace PropagationEngine

/-- Log a rule that has been switched on or off. -/
def toggle (engine : PropagationEngine) (kind : LocalPolicyEventKind) : PropagationEngine :=
  { engine with
    optedOut := (toggleRule engine.rules kind).2.optedOut
    blocked := (toggleRule engine.rules kind).2.blocked
    localPolicyEvents :=
      engine.localPolicyEvents ++ [⟨engine.localPolicyGeneration + 1, kind⟩]
    localPolicyGeneration := engine.localPolicyGeneration + 1 }

def deliver (engine : PropagationEngine) (item : PropagationItem) : PropagationEngine :=
  { engine with
    items := engine.items.insert item.id item
    rateRecords := engine.rateRecords ++ [⟨item.id, item.campaignId, item.sender, item.createdAt⟩] }

def addAcknowledgement (acknowledgement : Acknowledgement) (engine : PropagationEngine) :
    PropagationEngine :=
  { engine with
    acknowledgements := engine.acknowledgements.insert acknowledgement.id acknowledgement }

def award (engine : PropagationEngine) (claim : OutcomeClaim) (points : ℕ) : PropagationEngine :=
  { engine with
    credits := addCredit claim.campaignId claim.contributor points engine.credits
    usedAcknowledgements := insert claim.acknowledgementId engine.usedAcknowledgements
    outcomes := engine.outcomes.insert claim.id claim }

end PropagationEngine

def Campaign.revoke (campaign : Campaign) (revokedAt : ℤ) (reason : String) : Campaign :=
  { campaign with revokedAt := some revokedAt, revocationReason := some reason }

def Effect.apply (engine : PropagationEngine) : Effect → PropagationEngine
  | idle => engine
  | created campaign => { engine with campaigns := engine.campaigns.insert campaign.id campaign }
  | registered profile =>
    { engine with candidateProfiles := engine.candidateProfiles.insert profile.cthulhuId profile }
  | toggled kind => engine.toggle kind
  | delivered item => engine.deliver item
  | answered id item status => setStatus id item status engine
  | acknowledged item acknowledgement =>
    addAcknowledgement acknowledgement (setStatus acknowledgement.itemId item .acknowledged engine)
  | revoked id campaign revokedAt reason =>
    { engine with campaigns := engine.campaigns.insert id (campaign.revoke revokedAt reason) }
  | credited claim points => engine.award claim points

/-- The item of a campaign that has not been revoked, waiting for its recipient. -/
structure Live (engine : PropagationEngine) (now : ℤ) (id : PropagationItemId)
    (item : PropagationItem) (campaign : Campaign) : Prop where
  found : engine.items.get id = some item
  campaignFound : engine.campaigns.get item.campaignId = some campaign
  unrevoked : campaign.revokedAt = none
  createdAt : item.createdAt ≤ now
  expiresAt : now < item.expiresAt

def Effect.delivery : Effect → Option PropagationItem
  | delivered item => some item
  | _ => none

/-- The claim an effect credits, with its points. -/
def Effect.credit : Effect → Option (OutcomeClaim × ℕ)
  | credited claim points => some (claim, points)
  | _ => none

/-- When an effect can happen at `now`. -/
inductive Justified (engine : PropagationEngine) (now : ℤ) : Effect → Prop
  | idle : Justified engine now .idle
  | created {campaign : Campaign} (fresh : engine.campaigns.get campaign.id = none)
      (room : engine.campaigns.len < maxCampaigns) (valid : campaign.validate = .ok ())
      (unrevoked : campaign.revokedAt = none) : Justified engine now (.created campaign)
  | registered {profile : CandidateProfile} (valid : profile.validate = .ok ())
      (unused : ∀ existing, engine.candidateProfiles.get profile.cthulhuId = some existing →
        existing ≠ profile → engine.inHistory profile.cthulhuId = false)
      (room : engine.candidateProfiles.len < maxCandidates ∨
        ∃ existing, engine.candidateProfiles.get profile.cthulhuId = some existing) :
      Justified engine now (.registered profile)
  | toggled {kind : LocalPolicyEventKind}
      (room : engine.localPolicyEvents.length < maxLocalPolicyEvents)
      (applies : engine.optedOut.card ≤ maxLocalRules → engine.blocked.card ≤ maxLocalRules →
        applyLocalPolicyEvent engine.rules ⟨engine.localPolicyGeneration + 1, kind⟩ =
          .ok (toggleRule engine.rules kind).2) : Justified engine now (.toggled kind)
  | delivered {item : PropagationItem} {validator : PropagationPolicyValidator}
      {campaignId : CampaignId} {campaign : Campaign} {parent : Option PropagationItem}
      (fresh : engine.items.get item.id = none)
      (prepared : Prepared engine validator now campaignId campaign parent item) :
      Justified engine now (.delivered item)
  | answered {id : PropagationItemId} {item : PropagationItem} {campaign : Campaign}
      {status : ItemStatus} (live : Live engine now id item campaign)
      (pending : item.status = .pending) (unacknowledged : status ≠ .acknowledged) :
      Justified engine now (.answered id item status)
  | acknowledged {item : PropagationItem} {campaign : Campaign} {acknowledgement : Acknowledgement}
      (live : Live engine now acknowledgement.itemId item campaign)
      (accepted : item.status = .accepted)
      (fresh : engine.acknowledgements.get acknowledgement.id = none)
      (room : engine.acknowledgements.len < maxAcknowledgements)
      (hash : validateHash acknowledgement.evidenceHash = .ok ())
      (actor : acknowledgement.actor = item.recipient)
      (time : acknowledgement.acknowledgedAt = now) :
      Justified engine now (.acknowledged item acknowledgement)
  | revoked {id : CampaignId} {campaign : Campaign} {reason : String}
      (found : engine.campaigns.get id = some campaign) (unrevoked : campaign.revokedAt = none)
      (time : campaign.createdAt ≤ now)
      (text : validateText reason maxShortTextBytes "revocation reason" false = .ok ()) :
      Justified engine now (.revoked id campaign now reason)
  | credited {claim : OutcomeClaim} {points : ℕ} {campaign : Campaign} {item : PropagationItem}
      {acknowledgement : Acknowledgement}
      (creditable : Creditable engine claim points campaign item acknowledgement) :
      Justified engine now (.credited claim points)

/-! ## From requests to effects -/

variable {engine engine' : PropagationEngine} {now : ℤ}

/-- A campaign is created when its identifier is new and it validates. -/
theorem createCampaign_ok {id councilId root payload strategy policy createdAt expiresAt campaign}
    (h : (createCampaign id councilId root payload strategy policy createdAt expiresAt).exec engine =
      (.ok campaign, engine')) :
    Justified engine now (.created campaign) ∧ engine' = Effect.apply engine (.created campaign) := by
  unfold createCampaign at h
  simp only [exec_get_bind, lift_bind_ok, exists_unit, failIf_ok, exec_modify_bind, exec_lift,
    HashMap.get_insert, okOr, not_le, Prod.mk.injEq, Except.ok.injEq] at h
  obtain ⟨hfresh, hroom, -, hash, -, hvalid, rfl, rfl⟩ := h
  refine ⟨.created ?_ hroom hvalid rfl, rfl⟩
  simpa [HashMap.contains] using hfresh

variable {cthulhu blocked authenticatedRecipient authenticatedRoot : CthulhuId}
  {profile : CandidateProfile} {u : Unit} {isBlocked : Bool} {result : DeliveryResult}
  {itemId : PropagationItemId} {campaignId : CampaignId} {model : IncentiveModel}
  {request : Request}

theorem registerCandidate_ok (h : (registerCandidate profile).exec engine = (.ok u, engine')) :
    Justified engine now (.registered profile) ∧
      engine' = Effect.apply engine (.registered profile) := by
  unfold registerCandidate at h
  simp only [exec_get_bind, lift_bind_ok, exists_unit, failIf_ok, exec_modify, not_and,
    Prod.mk.injEq, not_not] at h
  obtain ⟨hvalid, hunused, hroom, -, rfl⟩ := h
  refine ⟨.registered hvalid ?_ ?_, rfl⟩
  · intro existing hget hne
    rw [hget] at hunused
    simpa [hne] using hunused
  · by_cases hlen : engine.candidateProfiles.len < maxCandidates
    · exact .inl hlen
    · exact .inr (Option.isSome_iff_exists.mp (hroom (not_lt.mp hlen)))

/-- A rule that changes something, with room for it, is logged. -/
theorem toggled_justified {kind : LocalPolicyEventKind}
    (hroom : engine.localPolicyEvents.length < maxLocalPolicyEvents)
    (hself : isSelfBlock kind = false) (hchanged : (toggleRule engine.rules kind).1 = true)
    (hbound : engine.optedOut.card ≤ maxLocalRules → engine.blocked.card ≤ maxLocalRules →
      (toggleRule engine.rules kind).2.optedOut.card ≤ maxLocalRules ∧
        (toggleRule engine.rules kind).2.blocked.card ≤ maxLocalRules) :
    Justified engine now (.toggled kind) := by
  refine .toggled hroom fun hopt hblock => applyLocalPolicyEvent_ok.mpr ⟨hself, ?_, ?_⟩
  · exact Prod.ext hchanged rfl
  · exact hbound hopt hblock

theorem nextLocalPolicyGeneration_ok {generation : ℕ}
    (h : engine.nextLocalPolicyGeneration = .ok generation) :
    generation = engine.localPolicyGeneration + 1 := by
  unfold nextLocalPolicyGeneration at h
  split_ifs at h
  exact (Except.ok.inj h).symm

theorem setOptOut_ok {optedOut : Bool}
    (h : (setOptOut cthulhu optedOut).exec engine = (.ok u, engine')) :
    engine' = engine ∨ Justified engine now (.toggled (.optOut cthulhu optedOut)) ∧
      engine' = Effect.apply engine (.toggled (.optOut cthulhu optedOut)) := by
  unfold setOptOut at h
  rw [exec_get_bind] at h
  by_cases hsame : decide (cthulhu ∈ engine.optedOut) = optedOut
  · rw [if_pos hsame, exec_pure, Prod.mk.injEq] at h
    exact .inl h.2.symm
  · rw [if_neg hsame] at h
    simp only [lift_bind_ok, exists_unit, ensureLocalPolicyEventCapacity, failIf_ok, exec_modify,
      Prod.mk.injEq, not_le] at h
    obtain ⟨hroom, generation, hgeneration, hrules, -, rfl⟩ := h
    cases nextLocalPolicyGeneration_ok hgeneration
    refine .inr ⟨toggled_justified hroom rfl ?_ fun hopt hblock => ?_, ?_⟩
    · cases optedOut <;> exact decide_eq_true (by simpa [rules] using hsame)
    · cases optedOut with
      | true =>
        have hcard := Finset.card_insert_le cthulhu engine.optedOut
        have hnew : cthulhu ∉ engine.optedOut := by simpa using hsame
        have hlt : engine.optedOut.card < maxLocalRules := by
          by_contra hfull
          exact hrules ⟨rfl, not_lt.mp hfull, hnew⟩
        exact ⟨hcard.trans hlt, hblock⟩
      | false => exact ⟨(Finset.card_le_card (Finset.erase_subset ..)).trans hopt, hblock⟩
    · cases optedOut <;> rfl

theorem setBlocked_ok {owner : CthulhuId}
    (h : (setBlocked owner blocked isBlocked).exec engine = (.ok u, engine')) :
    engine' = engine ∨ Justified engine now (.toggled (.block owner blocked isBlocked)) ∧
      engine' = Effect.apply engine (.toggled (.block owner blocked isBlocked)) := by
  unfold setBlocked at h
  simp only [lift_bind_ok, exists_unit, failIf_ok, exec_get_bind] at h
  obtain ⟨hself, h⟩ := h
  by_cases hsame : decide ((owner, blocked) ∈ engine.blocked) = isBlocked
  · rw [if_pos hsame, exec_pure, Prod.mk.injEq] at h
    exact .inl h.2.symm
  · rw [if_neg hsame] at h
    simp only [lift_bind_ok, exists_unit, ensureLocalPolicyEventCapacity, failIf_ok, exec_modify,
      Prod.mk.injEq, not_le] at h
    obtain ⟨hroom, generation, hgeneration, hrules, -, rfl⟩ := h
    cases nextLocalPolicyGeneration_ok hgeneration
    refine .inr ⟨toggled_justified hroom ?_ ?_ fun hopt hblock => ?_, ?_⟩
    · simpa [isSelfBlock] using hself
    · cases isBlocked <;> exact decide_eq_true (by simpa [rules] using hsame)
    · cases isBlocked with
      | true =>
        have hcard := Finset.card_insert_le (owner, blocked) engine.blocked
        have hnew : (owner, blocked) ∉ engine.blocked := by simpa using hsame
        have hlt : engine.blocked.card < maxLocalRules := by
          by_contra hfull
          exact hrules ⟨rfl, not_lt.mp hfull, hnew⟩
        exact ⟨hopt, hcard.trans hlt⟩
      | false => exact ⟨hopt, (Finset.card_le_card (Finset.erase_subset ..)).trans hblock⟩
    · cases isBlocked <;> rfl

/-- A send finds its item already there, or prepares a new one. -/
theorem sendWithValidator_ok {campaignId parentItemId itemId sender recipient}
    {validator : PropagationPolicyValidator}
    (h : (sendWithValidator campaignId parentItemId itemId sender recipient now validator).exec
      engine = (.ok result, engine')) :
    (engine' = engine ∧ ∃ item, result = .replaySuppressed item) ∨
      ∃ item explanation, result = .created item explanation ∧ item.parentItemId = parentItemId ∧
        item.recipient = recipient ∧ engine.items.get item.id = none ∧
        (∃ campaign parent, Prepared engine validator now campaignId campaign parent item) ∧
        engine' = Effect.apply engine (.delivered item) := by
  unfold sendWithValidator at h
  rw [exec_get_bind] at h
  cases hget : engine.items.get itemId with
  | some existing =>
    rw [hget] at h
    dsimp only at h
    split_ifs at h
    · simp only [exec_pure, Prod.mk.injEq, Except.ok.injEq] at h
      exact .inl ⟨h.2.symm, existing, h.1.symm⟩
    · simp only [exec_throw, Prod.mk.injEq, reduceCtorEq, false_and] at h
  | none =>
    rw [hget] at h
    simp only [lift_bind_ok, exec_modify_bind, exec_pure, Prod.mk.injEq, Except.ok.injEq] at h
    obtain ⟨⟨item, explanation⟩, hprepare, rfl, rfl⟩ := h
    obtain ⟨rfl, hparent, rfl, hrecipient, campaign, parent, hprepared⟩ := prepareDelivery_ok hprepare
    refine .inr ⟨item, explanation, rfl, hparent, hrecipient, hget, ⟨campaign, parent, hprepared⟩, ?_⟩
    rw [← hprepared.createdAt]
    rfl

theorem liveItem_ok {id : PropagationItemId} {item : PropagationItem} :
    engine.liveItem id = .ok item ↔ engine.items.get id = some item ∧
      ∃ campaign, engine.campaigns.get item.campaignId = some campaign ∧
        campaign.revokedAt = none := by
  unfold liveItem
  simp only [except_bind_ok, exists_unit, failIf_ok, okOr_ok, except_pure_ok, Bool.not_eq_true,
    Option.isSome_eq_false_iff, Option.isNone_iff_eq_none]
  constructor
  · rintro ⟨_, hitem, campaign, hcampaign, hrevoked, rfl⟩
    exact ⟨hitem, campaign, hcampaign, hrevoked⟩
  · rintro ⟨hitem, campaign, hcampaign, hrevoked⟩
    exact ⟨item, hitem, campaign, hcampaign, hrevoked, rfl⟩

theorem respond_ok {accept : Bool} {status : ItemStatus}
    (h : (respond itemId authenticatedRecipient accept now).exec engine = (.ok status, engine')) :
    engine' = engine ∨ ∃ item, Justified engine now (.answered itemId item status) ∧
      engine' = Effect.apply engine (.answered itemId item status) := by
  unfold respond at h
  simp only [exec_get_bind, lift_bind_ok, exists_unit, failIf_ok, liveItem_ok, not_or, not_lt,
    not_le] at h
  obtain ⟨item, ⟨hfound, campaign, hcampaign, hunrevoked⟩, -, ⟨hcreated, hexpires⟩, h⟩ := h
  by_cases hpending : item.status = .pending
  · rw [if_pos hpending] at h
    simp only [exec_modify_bind, exec_pure, Prod.mk.injEq, Except.ok.injEq] at h
    obtain ⟨rfl, rfl⟩ := h
    refine .inr ⟨item, .answered ⟨hfound, hcampaign, hunrevoked, hcreated, hexpires⟩ hpending ?_, rfl⟩
    cases accept <;> simp
  · rw [if_neg hpending] at h
    simp only [lift_bind_ok, exists_unit, exec_pure, Prod.mk.injEq] at h
    exact .inl h.2.2.symm

theorem acknowledgeOutcome_ok {itemId acknowledgementId authenticatedRecipient outcome evidenceHash}
    {acknowledgement : Acknowledgement}
    (h : (acknowledgeOutcome itemId acknowledgementId authenticatedRecipient outcome evidenceHash
      now).exec engine = (.ok acknowledgement, engine')) :
    engine' = engine ∨ ∃ item, Justified engine now (.acknowledged item acknowledgement) ∧
      engine' = Effect.apply engine (.acknowledged item acknowledgement) := by
  unfold acknowledgeOutcome at h
  simp only [lift_bind_ok, exists_unit, exec_get_bind] at h
  obtain ⟨hhash, h⟩ := h
  cases hget : engine.acknowledgements.get acknowledgementId with
  | some existing =>
    rw [hget] at h
    simp only [lift_bind_ok, exec_pure, Prod.mk.injEq] at h
    obtain ⟨-, -, -, rfl⟩ := h
    exact .inl rfl
  | none =>
    rw [hget] at h
    simp only [lift_bind_ok, exists_unit, failIf_ok, liveItem_ok, exec_modify_bind, exec_get_bind,
      exec_lift, HashMap.get_insert, okOr, Prod.mk.injEq, Except.ok.injEq, not_or, not_lt, not_le,
      not_not, ne_eq] at h
    obtain ⟨hroom, item, ⟨hfound, campaign, hcampaign, hunrevoked⟩, hactor,
      ⟨haccepted, hcreated, hexpires⟩, rfl, rfl⟩ := h
    exact .inr ⟨item, .acknowledged ⟨hfound, hcampaign, hunrevoked, hcreated, hexpires⟩ haccepted
      hget hroom hhash hactor.symm rfl, rfl⟩

theorem revokeCampaign_ok {reason : String}
    (h : (revokeCampaign campaignId authenticatedRoot reason now).exec engine = (.ok u, engine')) :
    engine' = engine ∨ ∃ campaign, campaign.root = authenticatedRoot ∧
      Justified engine now (.revoked campaignId campaign now reason) ∧
      engine' = Effect.apply engine (.revoked campaignId campaign now reason) := by
  unfold revokeCampaign at h
  simp only [lift_bind_ok, exists_unit, exec_get_bind, failIf_ok, okOr_ok, not_lt] at h
  obtain ⟨htext, campaign, hfound, hroot, hcreated, h⟩ := h
  split_ifs at h with hunrevoked
  · simp only [exec_modify, Prod.mk.injEq] at h
    exact .inr ⟨campaign, not_ne_iff.mp hroot, .revoked hfound hunrevoked hcreated htext, h.2.symm⟩
  · simp only [exec_pure, Prod.mk.injEq] at h
    exact .inl h.2.symm

theorem recordOutcome_ok {claim : OutcomeClaim} {explanation : CreditExplanation}
    (h : (recordOutcome claim model).exec engine = (.ok explanation, engine')) :
    Justified engine now (.credited claim explanation.awardedPoints) ∧
      engine' = Effect.apply engine (.credited claim explanation.awardedPoints) := by
  unfold recordOutcome at h
  simp only [exec_get_bind, lift_bind_ok, exec_modify_bind, exec_pure, Prod.mk.injEq,
    Except.ok.injEq] at h
  obtain ⟨⟨points, proposed⟩, hevaluate, rfl, rfl⟩ := h
  obtain ⟨campaign, item, acknowledgement, hcreditable⟩ := evaluateOutcome_ok hevaluate
  exact ⟨.credited hcreditable, rfl⟩

/-- The parent and the recipient of a request to send. -/
def Request.path : Request → Option (Option PropagationItemId × CthulhuId)
  | sendInitial _ _ _ recipient => some (none, recipient)
  | forward parentItemId _ _ recipient => some (some parentItemId, recipient)
  | sendWithValidator _ parentItemId _ _ recipient _ => some (parentItemId, recipient)
  | _ => none

/-- The validator a request to send is checked by. -/
def Request.validator : Request → Option PropagationPolicyValidator
  | sendInitial _ _ _ _ => some noAdditionalHopPolicy
  | forward _ _ _ _ => some noAdditionalHopPolicy
  | sendWithValidator _ _ _ _ _ validator => some validator
  | _ => none

/-- What the request says of a send or a revocation. -/
def Request.Asks (request : Request) (engine : PropagationEngine) (now : ℤ) : Effect → Prop
  | .delivered item => request.path = some (item.parentItemId, item.recipient) ∧
    ∃ validator campaignId campaign parent, request.validator = some validator ∧
      Prepared engine validator now campaignId campaign parent item
  | .revoked id campaign _ reason => request = .revokeCampaign id campaign.root reason
  | _ => True

/-- A justified effect of the request happened, and the reply reports it. -/
structure Explains (engine engine' : PropagationEngine) (now : ℤ) (request : Request)
    (reply : Reply) (effect : Effect) : Prop where
  justified : Justified engine now effect
  result : engine' = effect.apply engine
  delivery : effect.delivery = reply.item
  credit : effect.credit = request.award reply
  asked : request.Asks engine now effect

theorem explains_idle {reply : Reply} (h : engine' = engine) (hitem : reply.item = none)
    (haward : request.award reply = none) :
    ∃ effect, Explains engine engine' now request reply effect :=
  ⟨.idle, .idle, h, hitem.symm, haward.symm, trivial⟩

theorem send_explained {campaignId parentItemId itemId sender recipient}
    {validator : PropagationPolicyValidator}
    (h : (sendWithValidator campaignId parentItemId itemId sender recipient now validator).exec
      engine = (.ok result, engine')) (haward : request.award (.delivery result) = none)
    (hpath : request.path = some (parentItemId, recipient))
    (hvalidator : request.validator = some validator) :
    ∃ effect, Explains engine engine' now request (.delivery result) effect := by
  rcases sendWithValidator_ok h with ⟨hidle, item, rfl⟩ |
    ⟨item, explanation, rfl, rfl, rfl, hfresh, ⟨campaign, parent, hprepared⟩, happly⟩
  · exact explains_idle hidle rfl haward
  · exact ⟨.delivered item, .delivered hfresh hprepared, happly, rfl, haward.symm, hpath,
      validator, campaignId, campaign, parent, hvalidator, hprepared⟩

/-- A successful request has one justified effect, and its reply reports what was sent and
credited. -/
theorem run_effect {reply : Reply} (h : (request.run now).exec engine = (.ok reply, engine')) :
    ∃ effect, Explains engine engine' now request reply effect := by
  cases request
  all_goals
    simp only [Request.run, bind_ok, exec_pure, Prod.mk.injEq, Except.ok.injEq] at h
    obtain ⟨result, middle, h, rfl, rfl⟩ := h
  case createCampaign =>
    obtain ⟨hjustified, happly⟩ := createCampaign_ok h
    exact ⟨_, hjustified, happly, rfl, rfl, trivial⟩
  case registerCandidate =>
    obtain ⟨hjustified, happly⟩ := registerCandidate_ok h
    exact ⟨_, hjustified, happly, rfl, rfl, trivial⟩
  case setOptOut =>
    rcases setOptOut_ok h with hidle | ⟨hjustified, happly⟩
    · exact explains_idle hidle rfl rfl
    · exact ⟨_, hjustified, happly, rfl, rfl, trivial⟩
  case setBlocked =>
    rcases setBlocked_ok h with hidle | ⟨hjustified, happly⟩
    · exact explains_idle hidle rfl rfl
    · exact ⟨_, hjustified, happly, rfl, rfl, trivial⟩
  case sendInitial => exact send_explained h rfl rfl rfl
  case forward =>
    unfold PropagationEngine.forward at h
    simp only [exec_get_bind, lift_bind_ok] at h
    obtain ⟨parent, -, h⟩ := h
    exact send_explained h rfl rfl rfl
  case sendWithValidator => exact send_explained h rfl rfl rfl
  case respond =>
    rcases respond_ok h with hidle | ⟨item, hjustified, happly⟩
    · exact explains_idle hidle rfl rfl
    · exact ⟨_, hjustified, happly, rfl, rfl, trivial⟩
  case acknowledge =>
    rcases acknowledgeOutcome_ok h with hidle | ⟨item, hjustified, happly⟩
    · exact explains_idle hidle rfl rfl
    · exact ⟨_, hjustified, happly, rfl, rfl, trivial⟩
  case acknowledgeOutcome =>
    rcases acknowledgeOutcome_ok h with hidle | ⟨item, hjustified, happly⟩
    · exact explains_idle hidle rfl rfl
    · exact ⟨_, hjustified, happly, rfl, rfl, trivial⟩
  case revokeCampaign =>
    rcases revokeCampaign_ok h with hidle | ⟨campaign, rfl, hjustified, happly⟩
    · exact explains_idle hidle rfl rfl
    · exact ⟨_, hjustified, happly, rfl, rfl, rfl⟩
  case recordOutcome =>
    obtain ⟨hjustified, happly⟩ := recordOutcome_ok h
    exact ⟨_, hjustified, happly, rfl, rfl, trivial⟩

/-! ## Failures -/

theorem atomic_createCampaign {id councilId root payload strategy policy createdAt expiresAt} :
    Atomic (createCampaign id councilId root payload strategy policy createdAt expiresAt) := by
  refine readOnly_get.bind_atomic fun engine => ?_
  refine (readOnly_lift _).bind_atomic fun _ => (readOnly_lift _).bind_atomic fun _ => ?_
  refine (readOnly_lift _).bind_atomic fun _ => (readOnly_lift _).bind_atomic fun hash => ?_
  refine (readOnly_lift _).bind_atomic fun _ => ?_
  -- the inserted campaign is found again
  intro engine err herr
  simp [okOr] at herr

theorem atomic_registerCandidate : Atomic (registerCandidate profile) := by
  refine readOnly_get.bind_atomic fun engine => (readOnly_lift _).bind_atomic fun _ => ?_
  refine (readOnly_lift _).bind_atomic fun _ => (readOnly_lift _).bind_atomic fun _ => ?_
  exact (infallible_modify _).atomic

theorem atomic_setOptOut {optedOut : Bool} : Atomic (setOptOut cthulhu optedOut) := by
  refine readOnly_get.bind_atomic fun engine => ?_
  by_cases hsame : decide (cthulhu ∈ engine.optedOut) = optedOut
  · rw [if_pos hsame]
    exact (infallible_pure _).atomic
  · rw [if_neg hsame]
    refine (readOnly_lift _).bind_atomic fun _ => (readOnly_lift _).bind_atomic fun generation => ?_
    exact (readOnly_lift _).bind_atomic fun _ => (infallible_modify _).atomic

theorem atomic_setBlocked {owner : CthulhuId} : Atomic (setBlocked owner blocked isBlocked) := by
  refine (readOnly_lift _).bind_atomic fun _ => readOnly_get.bind_atomic fun engine => ?_
  by_cases hsame : decide ((owner, blocked) ∈ engine.blocked) = isBlocked
  · rw [if_pos hsame]
    exact (infallible_pure _).atomic
  · rw [if_neg hsame]
    refine (readOnly_lift _).bind_atomic fun _ => (readOnly_lift _).bind_atomic fun generation => ?_
    exact (readOnly_lift _).bind_atomic fun _ => (infallible_modify _).atomic

theorem atomic_sendWithValidator {campaignId parentItemId itemId sender recipient}
    {validator : PropagationPolicyValidator} :
    Atomic (sendWithValidator campaignId parentItemId itemId sender recipient now validator) := by
  refine readOnly_get.bind_atomic fun engine => ?_
  cases engine.items.get itemId with
  | some existing =>
    dsimp only
    split_ifs
    · exact (infallible_pure _).atomic
    · exact atomic_throw _
  | none =>
    refine (readOnly_lift _).bind_atomic fun prepared => ?_
    exact ((infallible_modify _).bind fun _ => infallible_pure _).atomic

theorem atomic_forward {parentItemId itemId sender recipient} :
    Atomic (forward parentItemId itemId sender recipient now) := by
  refine readOnly_get.bind_atomic fun engine => (readOnly_lift _).bind_atomic fun parent => ?_
  exact atomic_sendWithValidator

theorem atomic_respond {accept : Bool} :
    Atomic (respond itemId authenticatedRecipient accept now) := by
  refine readOnly_get.bind_atomic fun engine => (readOnly_lift _).bind_atomic fun item => ?_
  refine (readOnly_lift _).bind_atomic fun _ => (readOnly_lift _).bind_atomic fun _ => ?_
  by_cases hpending : item.status = .pending
  · dsimp only
    rw [if_pos hpending]
    exact ((infallible_modify _).bind fun _ => infallible_pure _).atomic
  · dsimp only
    rw [if_neg hpending]
    exact (readOnly_lift _).bind_atomic fun _ => (infallible_pure _).atomic

/-- `acknowledge_outcome` returns an error only before it writes. -/
theorem atomic_acknowledgeOutcome {itemId acknowledgementId authenticatedRecipient outcome
    evidenceHash} : Atomic (acknowledgeOutcome itemId acknowledgementId authenticatedRecipient
      outcome evidenceHash now) := by
  refine (readOnly_lift _).bind_atomic fun _ => readOnly_get.bind_atomic fun engine => ?_
  cases engine.acknowledgements.get acknowledgementId with
  | some existing => exact (readOnly_lift _).bind_atomic fun _ => (infallible_pure _).atomic
  | none =>
    refine (readOnly_lift _).bind_atomic fun _ => (readOnly_lift _).bind_atomic fun item => ?_
    refine (readOnly_lift _).bind_atomic fun _ => (readOnly_lift _).bind_atomic fun _ => ?_
    -- the inserted acknowledgement is found again
    intro engine err herr
    simp [okOr] at herr

theorem atomic_revokeCampaign {reason : String} :
    Atomic (revokeCampaign campaignId authenticatedRoot reason now) := by
  refine (readOnly_lift _).bind_atomic fun _ => readOnly_get.bind_atomic fun engine => ?_
  refine (readOnly_lift _).bind_atomic fun campaign => (readOnly_lift _).bind_atomic fun _ => ?_
  refine (readOnly_lift _).bind_atomic fun _ => ?_
  split_ifs
  · exact (infallible_modify _).atomic
  · exact (infallible_pure _).atomic

/-- `record_outcome` returns an error only before it writes. -/
theorem atomic_recordOutcome {claim : OutcomeClaim} : Atomic (recordOutcome claim model) := by
  refine readOnly_get.bind_atomic fun engine => (readOnly_lift _).bind_atomic fun awarded => ?_
  exact ((infallible_modify _).bind fun _ => infallible_pure _).atomic

/-- A request that fails leaves the engine as it was. -/
theorem run_atomic : Atomic (request.run now) := by
  have hreply : ∀ {α : Type} {x : Op α} {f : α → Reply}, Atomic x →
      Atomic (x >>= fun a => (pure (f a) : Op Reply)) := fun hx =>
    hx.bind_infallible fun _ => infallible_pure _
  cases request with
  | createCampaign => exact hreply atomic_createCampaign
  | registerCandidate => exact hreply (f := fun _ => .done) atomic_registerCandidate
  | setOptOut => exact hreply (f := fun _ => .done) atomic_setOptOut
  | setBlocked => exact hreply (f := fun _ => .done) atomic_setBlocked
  | sendInitial => exact hreply atomic_sendWithValidator
  | forward => exact hreply atomic_forward
  | sendWithValidator => exact hreply atomic_sendWithValidator
  | respond => exact hreply atomic_respond
  | acknowledge => exact hreply atomic_acknowledgeOutcome
  | acknowledgeOutcome => exact hreply atomic_acknowledgeOutcome
  | revokeCampaign => exact hreply (f := fun _ => .done) atomic_revokeCampaign
  | recordOutcome => exact hreply atomic_recordOutcome

end Cthuwu.Propagation
