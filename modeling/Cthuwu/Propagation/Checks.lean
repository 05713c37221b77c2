import Cthuwu.Propagation.Reload

/-!
# What the checks establish

Each check of the engine with the facts that hold exactly when it passes. `ItemValid` is
what `validate_item_value` establishes of an item, apart from its time, `Prepared` what
stands behind an item about to be sent, and `Creditable` behind points about to be awarded.
Later modules use these and not the checks themselves.
-/

namespace Cthuwu.Propagation

open Council PropagationEngine

variable [Hashing] {engine : PropagationEngine} {campaign : Campaign} {item : PropagationItem}
  {parent : Option PropagationItem} {sender recipient : CthulhuId} {now : ℤ}

/-! ## Campaigns -/

variable {c : Campaign} {reason : String}

theorem Campaign.validate_ok :
    c.validate = .ok () ↔ c.validateTerms = .ok () ∧ c.validateRevocation = .ok () :=
  except_check_ok

theorem PropagationPolicy.validate_ok {p : PropagationPolicy} (h : p.validate = .ok ()) :
    p.maxDepth ≤ Propagation.maxDepth ∧ 0 < p.rateWindowSeconds ∧
      p.rateWindowSeconds ≤ maxRateWindowSeconds := by
  unfold PropagationPolicy.validate at h
  rw [failIf_ok] at h
  omega

theorem Campaign.validateTerms_ok (h : c.validateTerms = .ok ()) :
    c.policy.validate = .ok () ∧ 0 ≤ c.createdAt ∧ c.createdAt < c.expiresAt := by
  unfold Campaign.validateTerms at h
  simp only [except_bind_ok, exists_unit, failIf_ok] at h
  obtain ⟨-, -, hpolicy, -, _, -, -, htimes⟩ := h
  exact ⟨hpolicy, by omega, by omega⟩

theorem Campaign.terms_of_validate (h : c.validate = .ok ()) :
    c.policy.maxDepth ≤ Propagation.maxDepth ∧ c.policy.rateWindowSeconds ≤ maxRateWindowSeconds ∧
      0 ≤ c.createdAt ∧ c.createdAt < c.expiresAt := by
  obtain ⟨hpolicy, hcreated, hexpires⟩ := validateTerms_ok (validate_ok.mp h).1
  obtain ⟨hdepth, -, hwindow⟩ := PropagationPolicy.validate_ok hpolicy
  exact ⟨hdepth, hwindow, hcreated, hexpires⟩

theorem Campaign.validateRevocation_of_some {revokedAt : ℤ}
    (hrevoked : c.revokedAt = some revokedAt) (hreason : c.revocationReason = some reason)
    (htime : c.createdAt ≤ revokedAt)
    (htext : validateText reason maxShortTextBytes "revocation reason" false = .ok ()) :
    c.validateRevocation = .ok () := by
  unfold Campaign.validateRevocation
  rw [hrevoked]
  simp only [except_bind_ok, exists_unit, failIf_ok, okOr_ok, hreason]
  exact ⟨by omega, reason, rfl, htext⟩

/-! ## Senders -/

/-- The root sends without a parent, and a recipient that accepted forwards. -/
def MaySend (campaign : Campaign) (sender : CthulhuId) : Option PropagationItem → Prop
  | none => sender = campaign.root
  | some parent => parent.recipient = sender ∧ parent.status.isAccepted

theorem strictHopValidator_ok
    (h : strictHopValidator campaign parent sender recipient now = .ok reason) :
    campaign.validate = .ok () ∧ campaign.revokedAt = none ∧ campaign.createdAt ≤ now ∧
      now < campaign.expiresAt ∧ MaySend campaign sender parent := by
  unfold strictHopValidator at h
  simp only [except_bind_ok, exists_unit, failIf_ok, not_or, not_lt, not_le] at h
  obtain ⟨hvalid, hrevoked, ⟨hcreated, hexpires⟩, hparent⟩ := h
  refine ⟨hvalid, by simpa using hrevoked, hcreated, hexpires, ?_⟩
  cases parent with
  | none =>
    obtain ⟨hroot, -⟩ := except_check_ok.mp hparent
    simpa [MaySend] using hroot
  | some parent =>
    simp only [except_check_ok, failIf_ok, Bool.not_eq_true', Bool.not_eq_false, ne_eq,
      not_not] at hparent
    exact ⟨hparent.1, hparent.2.1⟩

theorem findParent_ok {id : Option PropagationItemId} : engine.findParent id = .ok parent ↔
      (id = none ∧ parent = none) ∨ ∃ parentId found, id = some parentId ∧ parent = some found ∧
          engine.items.get parentId = some found := by
  unfold findParent
  cases id with
  | none => simp [eq_comm]
  | some parentId =>
    cases hget : engine.items.get parentId with
    | none => simp [okOr, hget]
    | some found => simp [okOr, hget, eq_comm]

/-! ## Opt-outs and block rules -/

/-- Neither member opted out, neither blocked the other, and the recipient has blocked no
member of the parent's path. -/
structure PairAdmitted (rules : LocalRules) (parent : Option PropagationItem)
    (sender recipient : CthulhuId) : Prop where
  senderIn : sender ∉ rules.optedOut
  recipientIn : recipient ∉ rules.optedOut
  forth : (sender, recipient) ∉ rules.blocked
  back : (recipient, sender) ∉ rules.blocked
  path : ∀ item, parent = some item → ∀ hop ∈ item.provenance.hops,
    (recipient, hop.sender) ∉ rules.blocked ∧ (recipient, hop.recipient) ∉ rules.blocked

theorem admitPair_ok {rules : LocalRules} : admitPair rules parent sender recipient = .ok () ↔
      PairAdmitted rules parent sender recipient := by
  unfold admitPair
  simp only [except_check_ok, failIf_ok, not_or]
  constructor
  · rintro ⟨⟨hsender, hrecipient⟩, ⟨hforth, hback⟩, hpath⟩
    refine ⟨hsender, hrecipient, hforth, hback, ?_⟩
    rintro item rfl hop hhop
    simp only [Option.any_some, List.any_eq_true, Bool.or_eq_true, decide_eq_true_eq,
      not_exists, not_and, not_or] at hpath
    exact hpath hop hhop
  · rintro ⟨hsender, hrecipient, hforth, hback, hpath⟩
    refine ⟨⟨hsender, hrecipient⟩, ⟨hforth, hback⟩, ?_⟩
    cases parent with
    | none => simp
    | some item =>
      simp only [Option.any_some, List.any_eq_true, Bool.or_eq_true, decide_eq_true_eq,
        not_exists, not_and, not_or]
      exact hpath item rfl

theorem applyLocalPolicyEvent_ok {rules rules' : LocalRules} {event : LocalPolicyEvent} :
    applyLocalPolicyEvent rules event = .ok rules' ↔
      isSelfBlock event.event = false ∧ toggleRule rules event.event = (true, rules') ∧
        rules'.optedOut.card ≤ maxLocalRules ∧ rules'.blocked.card ≤ maxLocalRules := by
  unfold applyLocalPolicyEvent
  obtain ⟨changed, toggled⟩ := toggleRule rules event.event
  simp only [except_check_ok, failIf_ok, except_pure_ok, not_or, not_lt, Bool.not_eq_true',
    Bool.not_eq_false, Prod.mk.injEq, Bool.not_eq_true]
  constructor
  · rintro ⟨hself, ⟨hchanged, hopt, hblock⟩, rfl⟩
    exact ⟨hself, ⟨hchanged, rfl⟩, hopt, hblock⟩
  · rintro ⟨hself, ⟨hchanged, rfl⟩, hopt, hblock⟩
    exact ⟨hself, ⟨hchanged, hopt, hblock⟩, rfl⟩

/-- Every member of the path is a trusted candidate. -/
def BranchTrusted (engine : PropagationEngine) (item : PropagationItem) : Prop :=
  ∀ hop ∈ item.provenance.hops,
    engine.isTrusted hop.sender = true ∧ engine.isTrusted hop.recipient = true

theorem validateDepthAndStrategy_ok {depth : ℕ} :
    engine.validateDepthAndStrategy campaign parent recipient depth = .ok reason ↔
      (depth ≠ 0 ∧ depth ≤ campaign.policy.maxDepth ∧ depth ≤ maxProvenanceHops) ∧
        (∀ item, parent = some item → ∀ hop ∈ item.provenance.hops,
          hop.sender ≠ recipient ∧ hop.recipient ≠ recipient) ∧
        ∃ profile, engine.candidateProfiles.get recipient = some profile ∧
          ¬(campaign.policy.visibility = .councilMembers ∧
            campaign.councilId ∉ profile.councilMemberships) ∧
          (campaign.strategy = .trustedBranchOnly → profile.trusted = true ∧
            ∀ item, parent = some item → BranchTrusted engine item) ∧
          strategyAllows campaign profile depth = .ok reason := by
  have hloop : (¬(parent.any fun parent => parent.provenance.hops.any fun hop =>
      hop.sender = recipient || hop.recipient = recipient) = true) ↔
      ∀ item, parent = some item → ∀ hop ∈ item.provenance.hops,
        hop.sender ≠ recipient ∧ hop.recipient ≠ recipient := by
    cases parent <;> simp
  have htrusted : (¬(parent.any fun parent => !parent.provenance.hops.all fun hop =>
      engine.isTrusted hop.sender && engine.isTrusted hop.recipient) = true) ↔
      ∀ item, parent = some item → BranchTrusted engine item := by
    cases parent <;> simp [BranchTrusted]
  unfold validateDepthAndStrategy
  simp only [except_bind_ok, exists_unit, failIf_ok, okOr_ok, not_or, not_lt, hloop, ne_eq]
  refine and_congr_right fun _ => and_congr_right fun _ => exists_congr fun profile =>
    and_congr_right fun _ => and_congr_right fun _ => ?_
  split_ifs with hstrategy
  · simp only [except_check_ok, failIf_ok, htrusted, Bool.not_eq_true, Bool.not_eq_false',
      hstrategy, true_imp_iff, and_assoc]
  · simp only [hstrategy, false_imp_iff, true_and]

/-! ## Items -/

/-- A hop continues where the one before it arrived. -/
structure HopLink (previous hop : ProvenanceHop) : Prop where
  member : previous.recipient = hop.sender
  profile : previous.recipientProfileHash = hop.senderProfileHash
  generation : previous.localPolicyGeneration ≤ hop.localPolicyGeneration

/-- Valid hops lie in the campaign's lifetime, their recipients are new and differ, and the
hops are linked. -/
theorem validateHops_ok {seen : Finset CthulhuId} {previous : Option ProvenanceHop}
    {hops : List ProvenanceHop} (h : validateHops campaign seen previous hops = .ok ()) :
    (∀ hop ∈ hops, campaign.createdAt ≤ hop.sentAt ∧ hop.sentAt < campaign.expiresAt) ∧
      (∀ hop ∈ hops, hop.recipient ∉ seen) ∧ (hops.map (·.recipient)).Nodup ∧
      (previous.toList ++ hops).IsChain HopLink := by
  induction hops generalizing seen previous with
  | nil => cases previous <;> simp
  | cons hop hops ih =>
    unfold validateHops at h
    simp only [except_check_ok, failIf_ok, not_or, not_lt, not_le] at h
    obtain ⟨-, -, ⟨hcreated, hexpires, hfresh⟩, hlink, h⟩ := h
    obtain ⟨htimes, hseen, hnodup, hchain⟩ := ih h
    have hnew : hop.recipient ∉ hops.map (·.recipient) := by
      intro hmem
      obtain ⟨hop', hhop', heq⟩ := List.mem_map.mp hmem
      exact hseen hop' hhop' (heq ▸ Finset.mem_insert_self ..)
    refine ⟨?_, ?_, ?_, ?_⟩
    · exact List.forall_mem_cons.mpr ⟨⟨hcreated, hexpires⟩, htimes⟩
    · intro hop' hhop'
      rcases List.mem_cons.mp hhop' with rfl | hhop'
      · exact hfresh
      · exact fun hmem => hseen hop' hhop' (Finset.mem_insert_of_mem hmem)
    · exact List.nodup_cons.mpr ⟨hnew, hnodup⟩
    · cases previous with
      | none => exact hchain
      | some previous =>
        simp only [Option.any_some, Bool.or_eq_true, decide_eq_true_eq, not_or, not_not,
          not_lt] at hlink
        obtain ⟨⟨hmember, hprofile⟩, hgeneration⟩ := hlink
        exact List.isChain_cons_cons.mpr ⟨⟨hmember, hprofile, hgeneration⟩, hchain⟩

/-- An item without a parent has one hop, and the hops of another are its parent's and its
own. -/
def ParentLinked (engine : PropagationEngine) (item : PropagationItem) : Prop :=
  match item.parentItemId with
  | none => item.depth = 1
  | some parentId => ∃ parent, engine.items.get parentId = some parent ∧
    parent.campaignId = item.campaignId ∧ parent.recipient = item.sender ∧
    parent.provenance.hops = item.provenance.hops.dropLast

theorem validateParentLink_ok :
    engine.validateParentLink item = .ok () ↔ ParentLinked engine item := by
  unfold validateParentLink ParentLinked
  cases item.parentItemId <;> simp [except_bind_ok]

/-- The hash of a candidate's profile is the one a hop records. -/
def ProfileRecorded (engine : PropagationEngine) (id : CthulhuId) (hash : String) : Prop :=
  ∃ profile, engine.candidateProfiles.get id = some profile ∧ profileHash profile = .ok hash

/-- What `validate_item_value` establishes of an item of `campaign` whose last hop is
`last`, its time apart. -/
structure ItemValid (engine : PropagationEngine) (item : PropagationItem) (campaign : Campaign)
    (last : ProvenanceHop) : Prop where
  found : engine.campaigns.get item.campaignId = some campaign
  policyVersion : item.policyVersion = campaign.policy.version
  payloadHash : item.payloadHash = campaign.payloadHash
  expiresAt : item.expiresAt = campaign.expiresAt
  depth : item.depth = item.provenance.hops.length
  depth_pos : item.depth ≠ 0
  depth_le : item.depth ≤ campaign.policy.maxDepth
  root : item.provenance.root = campaign.root
  first : ∃ first, item.provenance.hops.head? = some first ∧ first.sender = campaign.root
  lastHop : item.provenance.hops.getLast? = some last
  itemId : last.itemId = item.id
  sender : last.sender = item.sender
  recipient : last.recipient = item.recipient
  sentAt : last.sentAt = item.createdAt
  generation : last.localPolicyGeneration ≤ engine.localPolicyGeneration
  senderProfile : ProfileRecorded engine item.sender last.senderProfileHash
  recipientProfile : ProfileRecorded engine item.recipient last.recipientProfileHash
  hops : validateHops campaign {campaign.root} none item.provenance.hops = .ok ()
  parent : ParentLinked engine item
  chain : provenanceHash campaign.id campaign.payloadHash campaign.policy.version
    item.provenance.hops = .ok item.provenance.chainHash

theorem validateItemValue_ok : engine.validateItemValue item now = .ok () ↔
      item.createdAt ≤ now ∧ now < item.expiresAt ∧
        ∃ campaign last, ItemValid engine item campaign last := by
  unfold validateItemValue
  simp only [except_bind_ok, exists_unit, failIf_ok, okOr_ok, not_or, not_not, ne_eq, not_lt,
    not_le, validateParentLink_ok]
  constructor
  · rintro ⟨campaign, hfound, ⟨hversion, hhash, hexpires⟩, ⟨hcreated, hnow⟩,
      ⟨hdepth, hpos, hmax⟩, hroot, first, hfirst, last, hlast,
      ⟨hfirstSender, hid, hsender, hrecipient, hsent, hgeneration⟩, sp, hsp, rp, hrp, sh, hsh,
      rfl, rh, hrh, rfl, hhops, hparent, chain, hchain, rfl⟩
    exact ⟨hcreated, hnow, campaign, last, hfound, hversion, hhash, hexpires, hdepth, hpos, hmax,
      hroot, ⟨first, hfirst, hfirstSender⟩, hlast, hid, hsender, hrecipient, hsent, hgeneration,
      ⟨sp, hsp, hsh⟩, ⟨rp, hrp, hrh⟩, hhops, hparent, hchain⟩
  · rintro ⟨hcreated, hnow, campaign, last, h⟩
    obtain ⟨first, hfirst, hfirstSender⟩ := h.first
    obtain ⟨sp, hsp, hsh⟩ := h.senderProfile
    obtain ⟨rp, hrp, hrh⟩ := h.recipientProfile
    exact ⟨campaign, h.found, ⟨h.policyVersion, h.payloadHash, h.expiresAt⟩, ⟨hcreated, hnow⟩,
      ⟨h.depth, h.depth_pos, h.depth_le⟩, h.root, first, hfirst, last, h.lastHop,
      ⟨hfirstSender, h.itemId, h.sender, h.recipient, h.sentAt, h.generation⟩, sp, hsp, rp, hrp,
      _, hsh, rfl, _, hrh, rfl, h.hops, h.parent, _, h.chain, rfl⟩

/-- A valid item was created in its campaign's lifetime. -/
theorem ItemValid.lifetime {last : ProvenanceHop} (h : ItemValid engine item campaign last) :
    campaign.createdAt ≤ item.createdAt ∧ item.createdAt < item.expiresAt := by
  obtain ⟨htimes, -⟩ := validateHops_ok h.hops
  rw [← h.sentAt, h.expiresAt]
  exact htimes last (List.mem_of_getLast? h.lastHop)

/-- What stands behind `item` when `send_with_validator` writes it. -/
structure Prepared (engine : PropagationEngine) (validator : PropagationPolicyValidator) (now : ℤ)
    (campaignId : CampaignId) (campaign : Campaign) (parent : Option PropagationItem)
    (item : PropagationItem) : Prop where
  room : engine.items.len < maxItems
  found : engine.campaigns.get campaignId = some campaign
  campaignId : item.campaignId = campaign.id
  parentFound : engine.findParent item.parentItemId = .ok parent
  strict : ∃ reason, strictHopValidator campaign parent item.sender item.recipient now = .ok reason
  policy : ∃ reason, validator campaign parent item.sender item.recipient now = .ok reason ∧
    validateText reason maxShortTextBytes "local policy explanation" false = .ok ()
  admitted : PairAdmitted engine.rules parent item.sender item.recipient
  strategy : ∃ reason,
    engine.validateDepthAndStrategy campaign parent item.recipient item.depth = .ok reason
  undelivered : ∀ other ∈ engine.items.values,
    ¬(other.campaignId = item.campaignId ∧ other.recipient = item.recipient)
  fanOut : (engine.items.values.countP fun other =>
    other.campaignId = item.campaignId && other.sender = item.sender) < campaign.policy.maxFanOut
  rate : (engine.rateRecords.countP fun record =>
    record.campaignId = item.campaignId && record.sender = item.sender &&
      now - campaign.policy.rateWindowSeconds < record.sentAt && record.sentAt ≤ now) <
    campaign.policy.perSenderRateLimit
  hops : ∃ hop, item.provenance.hops = (parent.elim [] fun p => p.provenance.hops) ++ [hop] ∧
    hop.sender = item.sender ∧ hop.localPolicyGeneration = engine.localPolicyGeneration
  createdAt : item.createdAt = now
  pending : item.status = .pending
  valid : engine.validateItemValue item now = .ok ()

theorem prepareDelivery_ok {campaignId : CampaignId} {parentItemId : Option PropagationItemId}
    {itemId : PropagationItemId} {validator : PropagationPolicyValidator}
    {explanation : PropagationExplanation}
    (h : engine.prepareDelivery campaignId parentItemId itemId sender recipient now validator =
      .ok (item, explanation)) :
    item.id = itemId ∧ item.parentItemId = parentItemId ∧ item.sender = sender ∧
      item.recipient = recipient ∧
      ∃ campaign parent, Prepared engine validator now campaignId campaign parent item := by
  unfold prepareDelivery at h
  simp only [except_bind_ok, exists_unit, failIf_ok, okOr_ok, except_pure_ok, not_le] at h
  obtain ⟨hroom, -, campaign, hfound, parent, hparent, _, hstrict, reason, hpolicy, htext,
    hadmitted, -, _, hstrategy, _, -, _, -, _, -, _, -, hfresh, hfanOut, hrate, -, -, _, -, hvalid,
    heq⟩ := h
  cases heq
  refine ⟨rfl, rfl, rfl, rfl, campaign, parent, hroom, hfound, rfl, hparent, ⟨_, hstrict⟩,
    ⟨reason, hpolicy, htext⟩, (admitPair_ok).mp hadmitted, ⟨_, hstrategy⟩, ?_, hfanOut, hrate,
    ⟨_, rfl, rfl, rfl⟩, rfl, rfl, hvalid⟩
  rintro other hother ⟨hcampaign, hrecipient⟩
  refine hfresh (List.any_eq_true.mpr ⟨other, hother, ?_⟩)
  simp only [Bool.and_eq_true, decide_eq_true_eq]
  exact ⟨hcampaign, hrecipient⟩

/-! ## Awards -/

/-- What a claim says of the item and the acknowledgement it refers to. -/
structure EvidenceMatches (claim : OutcomeClaim) (item : PropagationItem)
    (acknowledgement : Acknowledgement) : Prop where
  campaignId : item.campaignId = claim.campaignId
  contributor : item.sender = claim.contributor
  beneficiary : item.recipient = claim.beneficiary
  itemId : acknowledgement.itemId = item.id
  actor : acknowledgement.actor = claim.beneficiary
  outcome : acknowledgement.outcome = claim.outcome
  evidence : acknowledgement.evidenceHash = claim.evidenceHash
  time : acknowledgement.acknowledgedAt ≤ claim.occurredAt

/-- What stands behind `points` when `record_outcome` awards them. -/
structure Creditable (engine : PropagationEngine) (claim : OutcomeClaim) (points : ℕ)
    (campaign : Campaign) (item : PropagationItem) (acknowledgement : Acknowledgement) :
    Prop where
  hash : validateHash claim.evidenceHash = .ok ()
  fresh : engine.outcomes.get claim.id = none
  unused : claim.acknowledgementId ∉ engine.usedAcknowledgements
  distinct : claim.contributor ≠ claim.beneficiary
  campaignFound : engine.campaigns.get claim.campaignId = some campaign
  unrevoked : campaign.revokedAt = none
  unexpired : claim.occurredAt < campaign.expiresAt
  itemFound : engine.items.get claim.itemId = some item
  acknowledgementFound : engine.acknowledgements.get claim.acknowledgementId = some acknowledgement
  evidence : EvidenceMatches claim item acknowledgement
  kind : validateOutcomeKind campaign.payload claim.outcome = .ok ()
  points_pos : 0 < points
  outcomeCap : points ≤ maxCreditPerOutcome
  contributorCap : engine.contributorPoints claim.campaignId claim.contributor + points ≤
    maxCreditPerCthulhuPerCampaign
  campaignCap : engine.campaignPoints claim.campaignId + points ≤ maxTotalCampaignCredit

theorem evaluateOutcome_ok {claim : OutcomeClaim} {model : IncentiveModel} {points : ℕ}
    {proposed : ProposedCredit} (h : engine.evaluateOutcome claim model = .ok (points, proposed)) :
    ∃ campaign item acknowledgement, Creditable engine claim points campaign item acknowledgement := by
  unfold evaluateOutcome at h
  simp only [except_bind_ok, exists_unit, failIf_ok, okOr_ok, except_pure_ok, not_or, not_le,
    not_lt, ne_eq, not_not] at h
  obtain ⟨hhash, hfresh, hunused, hdistinct, campaign, hcampaign, ⟨hrevoked, hexpires⟩, item, hitem,
    acknowledgement, hack, ⟨hc, hs, hr, hi, ha, ho, he, -, ht⟩, hkind, -, hpos, heq⟩ := h
  cases heq
  refine ⟨campaign, item, acknowledgement, hhash, ?_, hunused, hdistinct, hcampaign, ?_, hexpires,
    hitem, hack, ⟨hc, hs, hr, hi, ha, ho, he, ht⟩, hkind, ?_, ?_, ?_, ?_⟩
  · simpa [HashMap.contains] using hfresh
  · simpa using hrevoked
  all_goals omega

end Cthuwu.Propagation
