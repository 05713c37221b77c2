import Cthuwu.Propagation.Checks

/-!
# What a reload accepts

`Loadable` is the invariant of the engine, in six parts that follow the stages of
`validate_loaded_state_with_policy`. Two conditions of the reload stand apart from it :
`RevocationOrdered`, that a campaign's items and outcomes are older than its revocation, and
`PolicyAccepts`, that the operator's policy admits every recorded hop.
`validateLoadedStateWithPolicy_ok` says that the reload accepts exactly the engines that
satisfy all three, at any time that is not negative.
-/

namespace Cthuwu.Propagation

open Council PropagationEngine

variable [Hashing] {engine : PropagationEngine} {campaign : Campaign} {item : PropagationItem}
  {now : ℤ} {validator : PropagationPolicyValidator}

/-! ## The parts of the invariant -/

structure WithinLimits (engine : PropagationEngine) : Prop where
  campaigns : engine.campaigns.len ≤ maxCampaigns
  items : engine.items.len ≤ maxItems
  acknowledgements : engine.acknowledgements.len ≤ maxAcknowledgements
  candidates : engine.candidateProfiles.len ≤ maxCandidates
  optedOut : engine.optedOut.card ≤ maxLocalRules
  blocked : engine.blocked.card ≤ maxLocalRules
  events : engine.localPolicyEvents.length ≤ maxLocalPolicyEvents
  rateRecords : engine.rateRecords.length ≤ maxItems
  outcomes : engine.outcomes.len ≤ maxAcknowledgements
  usedAcknowledgements : engine.usedAcknowledgements.card ≤ maxAcknowledgements
  credits : engine.credits.length ≤ maxCandidates * maxCampaigns

/-- Campaigns and candidates validate under their keys, and nobody blocks themselves. -/
structure RegistryValid (engine : PropagationEngine) : Prop where
  campaigns : ∀ id campaign, engine.campaigns.get id = some campaign →
    id = campaign.id ∧ campaign.validate = .ok ()
  candidates : ∀ id profile, engine.candidateProfiles.get id = some profile →
    id = profile.cthulhuId ∧ profile.validate = .ok ()
  noSelfBlock : ∀ rule ∈ engine.blocked, rule.1 ≠ rule.2

/-- Items are valid under their keys, a campaign reaches a recipient once, and nobody sends
more than the fan-out. -/
structure ItemsValid (engine : PropagationEngine) : Prop where
  key : ∀ id item, engine.items.get id = some item → id = item.id
  valid : ∀ item ∈ engine.items.values, ∃ campaign last, ItemValid engine item campaign last
  recipients : (engine.items.values.map fun item => (item.campaignId, item.recipient)).Nodup
  fanOut : ∀ campaignId campaign sender, engine.campaigns.get campaignId = some campaign →
    (engine.items.values.countP fun item => item.campaignId = campaignId && item.sender = sender) ≤
      campaign.policy.maxFanOut

/-- The rules in force when the item was sent admit it. -/
structure Admitted (engine : PropagationEngine) (item : PropagationItem) (campaign : Campaign)
    (parent : Option PropagationItem) (rules : LocalRules) : Prop where
  found : engine.campaigns.get item.campaignId = some campaign
  parentFound : engine.findParent item.parentItemId = .ok parent
  sender : MaySend campaign item.sender parent
  replayed : replay applyLocalPolicyEvent ⟨∅, ∅⟩
    (engine.localPolicyEvents.take (lastGeneration item)) = .ok rules
  pair : PairAdmitted rules parent item.sender item.recipient
  strategy : ∃ reason,
    engine.validateDepthAndStrategy campaign parent item.recipient item.depth = .ok reason

/-- The log of rules replays to the rules in force, and admits every item. -/
structure HistoryValid (engine : PropagationEngine) : Prop where
  generation : engine.localPolicyGeneration = engine.localPolicyEvents.length
  numbered : Numbered LocalPolicyEvent.generation 0 engine.localPolicyEvents
  replayed : replay applyLocalPolicyEvent ⟨∅, ∅⟩ engine.localPolicyEvents = .ok engine.rules
  admitted : ∀ item ∈ engine.items.values, ∃ campaign parent rules,
    Admitted engine item campaign parent rules

/-- The sends of a campaign's sender, as the rate records have them. -/
def sendTimes (engine : PropagationEngine) (campaignId : CampaignId) (sender : CthulhuId) : List ℤ :=
  (engine.rateRecords.filter fun record =>
    (record.campaignId, record.sender) = (campaignId, sender)).map (·.sentAt)

structure RecordMatches (record : RateRecord) (item : PropagationItem) : Prop where
  campaignId : record.campaignId = item.campaignId
  sender : record.sender = item.sender
  sentAt : record.sentAt = item.createdAt

/-- There is one rate record for each item, and no window holds too many. -/
structure RatesValid (engine : PropagationEngine) : Prop where
  items : (engine.rateRecords.map (·.itemId)).Nodup
  matching : ∀ record ∈ engine.rateRecords, ∃ item, engine.items.get record.itemId = some item ∧
    RecordMatches record item
  count : engine.rateRecords.length = engine.items.len
  bounded : ∀ campaignId campaign sender, engine.campaigns.get campaignId = some campaign →
    WindowBounded campaign.policy.rateWindowSeconds campaign.policy.perSenderRateLimit
      (sendTimes engine campaignId sender)

structure AcknowledgementMatches (acknowledgement : Acknowledgement) (item : PropagationItem) :
    Prop where
  actor : acknowledgement.actor = item.recipient
  createdAt : item.createdAt ≤ acknowledgement.acknowledgedAt
  expiresAt : acknowledgement.acknowledgedAt < item.expiresAt
  status : item.status = .acknowledged

/-- Exactly the acknowledged items have an acknowledgement, and each has one. -/
structure AcknowledgementsValid (engine : PropagationEngine) : Prop where
  key : ∀ id acknowledgement, engine.acknowledgements.get id = some acknowledgement →
    id = acknowledgement.id
  items : (engine.acknowledgements.values.map (·.itemId)).Nodup
  matching : ∀ acknowledgement ∈ engine.acknowledgements.values, ∃ item,
    engine.items.get acknowledgement.itemId = some item ∧
      validateHash acknowledgement.evidenceHash = .ok () ∧
      AcknowledgementMatches acknowledgement item
  status : ∀ item ∈ engine.items.values, item.status = .acknowledged ↔
    ∃ acknowledgement ∈ engine.acknowledgements.values, acknowledgement.itemId = item.id

/-- A recorded claim with what it refers to. -/
structure OutcomeValid (engine : PropagationEngine) (claim : OutcomeClaim) (campaign : Campaign)
    (item : PropagationItem) (acknowledgement : Acknowledgement) : Prop where
  campaignFound : engine.campaigns.get claim.campaignId = some campaign
  itemFound : engine.items.get claim.itemId = some item
  acknowledgementFound : engine.acknowledgements.get claim.acknowledgementId = some acknowledgement
  evidence : EvidenceMatches claim item acknowledgement
  unexpired : claim.occurredAt < campaign.expiresAt
  hash : validateHash claim.evidenceHash = .ok ()
  kind : validateOutcomeKind campaign.payload claim.outcome = .ok ()

/-- Outcomes have their evidence and each uses its own acknowledgement, and credit stays
within what outcomes were recorded and within the caps. -/
structure CreditsValid (engine : PropagationEngine) : Prop where
  key : ∀ id claim, engine.outcomes.get id = some claim →
    id = claim.id ∧ claim.contributor ≠ claim.beneficiary
  outcomes : ∀ claim ∈ engine.outcomes.values, ∃ campaign item acknowledgement,
    OutcomeValid engine claim campaign item acknowledgement
  acknowledgements : (engine.outcomes.values.map (·.acknowledgementId)).Nodup
  used : engine.usedAcknowledgements = (engine.outcomes.values.map (·.acknowledgementId)).toFinset
  keys : (engine.credits.map fun credit => (credit.campaignId, credit.cthulhuId)).Nodup
  points : ∀ credit ∈ engine.credits, 0 < credit.points ∧
    credit.points ≤ maxCreditPerCthulhuPerCampaign
  evidence : ∀ credit ∈ engine.credits,
    engine.outcomeCount credit.campaignId credit.cthulhuId = credit.creditedOutcomes ∧
      credit.points ≤ engine.outcomeCount credit.campaignId credit.cthulhuId * maxCreditPerOutcome
  campaignCap : ∀ id campaign, engine.campaigns.get id = some campaign →
    engine.campaignPoints id ≤ maxTotalCampaignCredit

structure Loadable (engine : PropagationEngine) : Prop where
  limits : WithinLimits engine
  registry : RegistryValid engine
  items : ItemsValid engine
  history : HistoryValid engine
  rates : RatesValid engine
  acknowledgements : AcknowledgementsValid engine
  credits : CreditsValid engine

/-- Items and outcomes of a campaign are older than its revocation. -/
structure RevocationOrdered (engine : PropagationEngine) : Prop where
  items : ∀ item ∈ engine.items.values, ∀ campaign revokedAt,
    engine.campaigns.get item.campaignId = some campaign → campaign.revokedAt = some revokedAt →
      item.createdAt < revokedAt
  outcomes : ∀ claim ∈ engine.outcomes.values, ∀ campaign revokedAt,
    engine.campaigns.get claim.campaignId = some campaign → campaign.revokedAt = some revokedAt →
      claim.occurredAt < revokedAt

/-- The validator admits every item again. -/
def PolicyAccepts (engine : PropagationEngine) (validator : PropagationPolicyValidator) : Prop :=
  ∀ item ∈ engine.items.values, ∃ campaign parent reason,
    engine.campaigns.get item.campaignId = some campaign ∧
      engine.findParent item.parentItemId = .ok parent ∧
      validator campaign parent item.sender item.recipient item.createdAt = .ok reason ∧
      validateText reason maxShortTextBytes "local policy explanation" false = .ok ()

theorem validateLimits_ok : engine.validateLimits now = .ok () ↔ 0 ≤ now ∧ WithinLimits engine := by
  unfold validateLimits
  simp only [failIf_ok, not_or, not_lt]
  constructor
  · rintro ⟨hnow, h1, h2, h3, h4, h5, h6, h7, h8, h9, h10, h11⟩
    exact ⟨hnow, h1, h2, h3, h4, h5, h6, h7, h8, h9, h10, h11⟩
  · rintro ⟨hnow, h1, h2, h3, h4, h5, h6, h7, h8, h9, h10, h11⟩
    exact ⟨hnow, h1, h2, h3, h4, h5, h6, h7, h8, h9, h10, h11⟩

theorem validateEntries_ok : (engine.campaigns.pairs.forM validateCampaignEntry = .ok () ∧
      engine.candidateProfiles.pairs.forM validateCandidateEntry = .ok () ∧
      ¬∃ rule ∈ engine.blocked, rule.1 = rule.2) ↔ RegistryValid engine := by
  simp only [forM_ok, HashMap.forall_pairs, validateCampaignEntry, validateCandidateEntry,
    except_check_ok, failIf_ok, not_ne_iff, not_exists, not_and]
  exact ⟨fun h => ⟨h.1, h.2.1, h.2.2⟩, fun h => ⟨h.1, h.2, h.3⟩⟩

/-! ## Items -/

/-- A stored item is checked within its lifetime, whatever the time. -/
theorem validateItemEntry_ok (hregistry : RegistryValid engine) {id : PropagationItemId} :
    engine.validateItemEntry now (id, item) = .ok () ↔
      id = item.id ∧ ∃ campaign last, ItemValid engine item campaign last := by
  unfold validateItemEntry
  rw [except_check_ok, failIf_ok, not_ne_iff, validateItemValue_ok]
  refine and_congr_right fun _ => ⟨fun h => h.2.2, ?_⟩
  rintro ⟨campaign, last, hvalid⟩
  obtain ⟨hcreated, hexpires⟩ := hvalid.lifetime
  obtain ⟨-, -, hpos, -⟩ := Campaign.terms_of_validate (hregistry.campaigns _ _ hvalid.found).2
  refine ⟨?_, ?_, campaign, last, hvalid⟩
  · exact le_max_right _ _
  · unfold checkTime i64SaturatingSub i64Min
    dsimp only
    omega

theorem validateItems_ok (hregistry : RegistryValid engine) : engine.validateItems now = .ok () ↔
      (∀ id item, engine.items.get id = some item → id = item.id) ∧
      (∀ item ∈ engine.items.values, ∃ campaign last, ItemValid engine item campaign last) ∧
      (engine.items.values.map fun item => (item.campaignId, item.recipient)).Nodup := by
  unfold validateItems
  rw [except_bind_ok]
  simp only [insertAll_empty_ok, HashMap.forall_pairs, exists_unit, validateItemEntry_ok hregistry,
    and_true, except_pure_ok, HashMap.forall_values]
  rw [HashMap.map_pairs fun item : PropagationItem => (item.campaignId, item.recipient)]
  constructor
  · rintro ⟨_, h, hnodup, -⟩
    exact ⟨fun id item hget => (h id item hget).1, fun id item hget => (h id item hget).2, hnodup⟩
  · rintro ⟨hkey, hvalid, hnodup⟩
    exact ⟨_, fun id item hget => ⟨hkey id item hget, hvalid id item hget⟩, hnodup, rfl⟩

theorem foldl_count {α : Type} (l : List α) : l.foldl (fun count _ => count + 1) 0 = l.length := by
  induction l using List.reverseRecOn with
  | nil => rfl
  | append_singleton l x ih => rw [List.foldl_append, ih, List.length_append]; rfl

/-- The fan-out check bounds every sender, also one without items. -/
theorem validateFanOut_ok
    (hvalid : ∀ item ∈ engine.items.values, ∃ campaign last, ItemValid engine item campaign last) :
    engine.fanOut.pairs.forM engine.validateFanOut = .ok () ↔
      ∀ campaignId campaign sender, engine.campaigns.get campaignId = some campaign →
        (engine.items.values.countP fun item =>
          item.campaignId = campaignId && item.sender = sender) ≤ campaign.policy.maxFanOut := by
  have hcount : ∀ campaignId sender, (engine.items.values.filter fun item =>
        (item.campaignId, item.sender) = (campaignId, sender)).length =
      engine.items.values.countP fun item =>
        item.campaignId = campaignId && item.sender = sender := by
    intro campaignId sender
    rw [List.countP_eq_length_filter]
    simp only [Prod.mk.injEq, Bool.decide_and]
  unfold fanOut
  simp only [forM_ok, forall_groupBy, validateFanOut, except_bind_ok, okOr_ok, failIf_ok, not_lt,
    foldl_count, hcount]
  constructor
  · intro h campaignId campaign sender hcampaign
    rcases Nat.eq_zero_or_pos (engine.items.values.countP fun item =>
      item.campaignId = campaignId && item.sender = sender) with hzero | hpos
    · rw [hzero]
      exact Nat.zero_le _
    · obtain ⟨item, hitem, hkey⟩ := List.countP_pos_iff.mp hpos
      simp only [Bool.and_eq_true, decide_eq_true_eq] at hkey
      obtain ⟨rfl, rfl⟩ := hkey
      obtain ⟨found, hfound, hle⟩ := h item hitem
      cases hcampaign.symm.trans hfound
      exact hle
  · intro h item hitem
    obtain ⟨campaign, last, hvalid⟩ := hvalid item hitem
    exact ⟨campaign, hvalid.found, h _ _ _ hvalid.found⟩

/-! ## Policy history -/

instance : Std.Total itemOrder where
  total left right := by
    unfold itemOrder
    rcases Nat.lt_trichotomy (lastGeneration left) (lastGeneration right) with h | h | h
    · exact .inl (.inl h)
    · rcases le_total left.id.text right.id.text with htext | htext
      · exact .inl (.inr ⟨h, htext⟩)
      · exact .inr (.inr ⟨h.symm, htext⟩)
    · exact .inr (.inl h)

instance : IsTrans PropagationItem itemOrder where
  trans := by
    rintro a b c (hab | ⟨hab, htext⟩) (hbc | ⟨hbc, htext'⟩)
    · exact .inl (hab.trans hbc)
    · exact .inl (hbc ▸ hab)
    · exact .inl (hab ▸ hbc)
    · exact .inr ⟨hab.trans hbc, htext.trans htext'⟩

theorem itemOrder_le {left right : PropagationItem} (h : itemOrder left right) :
    lastGeneration left ≤ lastGeneration right :=
  h.elim Nat.le_of_lt fun h => h.1.le

theorem ItemValid.lastGeneration {last : ProvenanceHop} (h : ItemValid engine item campaign last) :
    PropagationEngine.lastGeneration item = last.localPolicyGeneration := by
  unfold PropagationEngine.lastGeneration
  rw [h.lastHop]
  rfl

theorem ItemValid.itemGeneration {last : ProvenanceHop} (h : ItemValid engine item campaign last) :
    engine.itemGeneration item = .ok (PropagationEngine.lastGeneration item) := by
  unfold PropagationEngine.itemGeneration
  simp only [except_bind_ok, exists_unit, okOr_ok, failIf_ok, except_pure_ok, not_lt]
  exact ⟨last, h.lastHop, h.generation, h.lastGeneration.symm⟩

theorem validateLoadedItemPolicy_ok {rules : LocalRules} :
    engine.validateLoadedItemPolicy validator rules item = .ok () ↔
      ∃ campaign parent, engine.campaigns.get item.campaignId = some campaign ∧
        (∀ revokedAt, campaign.revokedAt = some revokedAt → item.createdAt < revokedAt) ∧
        engine.findParent item.parentItemId = .ok parent ∧
        MaySend campaign item.sender parent ∧
        PairAdmitted rules parent item.sender item.recipient ∧
        (∃ reason, engine.validateDepthAndStrategy campaign parent item.recipient item.depth =
          .ok reason) ∧
        ∃ reason, validator campaign parent item.sender item.recipient item.createdAt = .ok reason ∧
          validateText reason maxShortTextBytes "local policy explanation" false = .ok () := by
  unfold validateLoadedItemPolicy
  simp only [except_bind_ok, exists_unit, okOr_ok, failIf_ok]
  have hrevoked : ∀ campaign : Campaign,
      (¬(campaign.revokedAt.any fun revokedAt => revokedAt ≤ item.createdAt) = true) ↔
        ∀ revokedAt, campaign.revokedAt = some revokedAt → item.createdAt < revokedAt := by
    intro campaign
    cases campaign.revokedAt <;> simp
  constructor
  · rintro ⟨campaign, hfound, hunrevoked, parent, hparent, h⟩
    refine ⟨campaign, parent, hfound, (hrevoked campaign).mp hunrevoked, hparent, ?_⟩
    cases parent with
    | none =>
      simp only [except_bind_ok, exists_unit, failIf_ok, admitPair_ok, not_ne_iff] at h
      obtain ⟨hroot, hpair, reason, hstrategy, reason', hpolicy⟩ := h
      exact ⟨hroot, hpair, ⟨reason, hstrategy⟩, reason', hpolicy⟩
    | some parent =>
      simp only [except_bind_ok, exists_unit, failIf_ok, admitPair_ok, not_ne_iff,
        Bool.not_eq_true', Bool.not_eq_false] at h
      obtain ⟨hsender, haccepted, hpair, reason, hstrategy, reason', hpolicy⟩ := h
      exact ⟨⟨hsender, haccepted⟩, hpair, ⟨reason, hstrategy⟩, reason', hpolicy⟩
  · rintro ⟨campaign, parent, hfound, hunrevoked, hparent, hsend, hpair, ⟨reason, hstrategy⟩,
      reason', hpolicy⟩
    refine ⟨campaign, hfound, (hrevoked campaign).mpr hunrevoked, parent, hparent, ?_⟩
    cases parent with
    | none =>
      simp only [except_bind_ok, exists_unit, failIf_ok, admitPair_ok, not_ne_iff]
      exact ⟨hsend, hpair, reason, hstrategy, reason', hpolicy⟩
    | some parent =>
      simp only [except_bind_ok, exists_unit, failIf_ok, admitPair_ok, not_ne_iff,
        Bool.not_eq_true', Bool.not_eq_false]
      exact ⟨hsend.1, hsend.2, hpair, reason, hstrategy, reason', hpolicy⟩

/-- The part of `RevocationOrdered` about items. -/
def ItemsOrdered (engine : PropagationEngine) : Prop :=
  ∀ item ∈ engine.items.values, ∀ campaign revokedAt,
    engine.campaigns.get item.campaignId = some campaign → campaign.revokedAt = some revokedAt →
      item.createdAt < revokedAt

/-- Each item is checked under the rules of its own generation. -/
theorem validateLoadedPolicyHistory_ok
    (hvalid : ∀ item ∈ engine.items.values, ∃ campaign last, ItemValid engine item campaign last) :
    engine.validateLoadedPolicyHistory validator = .ok () ↔
      HistoryValid engine ∧ ItemsOrdered engine ∧ PolicyAccepts engine validator := by
  have hgeneration : ∀ item ∈ engine.items.values,
      engine.itemGeneration item = .ok (lastGeneration item) := by
    intro item hitem
    obtain ⟨campaign, last, h⟩ := hvalid item hitem
    exact h.itemGeneration
  have hsorted : (engine.items.values.insertionSort itemOrder).Pairwise fun left right =>
      lastGeneration left ≤ lastGeneration right :=
    (List.pairwise_insertionSort itemOrder _).imp itemOrder_le
  have hkey : ∀ item ∈ engine.items.values.insertionSort itemOrder, ∀ g,
      engine.itemGeneration item = .ok g → g = lastGeneration item := by
    intro item hitem g hg
    exact Except.ok.inj (hg.symm.trans (hgeneration item ((List.mem_insertionSort _).mp hitem)))
  unfold validateLoadedPolicyHistory
  simp only [except_bind_ok, exists_unit, failIf_ok, not_ne_iff, replayNumbered_ok]
  constructor
  · rintro ⟨hgen, final, ⟨hnum, hreplay⟩, rfl, hsweep⟩
    rw [sweep_ok hnum hkey hsorted] at hsweep
    have hall : ∀ item ∈ engine.items.values, ∃ rules, replay applyLocalPolicyEvent ⟨∅, ∅⟩
        (engine.localPolicyEvents.take (lastGeneration item)) = .ok rules ∧
        engine.validateLoadedItemPolicy validator rules item = .ok () := by
      intro item hitem
      obtain ⟨g, rules, hg, hrules, hcheck⟩ := hsweep item ((List.mem_insertionSort _).mpr hitem)
      cases (hgeneration item hitem).symm.trans hg
      exact ⟨rules, hrules, hcheck⟩
    refine ⟨⟨hgen, hnum, hreplay, fun item hitem => ?_⟩, fun item hitem => ?_, fun item hitem => ?_⟩
    all_goals
      obtain ⟨rules, hrules, hcheck⟩ := hall item hitem
      obtain ⟨campaign, parent, hfound, hunrevoked, hparent, hsend, hpair, hstrategy, reason,
        hpolicy⟩ := (validateLoadedItemPolicy_ok).mp hcheck
    · exact ⟨campaign, parent, rules, hfound, hparent, hsend, hrules, hpair, hstrategy⟩
    · intro campaign' revokedAt hfound'
      cases hfound.symm.trans hfound'
      exact hunrevoked revokedAt
    · exact ⟨campaign, parent, reason, hfound, hparent, hpolicy⟩
  · rintro ⟨⟨hgen, hnum, hreplay, hadmitted⟩, hordered, haccepts⟩
    refine ⟨hgen, _, ⟨hnum, hreplay⟩, rfl, (sweep_ok hnum hkey hsorted).mpr fun item hmem => ?_⟩
    have hitem : item ∈ engine.items.values := (List.mem_insertionSort _).mp hmem
    obtain ⟨campaign, parent, rules, h⟩ := hadmitted item hitem
    obtain ⟨campaign', parent', reason, hfound, hparent, hpolicy⟩ := haccepts item hitem
    cases h.found.symm.trans hfound
    cases h.parentFound.symm.trans hparent
    exact ⟨_, rules, hgeneration item hitem, h.replayed, (validateLoadedItemPolicy_ok).mpr
      ⟨campaign, parent, hfound, fun revokedAt => hordered item hitem campaign revokedAt hfound,
        hparent, h.sender, h.pair, h.strategy, reason, hpolicy⟩⟩

/-! ## Rates -/

theorem validateRateRecords_ok : engine.validateRateRecords = .ok () ↔
      (engine.rateRecords.map (·.itemId)).Nodup ∧
      (∀ record ∈ engine.rateRecords, ∃ item, engine.items.get record.itemId = some item ∧
        RecordMatches record item) ∧
      engine.rateRecords.length = engine.items.len := by
  unfold validateRateRecords
  simp only [except_bind_ok, insertAll_empty_ok, okOr_ok, failIf_ok, not_or, not_ne_iff]
  constructor
  · rintro ⟨_, ⟨hmatch, hnodup, rfl⟩, hcount⟩
    rw [List.toFinset_card_of_nodup hnodup, List.length_map] at hcount
    refine ⟨hnodup, fun record hrecord => ?_, hcount⟩
    obtain ⟨item, hget, hcampaign, hsender, hsent⟩ := hmatch record hrecord
    exact ⟨item, hget, hcampaign, hsender, hsent⟩
  · rintro ⟨hnodup, hmatch, hcount⟩
    refine ⟨_, ⟨fun record hrecord => ?_, hnodup, rfl⟩, ?_⟩
    · obtain ⟨item, hget, h⟩ := hmatch record hrecord
      exact ⟨item, hget, h.campaignId, h.sender, h.sentAt⟩
    · rw [List.toFinset_card_of_nodup hnodup, List.length_map]
      exact hcount

theorem foldl_snoc {α β : Type} (f : α → β) (l : List α) :
    l.foldl (fun acc x => acc ++ [f x]) [] = l.map f := by
  induction l using List.reverseRecOn with
  | nil => rfl
  | append_singleton l x ih => rw [List.foldl_append, ih, List.map_append]; rfl

theorem windowBounded_insertionSort {w : ℤ} {limit : ℕ} {ts : List ℤ} :
    WindowBounded w limit (ts.insertionSort (· ≤ ·)) ↔ WindowBounded w limit ts :=
  ⟨fun h => h.perm (List.perm_insertionSort _ _), fun h => h.perm (List.perm_insertionSort _ _).symm⟩

/-- Sends happen at times that are not negative, so that no window end saturates. -/
theorem sendTimes_nonneg (hregistry : RegistryValid engine)
    (hvalid : ∀ item ∈ engine.items.values, ∃ campaign last, ItemValid engine item campaign last)
    (hmatch : ∀ record ∈ engine.rateRecords, ∃ item,
      engine.items.get record.itemId = some item ∧ RecordMatches record item)
    {campaignId : CampaignId} {sender : CthulhuId} :
    ∀ t ∈ sendTimes engine campaignId sender, 0 ≤ t := by
  intro t ht
  obtain ⟨record, hrecord, rfl⟩ := List.mem_map.mp ht
  obtain ⟨item, hget, hmatches⟩ := hmatch record (List.mem_filter.mp hrecord).1
  obtain ⟨campaign, last, h⟩ := hvalid item (HashMap.get_mem_values hget)
  obtain ⟨hcreated, -⟩ := h.lifetime
  obtain ⟨-, -, hpos, -⟩ := Campaign.terms_of_validate (hregistry.campaigns _ _ h.found).2
  rw [hmatches.sentAt]
  omega

/-- The window check bounds every sender, also one that sent nothing. -/
theorem validateRateGroups_ok (hregistry : RegistryValid engine)
    (hvalid : ∀ item ∈ engine.items.values, ∃ campaign last, ItemValid engine item campaign last)
    (hmatch : ∀ record ∈ engine.rateRecords, ∃ item,
      engine.items.get record.itemId = some item ∧ RecordMatches record item) :
    engine.rateGroups.pairs.forM engine.validateRateGroup = .ok () ↔
      ∀ campaignId campaign sender, engine.campaigns.get campaignId = some campaign →
        WindowBounded campaign.policy.rateWindowSeconds campaign.policy.perSenderRateLimit
          (sendTimes engine campaignId sender) := by
  have hcheck : ∀ campaignId campaign sender, engine.campaigns.get campaignId = some campaign →
      (checkWindows (i64SaturatingSub · campaign.policy.rateWindowSeconds)
        campaign.policy.perSenderRateLimit (PropagationError.corruptState "rate bound")
        ((sendTimes engine campaignId sender).insertionSort (· ≤ ·)) = .ok () ↔
      WindowBounded campaign.policy.rateWindowSeconds campaign.policy.perSenderRateLimit
        (sendTimes engine campaignId sender)) := by
    intro campaignId campaign sender hfound
    obtain ⟨-, hwindow, -⟩ := Campaign.terms_of_validate (hregistry.campaigns _ _ hfound).2
    rw [← windowBounded_insertionSort]
    refine checkWindows_ok (List.pairwise_insertionSort _ _) fun t ht => ?_
    have := sendTimes_nonneg hregistry hvalid hmatch t ((List.mem_insertionSort _).mp ht)
    unfold maxRateWindowSeconds at hwindow
    unfold i64SaturatingSub i64Min
    omega
  unfold rateGroups
  simp only [forM_ok, forall_groupBy, validateRateGroup, except_bind_ok, okOr_ok, foldl_snoc]
  constructor
  · intro h campaignId campaign sender hfound
    by_cases hempty : sendTimes engine campaignId sender = []
    · rw [hempty]
      exact windowBounded_nil
    · obtain ⟨record, hrecord⟩ := List.exists_mem_of_ne_nil _
        fun h => hempty (List.map_eq_nil_iff.mpr h)
      obtain ⟨hmem, hkey⟩ := List.mem_filter.mp hrecord
      cases of_decide_eq_true hkey
      obtain ⟨campaign', hfound', hwindows⟩ := h record hmem
      cases hfound.symm.trans hfound'
      exact (hcheck _ _ _ hfound).mp hwindows
  · intro h record hrecord
    obtain ⟨item, hget, hmatches⟩ := hmatch record hrecord
    obtain ⟨campaign, last, hitem⟩ := hvalid item (HashMap.get_mem_values hget)
    have hfound := hitem.found
    rw [← hmatches.campaignId] at hfound
    exact ⟨campaign, hfound, (hcheck _ _ _ hfound).mpr (h _ _ _ hfound)⟩

/-! ## Acknowledgements -/

theorem findAcknowledgedItem_ok {entry : AcknowledgementId × Acknowledgement} :
    engine.findAcknowledgedItem entry = .ok item ↔ entry.1 = entry.2.id ∧
      engine.items.get entry.2.itemId = some item ∧ validateHash entry.2.evidenceHash = .ok () := by
  unfold findAcknowledgedItem
  simp only [except_bind_ok, exists_unit, failIf_ok, not_ne_iff, okOr_ok, except_pure_ok]
  constructor
  · rintro ⟨hkey, _, hget, hhash, rfl⟩
    exact ⟨hkey, hget, hhash⟩
  · rintro ⟨hkey, hget, hhash⟩
    exact ⟨hkey, item, hget, hhash, rfl⟩

theorem validateItemStatus_ok {acknowledged : Finset PropagationItemId} :
    validateItemStatus acknowledged item = .ok () ↔
      (item.status = .acknowledged ↔ item.id ∈ acknowledged) := by
  unfold validateItemStatus
  rw [failIf_ok, not_ne_iff, decide_eq_decide]

/-- The acknowledgements and the statuses of the items agree. -/
theorem validateAcknowledgements_ok :
    (∃ acknowledged, engine.validateAcknowledgements = .ok acknowledged ∧
      engine.items.values.forM (validateItemStatus acknowledged) = .ok ()) ↔
      AcknowledgementsValid engine := by
  unfold validateAcknowledgements
  rw [funext fun acknowledged => propext (and_congr_left' insertAll_empty_ok)]
  simp only [HashMap.forall_pairs, findAcknowledgedItem_ok, failIf_ok, not_or, not_ne_iff, not_lt,
    not_le, forM_ok, validateItemStatus_ok]
  rw [HashMap.map_pairs fun acknowledgement : Acknowledgement => acknowledgement.itemId]
  have hmem : ∀ id : PropagationItemId,
      id ∈ (engine.acknowledgements.values.map (·.itemId)).toFinset ↔
        ∃ acknowledgement ∈ engine.acknowledgements.values, acknowledgement.itemId = id := by
    intro id
    rw [List.mem_toFinset, List.mem_map]
  constructor
  · rintro ⟨_, ⟨hmatch, hnodup, rfl⟩, hstatus⟩
    refine ⟨fun id acknowledgement hget => ?_, hnodup, HashMap.forall_values.mpr ?_, ?_⟩
    · obtain ⟨item, ⟨hkey, -⟩, -⟩ := hmatch id acknowledgement hget
      exact hkey
    · intro id acknowledgement hget
      obtain ⟨item, ⟨-, hitem, hhash⟩, hactor, hcreated, hexpires, hstatus⟩ :=
        hmatch id acknowledgement hget
      exact ⟨item, hitem, hhash, hactor, hcreated, hexpires, hstatus⟩
    · intro item hitem
      exact (hstatus item hitem).trans (hmem item.id)
  · rintro ⟨hkey, hnodup, hmatch, hstatus⟩
    refine ⟨_, ⟨fun id acknowledgement hget => ?_, hnodup, rfl⟩, fun item hitem => ?_⟩
    · obtain ⟨item, hitem, hhash, h⟩ := hmatch acknowledgement (HashMap.get_mem_values hget)
      exact ⟨item, ⟨hkey id acknowledgement hget, hitem, hhash⟩, h.actor, h.createdAt, h.expiresAt,
        h.status⟩
    · exact (hstatus item hitem).trans (hmem item.id).symm

/-! ## Outcomes and credit -/

theorem findEvidence_ok {entry : OutcomeId × OutcomeClaim} {found : Evidence} :
    engine.findEvidence entry = .ok found ↔
      (entry.1 = entry.2.id ∧ entry.2.contributor ≠ entry.2.beneficiary) ∧
        engine.campaigns.get entry.2.campaignId = some found.campaign ∧
        engine.items.get entry.2.itemId = some found.item ∧
        engine.acknowledgements.get entry.2.acknowledgementId = some found.acknowledgement := by
  unfold findEvidence
  simp only [except_bind_ok, exists_unit, failIf_ok, not_or, not_ne_iff, okOr_ok, except_pure_ok]
  constructor
  · rintro ⟨hkey, campaign, hcampaign, item, hitem, acknowledgement, hack, rfl⟩
    exact ⟨hkey, hcampaign, hitem, hack⟩
  · rintro ⟨hkey, hcampaign, hitem, hack⟩
    exact ⟨hkey, _, hcampaign, _, hitem, _, hack, rfl⟩

theorem validateEvidence_ok {claim : OutcomeClaim} {found : Evidence} :
    validateEvidence claim found = .ok () ↔ EvidenceMatches claim found.item found.acknowledgement ∧
        claim.occurredAt < found.campaign.expiresAt ∧
        (∀ revokedAt, found.campaign.revokedAt = some revokedAt → claim.occurredAt < revokedAt) ∧
        validateHash claim.evidenceHash = .ok () ∧
        validateOutcomeKind found.campaign.payload claim.outcome = .ok () := by
  unfold validateEvidence
  have hrevoked : (¬(found.campaign.revokedAt.any fun revokedAt => revokedAt ≤ claim.occurredAt) =
      true) ↔
      ∀ revokedAt, found.campaign.revokedAt = some revokedAt → claim.occurredAt < revokedAt := by
    cases found.campaign.revokedAt <;> simp
  simp only [except_check_ok, failIf_ok, not_or, not_ne_iff, not_lt, not_le, hrevoked]
  constructor
  · rintro ⟨⟨hc, hs, hr, hi, ha, ho, he, ht, hexpires, hunrevoked⟩, hhash, hkind⟩
    exact ⟨⟨hc, hs, hr, hi, ha, ho, he, ht⟩, hexpires, hunrevoked, hhash, hkind⟩
  · rintro ⟨⟨hc, hs, hr, hi, ha, ho, he, ht⟩, hexpires, hunrevoked, hhash, hkind⟩
    exact ⟨⟨hc, hs, hr, hi, ha, ho, he, ht, hexpires, hunrevoked⟩, hhash, hkind⟩

/-- The part of `RevocationOrdered` about outcomes. -/
def OutcomesOrdered (engine : PropagationEngine) : Prop :=
  ∀ claim ∈ engine.outcomes.values, ∀ campaign revokedAt,
    engine.campaigns.get claim.campaignId = some campaign → campaign.revokedAt = some revokedAt →
      claim.occurredAt < revokedAt

/-- The outcomes, the credits and the campaign totals pass together. -/
theorem validateCredits_ok : (engine.validateOutcomes = .ok () ∧ engine.validateCredits = .ok () ∧
      engine.campaigns.pairs.forM engine.validateCampaignCredit = .ok ()) ↔
      CreditsValid engine ∧ OutcomesOrdered engine := by
  unfold validateOutcomes validateCredits validateCampaignCredit
  simp only [except_bind_ok, insertAll_empty_ok, HashMap.forall_pairs, findEvidence_ok,
    validateEvidence_ok, failIf_ok, not_ne_iff, forM_ok, except_pure_ok, and_true, exists_unit,
    not_or, not_lt]
  rw [HashMap.map_pairs fun claim : OutcomeClaim => claim.acknowledgementId]
  constructor
  · rintro ⟨⟨_, ⟨houtcomes, hnodup, rfl⟩, hused⟩, ⟨_, hcredits, hkeys, -⟩, hcaps⟩
    refine ⟨⟨?_, HashMap.forall_values.mpr ?_, hnodup, hused.symm, hkeys, ?_, ?_, hcaps⟩,
      HashMap.forall_values.mpr ?_⟩
    · intro id claim hget
      obtain ⟨found, ⟨hkey, -⟩, -⟩ := houtcomes id claim hget
      exact hkey
    · intro id claim hget
      obtain ⟨found, ⟨-, hcampaign, hitem, hack⟩, hevidence, hexpires, -, hhash, hkind⟩ :=
        houtcomes id claim hget
      exact ⟨_, _, _, hcampaign, hitem, hack, hevidence, hexpires, hhash, hkind⟩
    · intro credit hcredit
      obtain ⟨⟨hpos, hcap⟩, -⟩ := hcredits credit hcredit
      exact ⟨Nat.pos_of_ne_zero hpos, hcap⟩
    · intro credit hcredit
      exact (hcredits credit hcredit).2
    · intro id claim hget campaign revokedAt hfound hrevoked
      obtain ⟨found, ⟨-, hcampaign, -⟩, -, -, hunrevoked, -⟩ := houtcomes id claim hget
      cases hfound.symm.trans hcampaign
      exact hunrevoked revokedAt hrevoked
  · rintro ⟨h, hordered⟩
    refine ⟨⟨_, ⟨?_, h.acknowledgements, rfl⟩, h.used.symm⟩, ⟨_, ?_, h.keys, rfl⟩, h.campaignCap⟩
    · intro id claim hget
      have hmem := HashMap.get_mem_values hget
      obtain ⟨campaign, item, acknowledgement, hclaim⟩ := h.outcomes claim hmem
      exact ⟨⟨campaign, item, acknowledgement⟩, ⟨h.key id claim hget, hclaim.campaignFound,
        hclaim.itemFound, hclaim.acknowledgementFound⟩, hclaim.evidence, hclaim.unexpired,
        fun revokedAt => hordered claim hmem campaign revokedAt hclaim.campaignFound,
        hclaim.hash, hclaim.kind⟩
    · intro credit hcredit
      obtain ⟨hpos, hcap⟩ := h.points credit hcredit
      exact ⟨⟨hpos.ne', hcap⟩, h.evidence credit hcredit⟩

theorem revocationOrdered_iff :
    RevocationOrdered engine ↔ ItemsOrdered engine ∧ OutcomesOrdered engine :=
  ⟨fun h => ⟨h.items, h.outcomes⟩, fun h => ⟨h.1, h.2⟩⟩

/-- The reload accepts exactly the engines that satisfy the invariant, whose items and
outcomes are older than their campaign's revocation, and whose hops the policy admits. -/
theorem validateLoadedStateWithPolicy_ok :
    engine.validateLoadedStateWithPolicy now validator = .ok () ↔
      0 ≤ now ∧ Loadable engine ∧ RevocationOrdered engine ∧ PolicyAccepts engine validator := by
  unfold validateLoadedStateWithPolicy
  simp only [except_bind_ok, exists_unit, failIf_ok, validateLimits_ok]
  constructor
  · rintro ⟨⟨hnow, hlimits⟩, hcampaigns, hcandidates, hself, hitems, hhistory, hfanOut, hrecords,
      hgroups, acknowledged, hacks, hstatus, houtcomes, hcredits, hcaps⟩
    have hregistry := (validateEntries_ok).mp ⟨hcampaigns, hcandidates, hself⟩
    obtain ⟨hkey, hvalid, hrecipients⟩ := (validateItems_ok hregistry).mp hitems
    obtain ⟨hhistory, hordered, haccepts⟩ := (validateLoadedPolicyHistory_ok hvalid).mp hhistory
    obtain ⟨hunique, hmatch, hcount⟩ := (validateRateRecords_ok).mp hrecords
    obtain ⟨hcredits, hordered'⟩ := (validateCredits_ok).mp ⟨houtcomes, hcredits, hcaps⟩
    exact ⟨hnow, ⟨hlimits, hregistry,
      ⟨hkey, hvalid, hrecipients, (validateFanOut_ok hvalid).mp hfanOut⟩, hhistory,
      ⟨hunique, hmatch, hcount, (validateRateGroups_ok hregistry hvalid hmatch).mp hgroups⟩,
      (validateAcknowledgements_ok).mp ⟨acknowledged, hacks, hstatus⟩, hcredits⟩,
      (revocationOrdered_iff).mpr ⟨hordered, hordered'⟩, haccepts⟩
  · rintro ⟨hnow, h, hordered, haccepts⟩
    obtain ⟨hordered, hordered'⟩ := (revocationOrdered_iff).mp hordered
    obtain ⟨hcampaigns, hcandidates, hself⟩ := (validateEntries_ok).mpr h.registry
    obtain ⟨acknowledged, hacks, hstatus⟩ := (validateAcknowledgements_ok).mpr h.acknowledgements
    obtain ⟨houtcomes, hcredits, hcaps⟩ := (validateCredits_ok).mpr ⟨h.credits, hordered'⟩
    exact ⟨⟨hnow, h.limits⟩, hcampaigns, hcandidates, hself,
      (validateItems_ok h.registry).mpr ⟨h.items.key, h.items.valid, h.items.recipients⟩,
      (validateLoadedPolicyHistory_ok h.items.valid).mpr ⟨h.history, hordered, haccepts⟩,
      (validateFanOut_ok h.items.valid).mpr h.items.fanOut,
      (validateRateRecords_ok).mpr ⟨h.rates.items, h.rates.matching, h.rates.count⟩,
      (validateRateGroups_ok h.registry h.items.valid h.rates.matching).mpr h.rates.bounded,
      acknowledged, hacks, hstatus, houtcomes, hcredits, hcaps⟩

end Cthuwu.Propagation
