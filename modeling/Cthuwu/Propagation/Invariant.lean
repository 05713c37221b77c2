import Cthuwu.Propagation.Extension

/-!
# What effects keep

The parts of `Loadable` about campaigns, items, the log of rules, rates and
acknowledgements are each kept by every justified effect. The rate windows need one fact
beside the engine's own : no recorded send is later than the effect.
-/

namespace Cthuwu.Propagation

open Council PropagationEngine

variable [Hashing] {engine : PropagationEngine} {effect : Effect} {now : ℤ}

/-! ## Registry -/

theorem toggleRule_noSelfBlock {rules : LocalRules} {kind : LocalPolicyEventKind}
    (hself : isSelfBlock kind = false) (h : ∀ rule ∈ rules.blocked, rule.1 ≠ rule.2) :
    ∀ rule ∈ (toggleRule rules kind).2.blocked, rule.1 ≠ rule.2 := by
  cases kind with
  | optOut cthulhuId enabled => cases enabled <;> exact h
  | block owner blocked enabled =>
    cases enabled with
    | true =>
      intro rule hrule
      rcases Finset.mem_insert.mp hrule with rfl | hrule
      · simpa [isSelfBlock] using hself
      · exact h rule hrule
    | false => exact fun rule hrule => h rule (Finset.mem_of_mem_erase hrule)

variable {item item' : PropagationItem} {campaign : Campaign}
  {validator : PropagationPolicyValidator} {campaignId : CampaignId}
  {parent : Option PropagationItem}

/-- A revoked campaign validates like the campaign it was. -/
theorem validate_revoke {reason : String} (hvalid : campaign.validate = .ok ())
    (htime : campaign.createdAt ≤ now)
    (htext : validateText reason maxShortTextBytes "revocation reason" false = .ok ()) :
    (campaign.revoke now reason).validate = .ok () := by
  rw [Campaign.validate_ok] at hvalid ⊢
  exact ⟨hvalid.1, Campaign.validateRevocation_of_some rfl rfl htime htext⟩

theorem RegistryValid.step (h : RegistryValid engine) (hlimits : WithinLimits engine)
    (hj : Justified engine now effect) : RegistryValid (effect.apply engine) := by
  cases hj with
  | @created campaign fresh room valid =>
    refine { h with campaigns := fun id found hget => ?_ }
    change (engine.campaigns.insert campaign.id campaign).get id = some found at hget
    rw [HashMap.get_insert_apply] at hget
    split_ifs at hget with hid
    · cases hget
      exact ⟨hid, valid⟩
    · exact h.campaigns id found hget
  | @registered profile valid =>
    refine { h with candidates := fun id found hget => ?_ }
    change (engine.candidateProfiles.insert profile.cthulhuId profile).get id = some found at hget
    rw [HashMap.get_insert_apply] at hget
    split_ifs at hget with hid
    · cases hget
      exact ⟨hid, valid⟩
    · exact h.candidates id found hget
  | toggled room applies =>
    obtain ⟨hself, -⟩ := applyLocalPolicyEvent_ok.mp (applies hlimits.optedOut hlimits.blocked)
    exact { h with noSelfBlock := toggleRule_noSelfBlock hself h.noSelfBlock }
  | @revoked id campaign reason found unrevoked time text =>
    refine { h with campaigns := fun other found' hget => ?_ }
    change (engine.campaigns.insert id (campaign.revoke now reason)).get other = some found' at hget
    rw [HashMap.get_insert_apply] at hget
    obtain ⟨hkey, hvalid⟩ := h.campaigns id campaign found
    split_ifs at hget with hid
    · cases hget
      exact ⟨hid.trans hkey, validate_revoke hvalid time text⟩
    · exact h.campaigns other found' hget
  | _ => exact { h with }

/-! ## Items -/

/-- The campaign of a prepared item is found under the item's own campaign. -/
theorem Prepared.campaignFound (h : Prepared engine validator now campaignId campaign parent item)
    (hregistry : RegistryValid engine) : engine.campaigns.get item.campaignId = some campaign := by
  rw [h.campaignId, ← (hregistry.campaigns _ _ h.found).1]
  exact h.found

/-- A delivered item is valid in the engine that holds it. -/
theorem ItemValid.delivered {item : PropagationItem} {campaign : Campaign} {last : ProvenanceHop}
    (h : ItemValid engine item campaign last) (hj : Justified engine now (.delivered item)) :
    ItemValid (Effect.apply engine (.delivered item)) item campaign last := by
  obtain ⟨campaign', -, hvalid⟩ := h.extend hj.extends (.refl item) fun _ _ _ h => h
  have hsame : campaign' = campaign := Option.some.inj (hvalid.found.symm.trans h.found)
  rwa [hsame] at hvalid

/-- No item belongs to a campaign that is not there. -/
theorem ItemsValid.count_absent (h : ItemsValid engine) {id : CampaignId}
    (habsent : engine.campaigns.get id = none) (sender : CthulhuId) :
    (engine.items.values.countP fun item => item.campaignId = id && item.sender = sender) = 0 := by
  rw [List.countP_eq_zero]
  intro item hitem hkey
  simp only [Bool.and_eq_true, decide_eq_true_eq] at hkey
  obtain ⟨campaign, last, hvalid⟩ := h.valid item hitem
  have hfound := hvalid.found
  rw [hkey.1, habsent] at hfound
  cases hfound

theorem ItemsValid.step (h : ItemsValid engine) (hregistry : RegistryValid engine)
    (hj : Justified engine now effect) : ItemsValid (effect.apply engine) where
  key id item' hget := by
    rcases hj.item_cases hget with ⟨item, hitem, hprogress⟩ | ⟨-, hid⟩
    · rw [hprogress.same]
      exact h.key id item hitem
    · exact hid
  valid item' hmem := by
    rcases hj.mem_items hmem with ⟨item, hitem, hprogress⟩ | rfl
    · obtain ⟨campaign, last, hvalid⟩ := h.valid item hitem
      obtain ⟨campaign', -, hvalid'⟩ := hvalid.keep hitem hj.extends hprogress
      exact ⟨campaign', last, hvalid'⟩
    · obtain _ | _ | _ | _ | ⟨_, prepared⟩ := id hj
      obtain ⟨-, -, campaign, last, hvalid⟩ := validateItemValue_ok.mp prepared.valid
      exact ⟨campaign, last, hvalid.delivered hj⟩
  recipients := by
    rw [(hj.map_items fun _ _ => rfl).nodup_iff]
    cases hj with
    | @delivered item _ _ _ _ fresh prepared =>
      refine List.nodup_cons.mpr ⟨fun hmem => ?_, h.recipients⟩
      obtain ⟨other, hother, heq⟩ := List.mem_map.mp hmem
      exact prepared.undelivered other hother ⟨congrArg Prod.fst heq, congrArg Prod.snd heq⟩
    | _ => exact h.recipients
  fanOut campaignId campaign' sender hget := by
    rw [hj.count_items fun _ _ => rfl]
    rcases hj.campaign_cases hget with ⟨campaign, hfound, hterms⟩ | ⟨rfl, -, habsent⟩
    · have hold := h.fanOut campaignId campaign sender hfound
      rw [hterms]
      cases hj with
      | @delivered item _ _ found _ fresh prepared =>
        change [item].countP _ + _ ≤ campaign.policy.maxFanOut
        rw [List.countP_singleton]
        split_ifs with hkey
        · simp only [Bool.and_eq_true, decide_eq_true_eq] at hkey
          obtain ⟨rfl, rfl⟩ := hkey
          cases hfound.symm.trans (prepared.campaignFound hregistry)
          have := prepared.fanOut
          omega
        · omega
      | _ =>
        change 0 + _ ≤ campaign.policy.maxFanOut
        omega
    · change 0 + _ ≤ _
      rw [h.count_absent habsent]
      exact Nat.zero_le _

/-! ## History -/

/-- An item is never ahead of the log. -/
theorem ItemValid.generation_le {last : ProvenanceHop} (h : ItemValid engine item campaign last)
    (hgeneration : engine.localPolicyGeneration = engine.localPolicyEvents.length) :
    PropagationEngine.lastGeneration item ≤ engine.localPolicyEvents.length := by
  rw [h.lastGeneration, ← hgeneration]
  exact h.generation

/-- A prepared item is admitted by the rules in force. -/
theorem Prepared.admittedNow (h : Prepared engine validator now campaignId campaign parent item)
    (hregistry : RegistryValid engine) (hhistory : HistoryValid engine) :
    Admitted engine item campaign parent engine.rules := by
  obtain ⟨reason, hstrict⟩ := h.strict
  obtain ⟨-, -, -, -, hsend⟩ := strictHopValidator_ok hstrict
  obtain ⟨hop, hhops, -, hgeneration⟩ := h.hops
  have hlast : lastGeneration item = engine.localPolicyEvents.length := by
    unfold lastGeneration
    rw [hhops, List.getLast?_concat, Option.elim_some, hgeneration, hhistory.generation]
  refine ⟨h.campaignFound hregistry, h.parentFound, hsend, ?_, h.admitted, h.strategy⟩
  rw [hlast, List.take_length]
  exact hhistory.replayed

theorem HistoryValid.step (h : HistoryValid engine) (hlimits : WithinLimits engine)
    (hregistry : RegistryValid engine) (hitems : ItemsValid engine)
    (hj : Justified engine now effect) : HistoryValid (effect.apply engine) := by
  have hadmitted : ∀ item' ∈ (effect.apply engine).items.values, ∃ campaign parent rules,
      Admitted (effect.apply engine) item' campaign parent rules := by
    intro item' hmem
    rcases hj.mem_items hmem with ⟨item, hitem, hprogress⟩ | rfl
    · obtain ⟨campaign, parent, rules, hold⟩ := h.admitted item hitem
      obtain ⟨campaign', last, hvalid⟩ := hitems.valid item hitem
      have hrecipient := (inHistory_of_mem hitem (List.mem_of_getLast? hvalid.lastHop)).2
      rw [hvalid.recipient] at hrecipient
      obtain ⟨campaign', parent', hnew⟩ := hold.extend hj.extends hprogress
        (hvalid.generation_le h.generation) fun profile => hj.extends.profiles _ profile hrecipient
      exact ⟨campaign', parent', rules, hnew⟩
    · obtain _ | _ | _ | _ | ⟨_, prepared⟩ := id hj
      obtain ⟨-, -, campaign, last, hvalid⟩ := validateItemValue_ok.mp prepared.valid
      obtain ⟨campaign', parent', hnew⟩ := (prepared.admittedNow hregistry h).extend hj.extends
        (.refl item') (hvalid.generation_le h.generation) fun _ h => h
      exact ⟨campaign', parent', engine.rules, hnew⟩
  cases hj with
  | @toggled kind room applies =>
    have happly := applies hlimits.optedOut hlimits.blocked
    refine ⟨?_, ?_, ?_, hadmitted⟩
    · change engine.localPolicyGeneration + 1 = (engine.localPolicyEvents ++ [_]).length
      rw [List.length_append, h.generation]
      rfl
    · refine numbered_append.mpr ⟨h.numbered, numbered_singleton.mpr ?_⟩
      rw [Nat.zero_add, ← h.generation]
    · refine replay_append_ok.mpr ⟨engine.rules, h.replayed, ?_⟩
      rw [replay_singleton]
      exact happly
  | _ => exact { h with admitted := hadmitted }

/-! ## Rates -/

theorem RecordMatches.extend {record : RateRecord} (h : RecordMatches record item)
    (hprogress : Progress item item') : RecordMatches record item' := by
  rw [hprogress.same]
  exact { h with }

/-- Nobody has sent in a campaign that is not there. -/
theorem RatesValid.sendTimes_absent (h : RatesValid engine) (hitems : ItemsValid engine)
    {id : CampaignId} (habsent : engine.campaigns.get id = none) (sender : CthulhuId) :
    sendTimes engine id sender = [] := by
  unfold sendTimes
  rw [List.map_eq_nil_iff, List.filter_eq_nil_iff]
  intro record hrecord hkey
  obtain ⟨item, hget, hmatches⟩ := h.matching record hrecord
  obtain ⟨campaign, last, hvalid⟩ := hitems.valid item (HashMap.get_mem_values hget)
  have hfound := hvalid.found
  rw [← hmatches.campaignId, (Prod.mk.inj (of_decide_eq_true hkey)).1, habsent] at hfound
  cases hfound

/-- The sends counted by the rate check are those of the window that ends now. -/
theorem windowCount_sendTimes {w : ℤ} {sender : CthulhuId} :
    windowCount w now (sendTimes engine campaignId sender) =
      engine.rateRecords.countP fun record => record.campaignId = campaignId &&
        record.sender = sender && now - w < record.sentAt && record.sentAt ≤ now := by
  unfold windowCount sendTimes
  rw [List.countP_map, List.countP_filter]
  refine List.countP_congr fun record _ => ?_
  simp only [Function.comp, Prod.mk.injEq, Bool.decide_and, Bool.and_eq_true, decide_eq_true_eq]
  tauto

theorem RatesValid.step (h : RatesValid engine) (hregistry : RegistryValid engine)
    (hitems : ItemsValid engine) (hclock : ∀ record ∈ engine.rateRecords, record.sentAt ≤ now)
    (hj : Justified engine now effect) : RatesValid (effect.apply engine) := by
  have hmatching : ∀ record ∈ engine.rateRecords, ∃ item',
      (effect.apply engine).items.get record.itemId = some item' ∧ RecordMatches record item' := by
    intro record hrecord
    obtain ⟨item, hget, hmatches⟩ := h.matching record hrecord
    obtain ⟨item', hget', hprogress⟩ := hj.extends.items _ _ hget
    exact ⟨item', hget', hmatches.extend hprogress⟩
  have hcount := hj.items_len
  have hbounded : ∀ campaignId campaign' sender,
      (effect.apply engine).campaigns.get campaignId = some campaign' →
      WindowBounded campaign'.policy.rateWindowSeconds campaign'.policy.perSenderRateLimit
        (sendTimes engine campaignId sender) := by
    intro campaignId campaign' sender hget
    rcases hj.campaign_cases hget with ⟨campaign, hfound, hterms⟩ | ⟨-, -, habsent⟩
    · rw [hterms]
      exact h.bounded campaignId campaign sender hfound
    · rw [h.sendTimes_absent hitems habsent]
      exact windowBounded_nil
  cases hj with
  | @delivered item _ _ campaign _ fresh prepared =>
    have hunsent : ∀ record ∈ engine.rateRecords, record.itemId ≠ item.id := by
      rintro record hrecord heq
      obtain ⟨found, hget, -⟩ := h.matching record hrecord
      rw [heq, fresh] at hget
      cases hget
    refine ⟨?_, ?_, ?_, fun campaignId campaign' sender hget => ?_⟩
    · change ((engine.rateRecords ++ [_]).map _).Nodup
      rw [List.map_append, List.nodup_append]
      refine ⟨h.items, List.nodup_singleton _, ?_⟩
      rintro _ hold _ hnew heq
      obtain ⟨record, hrecord, rfl⟩ := List.mem_map.mp hold
      cases List.mem_singleton.mp hnew
      exact hunsent record hrecord heq
    · intro record hrecord
      rcases List.mem_append.mp hrecord with hrecord | hrecord
      · exact hmatching record hrecord
      · cases List.mem_singleton.mp hrecord
        exact ⟨item, HashMap.get_insert, rfl, rfl, rfl⟩
    · change (engine.rateRecords ++ [_]).length = _
      rw [hcount, List.length_append, h.count, Nat.add_comm]
      rfl
    · have hold := hbounded campaignId campaign' sender hget
      have hsends : sendTimes (engine.deliver item) campaignId sender =
          sendTimes engine campaignId sender ++
            (if (item.campaignId, item.sender) = (campaignId, sender) then [item.createdAt]
              else []) := by
        unfold sendTimes deliver
        rw [List.filter_append, List.map_append]
        congr 1
        simp only [List.filter_cons, List.filter_nil, decide_eq_true_eq]
        split_ifs <;> rfl
      change WindowBounded _ _ (sendTimes (engine.deliver item) campaignId sender)
      rw [hsends]
      split_ifs with hkey
      · obtain ⟨rfl, rfl⟩ := Prod.mk.inj hkey
        have hcampaign : campaign' = campaign :=
          Option.some.inj (hget.symm.trans (prepared.campaignFound hregistry))
        have hroom := prepared.rate
        rw [← windowCount_sendTimes, ← hcampaign] at hroom
        rw [prepared.createdAt]
        refine hold.append (fun t ht => ?_) hroom
        obtain ⟨record, hrecord, rfl⟩ := List.mem_map.mp ht
        exact hclock record (List.mem_filter.mp hrecord).1
      · rw [List.append_nil]
        exact hold
  | _ =>
    refine ⟨h.items, hmatching, ?_, hbounded⟩
    rw [hcount]
    exact h.count.trans (Nat.zero_add _).symm

/-! ## Acknowledgements -/

/-- Only an acknowledged item has an acknowledgement. -/
theorem AcknowledgementsValid.unacknowledged (h : AcknowledgementsValid engine)
    (id : PropagationItemId) (hget : ∀ item, engine.items.get id = some item →
      item.status ≠ .acknowledged) :
    ∀ acknowledgement ∈ engine.acknowledgements.values, acknowledgement.itemId ≠ id := by
  rintro acknowledgement hack rfl
  obtain ⟨item, hitem, -, hmatches⟩ := h.matching acknowledgement hack
  exact hget item hitem hmatches.status

theorem AcknowledgementMatches.extend {acknowledgement : Acknowledgement}
    (h : AcknowledgementMatches acknowledgement item) (hprogress : Progress item item') :
    AcknowledgementMatches acknowledgement item' := by
  have hstatus := hprogress.acknowledged h.status
  rw [hprogress.same]
  exact { h with status := hstatus }

/-- Acknowledgements find their item after an effect as well. -/
theorem AcknowledgementsValid.matching_extend (h : AcknowledgementsValid engine)
    {engine' : PropagationEngine} (hext : Extends engine engine') :
    ∀ acknowledgement ∈ engine.acknowledgements.values, ∃ item,
      engine'.items.get acknowledgement.itemId = some item ∧
        validateHash acknowledgement.evidenceHash = .ok () ∧
        AcknowledgementMatches acknowledgement item := by
  intro acknowledgement hack
  obtain ⟨item, hget, hhash, hmatches⟩ := h.matching acknowledgement hack
  obtain ⟨item', hget', hprogress⟩ := hext.items _ _ hget
  exact ⟨item', hget', hhash, hmatches.extend hprogress⟩

theorem setStatus_get {id id' : PropagationItemId} {status : ItemStatus} :
    (setStatus id item status engine).items.get id' =
      if id' = id then some { item with status } else engine.items.get id' :=
  HashMap.get_insert_apply

theorem AcknowledgementsValid.step (h : AcknowledgementsValid engine) (hitems : ItemsValid engine)
    (hj : Justified engine now effect) : AcknowledgementsValid (effect.apply engine) := by
  have hmatching := h.matching_extend hj.extends
  cases hj with
  | @delivered item _ _ _ _ fresh prepared =>
    refine { h with matching := hmatching, status := HashMap.forall_values.mpr ?_ }
    intro id item' hget
    change (engine.items.insert item.id item).get id = some item' at hget
    rw [HashMap.get_insert_apply] at hget
    split_ifs at hget with hid
    · cases hget
      have hnone := h.unacknowledged item.id fun found hfound => by
        cases fresh.symm.trans hfound
      refine iff_of_false (by simp [prepared.pending]) ?_
      rintro ⟨acknowledgement, hack, heq⟩
      exact hnone acknowledgement hack heq
    · exact h.status item' (HashMap.get_mem_values hget)
  | @answered id item campaign status live pending unacknowledged =>
    refine { h with matching := hmatching, status := HashMap.forall_values.mpr ?_ }
    intro id' item' hget
    rw [Effect.apply, setStatus_get] at hget
    split_ifs at hget with hid
    · cases hget
      have hnone := h.unacknowledged id fun found hfound => by
        cases live.found.symm.trans hfound
        simp [pending]
      refine iff_of_false unacknowledged ?_
      rintro ⟨acknowledgement, hack, heq⟩
      exact hnone acknowledgement hack (heq.trans (hitems.key _ _ live.found).symm)
    · exact h.status item' (HashMap.get_mem_values hget)
  | @acknowledged item campaign acknowledgement live accepted fresh room hash actor time =>
    have hkey : acknowledgement.itemId = item.id := hitems.key _ _ live.found
    have hnone := h.unacknowledged acknowledgement.itemId fun found hfound => by
      cases live.found.symm.trans hfound
      simp [accepted]
    have hvalues : (Effect.apply engine (.acknowledged item acknowledgement)).acknowledgements.values =
        acknowledgement :: engine.acknowledgements.values := HashMap.values_insert_fresh fresh
    have hitem : (Effect.apply engine (.acknowledged item acknowledgement)).items.get
        acknowledgement.itemId = some { item with status := .acknowledged } := HashMap.get_insert
    refine ⟨fun id found hget => ?_, ?_, ?_, HashMap.forall_values.mpr fun id item' hget => ?_⟩
    · change (engine.acknowledgements.insert acknowledgement.id acknowledgement).get id =
        some found at hget
      rw [HashMap.get_insert_apply] at hget
      split_ifs at hget with hid
      · cases hget
        exact hid
      · exact h.key id found hget
    · rw [hvalues]
      refine List.nodup_cons.mpr ⟨fun hmem => ?_, h.items⟩
      obtain ⟨other, hother, heq⟩ := List.mem_map.mp hmem
      exact hnone other hother heq
    · rw [hvalues]
      refine List.forall_mem_cons.mpr ⟨⟨_, hitem, hash, actor, ?_, ?_, rfl⟩, hmatching⟩
      · rw [time]
        exact live.createdAt
      · rw [time]
        exact live.expiresAt
    · rw [hvalues]
      change (setStatus acknowledgement.itemId item .acknowledged engine).items.get id =
        some item' at hget
      rw [setStatus_get] at hget
      split_ifs at hget with hid
      · cases hget
        exact iff_of_true rfl ⟨acknowledgement, List.mem_cons_self, hkey⟩
      · rw [h.status item' (HashMap.get_mem_values hget)]
        constructor
        · rintro ⟨other, hother, heq⟩
          exact ⟨other, List.mem_cons_of_mem _ hother, heq⟩
        · rintro ⟨other, hother, heq⟩
          rcases List.mem_cons.mp hother with rfl | hother
          · exact absurd ((hitems.key _ _ hget).trans heq.symm) hid
          · exact ⟨other, hother, heq⟩
  | _ => exact { h with }

end Cthuwu.Propagation
