import Mathlib.Data.List.ProdSigma
import Cthuwu.Propagation.Credits
import Cthuwu.Propagation.World

/-!
# The delivery forest

`Loadable.step` puts the parts together : an effect keeps the invariant. The size limits of
outcomes and credit, which no operation checks, follow from the other parts. `Sound` adds
what a reload cannot see, that every outcome is credited and that no send lies ahead of the
clock, and `reachable_sound` proves it of every run.

What the invariant means : the items of a campaign form a tree below its root
(`DeliveryForest`), and the credit entries add up within the caps (`CreditSound`). Parents
are stored as identifiers and paths as copied lists of hops ; `Descends` is the path by
which parent links lead to an item of the root. Both follow from `Loadable`, hence of every
run and of every engine that a reload accepts.
-/

namespace Cthuwu.Propagation

open Council PropagationEngine

variable [Hashing] {engine : PropagationEngine} {effect : Effect} {now : ℤ}

/-! ## Limits -/

theorem CreditsValid.outcomes_len (h : CreditsValid engine) :
    engine.outcomes.len ≤ engine.acknowledgements.len := by
  rw [← HashMap.length_values, ← List.length_map (f := (·.acknowledgementId))]
  refine HashMap.length_le_len h.acknowledgements fun id hid => ?_
  obtain ⟨claim, hclaim, rfl⟩ := List.mem_map.mp hid
  obtain ⟨campaign, item, acknowledgement, hvalid⟩ := h.outcomes claim hclaim
  exact ⟨acknowledgement, hvalid.acknowledgementFound⟩

theorem CreditsValid.used_card (h : CreditsValid engine) :
    engine.usedAcknowledgements.card = engine.outcomes.len := by
  rw [h.used, List.toFinset_card_of_nodup h.acknowledgements, List.length_map,
    HashMap.length_values]

/-- Credit goes to candidates, in campaigns. -/
theorem CreditsValid.credit_keys (h : CreditsValid engine) (hitems : ItemsValid engine)
    {credit : ContributionCredit} (hcredit : credit ∈ engine.credits) :
    credit.campaignId ∈ engine.campaigns.keys ∧
      credit.cthulhuId ∈ engine.candidateProfiles.keys := by
  obtain ⟨hpos, -⟩ := h.points credit hcredit
  obtain ⟨-, hle⟩ := h.evidence credit hcredit
  have hcount : 0 < engine.outcomeCount credit.campaignId credit.cthulhuId := by
    by_contra hzero
    rw [Nat.eq_zero_of_not_pos hzero] at hle
    omega
  obtain ⟨claim, hclaim, hkey⟩ := List.countP_pos_iff.mp hcount
  simp only [Bool.and_eq_true, decide_eq_true_eq] at hkey
  obtain ⟨campaign, item, acknowledgement, hvalid⟩ := h.outcomes claim hclaim
  obtain ⟨campaign', last, hitem⟩ := hitems.valid item (HashMap.get_mem_values hvalid.itemFound)
  obtain ⟨profile, hprofile, -⟩ := hitem.senderProfile
  rw [← hkey.1, ← hkey.2, ← hvalid.evidence.contributor]
  exact ⟨HashMap.mem_keys.mpr ⟨campaign, hvalid.campaignFound⟩,
    HashMap.mem_keys.mpr ⟨profile, hprofile⟩⟩

theorem CreditsValid.credits_length (h : CreditsValid engine) (hitems : ItemsValid engine) :
    engine.credits.length ≤ engine.candidateProfiles.len * engine.campaigns.len := by
  have hsub : (engine.credits.map fun credit => (credit.campaignId, credit.cthulhuId)) ⊆
      engine.campaigns.keys ×ˢ engine.candidateProfiles.keys := by
    intro key hkey
    obtain ⟨credit, hcredit, rfl⟩ := List.mem_map.mp hkey
    exact List.pair_mem_product.mpr (h.credit_keys hitems hcredit)
  have hle := (List.subperm_of_subset h.keys hsub).length_le
  rw [List.length_map, List.length_product, HashMap.length_keys, HashMap.length_keys] at hle
  rw [Nat.mul_comm]
  exact hle

theorem campaigns_len (hj : Justified engine now effect) (h : engine.campaigns.len ≤ maxCampaigns) :
    (effect.apply engine).campaigns.len ≤ maxCampaigns := by
  cases hj with
  | @created campaign fresh room =>
    change (engine.campaigns.insert campaign.id campaign).len ≤ maxCampaigns
    rw [HashMap.len_insert_fresh fresh]
    exact room
  | @revoked id campaign reason found =>
    change (engine.campaigns.insert id (campaign.revoke now reason)).len ≤ maxCampaigns
    rw [HashMap.len_insert_present found]
    exact h
  | _ => exact h

theorem candidates_len (hj : Justified engine now effect)
    (h : engine.candidateProfiles.len ≤ maxCandidates) :
    (effect.apply engine).candidateProfiles.len ≤ maxCandidates := by
  cases hj with
  | @registered profile valid unused room =>
    change (engine.candidateProfiles.insert profile.cthulhuId profile).len ≤ maxCandidates
    cases hget : engine.candidateProfiles.get profile.cthulhuId with
    | none =>
      rw [HashMap.len_insert_fresh hget]
      rcases room with hroom | ⟨existing, hexisting⟩
      · exact hroom
      · cases hget.symm.trans hexisting
    | some existing =>
      rw [HashMap.len_insert_present hget]
      exact h
  | _ => exact h

theorem acknowledgements_len (hj : Justified engine now effect)
    (h : engine.acknowledgements.len ≤ maxAcknowledgements) :
    (effect.apply engine).acknowledgements.len ≤ maxAcknowledgements := by
  cases hj with
  | @acknowledged item campaign acknowledgement live accepted fresh room =>
    change (engine.acknowledgements.insert acknowledgement.id acknowledgement).len ≤ _
    rw [HashMap.len_insert_fresh fresh]
    exact room
  | _ => exact h

theorem items_len_le (hj : Justified engine now effect) (h : engine.items.len ≤ maxItems) :
    (effect.apply engine).items.len ≤ maxItems := by
  rw [hj.items_len]
  cases hj with
  | delivered fresh prepared =>
    have := prepared.room
    change 1 + engine.items.len ≤ maxItems
    omega
  | _ =>
    change 0 + engine.items.len ≤ maxItems
    omega

/-- Only a rule that is switched changes the rules and their log. -/
theorem rules_within (hj : Justified engine now effect) (h : WithinLimits engine) :
    (effect.apply engine).optedOut.card ≤ maxLocalRules ∧
      (effect.apply engine).blocked.card ≤ maxLocalRules ∧
      (effect.apply engine).localPolicyEvents.length ≤ maxLocalPolicyEvents := by
  cases hj with
  | @toggled kind room applies =>
    obtain ⟨-, -, hopt, hblock⟩ := applyLocalPolicyEvent_ok.mp (applies h.optedOut h.blocked)
    refine ⟨hopt, hblock, ?_⟩
    change (engine.localPolicyEvents ++ [_]).length ≤ _
    rw [List.length_append]
    exact room
  | _ => exact ⟨h.optedOut, h.blocked, h.events⟩

/-! ## The invariant -/

theorem Loadable.step (h : Loadable engine) (hcredited : OutcomesCredited engine)
    (hclock : ∀ record ∈ engine.rateRecords, record.sentAt ≤ now)
    (hj : Justified engine now effect) : Loadable (effect.apply engine) := by
  have hitems := h.items.step h.registry hj
  have hrates := h.rates.step h.registry h.items hclock hj
  have hcredits := h.credits.step hcredited h.limits.outcomes hj
  have hcampaigns := campaigns_len hj h.limits.campaigns
  have hcandidates := candidates_len hj h.limits.candidates
  have hacks := acknowledgements_len hj h.limits.acknowledgements
  have hlen := items_len_le hj h.limits.items
  obtain ⟨hopt, hblock, hevents⟩ := rules_within hj h.limits
  refine ⟨⟨hcampaigns, hlen, hacks, hcandidates, hopt, hblock, hevents, ?_, ?_, ?_, ?_⟩,
    h.registry.step h.limits hj, hitems, h.history.step h.limits h.registry h.items hj, hrates,
    h.acknowledgements.step h.items hj, hcredits⟩
  · rw [hrates.count]
    exact hlen
  · exact hcredits.outcomes_len.trans hacks
  · rw [hcredits.used_card]
    exact hcredits.outcomes_len.trans hacks
  · exact (hcredits.credits_length hitems).trans (Nat.mul_le_mul hcandidates hcampaigns)

theorem loadable_fresh : Loadable .fresh where
  limits := by constructor <;> exact Nat.zero_le _
  registry := ⟨fun id campaign hget => by simp [fresh] at hget,
    fun id profile hget => by simp [fresh] at hget, fun rule hrule => by simp [fresh] at hrule⟩
  items := ⟨fun id item hget => by simp [fresh] at hget, nofun, List.nodup_nil,
    fun _ _ _ _ => Nat.zero_le _⟩
  history := ⟨rfl, trivial, rfl, nofun⟩
  rates := ⟨List.nodup_nil, nofun, rfl, fun _ _ _ _ => windowBounded_nil⟩
  acknowledgements := ⟨fun id acknowledgement hget => by simp [fresh] at hget, List.nodup_nil,
    nofun, nofun⟩
  credits := ⟨fun id claim hget => by simp [fresh] at hget, nofun, List.nodup_nil, rfl,
    List.nodup_nil, nofun, nofun, fun _ _ _ => Nat.zero_le _⟩

/-- The invariant of the world. -/
structure Sound (w : World) : Prop where
  loadable : Loadable w.engine
  credited : OutcomesCredited w.engine
  clock : ∀ record ∈ w.engine.rateRecords, record.sentAt ≤ w.clock

theorem sound_init : Sound .init :=
  ⟨loadable_fresh, nofun, nofun⟩

theorem Sound.after {w : World} (h : Sound w) (hclock : w.clock ≤ now)
    (hj : Justified w.engine now effect) : Sound (w.after now effect) := by
  have hbefore : ∀ record ∈ w.engine.rateRecords, record.sentAt ≤ now := fun record hrecord =>
    (h.clock record hrecord).trans hclock
  refine ⟨h.loadable.step h.credited hbefore hj, h.credited.step hj, ?_⟩
  change ∀ record ∈ (effect.apply w.engine).rateRecords, record.sentAt ≤ now
  cases hj with
  | delivered fresh prepared =>
    intro record hrecord
    rcases List.mem_append.mp hrecord with hrecord | hrecord
    · exact hbefore record hrecord
    · rw [List.mem_singleton.mp hrecord]
      exact prepared.createdAt.le
  | _ => exact hbefore

theorem reachable_sound {w : World} (h : machine.Reachable w) : Sound w :=
  invariant sound_init (fun _ _ _ hw hclock hj => hw.after hclock hj) h

end Cthuwu.Propagation

/-! ## The delivery forest -/

namespace Cthuwu.Propagation

open Council PropagationEngine

section

variable [Hashing] {engine : PropagationEngine} {campaign : Campaign} {item : PropagationItem}

/-! ## Definitions -/

/-- The members of an item's path, from the root to the recipient. -/
def PropagationItem.path (item : PropagationItem) : List CthulhuId :=
  item.provenance.root :: item.provenance.hops.map (·.recipient)

structure OwnHop (item : PropagationItem) (hop : ProvenanceHop) : Prop where
  itemId : hop.itemId = item.id
  sender : hop.sender = item.sender
  recipient : hop.recipient = item.recipient
  sentAt : hop.sentAt = item.createdAt

/-- `parent` is the item that was delivered to the sender of `item`. -/
structure IsParent (engine : PropagationEngine) (parent item : PropagationItem) : Prop where
  linked : item.parentItemId = some parent.id
  found : engine.items.get parent.id = some parent
  campaignId : parent.campaignId = item.campaignId
  recipient : parent.recipient = item.sender

/-- Parent links lead from the item to one that `root` has sent. -/
inductive Descends (engine : PropagationEngine) (root : CthulhuId) : PropagationItem → Prop
  | sent {item : PropagationItem} (orphan : item.parentItemId = none)
      (sender : item.sender = root) : Descends engine root item
  | forwarded {item parent : PropagationItem} (isParent : IsParent engine parent item)
      (descends : Descends engine root parent) : Descends engine root item

/-- What holds of an item in the tree of its campaign. -/
structure Placed (engine : PropagationEngine) (item : PropagationItem) (campaign : Campaign) :
    Prop where
  /-- The root is never a recipient. -/
  notRoot : item.recipient ≠ campaign.root
  /-- The root sends one hop. -/
  initial : item.sender = campaign.root →
    item.parentItemId = none ∧ ∃ hop, OwnHop item hop ∧ item.provenance.hops = [hop]
  /-- Another sender forwards the one item it was sent, which it has accepted. -/
  forwarded : item.sender ≠ campaign.root → ∃ parent hop, IsParent engine parent item ∧
    parent.status.isAccepted ∧ OwnHop item hop ∧
    item.provenance.hops = parent.provenance.hops ++ [hop] ∧
    ∀ other ∈ engine.items.values, other.campaignId = item.campaignId →
      other.recipient = item.sender → other = parent
  descends : Descends engine campaign.root item
  simple : item.path.Nodup
  root : item.provenance.root = campaign.root
  depth : item.provenance.hops.length = item.depth
  depth_le : item.depth ≤ min campaign.policy.maxDepth 16

/-- The instants of a sender's sends in a campaign. -/
def sentTimes (engine : PropagationEngine) (campaignId : CampaignId) (sender : CthulhuId) :
    List ℤ :=
  (engine.items.values.filter fun item =>
    (item.campaignId, item.sender) = (campaignId, sender)).map (·.createdAt)

/-- The items of every campaign form a tree below its root. -/
structure DeliveryForest (engine : PropagationEngine) : Prop where
  /-- Each recipient has at most one item. -/
  recipients : ∀ item ∈ engine.items.values, ∀ other ∈ engine.items.values,
    item.campaignId = other.campaignId → item.recipient = other.recipient → item = other
  placed : ∀ item ∈ engine.items.values, ∃ campaign,
    engine.campaigns.get item.campaignId = some campaign ∧ Placed engine item campaign
  fanOut : ∀ campaignId campaign sender, engine.campaigns.get campaignId = some campaign →
    (engine.items.values.countP fun item => item.campaignId = campaignId && item.sender = sender) ≤
      campaign.policy.maxFanOut
  rate : ∀ campaignId campaign sender, engine.campaigns.get campaignId = some campaign →
    WindowBounded campaign.policy.rateWindowSeconds campaign.policy.perSenderRateLimit
      (sentTimes engine campaignId sender)

/-- The points of a contributor's entries in a campaign. -/
def contributorSum (engine : PropagationEngine) (campaignId : CampaignId)
    (contributor : CthulhuId) : ℕ :=
  ((engine.credits.filter (creditFor campaignId contributor)).map (·.points)).sum

/-- The totals of contributors and campaigns are the sums of their entries and respect the
caps. -/
structure CreditSound (engine : PropagationEngine) : Prop where
  contributor : ∀ campaignId contributor, engine.contributorPoints campaignId contributor =
    contributorSum engine campaignId contributor
  campaign : ∀ campaignId, engine.campaignPoints campaignId = campaignSum engine campaignId
  outcomeCap : ∀ campaignId contributor, contributorSum engine campaignId contributor ≤
    5 * engine.outcomeCount campaignId contributor
  contributorCap : ∀ campaignId contributor, contributorSum engine campaignId contributor ≤ 20
  campaignCap : ∀ campaignId, campaignSum engine campaignId ≤ 512

/-! ## Paths -/

variable {last : ProvenanceHop}

theorem ItemValid.ownHop (h : ItemValid engine item campaign last) : OwnHop item last :=
  ⟨h.itemId, h.sender, h.recipient, h.sentAt⟩

theorem ItemValid.hops_eq (h : ItemValid engine item campaign last) :
    item.provenance.hops = item.provenance.hops.dropLast ++ [last] := by
  obtain ⟨hops, heq⟩ := List.getLast?_eq_some_iff.mp h.lastHop
  rw [heq, List.dropLast_concat]

/-- The hops of a valid item visit no member twice, and none returns to the root. -/
theorem ItemValid.path_nodup (h : ItemValid engine item campaign last) : item.path.Nodup := by
  obtain ⟨-, hseen, hnodup, -⟩ := validateHops_ok h.hops
  unfold PropagationItem.path
  rw [h.root]
  refine List.nodup_cons.mpr ⟨fun hmem => ?_, hnodup⟩
  obtain ⟨hop, hhop, heq⟩ := List.mem_map.mp hmem
  exact hseen hop hhop (heq ▸ Finset.mem_singleton_self _)

theorem ItemValid.recipient_ne_root (h : ItemValid engine item campaign last) :
    item.recipient ≠ campaign.root := by
  obtain ⟨-, hseen, -⟩ := validateHops_ok h.hops
  intro heq
  refine hseen last (List.mem_of_getLast? h.lastHop) ?_
  rw [h.recipient, heq]
  exact Finset.mem_singleton_self _

/-- An item without a parent has its own hop only. -/
theorem ItemValid.hops_initial (h : ItemValid engine item campaign last)
    (hparent : item.parentItemId = none) : item.provenance.hops = [last] := by
  have hdepth := h.parent
  unfold ParentLinked at hdepth
  rw [hparent] at hdepth
  have hlength := h.depth
  rw [hdepth, h.hops_eq, List.length_append, List.length_singleton] at hlength
  have hnil : item.provenance.hops.dropLast = [] := List.length_eq_zero_iff.mp (by omega)
  rw [h.hops_eq, hnil, List.nil_append]

/-- The parent of an item is the item delivered to its sender. -/
theorem ItemValid.isParent (h : ItemValid engine item campaign last) (hitems : ItemsValid engine)
    {parentId : PropagationItemId} (hparent : item.parentItemId = some parentId) :
    ∃ parent, IsParent engine parent item ∧ engine.items.get parentId = some parent ∧
      item.provenance.hops = parent.provenance.hops ++ [last] := by
  have hlinked := h.parent
  unfold ParentLinked at hlinked
  rw [hparent] at hlinked
  obtain ⟨parent, hget, hcampaign, hrecipient, hhops⟩ := hlinked
  have hkey := hitems.key _ _ hget
  refine ⟨parent, ⟨hparent.trans (congrArg some hkey), hkey ▸ hget, hcampaign, hrecipient⟩, hget, ?_⟩
  rw [hhops]
  exact h.hops_eq

theorem ItemsValid.unique (h : ItemsValid engine) {other : PropagationItem}
    (hitem : item ∈ engine.items.values) (hother : other ∈ engine.items.values)
    (hcampaign : item.campaignId = other.campaignId) (hrecipient : item.recipient = other.recipient) :
    item = other :=
  List.inj_on_of_nodup_map h.recipients hitem hother (Prod.ext hcampaign hrecipient)

/-- The parents of an item are one hop shorter, and the last of them is the root's. -/
theorem Loadable.descends (h : Loadable engine) (n : ℕ) (hitem : item ∈ engine.items.values)
    (hfound : engine.campaigns.get item.campaignId = some campaign)
    (hlength : item.provenance.hops.length = n) : Descends engine campaign.root item := by
  induction n generalizing item with
  | zero =>
    obtain ⟨campaign', last, hvalid⟩ := h.items.valid item hitem
    rw [hvalid.hops_eq, List.length_append] at hlength
    cases hlength
  | succ n ih =>
    obtain ⟨campaign', last, hvalid⟩ := h.items.valid item hitem
    obtain ⟨campaign'', parent, rules, hadmitted⟩ := h.history.admitted item hitem
    cases hfound.symm.trans hadmitted.found
    rcases findParent_ok.mp hadmitted.parentFound with
      ⟨hid, rfl⟩ | ⟨parentId, parent, hid, rfl, -⟩
    · exact .sent hid hadmitted.sender
    · obtain ⟨parent, hisParent, hget, hhops⟩ := hvalid.isParent h.items hid
      refine .forwarded hisParent (ih (HashMap.get_mem_values hget) ?_ ?_)
      · rw [hisParent.campaignId]
        exact hfound
      · rw [hhops, List.length_append, List.length_singleton] at hlength
        omega

theorem Loadable.placed (h : Loadable engine) (hitem : item ∈ engine.items.values) :
    ∃ campaign, engine.campaigns.get item.campaignId = some campaign ∧
      Placed engine item campaign := by
  obtain ⟨campaign, last, hvalid⟩ := h.items.valid item hitem
  obtain ⟨campaign', parent, rules, hadmitted⟩ := h.history.admitted item hitem
  cases hvalid.found.symm.trans hadmitted.found
  obtain ⟨hdepth, -⟩ := Campaign.terms_of_validate (h.registry.campaigns _ _ hvalid.found).2
  refine ⟨campaign, hvalid.found, {
    notRoot := hvalid.recipient_ne_root
    initial := fun hroot => ?_
    forwarded := fun hroot => ?_
    descends := h.descends _ hitem hvalid.found rfl
    simple := hvalid.path_nodup
    root := hvalid.root
    depth := hvalid.depth.symm
    depth_le := le_min hvalid.depth_le (hvalid.depth_le.trans hdepth) }⟩
  · cases hid : item.parentItemId with
    | none => exact ⟨rfl, last, hvalid.ownHop, hvalid.hops_initial hid⟩
    | some parentId =>
      obtain ⟨parent, hisParent, hget, -⟩ := hvalid.isParent h.items hid
      obtain ⟨campaign', last', hparent⟩ := h.items.valid parent (HashMap.get_mem_values hget)
      have hfound := hparent.found
      rw [hisParent.campaignId, hvalid.found] at hfound
      cases hfound
      exact absurd (hisParent.recipient.trans hroot) hparent.recipient_ne_root
  · rcases findParent_ok.mp hadmitted.parentFound with
      ⟨-, rfl⟩ | ⟨parentId, parent, hid, rfl, hget⟩
    · exact absurd hadmitted.sender hroot
    · obtain ⟨parent', hisParent, hget', hhops⟩ := hvalid.isParent h.items hid
      cases hget.symm.trans hget'
      refine ⟨parent, last, hisParent, hadmitted.sender.2, hvalid.ownHop, hhops, ?_⟩
      intro other hother hcampaign hrecipient
      exact h.items.unique hother (HashMap.get_mem_values hget)
        (hcampaign.trans hisParent.campaignId.symm) (hrecipient.trans hisParent.recipient.symm)

/-! ## Rates -/

/-- The rate records name the items, each once. -/
theorem RatesValid.items_perm (h : RatesValid engine) :
    (engine.rateRecords.map (·.itemId)).Perm engine.items.keys := by
  have hsub : engine.rateRecords.map (·.itemId) ⊆ engine.items.keys := by
    intro id hid
    obtain ⟨record, hrecord, rfl⟩ := List.mem_map.mp hid
    obtain ⟨item, hget, -⟩ := h.matching record hrecord
    exact HashMap.mem_keys.mpr ⟨item, hget⟩
  refine (List.subperm_of_subset h.items hsub).perm_of_length_le ?_
  rw [HashMap.length_keys, List.length_map, h.count]

/-- The rate records and the items have the same sends. -/
theorem RatesValid.sendTimes_perm (h : RatesValid engine) (campaignId : CampaignId)
    (sender : CthulhuId) :
    (sendTimes engine campaignId sender).Perm (sentTimes engine campaignId sender) := by
  let sentBy (item : PropagationItem) : Option ℤ :=
    if (item.campaignId, item.sender) = (campaignId, sender) then some item.createdAt else none
  have hrecords : (engine.rateRecords.map (·.itemId)).filterMap
      (fun id => (engine.items.get id).bind sentBy) = sendTimes engine campaignId sender := by
    unfold sendTimes
    rw [List.filterMap_map, ← List.filterMap_eq_map, List.filterMap_filter]
    refine List.filterMap_congr fun record hrecord => ?_
    obtain ⟨item, hget, hmatches⟩ := h.matching record hrecord
    simp only [Function.comp, hget, Option.bind_some, sentBy, hmatches.campaignId, hmatches.sender,
      hmatches.sentAt, decide_eq_true_eq]
  have hitems : engine.items.keys.filterMap (fun id => (engine.items.get id).bind sentBy) =
      sentTimes engine campaignId sender := by
    unfold sentTimes HashMap.keys HashMap.values
    rw [List.filterMap_map, ← List.filterMap_eq_map, List.filterMap_filter, List.filterMap_map]
    refine List.filterMap_congr fun entry hentry => ?_
    have hget := HashMap.mem_pairs.mp hentry
    simp only [Function.comp, hget, Option.bind_some, sentBy, decide_eq_true_eq]
  rw [← hrecords, ← hitems]
  exact h.items_perm.filterMap _

/-- An engine that satisfies the invariant holds a forest. -/
theorem Loadable.forest (h : Loadable engine) : DeliveryForest engine where
  recipients _ hitem _ hother hcampaign hrecipient :=
    h.items.unique hitem hother hcampaign hrecipient
  placed _ hitem := h.placed hitem
  fanOut := h.items.fanOut
  rate campaignId campaign sender hfound :=
    (h.rates.bounded campaignId campaign sender hfound).perm (h.rates.sendTimes_perm campaignId sender)

/-- A contributor has one entry at most, so that its points are a sum. -/
theorem contributorSum_eq
    (hkeys : (engine.credits.map fun credit => (credit.campaignId, credit.cthulhuId)).Nodup)
    (campaignId : CampaignId) (contributor : CthulhuId) :
    engine.contributorPoints campaignId contributor =
      contributorSum engine campaignId contributor := by
  unfold contributorPoints contributorSum
  generalize engine.credits = credits at hkeys
  induction credits with
  | nil => rfl
  | cons credit credits ih =>
    obtain ⟨hfresh, hkeys⟩ := List.nodup_cons.mp hkeys
    by_cases hfor : creditFor campaignId contributor credit = true
    · have hnone : credits.filter (creditFor campaignId contributor) = [] := by
        rw [List.filter_eq_nil_iff]
        intro other hother hsame
        refine hfresh (List.mem_map.mpr ⟨other, hother, ?_⟩)
        exact (creditFor_iff.mp hsame).trans (creditFor_iff.mp hfor).symm
      rw [List.find?_cons_of_pos hfor, List.filter_cons_of_pos hfor, hnone]
      exact (Nat.add_zero _).symm
    · rw [List.find?_cons_of_neg hfor, List.filter_cons_of_neg hfor]
      exact ih hkeys

theorem CreditsValid.sound (h : CreditsValid engine) : CreditSound engine := by
  have hcampaign : ∀ campaignId, campaignSum engine campaignId ≤ 512 := by
    intro campaignId
    refine campaignPoints_le.mp ?_
    cases hget : engine.campaigns.get campaignId with
    | none =>
      rw [h.sum_absent hget]
      exact Nat.zero_le _
    | some campaign => exact h.campaignCap campaignId campaign hget
  have hentry : ∀ campaignId contributor, contributorSum engine campaignId contributor ≤
      5 * engine.outcomeCount campaignId contributor ∧
      contributorSum engine campaignId contributor ≤ 20 := by
    intro campaignId contributor
    rw [← contributorSum_eq h.keys]
    by_cases hnone : ∀ credit ∈ engine.credits, creditFor campaignId contributor credit = false
    · rw [contributorPoints_absent hnone]
      exact ⟨Nat.zero_le _, Nat.zero_le _⟩
    · push Not at hnone
      obtain ⟨credit, hcredit, hfor⟩ := hnone
      rw [Bool.ne_false_iff] at hfor
      obtain ⟨rfl, rfl⟩ := Prod.mk.inj (creditFor_iff.mp hfor)
      rw [contributorPoints_of_mem h.keys hcredit, Nat.mul_comm]
      exact ⟨(h.evidence credit hcredit).2, (h.points credit hcredit).2⟩
  refine ⟨contributorSum_eq h.keys, fun campaignId => ?_, fun campaignId contributor =>
    (hentry campaignId contributor).1, fun campaignId contributor =>
    (hentry campaignId contributor).2, hcampaign⟩
  rw [campaignPoints_eq]
  exact min_eq_left ((hcampaign campaignId).trans (by decide))

end

/-! ## Runs and reloads -/

/-- In every run the items of every campaign form a tree below its root. -/
theorem delivery_forest [Hashing] {w : World} (h : machine.Reachable w) : DeliveryForest w.engine :=
  (reachable_sound h).loadable.forest

attribute [local instance] sampleHashing in
theorem sampleForward_run : (sampleRun sampleStart).awards = [⟨sampleClaim, 2⟩] ∧
    (sampleRun (sampleStart ++ sampleForward sampleA sampleC)).engine.items.len = 2 ∧
    (sampleRun (sampleStart ++ sampleForward sampleA sampleC)).engine.validateLoadedState 20 =
      .ok () ∧
    ∃ d ∈ (sampleRun (sampleStart ++ sampleForward sampleA sampleC)).deliveries,
      ∃ hop ∈ d.item.provenance.hops, (hop.sender, d.item.recipient) ∈ d.rules.blocked := by
  decide +kernel

attribute [local instance] sampleHashing in
/-- A campaign in which B has forwarded to C what A sent it. -/
theorem delivery_forest_sample :
    DeliveryForest (sampleRun (sampleStart ++ sampleForward sampleA sampleC)).engine ∧
      (sampleRun (sampleStart ++ sampleForward sampleA sampleC)).engine.items.len = 2 :=
  ⟨delivery_forest (Machine.Reachable.init.run (admits_of_sorted (by decide))),
    sampleForward_run.2.1⟩

/-- An engine that a reload accepts, however it was produced, holds a forest, and its credit
entries add up within the caps. -/
theorem reload_sound [Hashing] {engine : PropagationEngine} {now : ℤ}
    {validator : PropagationPolicyValidator}
    (h : engine.validateLoadedStateWithPolicy now validator = .ok ()) :
    DeliveryForest engine ∧ CreditSound engine := by
  obtain ⟨-, hloadable, -⟩ := validateLoadedStateWithPolicy_ok.mp h
  exact ⟨hloadable.forest, hloadable.credits.sound⟩

attribute [local instance] sampleHashing in
theorem reload_sound_sample :
    DeliveryForest (sampleRun (sampleStart ++ sampleForward sampleA sampleC)).engine ∧
      CreditSound (sampleRun (sampleStart ++ sampleForward sampleA sampleC)).engine :=
  reload_sound sampleForward_run.2.2.1

end Cthuwu.Propagation
