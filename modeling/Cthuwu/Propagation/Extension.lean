import Cthuwu.Propagation.Effects
import Cthuwu.Propagation.Loadable

/-!
# What effects leave alone

An effect extends the engine : campaigns keep their terms, items keep everything but their
status and stay accepted, profiles that appear in some item's history stay, and the log of
rules grows. `ItemValid.extend` and `Admitted.extend` say that an extension keeps what was
established of an item ; `map_items` compares the items before and after an effect as far as
their status does not matter.
-/

namespace Cthuwu.Propagation

open Council PropagationEngine

variable [Hashing] {engine engine' : PropagationEngine} {effect : Effect} {now : ℤ}

/-- The campaigns differ in their revocation at most. -/
def SameTerms (c c' : Campaign) : Prop :=
  c' = { c with revokedAt := c'.revokedAt, revocationReason := c'.revocationReason }

/-- The items differ in their status at most, which stays accepted and acknowledged. -/
structure Progress (item item' : PropagationItem) : Prop where
  same : item' = { item with status := item'.status }
  accepted : item.status.isAccepted → item'.status.isAccepted
  acknowledged : item.status = .acknowledged → item'.status = .acknowledged

theorem SameTerms.refl (c : Campaign) : SameTerms c c :=
  rfl

theorem Progress.refl (item : PropagationItem) : Progress item item :=
  ⟨rfl, id, id⟩

/-- The checks of the hops read a campaign's terms only. -/
theorem SameTerms.validateHops {c c' : Campaign} (h : SameTerms c c') {seen : Finset CthulhuId}
    {previous : Option ProvenanceHop} {hops : List ProvenanceHop} :
    PropagationEngine.validateHops c' seen previous hops =
      PropagationEngine.validateHops c seen previous hops := by
  rw [h]
  induction hops generalizing seen previous with
  | nil => rfl
  | cons hop hops ih =>
    unfold PropagationEngine.validateHops
    simp only [ih]

/-- What every effect does to an engine. -/
structure Extends (engine engine' : PropagationEngine) : Prop where
  campaigns : ∀ id campaign, engine.campaigns.get id = some campaign →
    ∃ campaign', engine'.campaigns.get id = some campaign' ∧ SameTerms campaign campaign'
  items : ∀ id item, engine.items.get id = some item →
    ∃ item', engine'.items.get id = some item' ∧ Progress item item'
  profiles : ∀ id profile, engine.inHistory id = true →
    engine.candidateProfiles.get id = some profile → engine'.candidateProfiles.get id = some profile
  events : engine.localPolicyEvents <+: engine'.localPolicyEvents
  generation : engine.localPolicyGeneration ≤ engine'.localPolicyGeneration

theorem Extends.refl (engine : PropagationEngine) : Extends engine engine where
  campaigns _ campaign h := ⟨campaign, h, .refl _⟩
  items _ item h := ⟨item, h, .refl _⟩
  profiles _ _ _ h := h
  events := List.prefix_rfl
  generation := le_rfl

/-- Writing a map at a key that is new, or with a related value, relates every value. -/
theorem get_insert_related {K V : Type} [DecidableEq K] {m : HashMap K V} {R : V → V → Prop}
    (hrefl : ∀ v, R v v) {k : K} {v : V} (h : ∀ w, m.get k = some w → R w v) (id : K) (w : V)
    (hw : m.get id = some w) : ∃ w', (m.insert k v).get id = some w' ∧ R w w' := by
  by_cases hid : id = k
  · subst hid
    exact ⟨v, HashMap.get_insert, h w hw⟩
  · exact ⟨w, (HashMap.get_insert_ne hid).trans hw, hrefl w⟩

variable {item item' : PropagationItem} {campaign campaign' : Campaign} {id : PropagationItemId}
  {status : ItemStatus} {parent : Option PropagationItem}

theorem setStatus_extends (hfound : engine.items.get id = some item)
    (haccepted : item.status.isAccepted → status.isAccepted)
    (hacknowledged : item.status = .acknowledged → status = .acknowledged) :
    Extends engine (setStatus id item status engine) where
  campaigns _ campaign h := ⟨campaign, h, .refl _⟩
  items := get_insert_related .refl fun found h => by
    cases hfound.symm.trans h
    exact ⟨rfl, haccepted, hacknowledged⟩
  profiles _ _ _ h := h
  events := List.prefix_rfl
  generation := le_rfl

theorem Justified.extends (h : Justified engine now effect) :
    Extends engine (effect.apply engine) := by
  cases h with
  | idle => exact .refl _
  | created fresh =>
    refine { Extends.refl engine with campaigns := get_insert_related .refl fun found h => ?_ }
    cases fresh.symm.trans h
  | @registered profile _ unused =>
    refine { Extends.refl engine with profiles := fun id found hhistory hget => ?_ }
    by_cases hid : id = profile.cthulhuId
    · subst hid
      by_cases hsame : found = profile
      · subst hsame
        exact HashMap.get_insert
      · exact absurd hhistory (by rw [unused found hget hsame]; exact Bool.false_ne_true)
    · exact (HashMap.get_insert_ne hid).trans hget
  | toggled =>
    exact { Extends.refl engine with
      events := List.prefix_append .., generation := Nat.le_succ _ }
  | delivered fresh =>
    refine { Extends.refl engine with items := get_insert_related .refl fun found h => ?_ }
    cases fresh.symm.trans h
  | answered live pending =>
    refine setStatus_extends live.found ?_ ?_
    all_goals
      rw [pending]
      nofun
  | acknowledged live =>
    exact { setStatus_extends live.found (fun _ => rfl) fun _ => rfl with }
  | @revoked id campaign reason found =>
    refine { Extends.refl engine with campaigns := get_insert_related .refl fun other h => ?_ }
    cases found.symm.trans h
    rfl
  | credited => exact { Extends.refl engine with }

/-! ## Items -/

theorem inHistory_of_mem (hitem : item ∈ engine.items.values) {hop : ProvenanceHop}
    (hhop : hop ∈ item.provenance.hops) :
    engine.inHistory hop.sender = true ∧ engine.inHistory hop.recipient = true := by
  unfold inHistory
  simp only [List.any_eq_true, Bool.or_eq_true, decide_eq_true_eq]
  exact ⟨⟨item, hitem, hop, hhop, .inl rfl⟩, ⟨item, hitem, hop, hhop, .inr rfl⟩⟩

theorem ParentLinked.extend (h : ParentLinked engine item) (hext : Extends engine engine')
    (hprogress : Progress item item') : ParentLinked engine' item' := by
  rw [hprogress.same]
  unfold ParentLinked at h ⊢
  dsimp only
  cases hid : item.parentItemId with
  | none =>
    rw [hid] at h
    exact h
  | some parentId =>
    rw [hid] at h
    obtain ⟨parent, hget, hcampaign, hrecipient, hhops⟩ := h
    obtain ⟨parent', hget', hparent⟩ := hext.items parentId parent hget
    rw [hparent.same] at hget'
    exact ⟨_, hget', hcampaign, hrecipient, hhops⟩

/-- An extension that keeps the profiles of its two members keeps an item valid. -/
theorem ItemValid.extend {last : ProvenanceHop} (h : ItemValid engine item campaign last)
    (hext : Extends engine engine') (hprogress : Progress item item')
    (hprofiles : ∀ id hash, id = item.sender ∨ id = item.recipient →
      ProfileRecorded engine id hash → ProfileRecorded engine' id hash) :
    ∃ campaign', SameTerms campaign campaign' ∧ ItemValid engine' item' campaign' last := by
  obtain ⟨campaign', hfound', hterms⟩ := hext.campaigns _ _ h.found
  refine ⟨campaign', hterms, ?_⟩
  have hparent := h.parent.extend hext hprogress
  have hhops := h.hops
  rw [← hterms.validateHops] at hhops
  rw [hprogress.same] at hparent ⊢
  rw [hterms] at hfound' hhops ⊢
  exact {
    found := hfound'
    policyVersion := h.policyVersion
    payloadHash := h.payloadHash
    expiresAt := h.expiresAt
    depth := h.depth
    depth_pos := h.depth_pos
    depth_le := h.depth_le
    root := h.root
    first := h.first
    lastHop := h.lastHop
    itemId := h.itemId
    sender := h.sender
    recipient := h.recipient
    sentAt := h.sentAt
    generation := h.generation.trans hext.generation
    senderProfile := hprofiles _ _ (.inl rfl) h.senderProfile
    recipientProfile := hprofiles _ _ (.inr rfl) h.recipientProfile
    hops := hhops
    parent := hparent
    chain := h.chain }

/-- The profiles of the members of a stored item stay. -/
theorem ItemValid.keep {last : ProvenanceHop} (h : ItemValid engine item campaign last)
    (hitem : item ∈ engine.items.values) (hext : Extends engine engine')
    (hprogress : Progress item item') :
    ∃ campaign', SameTerms campaign campaign' ∧ ItemValid engine' item' campaign' last := by
  refine h.extend hext hprogress ?_
  obtain ⟨hsender, hrecipient⟩ := inHistory_of_mem hitem (List.mem_of_getLast? h.lastHop)
  rw [h.sender] at hsender
  rw [h.recipient] at hrecipient
  rintro id hash (rfl | rfl) ⟨profile, hget, hhash⟩
  · exact ⟨profile, hext.profiles _ _ hsender hget, hhash⟩
  · exact ⟨profile, hext.profiles _ _ hrecipient hget, hhash⟩

theorem MaySend.extend {sender : CthulhuId} {parent parent' : PropagationItem}
    (h : MaySend campaign sender (some parent)) (hparent : Progress parent parent') :
    MaySend campaign' sender (some parent') := by
  refine ⟨?_, hparent.accepted h.2⟩
  rw [hparent.same]
  exact h.1

/-- The items of an engine and the hops of their parents are in its history. -/
theorem isTrusted_extend (hext : Extends engine engine') {id : CthulhuId}
    (hhistory : engine.inHistory id = true) (h : engine.isTrusted id = true) :
    engine'.isTrusted id = true := by
  unfold isTrusted at h ⊢
  cases hget : engine.candidateProfiles.get id with
  | none =>
    rw [hget] at h
    exact absurd h Bool.false_ne_true
  | some profile =>
    rw [hget] at h
    rw [hext.profiles id profile hhistory hget]
    exact h

/-- A hop that the strategy admitted stays admitted. -/
theorem validateDepthAndStrategy_extend {parent' : Option PropagationItem} {recipient : CthulhuId}
    {depth : ℕ} {reason : String}
    (h : engine.validateDepthAndStrategy campaign parent recipient depth = .ok reason)
    (hext : Extends engine engine') (hterms : SameTerms campaign campaign')
    (hparent : ∀ item', parent' = some item' → ∃ item, parent = some item ∧
      item ∈ engine.items.values ∧ Progress item item')
    (hrecipient : ∀ profile, engine.candidateProfiles.get recipient = some profile →
      engine'.candidateProfiles.get recipient = some profile) :
    engine'.validateDepthAndStrategy campaign' parent' recipient depth = .ok reason := by
  rw [validateDepthAndStrategy_ok] at h ⊢
  obtain ⟨hdepth, hloop, profile, hget, hvisible, htrusted, hallows⟩ := h
  rw [hterms]
  refine ⟨hdepth, ?_, profile, hrecipient profile hget, hvisible, fun hbranch => ?_, hallows⟩
  · intro item' hitem'
    obtain ⟨item, hitem, -, hprogress⟩ := hparent item' hitem'
    rw [hprogress.same]
    exact hloop item hitem
  · obtain ⟨hprofile, hpath⟩ := htrusted hbranch
    refine ⟨hprofile, fun item' hitem' => ?_⟩
    obtain ⟨item, hitem, hmem, hprogress⟩ := hparent item' hitem'
    rw [hprogress.same]
    intro hop hhop
    obtain ⟨hsender, hto⟩ := inHistory_of_mem hmem hhop
    obtain ⟨htrustSender, htrustTo⟩ := hpath item hitem hop hhop
    exact ⟨isTrusted_extend hext hsender htrustSender, isTrusted_extend hext hto htrustTo⟩

theorem findParent_extend {id : Option PropagationItemId} (h : engine.findParent id = .ok parent)
    (hext : Extends engine engine') : ∃ parent', engine'.findParent id = .ok parent' ∧
      (parent = none ∧ parent' = none ∨ ∃ item item', parent = some item ∧ parent' = some item' ∧
        item ∈ engine.items.values ∧ Progress item item') := by
  rcases findParent_ok.mp h with ⟨rfl, rfl⟩ | ⟨parentId, item, rfl, rfl, hget⟩
  · exact ⟨none, rfl, .inl ⟨rfl, rfl⟩⟩
  · obtain ⟨item', hget', hprogress⟩ := hext.items parentId item hget
    exact ⟨some item', findParent_ok.mpr (.inr ⟨parentId, item', rfl, rfl, hget'⟩),
      .inr ⟨item, item', rfl, rfl, HashMap.get_mem_values hget, hprogress⟩⟩

/-- An item that was admitted when the log was shorter stays admitted. -/
theorem Admitted.extend {rules : LocalRules} (h : Admitted engine item campaign parent rules)
    (hext : Extends engine engine') (hprogress : Progress item item')
    (hgeneration : lastGeneration item ≤ engine.localPolicyEvents.length)
    (hrecipient : ∀ profile, engine.candidateProfiles.get item.recipient = some profile →
      engine'.candidateProfiles.get item.recipient = some profile) :
    ∃ campaign' parent', Admitted engine' item' campaign' parent' rules := by
  obtain ⟨campaign', hfound', hterms⟩ := hext.campaigns _ _ h.found
  obtain ⟨parent', hparent', hrelated⟩ := findParent_extend h.parentFound hext
  obtain ⟨reason, hstrategy⟩ := h.strategy
  refine ⟨campaign', parent', ?_⟩
  rw [hprogress.same]
  refine ⟨hfound', hparent', ?_, ?_, ?_, reason, validateDepthAndStrategy_extend hstrategy hext
    hterms ?_ hrecipient⟩
  · rcases hrelated with ⟨rfl, rfl⟩ | ⟨found, found', rfl, rfl, -, hfound⟩
    · rw [hterms]
      exact h.sender
    · exact MaySend.extend h.sender hfound
  · obtain ⟨suffix, hsuffix⟩ := hext.events
    rw [← hsuffix]
    have hlast : lastGeneration { item with status := item'.status } = lastGeneration item := rfl
    rw [hlast, List.take_append_of_le_length hgeneration]
    exact h.replayed
  · rcases hrelated with ⟨rfl, rfl⟩ | ⟨found, found', rfl, rfl, -, hfound⟩
    · exact { h.pair with path := nofun }
    · refine { h.pair with path := fun other hother => ?_ }
      cases hother
      rw [hfound.same]
      exact h.pair.path found rfl
  · intro other hother
    rcases hrelated with ⟨rfl, rfl⟩ | ⟨found, found', rfl, rfl, hmem, hfound⟩
    · cases hother
    · cases hother
      exact ⟨found, rfl, hmem, hfound⟩

/-! ## Maps after an effect -/

/-- A campaign after an effect was there before, or has just been created. -/
theorem Justified.campaign_cases (h : Justified engine now effect) {id : CampaignId}
    (hget : (effect.apply engine).campaigns.get id = some campaign') :
    (∃ campaign, engine.campaigns.get id = some campaign ∧ SameTerms campaign campaign') ∨
      effect = .created campaign' ∧ id = campaign'.id ∧ engine.campaigns.get id = none := by
  cases h with
  | @created campaign fresh =>
    change (engine.campaigns.insert campaign.id campaign).get id = some campaign' at hget
    rw [HashMap.get_insert_apply] at hget
    split_ifs at hget with hid
    · cases hget
      exact .inr ⟨rfl, hid, hid ▸ fresh⟩
    · exact .inl ⟨campaign', hget, .refl _⟩
  | @revoked revokedId campaign reason found =>
    change (engine.campaigns.insert revokedId (campaign.revoke now reason)).get id =
      some campaign' at hget
    rw [HashMap.get_insert_apply] at hget
    split_ifs at hget with hid
    · cases hget
      exact .inl ⟨campaign, hid ▸ found, rfl⟩
    · exact .inl ⟨campaign', hget, .refl _⟩
  | _ => exact .inl ⟨campaign', hget, .refl _⟩

theorem setStatus_item_cases {id' : PropagationItemId}
    (hext : Extends engine (setStatus id item status engine))
    (hfound : engine.items.get id = some item)
    (hget : (setStatus id item status engine).items.get id' = some item') :
    ∃ before, engine.items.get id' = some before ∧ Progress before item' := by
  cases hbefore : engine.items.get id' with
  | none =>
    change (engine.items.insert id _).get id' = some item' at hget
    rw [HashMap.get_insert_apply] at hget
    split_ifs at hget with hid
    · cases (hid ▸ hfound).symm.trans hbefore
    · cases hget.symm.trans hbefore
  | some before =>
    obtain ⟨after, hafter, hprogress⟩ := hext.items id' before hbefore
    cases hget.symm.trans hafter
    exact ⟨before, rfl, hprogress⟩

/-- An item after an effect was there before, or has just been delivered. -/
theorem Justified.item_cases (h : Justified engine now effect)
    (hget : (effect.apply engine).items.get id = some item') :
    (∃ item, engine.items.get id = some item ∧ Progress item item') ∨
      effect = .delivered item' ∧ id = item'.id := by
  have hext := h.extends
  cases h with
  | @delivered item =>
    change (engine.items.insert item.id item).get id = some item' at hget
    rw [HashMap.get_insert_apply] at hget
    split_ifs at hget with hid
    · cases hget
      exact .inr ⟨rfl, hid⟩
    · exact .inl ⟨item', hget, .refl _⟩
  | answered live => exact .inl (setStatus_item_cases hext live.found hget)
  | acknowledged live =>
    exact .inl (setStatus_item_cases { hext with } live.found hget)
  | _ => exact .inl ⟨item', hget, .refl _⟩

/-- Up to their status, the items after an effect are those before and what it delivered. -/
theorem Justified.map_items (h : Justified engine now effect) {β : Type} {f : PropagationItem → β}
    (hf : ∀ item status, f { item with status } = f item) :
    ((effect.apply engine).items.values.map f).Perm
      ((effect.delivery.toList ++ engine.items.values).map f) := by
  cases h with
  | delivered fresh =>
    change ((engine.items.insert _ _).values.map f).Perm _
    rw [HashMap.values_insert_fresh fresh]
    exact .refl _
  | answered live => exact HashMap.map_values_insert live.found (hf _ _)
  | acknowledged live => exact HashMap.map_values_insert live.found (hf _ _)
  | _ => exact .refl _

theorem Justified.count_items (h : Justified engine now effect) {p : PropagationItem → Bool}
    (hp : ∀ item status, p { item with status } = p item) :
    (effect.apply engine).items.values.countP p =
      effect.delivery.toList.countP p + engine.items.values.countP p := by
  have hcount := (h.map_items hp).countP_eq id
  simp only [List.countP_map, List.map_append, List.countP_append, Function.id_comp] at hcount
  exact hcount

theorem Justified.items_len (h : Justified engine now effect) :
    (effect.apply engine).items.len = effect.delivery.toList.length + engine.items.len := by
  have hcount := h.count_items (p := fun _ => true) fun _ _ => rfl
  simp only [List.countP_true, HashMap.length_values] at hcount
  exact hcount

/-- An item that is not new keeps its place in the engine. -/
theorem Justified.mem_items (h : Justified engine now effect)
    (hmem : item' ∈ (effect.apply engine).items.values) :
    (∃ item ∈ engine.items.values, Progress item item') ∨ effect = .delivered item' := by
  obtain ⟨id, hget⟩ := HashMap.mem_values.mp hmem
  rcases h.item_cases hget with ⟨item, hitem, hprogress⟩ | ⟨rfl, -⟩
  · exact .inl ⟨item, HashMap.get_mem_values hitem, hprogress⟩
  · exact .inr rfl

end Cthuwu.Propagation
