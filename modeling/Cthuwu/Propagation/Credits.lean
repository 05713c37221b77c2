import Cthuwu.Propagation.Invariant

/-!
# Credit under effects

An award adds to one entry of the credit list (`addCredit_cases`), and the saturating sums
of the source are sums while they stay below the caps. `CreditsValid.step` keeps the part of
the invariant about outcomes and credit ; beside it an engine credits every outcome it
records (`OutcomesCredited`), which a reload does not check.
-/

namespace Cthuwu.Propagation

open Council PropagationEngine

variable [Hashing] {engine : PropagationEngine} {effect : Effect} {now : ℤ}

/-! ## Entries -/

/-- Adding points changes the contributor's first entry, or pushes one when there is none. -/
theorem addCredit_cases (campaignId : CampaignId) (contributor : CthulhuId) (points : ℕ)
    (credits : List ContributionCredit) :
    (∃ before credit after, credits = before ++ credit :: after ∧
      creditFor campaignId contributor credit = true ∧
      (∀ other ∈ before, creditFor campaignId contributor other = false) ∧
      addCredit campaignId contributor points credits = before ++ { credit with
          points := min (credit.points + points) u16Max
          creditedOutcomes := min (credit.creditedOutcomes + 1) u16Max } :: after) ∨
      ((∀ credit ∈ credits, creditFor campaignId contributor credit = false) ∧
        addCredit campaignId contributor points credits =
          credits ++ [⟨campaignId, contributor, points, 1⟩]) := by
  induction credits with
  | nil => exact .inr ⟨nofun, rfl⟩
  | cons credit credits ih =>
    rw [addCredit]
    by_cases hfor : creditFor campaignId contributor credit = true
    · rw [if_pos hfor]
      exact .inl ⟨[], credit, credits, rfl, hfor, nofun, rfl⟩
    · rw [if_neg hfor]
      rw [Bool.not_eq_true] at hfor
      rcases ih with ⟨before, found, after, rfl, hfound, hbefore, heq⟩ | ⟨hnone, heq⟩
      · exact .inl ⟨credit :: before, found, after, rfl, hfound,
          List.forall_mem_cons.mpr ⟨hfor, hbefore⟩, by rw [heq]; rfl⟩
      · exact .inr ⟨List.forall_mem_cons.mpr ⟨hfor, hnone⟩, by rw [heq]; rfl⟩

def campaignSum (engine : PropagationEngine) (campaignId : CampaignId) : ℕ :=
  ((engine.credits.filter (·.campaignId = campaignId)).map (·.points)).sum

theorem foldl_saturating {l : List ℕ} {total : ℕ} (h : total ≤ u16Max) :
    l.foldl (fun total points => min (total + points) u16Max) total = min (total + l.sum) u16Max := by
  induction l generalizing total with
  | nil => simp [h]
  | cons points l ih =>
    rw [List.foldl_cons, ih (min_le_right _ _), List.sum_cons]
    omega

theorem campaignPoints_eq (campaignId : CampaignId) :
    engine.campaignPoints campaignId = min (campaignSum engine campaignId) u16Max := by
  unfold campaignPoints campaignSum
  rw [foldl_saturating (Nat.zero_le _), Nat.zero_add]

variable {campaignId : CampaignId} {contributor : CthulhuId} {credit : ContributionCredit}
  {points : ℕ} {claim : OutcomeClaim} {campaign : Campaign} {item : PropagationItem}
  {acknowledgement : Acknowledgement}

theorem campaignPoints_le : engine.campaignPoints campaignId ≤ maxTotalCampaignCredit ↔
      campaignSum engine campaignId ≤ maxTotalCampaignCredit := by
  rw [campaignPoints_eq, maxTotalCampaignCredit, u16Max]
  omega

/-- Every recorded outcome has been credited to its contributor. -/
def OutcomesCredited (engine : PropagationEngine) : Prop :=
  ∀ claim ∈ engine.outcomes.values, ∃ credit ∈ engine.credits,
    creditFor claim.campaignId claim.contributor credit = true

theorem creditFor_iff : creditFor campaignId contributor credit = true ↔
      (credit.campaignId, credit.cthulhuId) = (campaignId, contributor) := by
  unfold creditFor
  rw [Bool.and_eq_true, decide_eq_true_eq, decide_eq_true_eq, Prod.mk.injEq]

theorem addCredit_credited {credits : List ContributionCredit} :
    (∃ credit ∈ addCredit campaignId contributor points credits,
      creditFor campaignId contributor credit = true) ∧
    ∀ campaignId' contributor', (∃ credit ∈ credits,
      creditFor campaignId' contributor' credit = true) →
      ∃ credit ∈ addCredit campaignId contributor points credits,
        creditFor campaignId' contributor' credit = true := by
  rcases addCredit_cases campaignId contributor points credits with
    ⟨before, found, after, rfl, hfound, -, heq⟩ | ⟨-, heq⟩
  · rw [heq]
    refine ⟨⟨_, List.mem_append_right _ List.mem_cons_self, hfound⟩, ?_⟩
    rintro campaignId' contributor' ⟨credit, hcredit, hfor⟩
    rcases List.mem_append.mp hcredit with hcredit | hcredit
    · exact ⟨credit, List.mem_append_left _ hcredit, hfor⟩
    · rcases List.mem_cons.mp hcredit with rfl | hcredit
      · exact ⟨_, List.mem_append_right _ List.mem_cons_self, hfor⟩
      · exact ⟨credit, List.mem_append_right _ (List.mem_cons_of_mem _ hcredit), hfor⟩
  · rw [heq]
    refine ⟨⟨_, List.mem_append_right _ List.mem_cons_self, (creditFor_iff).mpr rfl⟩, ?_⟩
    rintro campaignId' contributor' ⟨credit, hcredit, hfor⟩
    exact ⟨credit, List.mem_append_left _ hcredit, hfor⟩

theorem OutcomesCredited.step (h : OutcomesCredited engine) (hj : Justified engine now effect) :
    OutcomesCredited (effect.apply engine) := by
  cases hj with
  | credited creditable =>
    obtain ⟨hown, hothers⟩ := addCredit_credited
    intro claim hclaim
    change claim ∈ (engine.outcomes.insert _ _).values at hclaim
    rw [HashMap.values_insert_fresh creditable.fresh] at hclaim
    rcases List.mem_cons.mp hclaim with rfl | hclaim
    · exact hown
    · exact hothers _ _ (h claim hclaim)
  | _ => exact h

/-! ## The invariant -/

/-- The entry of a contributor holds the points `record_outcome` reads. -/
theorem contributorPoints_of_mem
    (hkeys : (engine.credits.map fun credit => (credit.campaignId, credit.cthulhuId)).Nodup)
    (hcredit : credit ∈ engine.credits) :
    engine.contributorPoints credit.campaignId credit.cthulhuId = credit.points := by
  unfold contributorPoints
  have hfor : creditFor credit.campaignId credit.cthulhuId credit = true := (creditFor_iff).mpr rfl
  cases hfind : engine.credits.find? (creditFor credit.campaignId credit.cthulhuId) with
  | none => exact absurd hfor (List.find?_eq_none.mp hfind credit hcredit)
  | some found =>
    have hkey := (creditFor_iff).mp (List.find?_some hfind)
    rw [List.inj_on_of_nodup_map hkeys (List.mem_of_find?_eq_some hfind) hcredit hkey]
    rfl

theorem contributorPoints_absent
    (h : ∀ credit ∈ engine.credits, creditFor campaignId contributor credit = false) :
    engine.contributorPoints campaignId contributor = 0 := by
  unfold contributorPoints
  rw [List.find?_eq_none.mpr fun credit hcredit => by rw [h credit hcredit]; nofun]
  rfl

/-- What a recorded claim refers to is there after an effect as well. -/
theorem OutcomeValid.extend (h : OutcomeValid engine claim campaign item acknowledgement)
    {engine' : PropagationEngine} (hext : Extends engine engine')
    (hacks : ∀ id acknowledgement, engine.acknowledgements.get id = some acknowledgement →
      engine'.acknowledgements.get id = some acknowledgement) :
    ∃ campaign' item', OutcomeValid engine' claim campaign' item' acknowledgement := by
  obtain ⟨campaign', hcampaign, hterms⟩ := hext.campaigns _ _ h.campaignFound
  obtain ⟨item', hitem, hprogress⟩ := hext.items _ _ h.itemFound
  refine ⟨campaign', item', hcampaign, hitem, hacks _ _ h.acknowledgementFound, ?_, ?_, h.hash, ?_⟩
  · rw [hprogress.same]
    exact { h.evidence with }
  · rw [hterms]
    exact h.unexpired
  · rw [hterms]
    exact h.kind

theorem Justified.acknowledgement_kept (hj : Justified engine now effect) {id : AcknowledgementId}
    (h : engine.acknowledgements.get id = some acknowledgement) :
    (effect.apply engine).acknowledgements.get id = some acknowledgement := by
  cases hj with
  | @acknowledged item campaign added live accepted fresh =>
    refine (HashMap.get_insert_ne ?_).trans h
    rintro rfl
    cases fresh.symm.trans h
  | _ => exact h

/-- Credit in a campaign that is not there is impossible. -/
theorem CreditsValid.sum_absent (h : CreditsValid engine) {id : CampaignId}
    (habsent : engine.campaigns.get id = none) : engine.campaignPoints id = 0 := by
  have hnone : engine.credits.filter (·.campaignId = id) = [] := by
    rw [List.filter_eq_nil_iff]
    intro credit hcredit hid
    cases of_decide_eq_true hid
    obtain ⟨hpos, -⟩ := h.points credit hcredit
    obtain ⟨-, hle⟩ := h.evidence credit hcredit
    have hcount : 0 < engine.outcomeCount credit.campaignId credit.cthulhuId := by
      by_contra hzero
      rw [Nat.eq_zero_of_not_pos hzero] at hle
      omega
    obtain ⟨claim, hclaim, hkey⟩ := List.countP_pos_iff.mp hcount
    simp only [Bool.and_eq_true, decide_eq_true_eq] at hkey
    obtain ⟨campaign, item, acknowledgement, hvalid⟩ := h.outcomes claim hclaim
    have hfound := hvalid.campaignFound
    rw [hkey.1, habsent] at hfound
    cases hfound
  unfold campaignPoints
  rw [hnone]
  rfl

/-- An award adds its points to every sum over entries that its own entry belongs to. -/
theorem sum_award (p : CampaignId × CthulhuId → Bool)
    (hroom : engine.contributorPoints claim.campaignId claim.contributor + points ≤ u16Max) :
    (((engine.award claim points).credits.filter fun credit =>
      p (credit.campaignId, credit.cthulhuId)).map (·.points)).sum =
      ((engine.credits.filter fun credit =>
        p (credit.campaignId, credit.cthulhuId)).map (·.points)).sum +
        if p (claim.campaignId, claim.contributor) then points else 0 := by
  unfold award
  dsimp only
  rcases addCredit_cases claim.campaignId claim.contributor points engine.credits with
    ⟨before, found, after, hcredits, hfound, hbefore, heq⟩ | ⟨-, heq⟩
  · have hpoints : engine.contributorPoints claim.campaignId claim.contributor = found.points := by
      unfold contributorPoints
      rw [hcredits, List.find?_append, List.find?_eq_none.mpr fun x hx => by
        rw [hbefore x hx]; nofun, List.find?_cons_of_pos hfound]
      rfl
    rw [hpoints] at hroom
    rw [heq, hcredits]
    simp only [List.filter_append, List.filter_cons, List.map_append, List.sum_append,
      (creditFor_iff).mp hfound]
    split_ifs
    · rw [List.map_cons, List.map_cons, List.sum_cons, List.sum_cons, Nat.min_eq_left hroom]
      dsimp only
      omega
    · rfl
  · rw [heq, List.filter_append, List.map_append, List.sum_append]
    simp only [List.filter_cons, List.filter_nil]
    split_ifs <;> simp

/-- The sum of a campaign grows by the points awarded in it. -/
theorem campaignSum_award (campaignId : CampaignId)
    (hroom : engine.contributorPoints claim.campaignId claim.contributor + points ≤ u16Max) :
    campaignSum (engine.award claim points) campaignId =
      campaignSum engine campaignId + if claim.campaignId = campaignId then points else 0 := by
  have hsum := sum_award (fun key => key.1 = campaignId) hroom
  simp only [decide_eq_true_eq] at hsum
  exact hsum

/-- Recording a claim counts it for its contributor. -/
theorem outcomeCount_award (hfresh : engine.outcomes.get claim.id = none) (campaignId : CampaignId)
    (contributor : CthulhuId) : (engine.award claim points).outcomeCount campaignId contributor =
      engine.outcomeCount campaignId contributor +
        if (claim.campaignId, claim.contributor) = (campaignId, contributor) then 1 else 0 := by
  unfold outcomeCount award
  dsimp only
  rw [HashMap.values_insert_fresh hfresh, List.countP_cons]
  simp only [Bool.and_eq_true, decide_eq_true_eq, Prod.mk.injEq]

theorem creditFor_false_iff : creditFor campaignId contributor credit = false ↔
      (credit.campaignId, credit.cthulhuId) ≠ (campaignId, contributor) := by
  rw [← Bool.not_eq_true, creditFor_iff]

/-- The entries after an award agree with the outcomes recorded. -/
theorem CreditsValid.entries_award (h : CreditsValid engine) (hcredited : OutcomesCredited engine)
    (hlimit : engine.outcomes.len ≤ maxAcknowledgements)
    (hcreditable : Creditable engine claim points campaign item acknowledgement) :
    ((engine.award claim points).credits.map fun credit =>
      (credit.campaignId, credit.cthulhuId)).Nodup ∧
    ∀ credit ∈ (engine.award claim points).credits,
      (0 < credit.points ∧ credit.points ≤ maxCreditPerCthulhuPerCampaign) ∧
      (engine.award claim points).outcomeCount credit.campaignId credit.cthulhuId =
        credit.creditedOutcomes ∧
      credit.points ≤ (engine.award claim points).outcomeCount credit.campaignId
        credit.cthulhuId * maxCreditPerOutcome := by
  have hother : ∀ credit ∈ engine.credits, creditFor claim.campaignId claim.contributor credit = false →
      (0 < credit.points ∧ credit.points ≤ maxCreditPerCthulhuPerCampaign) ∧
      (engine.award claim points).outcomeCount credit.campaignId credit.cthulhuId =
        credit.creditedOutcomes ∧
      credit.points ≤ (engine.award claim points).outcomeCount credit.campaignId
        credit.cthulhuId * maxCreditPerOutcome := by
    intro credit hcredit hfor
    rw [outcomeCount_award hcreditable.fresh, if_neg ((creditFor_false_iff).mp hfor).symm]
    exact ⟨h.points credit hcredit, h.evidence credit hcredit⟩
  have hcap := hcreditable.contributorCap
  have hpoints := hcreditable.outcomeCap
  have hpos := hcreditable.points_pos
  rcases addCredit_cases claim.campaignId claim.contributor points engine.credits with
    ⟨before, found, after, hcredits, hfound, hbefore, heq⟩ | ⟨hnone, heq⟩
  · have hmem : found ∈ engine.credits := by
      rw [hcredits]
      exact List.mem_append_right _ List.mem_cons_self
    have hkeys := h.keys
    have hkey := (creditFor_iff).mp hfound
    rw [hcredits, List.map_append, List.map_cons, hkey] at hkeys
    have hafter : ∀ other ∈ after, creditFor claim.campaignId claim.contributor other = false := by
      intro other hother
      refine (creditFor_false_iff).mpr fun hsame => ?_
      have hnodup := (List.nodup_append.mp hkeys).2.1
      exact (List.nodup_cons.mp hnodup).1 (hsame ▸ List.mem_map_of_mem hother)
    have hold := contributorPoints_of_mem h.keys hmem
    obtain ⟨hcampaignId, hcontributor⟩ := Prod.mk.inj hkey
    rw [hcampaignId, hcontributor] at hold
    obtain ⟨hcount, hbound⟩ := h.evidence found hmem
    have hlen : engine.outcomeCount found.campaignId found.cthulhuId ≤ engine.outcomes.len := by
      rw [← HashMap.length_values]
      exact List.countP_le_length
    have hfoundPos := (h.points found hmem).1
    have hsmall : found.points + points ≤ maxCreditPerCthulhuPerCampaign := by omega
    unfold maxCreditPerCthulhuPerCampaign at hsmall ⊢
    unfold maxAcknowledgements at hlimit
    change ((addCredit claim.campaignId claim.contributor points engine.credits).map _).Nodup ∧
      ∀ credit ∈ addCredit claim.campaignId claim.contributor points engine.credits, _
    rw [heq]
    constructor
    · rw [List.map_append, List.map_cons]
      dsimp only
      rw [hkey]
      exact hkeys
    · intro credit hcredit
      rcases List.mem_append.mp hcredit with hcredit | hcredit
      · exact hother credit (by rw [hcredits]; exact List.mem_append_left _ hcredit)
          (hbefore credit hcredit)
      · rcases List.mem_cons.mp hcredit with rfl | hcredit
        · rw [outcomeCount_award hcreditable.fresh, if_pos hkey.symm]
          unfold maxCreditPerOutcome u16Max at *
          dsimp only
          omega
        · exact hother credit (by
            rw [hcredits]
            exact List.mem_append_right _ (List.mem_cons_of_mem _ hcredit)) (hafter credit hcredit)
  · have hzero : engine.outcomeCount claim.campaignId claim.contributor = 0 := by
      unfold outcomeCount
      rw [List.countP_eq_zero]
      intro other hotherClaim hkey
      simp only [Bool.and_eq_true, decide_eq_true_eq] at hkey
      obtain ⟨credit, hcredit, hfor⟩ := hcredited other hotherClaim
      rw [hkey.1, hkey.2, hnone credit hcredit] at hfor
      cases hfor
    have hold := contributorPoints_absent hnone
    change ((addCredit claim.campaignId claim.contributor points engine.credits).map _).Nodup ∧
      ∀ credit ∈ addCredit claim.campaignId claim.contributor points engine.credits, _
    rw [heq]
    constructor
    · rw [List.map_append, List.nodup_append]
      refine ⟨h.keys, List.nodup_singleton _, ?_⟩
      rintro _ hmem _ hnew rfl
      obtain ⟨credit, hcredit, hkey⟩ := List.mem_map.mp hmem
      exact (creditFor_false_iff).mp (hnone credit hcredit) (hkey.trans (List.mem_singleton.mp hnew))
    · intro credit hcredit
      rcases List.mem_append.mp hcredit with hcredit | hcredit
      · exact hother credit hcredit (hnone credit hcredit)
      · cases List.mem_singleton.mp hcredit
        rw [outcomeCount_award hcreditable.fresh, if_pos rfl, hzero]
        unfold maxCreditPerCthulhuPerCampaign maxCreditPerOutcome at *
        dsimp only
        omega

theorem CreditsValid.step (h : CreditsValid engine) (hcredited : OutcomesCredited engine)
    (hlimit : engine.outcomes.len ≤ maxAcknowledgements) (hj : Justified engine now effect) :
    CreditsValid (effect.apply engine) := by
  have houtcomes : ∀ claim ∈ engine.outcomes.values, ∃ campaign item acknowledgement,
      OutcomeValid (effect.apply engine) claim campaign item acknowledgement := by
    intro claim hclaim
    obtain ⟨campaign, item, acknowledgement, hvalid⟩ := h.outcomes claim hclaim
    obtain ⟨campaign', item', hvalid'⟩ := hvalid.extend hj.extends fun _ _ =>
      hj.acknowledgement_kept
    exact ⟨campaign', item', acknowledgement, hvalid'⟩
  have hcap : ∀ id campaign', (effect.apply engine).campaigns.get id = some campaign' →
      engine.campaignPoints id ≤ maxTotalCampaignCredit := by
    intro id campaign' hget
    rcases hj.campaign_cases hget with ⟨campaign, hfound, -⟩ | ⟨-, -, habsent⟩
    · exact h.campaignCap id campaign hfound
    · rw [h.sum_absent habsent]
      exact Nat.zero_le _
  cases hj with
  | @credited claim points campaign item acknowledgement creditable =>
    obtain ⟨hkeys, hentries⟩ := h.entries_award hcredited hlimit creditable
    have hvalues : (engine.award claim points).outcomes.values = claim :: engine.outcomes.values :=
      HashMap.values_insert_fresh creditable.fresh
    have hunused : claim.acknowledgementId ∉ engine.outcomes.values.map (·.acknowledgementId) := by
      have := creditable.unused
      rwa [h.used, List.mem_toFinset] at this
    refine ⟨fun id found hget => ?_, ?_, ?_, ?_, hkeys, fun credit hcredit =>
      (hentries credit hcredit).1, fun credit hcredit => (hentries credit hcredit).2,
      fun id campaign' hget => ?_⟩
    · change (engine.outcomes.insert claim.id claim).get id = some found at hget
      rw [HashMap.get_insert_apply] at hget
      split_ifs at hget with hid
      · cases hget
        exact ⟨hid, creditable.distinct⟩
      · exact h.key id found hget
    · change ∀ claim' ∈ (engine.award claim points).outcomes.values, _
      rw [hvalues]
      exact List.forall_mem_cons.mpr ⟨⟨campaign, item, acknowledgement, creditable.campaignFound,
        creditable.itemFound, creditable.acknowledgementFound, creditable.evidence,
        creditable.unexpired, creditable.hash, creditable.kind⟩, houtcomes⟩
    · change ((engine.award claim points).outcomes.values.map _).Nodup
      rw [hvalues]
      exact List.nodup_cons.mpr ⟨hunused, h.acknowledgements⟩
    · change insert claim.acknowledgementId engine.usedAcknowledgements =
        ((engine.award claim points).outcomes.values.map _).toFinset
      rw [hvalues, List.map_cons, List.toFinset_cons, h.used]
    · have hroom := creditable.contributorCap
      have hsum := creditable.campaignCap
      have hold := hcap id campaign' hget
      change (engine.award claim points).campaignPoints id ≤ _
      rw [campaignPoints_le] at hold ⊢
      rw [campaignSum_award id (hroom.trans (by decide))]
      rw [campaignPoints_eq, maxTotalCampaignCredit, u16Max] at hsum
      split_ifs with hid
      · subst hid
        unfold maxTotalCampaignCredit
        omega
      · exact hold
  | _ => exact { h with outcomes := houtcomes, campaignCap := hcap }

end Cthuwu.Propagation
