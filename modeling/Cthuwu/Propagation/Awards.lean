import Cthuwu.Propagation.Forest

/-!
# Awards

The awards of a run, as the replies of `record_outcome` report them, against the credit the
engine holds. `AwardsValid` says that the awards are for the outcomes recorded and add up to
the entries, whatever entries are summed. With the invariant of the engine it gives
`credit_safe` : an outcome is credited once and to its direct sender, the caps hold, and
nothing is credited once the campaign has been revoked.
-/

namespace Cthuwu.Propagation

open Council PropagationEngine Fallible

section

variable [Hashing] {engine : PropagationEngine} {effect : Effect} {w : World} {now : ℤ}

/-! ## Sums -/

/-- The points of the entries whose campaign and contributor satisfy `p`. -/
def entrySum (engine : PropagationEngine) (p : CampaignId × CthulhuId → Bool) : ℕ :=
  ((engine.credits.filter fun credit =>
    p (credit.campaignId, credit.cthulhuId)).map (·.points)).sum

/-- The points of the awards whose campaign and contributor satisfy `p`. -/
def World.awardSum (w : World) (p : CampaignId × CthulhuId → Bool) : ℕ :=
  ((w.awards.filter fun award =>
    p (award.claim.campaignId, award.claim.contributor)).map (·.points)).sum

def World.awardsIn (w : World) (campaignId : CampaignId) : List Award :=
  w.awards.filter (·.claim.campaignId = campaignId)

/-- What a contributor has been awarded in a campaign. -/
def World.awarded (w : World) (campaignId : CampaignId) (contributor : CthulhuId) : ℕ :=
  (((w.awardsIn campaignId).filter (·.claim.contributor = contributor)).map (·.points)).sum

theorem awarded_eq (w : World) (campaignId : CampaignId) (contributor : CthulhuId) :
    w.awarded campaignId contributor =
      w.awardSum fun key => key.1 = campaignId && key.2 = contributor := by
  unfold World.awarded World.awardSum World.awardsIn
  rw [List.filter_filter]
  simp only [Bool.and_comm]

/-- The awards of a run are those of its outcomes and add up to its entries. -/
structure AwardsValid (w : World) : Prop where
  claims : (w.awards.map (·.claim)).Perm w.engine.outcomes.values
  points : ∀ award ∈ w.awards, 0 < award.points ∧ award.points ≤ maxCreditPerOutcome
  sums : ∀ p, entrySum w.engine p = w.awardSum p

theorem awards_after (h : effect.credit = none) : (w.after now effect).awards = w.awards := by
  unfold World.after World.record
  rw [h]
  exact List.append_nil _

theorem awards_credited (claim : OutcomeClaim) (points : ℕ) :
    (w.after now (.credited claim points)).awards = w.awards ++ [⟨claim, points⟩] :=
  rfl

theorem AwardsValid.after (h : AwardsValid w) (hj : Justified w.engine now effect) :
    AwardsValid (w.after now effect) := by
  cases hj with
  | @credited claim points campaign item acknowledgement creditable =>
    refine ⟨?_, ?_, fun p => ?_⟩
    · change List.Perm _ (w.engine.outcomes.insert claim.id claim).values
      rw [HashMap.values_insert_fresh creditable.fresh, awards_credited, List.map_append]
      exact (List.perm_append_singleton _ _).trans (h.claims.cons _)
    · rw [awards_credited]
      intro award haward
      rcases List.mem_append.mp haward with haward | haward
      · exact h.points award haward
      · rw [List.mem_singleton.mp haward]
        exact ⟨creditable.points_pos, creditable.outcomeCap⟩
    · change entrySum (w.engine.award claim points) p = _
      unfold entrySum World.awardSum
      rw [sum_award p (creditable.contributorCap.trans (by decide)), awards_credited,
        List.filter_append, List.map_append, List.sum_append]
      congr 1
      · exact h.sums p
      · rw [List.filter_cons]
        split_ifs <;> rfl
  | _ =>
    refine ⟨?_, ?_, fun p => ?_⟩
    · rw [awards_after rfl]
      exact h.claims
    · rw [awards_after rfl]
      exact h.points
    · unfold World.awardSum
      rw [awards_after rfl]
      exact h.sums p

theorem reachable_awardsValid (h : machine.Reachable w) : AwardsValid w :=
  invariant ⟨.refl _, nofun, fun _ => rfl⟩ (fun _ _ _ hw _ hj => hw.after hj) h

/-! ## Revocation -/

def Revoked (engine : PropagationEngine) (id : CampaignId) : Prop :=
  ∃ campaign, engine.campaigns.get id = some campaign ∧ campaign.revokedAt.isSome

variable {id : CampaignId}

/-- A revoked campaign stays revoked. -/
theorem Revoked.step (h : Revoked engine id) (hj : Justified engine now effect) :
    Revoked (effect.apply engine) id := by
  obtain ⟨campaign, hget, hrevoked⟩ := h
  cases hj with
  | created fresh =>
    refine ⟨campaign, (HashMap.get_insert_ne ?_).trans hget, hrevoked⟩
    rintro rfl
    cases fresh.symm.trans hget
  | revoked found unrevoked =>
    refine ⟨campaign, (HashMap.get_insert_ne ?_).trans hget, hrevoked⟩
    rintro rfl
    cases found.symm.trans hget
    rw [unrevoked] at hrevoked
    cases hrevoked
  | _ => exact ⟨campaign, hget, hrevoked⟩

theorem Revoked.awardsIn_after (h : Revoked w.engine id) (hj : Justified w.engine now effect) :
    (w.after now effect).awardsIn id = w.awardsIn id := by
  obtain ⟨campaign, hget, hrevoked⟩ := h
  unfold World.awardsIn
  cases hj with
  | @credited claim points campaign' item acknowledgement creditable =>
    have hother : claim.campaignId ≠ id := by
      rintro rfl
      cases hget.symm.trans creditable.campaignFound
      rw [creditable.unrevoked] at hrevoked
      cases hrevoked
    rw [awards_credited, List.filter_append, List.filter_cons_of_neg (by simpa using hother),
      List.filter_nil, List.append_nil]
  | _ => rw [awards_after rfl]

/-- Nothing is awarded in a revoked campaign, however the run continues. -/
theorem Revoked.awardsIn_run {w : World} (h : Revoked w.engine id) (labels : List Label) :
    (labels.foldl World.step w).awardsIn id = w.awardsIn id := by
  induction labels generalizing w with
  | nil => rfl
  | cons l labels ih =>
    obtain ⟨effect, hj, -, hstep⟩ := step_effect w l
    rw [List.foldl_cons, hstep, ih (h.step hj)]
    exact h.awardsIn_after hj

/-! ## Credit safety -/

/-- What a run has credited. -/
structure CreditSafe (w : World) : Prop where
  /-- An outcome is credited once. -/
  outcomes : (w.awards.map (·.claim.id)).Nodup
  /-- An acknowledgement is credited once. -/
  acknowledgements : (w.awards.map (·.claim.acknowledgementId)).Nodup
  /-- Credit goes to the direct sender of the acknowledged item. -/
  direct : ∀ award ∈ w.awards, ∃ item acknowledgement,
    w.engine.items.get award.claim.itemId = some item ∧
    w.engine.acknowledgements.get award.claim.acknowledgementId = some acknowledgement ∧
    acknowledgement.itemId = item.id ∧ item.status = .acknowledged ∧
    item.campaignId = award.claim.campaignId ∧ award.claim.contributor = item.sender
  outcomeCap : ∀ award ∈ w.awards, 0 < award.points ∧ award.points ≤ 5
  /-- The stored totals are the sums of the entries. -/
  stored : CreditSound w.engine
  /-- The entries hold what has been awarded. -/
  contributor : ∀ campaignId contributor,
    w.engine.contributorPoints campaignId contributor = w.awarded campaignId contributor
  campaign : ∀ campaignId,
    w.engine.campaignPoints campaignId = ((w.awardsIn campaignId).map (·.points)).sum
  contributorCap : ∀ campaignId contributor, w.awarded campaignId contributor ≤ 20
  campaignCap : ∀ campaignId, ((w.awardsIn campaignId).map (·.points)).sum ≤ 512

theorem reachable_creditSafe (h : machine.Reachable w) : CreditSafe w := by
  have hvalid := reachable_awardsValid h
  have hloadable := (reachable_sound h).loadable
  have hsound := hloadable.credits.sound
  have hcontributor : ∀ campaignId contributor,
      contributorSum w.engine campaignId contributor = w.awarded campaignId contributor := by
    intro campaignId contributor
    rw [awarded_eq]
    exact hvalid.sums fun key => key.1 = campaignId && key.2 = contributor
  have hcampaign : ∀ campaignId, campaignSum w.engine campaignId =
      ((w.awardsIn campaignId).map (·.points)).sum := fun campaignId =>
    hvalid.sums fun key => key.1 = campaignId
  have hclaim : ∀ award ∈ w.awards, award.claim ∈ w.engine.outcomes.values := fun award haward =>
    hvalid.claims.mem_iff.mp (List.mem_map_of_mem haward)
  have hids : (w.engine.outcomes.values.map (·.id)).Nodup := by
    rw [HashMap.map_values_key fun id claim hget => (hloadable.credits.key id claim hget).1]
    exact HashMap.nodup_keys _
  have hperm : ∀ {β : Type} (f : OutcomeClaim → β),
      (w.awards.map fun award => f award.claim).Perm (w.engine.outcomes.values.map f) := by
    intro β f
    have hmap := hvalid.claims.map f
    rwa [List.map_map] at hmap
  exact {
    outcomes := (hperm _).nodup_iff.mpr hids
    acknowledgements := (hperm _).nodup_iff.mpr hloadable.credits.acknowledgements
    direct := fun award haward => by
      obtain ⟨campaign, item, acknowledgement, hout⟩ :=
        hloadable.credits.outcomes award.claim (hclaim award haward)
      obtain ⟨item', hitem', -, hmatches⟩ := hloadable.acknowledgements.matching acknowledgement
        (HashMap.get_mem_values hout.acknowledgementFound)
      have hkey := hloadable.items.key _ _ hout.itemFound
      rw [hout.evidence.itemId, ← hkey, hout.itemFound] at hitem'
      cases hitem'
      exact ⟨item, acknowledgement, hout.itemFound, hout.acknowledgementFound,
        hout.evidence.itemId, hmatches.status, hout.evidence.campaignId,
        hout.evidence.contributor.symm⟩
    outcomeCap := hvalid.points
    stored := hsound
    contributor := fun campaignId contributor =>
      (hsound.contributor campaignId contributor).trans (hcontributor campaignId contributor)
    campaign := fun campaignId => (hsound.campaign campaignId).trans (hcampaign campaignId)
    contributorCap := fun campaignId contributor =>
      hcontributor campaignId contributor ▸ hsound.contributorCap campaignId contributor
    campaignCap := fun campaignId => hcampaign campaignId ▸ hsound.campaignCap campaignId }

end

/-- In every run, with any incentive models, credit is safe, nothing is credited in a revoked
campaign however the run continues, and a call of `record_outcome` or `acknowledge_outcome`
that fails leaves the engine as it was. -/
theorem credit_safe [Hashing] {w : World} (h : machine.Reachable w) : CreditSafe w ∧
    (∀ id, Revoked w.engine id → ∀ labels, machine.Admits w labels →
      (labels.foldl World.step w).awardsIn id = w.awardsIn id ∧
      (labels.foldl World.step w).engine.campaignPoints id = w.engine.campaignPoints id ∧
      ∀ contributor, (labels.foldl World.step w).engine.contributorPoints id contributor =
        w.engine.contributorPoints id contributor) ∧
    (∀ claim model, Atomic (recordOutcome claim model)) ∧
    ∀ itemId acknowledgementId authenticatedRecipient outcome evidenceHash now,
      Atomic (acknowledgeOutcome itemId acknowledgementId authenticatedRecipient outcome
        evidenceHash now) := by
  refine ⟨reachable_creditSafe h, fun id hrevoked labels hlabels => ?_,
    fun _ _ => atomic_recordOutcome, fun _ _ _ _ _ _ => atomic_acknowledgeOutcome⟩
  have hbefore := reachable_creditSafe h
  have hafter : CreditSafe (labels.foldl World.step w) := reachable_creditSafe (h.run hlabels)
  have hsame := hrevoked.awardsIn_run labels
  refine ⟨hsame, ?_, fun contributor => ?_⟩
  · rw [hafter.campaign, hbefore.campaign, hsame]
  · rw [hafter.contributor, hbefore.contributor, World.awarded, World.awarded, hsame]

attribute [local instance] sampleHashing in
/-- A is credited with two points for what B acknowledged. -/
theorem credit_safe_sample : CreditSafe (sampleRun sampleStart) ∧
    (sampleRun sampleStart).awards = [⟨sampleClaim, 2⟩] :=
  ⟨(credit_safe (Machine.Reachable.init.run (admits_of_sorted (by decide)))).1,
    sampleForward_run.1⟩

end Cthuwu.Propagation
