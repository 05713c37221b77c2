import Cthuwu.Propagation.Awards

/-!
# Registries that can be loaded again

Every reached engine satisfies `Loadable`, so that a reload can only fail over the two
conditions that are not part of it. A campaign may be revoked in the second in which an item
of it was sent, while the reload wants items and outcomes older than the revocation :
`OrderedRevocation` is the condition on a request under which that does not happen, and
`reload_accepts` says that it is exactly what a reload needs. A validator accepts the hops it
accepted before when its verdict is `Steady`.

Every delivery is checked against the opt-outs, the block rules between sender and
recipient, and those of the recipient against the members of the path so far. A rule of such
a member against the recipient is not looked at : `Clear` is the condition on a forward that
there is none, and `blocking_honoured` says that it is what the delivery needs.
-/

namespace Cthuwu.Propagation

open Council PropagationEngine Fallible

section

variable [Hashing] {engine : PropagationEngine} {effect : Effect} {w : World} {now : ℤ}
  {validator : PropagationPolicyValidator}

/-! ## Revocation -/

/-- The items and the outcomes of a campaign are older than `now`. -/
def OlderThan (engine : PropagationEngine) (id : CampaignId) (now : ℤ) : Prop :=
  (∀ item ∈ engine.items.values, item.campaignId = id → item.createdAt < now) ∧
    ∀ claim ∈ engine.outcomes.values, claim.campaignId = id → claim.occurredAt < now

/-- The call will revoke the campaign. -/
structure Revokes (engine : PropagationEngine) (now : ℤ) (id : CampaignId) (root : CthulhuId)
    (reason : String) (campaign : Campaign) : Prop where
  found : engine.campaigns.get id = some campaign
  root : campaign.root = root
  text : validateText reason maxShortTextBytes "revocation reason" false = .ok ()
  time : campaign.createdAt ≤ now
  unrevoked : campaign.revokedAt = none

/-- A revocation that takes effect is later than the items and the outcomes of its campaign. -/
def OrderedRevocation (w : World) (l : Label) : Prop :=
  ∀ id root reason campaign, l.request = .revokeCampaign id root reason →
    Revokes w.engine l.now id root reason campaign → OlderThan w.engine id l.now

theorem orderedRevocation_of_ne {l : Label}
    (h : ∀ id root reason, l.request ≠ .revokeCampaign id root reason) : OrderedRevocation w l :=
  fun id root reason _ hrequest => absurd hrequest (h id root reason)

theorem revocationOrdered_fresh : RevocationOrdered .fresh :=
  ⟨nofun, nofun⟩

theorem RevocationOrdered.step (h : RevocationOrdered engine) (hregistry : RegistryValid engine)
    (hj : Justified engine now effect)
    (hrevoke : ∀ id campaign reason, effect = .revoked id campaign now reason →
      OlderThan engine id now) : RevocationOrdered (effect.apply engine) := by
  -- a campaign revoked after the effect was revoked before, or is by it
  have hcases : ∀ id campaign' revokedAt, (effect.apply engine).campaigns.get id = some campaign' →
      campaign'.revokedAt = some revokedAt →
      (engine.campaigns.get id = some campaign') ∨ (OlderThan engine id now ∧ revokedAt = now) := by
    intro id campaign' revokedAt hget hrevoked
    cases hj with
    | @created campaign fresh room valid unrevoked =>
      change (engine.campaigns.insert campaign.id campaign).get id = some campaign' at hget
      rw [HashMap.get_insert_apply] at hget
      split_ifs at hget with hid
      · cases hget
        cases unrevoked.symm.trans hrevoked
      · exact .inl hget
    | @revoked revokedId campaign reason found =>
      change (engine.campaigns.insert revokedId (campaign.revoke now reason)).get id =
        some campaign' at hget
      rw [HashMap.get_insert_apply] at hget
      split_ifs at hget with hid
      · cases hget
        cases hrevoked
        exact .inr ⟨hid ▸ hrevoke revokedId campaign reason rfl, rfl⟩
      · exact .inl hget
    | _ => exact .inl hget
  constructor
  · intro item' hmem campaign' revokedAt hget hrevoked
    rcases hj.mem_items hmem with ⟨item, hitem, hprogress⟩ | rfl
    · rw [hprogress.same] at hget ⊢
      rcases hcases _ _ _ hget hrevoked with hold | ⟨hnew, rfl⟩
      · exact h.items item hitem campaign' revokedAt hold hrevoked
      · exact hnew.1 item hitem rfl
    · obtain _ | _ | _ | _ | ⟨_, prepared⟩ := hj
      obtain ⟨reason, hstrict⟩ := prepared.strict
      obtain ⟨-, hunrevoked, -⟩ := strictHopValidator_ok hstrict
      cases hget.symm.trans (prepared.campaignFound hregistry)
      cases hunrevoked.symm.trans hrevoked
  · have hold : ∀ claim ∈ engine.outcomes.values, ∀ campaign' revokedAt,
        (effect.apply engine).campaigns.get claim.campaignId = some campaign' →
        campaign'.revokedAt = some revokedAt → claim.occurredAt < revokedAt := by
      intro claim hclaim campaign' revokedAt hget hrevoked
      rcases hcases _ _ _ hget hrevoked with hold | ⟨hnew, rfl⟩
      · exact h.outcomes claim hclaim campaign' revokedAt hold hrevoked
      · exact hnew.2 claim hclaim rfl
    cases hj with
    | @credited claim points campaign item acknowledgement creditable =>
      change ∀ claim' ∈ (engine.outcomes.insert claim.id claim).values, _
      rw [HashMap.values_insert_fresh creditable.fresh]
      refine List.forall_mem_cons.mpr ⟨?_, hold⟩
      intro campaign' revokedAt hget hrevoked
      cases creditable.campaignFound.symm.trans hget
      cases creditable.unrevoked.symm.trans hrevoked
    | _ => exact hold

variable {campaign : Campaign}

theorem Revokes.run {id : CampaignId} {root : CthulhuId} {reason : String}
    (h : Revokes engine now id root reason campaign) :
    ((Request.revokeCampaign id root reason).run now).exec engine =
      (.ok .done, Effect.apply engine (.revoked id campaign now reason)) := by
  unfold Request.run
  rw [bind_ok]
  refine ⟨(), _, ?_, exec_pure _ _⟩
  unfold revokeCampaign
  simp only [lift_bind_ok, exists_unit, exec_get_bind, failIf_ok, okOr_ok]
  refine ⟨h.text, campaign, h.found, not_not.mpr h.root, not_lt.mpr h.time, ?_⟩
  rw [if_pos h.unrevoked, exec_modify]
  rfl

/-- A campaign that has just been revoked is newer than its items and outcomes only when
they are older than `now`. -/
theorem olderThan_of_ordered {id : CampaignId} {reason : String}
    (h : RevocationOrdered (Effect.apply engine (.revoked id campaign now reason))) :
    OlderThan engine id now := by
  have hget : (Effect.apply engine (.revoked id campaign now reason)).campaigns.get id =
      some (campaign.revoke now reason) := HashMap.get_insert
  constructor
  · rintro item hitem rfl
    exact h.items item hitem _ now hget rfl
  · rintro claim hclaim rfl
    exact h.outcomes claim hclaim _ now hget rfl

/-! ## Validators -/

/-- The verdict on a hop does not change with the revocation of its campaign, nor with the
status of its parent once accepted. -/
def Steady (validator : PropagationPolicyValidator) : Prop :=
  ∀ campaign campaign' parent parent' sender recipient now, SameTerms campaign campaign' →
    Option.Rel Progress parent parent' →
    validator campaign parent sender recipient now = validator campaign' parent' sender recipient now

theorem steady_noAdditionalHopPolicy : Steady noAdditionalHopPolicy :=
  fun _ _ _ _ _ _ _ _ _ => rfl

/-- `validator` admits the hops that `other` admits. -/
def Subsumes (validator other : PropagationPolicyValidator) : Prop :=
  ∀ campaign parent sender recipient now reason,
    other campaign parent sender recipient now = .ok reason →
    validateText reason maxShortTextBytes "local policy explanation" false = .ok () →
    ∃ reason', validator campaign parent sender recipient now = .ok reason' ∧
      validateText reason' maxShortTextBytes "local policy explanation" false = .ok ()

theorem subsumes_noAdditionalHopPolicy (other : PropagationPolicyValidator) :
    Subsumes noAdditionalHopPolicy other :=
  fun _ _ _ _ _ _ _ _ => ⟨_, rfl, by decide +kernel⟩

/-- A request to send is checked by a validator that is no laxer. -/
def SentUnder (validator : PropagationPolicyValidator) (l : Label) : Prop :=
  ∀ other, l.request.validator = some other → Subsumes validator other

/-- A steady validator admits again what it has admitted. -/
theorem PolicyAccepts.step (h : PolicyAccepts engine validator) (hsteady : Steady validator)
    (hregistry : RegistryValid engine) (hj : Justified engine now effect)
    (hsent : ∀ item, effect = .delivered item → ∃ other campaignId campaign parent,
      Subsumes validator other ∧ Prepared engine other now campaignId campaign parent item) :
    PolicyAccepts (effect.apply engine) validator := by
  have hext := hj.extends
  have hkeep : ∀ {item item' : PropagationItem} {campaign parent reason}, Progress item item' →
      engine.campaigns.get item.campaignId = some campaign →
      engine.findParent item.parentItemId = .ok parent →
      validator campaign parent item.sender item.recipient item.createdAt = .ok reason →
      validateText reason maxShortTextBytes "local policy explanation" false = .ok () →
      ∃ campaign' parent' reason',
        (effect.apply engine).campaigns.get item'.campaignId = some campaign' ∧
        (effect.apply engine).findParent item'.parentItemId = .ok parent' ∧
        validator campaign' parent' item'.sender item'.recipient item'.createdAt = .ok reason' ∧
        validateText reason' maxShortTextBytes "local policy explanation" false = .ok () := by
    intro item item' campaign parent reason hprogress hfound hparent hverdict htext
    obtain ⟨campaign', hfound', hterms⟩ := hext.campaigns _ _ hfound
    obtain ⟨parent', hparent', hrelated⟩ := findParent_extend hparent hext
    rw [hprogress.same]
    refine ⟨campaign', parent', reason, hfound', hparent', ?_, htext⟩
    refine (hsteady _ _ _ _ _ _ _ hterms ?_).symm.trans hverdict
    rcases hrelated with ⟨rfl, rfl⟩ | ⟨found, found', rfl, rfl, -, hfound⟩
    · exact .none
    · exact .some hfound
  intro item' hmem
  rcases hj.mem_items hmem with ⟨item, hitem, hprogress⟩ | rfl
  · obtain ⟨campaign, parent, reason, hfound, hparent, hverdict, htext⟩ := h item hitem
    exact hkeep hprogress hfound hparent hverdict htext
  · obtain ⟨other, campaignId, campaign, parent, hsubsumes, prepared⟩ := hsent item' rfl
    obtain ⟨reason, hother, htext⟩ := prepared.policy
    obtain ⟨reason', hverdict, htext'⟩ := hsubsumes _ _ _ _ _ _ hother htext
    rw [← prepared.createdAt] at hverdict
    exact hkeep (.refl item') (prepared.campaignFound hregistry) prepared.parentFound hverdict htext'

theorem policyAccepts_fresh : PolicyAccepts .fresh validator :=
  nofun

/-! ## Runs -/

/-- The runs in which revocations come late enough and `validator` would have admitted every
send. -/
def Orderly (validator : PropagationPolicyValidator) (w : World) (l : Label) : Prop :=
  OrderedRevocation w l ∧ SentUnder validator l

theorem step_ordered (h : RevocationOrdered w.engine) (hsound : Sound w) {l : Label}
    (hl : OrderedRevocation w l) : RevocationOrdered (w.step l).engine := by
  obtain ⟨effect, hj, hasks, hstep⟩ := step_effect w l
  rw [hstep]
  refine h.step hsound.loadable.registry hj ?_
  rintro id campaign reason rfl
  obtain _ | _ | _ | _ | _ | _ | _ | ⟨found, unrevoked, time, text⟩ := hj
  exact hl id campaign.root reason campaign hasks ⟨found, rfl, text, time, unrevoked⟩

theorem step_accepts (h : PolicyAccepts w.engine validator) (hsteady : Steady validator)
    (hsound : Sound w) {l : Label} (hl : SentUnder validator l) :
    PolicyAccepts (w.step l).engine validator := by
  obtain ⟨effect, hj, hasks, hstep⟩ := step_effect w l
  rw [hstep]
  refine h.step hsteady hsound.loadable.registry hj ?_
  rintro item rfl
  obtain ⟨-, other, campaignId, campaign, parent, hother, prepared⟩ := hasks
  exact ⟨other, campaignId, campaign, parent, hl other hother, prepared⟩

theorem orderly_accepts (hsteady : Steady validator)
    (h : (machine.restrict (Orderly validator)).Reachable w) :
    RevocationOrdered w.engine ∧ PolicyAccepts w.engine validator := by
  refine h.invariant (P := fun w => RevocationOrdered w.engine ∧ PolicyAccepts w.engine validator)
    ⟨revocationOrdered_fresh, policyAccepts_fresh⟩ fun w l hreach hw hl => ?_
  have hsound := reachable_sound hreach.of_restrict
  exact ⟨step_ordered hw.1 hsound hl.2.1, step_accepts hw.2 hsteady hsound hl.2.2⟩

theorem ordered_orderly (h : (machine.restrict OrderedRevocation).Reachable w) :
    (machine.restrict (Orderly noAdditionalHopPolicy)).Reachable w := by
  induction h with
  | init => exact .init
  | next _ hl ih =>
    exact Machine.Reachable.next (M := machine.restrict (Orderly noAdditionalHopPolicy)) ih
      ⟨hl.1, hl.2, fun other _ => subsumes_noAdditionalHopPolicy other⟩

end

/-- In every run whose revocations are later than the items and the outcomes of their
campaign the engine reloads at every time that is not negative, and with every steady policy
under which all was sent. A revocation that is not later leaves an engine that does not
reload. -/
theorem reload_accepts [Hashing] : (∀ w, (machine.restrict OrderedRevocation).Reachable w → ∀ now,
      w.engine.validateLoadedState now = .ok () ↔ 0 ≤ now) ∧
    (∀ validator, Steady validator → ∀ w, (machine.restrict (Orderly validator)).Reachable w →
      ∀ now, w.engine.validateLoadedStateWithPolicy now validator = .ok () ↔ 0 ≤ now) ∧
    ∀ w l, (machine.restrict OrderedRevocation).Reachable w → machine.Allowed w l →
      ((∀ now, 0 ≤ now → (w.step l).engine.validateLoadedState now = .ok ()) ↔
        OrderedRevocation w l) := by
  have hpolicy : ∀ validator, Steady validator → ∀ w,
      (machine.restrict (Orderly validator)).Reachable w → ∀ now,
      w.engine.validateLoadedStateWithPolicy now validator = .ok () ↔ 0 ≤ now := by
    intro validator hsteady w h now
    obtain ⟨hordered, haccepts⟩ := orderly_accepts hsteady h
    rw [validateLoadedStateWithPolicy_ok]
    exact ⟨fun h => h.1, fun hnow =>
      ⟨hnow, (reachable_sound h.of_restrict).loadable, hordered, haccepts⟩⟩
  have hplain : ∀ w, (machine.restrict OrderedRevocation).Reachable w → ∀ now,
      w.engine.validateLoadedState now = .ok () ↔ 0 ≤ now := fun w h =>
    hpolicy _ steady_noAdditionalHopPolicy w (ordered_orderly h)
  refine ⟨hplain, hpolicy, fun w l h hallowed => ⟨fun hreload => ?_, fun hl => ?_⟩⟩
  · rintro id root reason campaign hrequest hrevokes
    have hstep : (w.step l).engine = Effect.apply w.engine (.revoked id campaign l.now reason) := by
      unfold World.step
      rw [hrequest, hrevokes.run]
      rfl
    have hordered := (validateLoadedStateWithPolicy_ok.mp (hreload 0 le_rfl)).2.2.1
    rw [hstep] at hordered
    exact olderThan_of_ordered hordered
  · exact fun now hnow => (hplain _ (h.next ⟨hallowed, hl⟩) now).mpr hnow

section Sample

attribute [local instance] sampleHashing

/-- A sends its first message at 10 and revokes the campaign. -/
def sampleRevocation (now : ℤ) : Label :=
  ⟨now, .revokeCampaign sampleCampaign sampleA "withdrawn"⟩

theorem sampleSent_run : OlderThan (sampleRun sampleSent).engine sampleCampaign 11 ∧
    (sampleRun (sampleSent ++ [sampleRevocation 10])).engine.validateLoadedState 10 =
      .error .campaignRevoked := by
  unfold OlderThan
  decide +kernel

/-- Revoked in the second after the send, the engine reloads. -/
theorem reload_accepts_sample :
    ((sampleRun sampleSent).step (sampleRevocation 11)).engine.validateLoadedState 11 = .ok () := by
  have hsent : (machine.restrict OrderedRevocation).Reachable (sampleRun sampleSent) := by
    refine reachable_sampleRun (Machine.Admits.restrict (admits_of_sorted (by decide)) ?_)
    intro w l hl
    simp only [sampleSent, List.mem_cons, List.not_mem_nil, or_false] at hl
    rcases hl with rfl | rfl | rfl | rfl | rfl <;> exact orderedRevocation_of_ne nofun
  have hordered : OrderedRevocation (sampleRun sampleSent) (sampleRevocation 11) := by
    rintro _ _ _ _ ⟨⟩ -
    exact sampleSent_run.1
  have hadmitted : machine.Admits .init (sampleSent ++ [sampleRevocation 11]) :=
    admits_of_sorted (by decide)
  exact (reload_accepts.2.2 _ _ hsent (Machine.admits_append.mp hadmitted).2.1).mpr hordered 11
    (by decide)

/-- Revoked in the second of the send, it does not. -/
theorem reload_rejects : ¬∀ w, machine.Reachable w → ∀ now, w.clock ≤ now → 0 ≤ now →
    w.engine.validateLoadedState now = .ok () := by
  intro h
  have hreach : machine.Reachable (sampleRun (sampleSent ++ [sampleRevocation 10])) :=
    Machine.Reachable.init.run (admits_of_sorted (by decide))
  have hclock : (sampleRun (sampleSent ++ [sampleRevocation 10])).clock = 10 := by
    rw [sampleRun, List.foldl_append, List.foldl_cons, List.foldl_nil, clock_step]
    rfl
  cases sampleSent_run.2.symm.trans (h _ hreach 10 hclock.le (by decide))

end Sample

end Cthuwu.Propagation

/-! ## Blocking along a path -/

namespace Cthuwu.Propagation

open Council PropagationEngine

section

variable [Hashing] {w : World} {now : ℤ}

/-- When the item was sent nobody concerned had opted out, and no rule stood between the
recipient and a member of the path, in either direction. -/
structure Honoured (d : Delivery) : Prop where
  senderIn : d.item.sender ∉ d.rules.optedOut
  recipientIn : d.item.recipient ∉ d.rules.optedOut
  path : ∀ hop ∈ d.item.provenance.hops, (hop.sender, d.item.recipient) ∉ d.rules.blocked ∧
    (d.item.recipient, hop.sender) ∉ d.rules.blocked

/-- The parent and the recipient of a request to forward. -/
def Request.forwards (request : Request) : Option (PropagationItemId × CthulhuId) :=
  request.path.bind fun (parentItemId, recipient) => parentItemId.map (·, recipient)

/-- No sender on the parent's path has blocked the recipient. -/
def Clear (w : World) (l : Label) : Prop :=
  ∀ sent ∈ l.request.forwards, ∀ parent ∈ w.engine.items.get sent.1,
    ∀ hop ∈ parent.provenance.hops, (hop.sender, sent.2) ∉ w.engine.blocked

instance (w : World) (l : Label) : Decidable (Clear w l) :=
  inferInstanceAs (Decidable (∀ sent ∈ l.request.forwards, ∀ parent ∈ w.engine.items.get sent.1,
    ∀ hop ∈ parent.provenance.hops, (hop.sender, sent.2) ∉ w.engine.blocked))

variable {item : PropagationItem}

/-- What an item needs beyond the checks is that no sender on its parent's path has blocked
its recipient. -/
theorem Prepared.honoured_iff {engine : PropagationEngine} {validator : PropagationPolicyValidator}
    {campaignId : CampaignId} {campaign : Campaign} {parent : Option PropagationItem}
    (h : Prepared engine validator now campaignId campaign parent item) :
    Honoured ⟨item, engine.rules⟩ ↔ ∀ found, parent = some found →
      ∀ hop ∈ found.provenance.hops, (hop.sender, item.recipient) ∉ engine.blocked := by
  obtain ⟨own, hhops, hown, -⟩ := h.hops
  constructor
  · rintro hhonoured found rfl hop hhop
    refine (hhonoured.path hop ?_).1
    rw [hhops]
    exact List.mem_append_left _ hhop
  · intro hclear
    refine ⟨h.admitted.senderIn, h.admitted.recipientIn, fun hop hhop => ?_⟩
    change hop ∈ item.provenance.hops at hhop
    rw [hhops] at hhop
    rcases List.mem_append.mp hhop with hhop | hhop
    · cases parent with
      | none => cases hhop
      | some found =>
        exact ⟨hclear found rfl hop hhop, (h.admitted.path found rfl hop hhop).1⟩
    · rw [List.mem_singleton.mp hhop, hown]
      exact ⟨h.admitted.forth, h.admitted.back⟩

/-- A request that delivers an item is clear exactly when the delivery is honoured. -/
theorem Request.Asks.honoured_iff {l : Label} (h : l.request.Asks w.engine l.now (.delivered item))
    : Honoured ⟨item, w.engine.rules⟩ ↔ Clear w l := by
  obtain ⟨hpath, validator, campaignId, campaign, parent, -, prepared⟩ := h
  rw [prepared.honoured_iff]
  unfold Clear Request.forwards
  rw [hpath]
  rcases findParent_ok.mp prepared.parentFound with ⟨hid, rfl⟩ | ⟨parentId, found, hid, rfl, hget⟩
  · rw [hid]
    exact iff_of_true nofun nofun
  · rw [hid]
    simp only [Option.bind_some, Option.map_some, Option.mem_def, Option.some.injEq,
      forall_eq', hget]

theorem honoured_init : ∀ d ∈ World.init.deliveries, Honoured d :=
  nofun

theorem deliveries_step {l : Label} {d : Delivery} (h : d ∈ (w.step l).deliveries) :
    d ∈ w.deliveries ∨ (Honoured d ↔ Clear w l) := by
  obtain ⟨effect, -, hasks, hstep⟩ := step_effect w l
  rw [hstep] at h
  rcases List.mem_append.mp h with h | h
  · exact .inl h
  · obtain ⟨item, hitem, rfl⟩ := List.mem_map.mp h
    cases effect with
    | delivered item' =>
      cases List.mem_singleton.mp hitem
      exact .inr hasks.honoured_iff
    | _ => cases hitem

end

/-- In every run whose forwards are clear every delivery is honoured, and a new delivery is
honoured exactly when its request is clear. -/
theorem blocking_honoured [Hashing] :
    (∀ w, (machine.restrict Clear).Reachable w → ∀ d ∈ w.deliveries, Honoured d) ∧
    ∀ w l d, machine.Reachable w → machine.Allowed w l → d ∈ (w.step l).deliveries →
      d ∉ w.deliveries → (Honoured d ↔ Clear w l) := by
  constructor
  · intro w h
    refine h.invariant (P := fun w => ∀ d ∈ w.deliveries, Honoured d) honoured_init ?_
    intro w l _ hw hl d hd
    rcases deliveries_step hd with hd | hd
    · exact hw d hd
    · exact hd.mpr hl.2
  · intro w l d _ _ hd hnew
    exact (deliveries_step hd).resolve_left hnew

section Sample

attribute [local instance] sampleHashing

/-- B forwards to C what A has sent, while A blocks B only. -/
theorem blocking_honoured_sample :
    ∀ d ∈ (sampleRun (sampleStart ++ sampleForward sampleA sampleB)).deliveries, Honoured d :=
  blocking_honoured.1 _ (reachable_sampleRun (by decide +kernel))

/-- While A blocks C, B forwards to C all the same. -/
theorem blocking_ignored : ¬∀ w, machine.Reachable w → ∀ d ∈ w.deliveries, Honoured d := by
  intro h
  have hreach : machine.Reachable (sampleRun (sampleStart ++ sampleForward sampleA sampleC)) :=
    Machine.Reachable.init.run (admits_of_sorted (by decide))
  obtain ⟨d, hd, hop, hhop, hrule⟩ := sampleForward_run.2.2.2
  exact ((h _ hreach d hd).path hop hhop).1 hrule

end Sample

end Cthuwu.Propagation
