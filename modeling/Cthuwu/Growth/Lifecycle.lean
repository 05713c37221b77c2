import Cthuwu.Growth.Moves

/-!
# The lifecycle of a record

A write changes the records where they stand (`Write.changes`) and adds at most one
(`Write.added`). A record is `Ordered` when its phase, its referrer, its onboarding and its action
go together, as justified moves keep them even in a snapshot that is not valid any more. Of ordered
records, a justified move makes ones that are further along (`Advances`).
-/

namespace Cthuwu.Growth

open TokenEye
open ReferralRecord

/-! ## What a write does to the records -/

def changeAt (index : ℕ) (f : ReferralRecord → ReferralRecord) (i : ℕ) (r : ReferralRecord) :
    ReferralRecord :=
  if i = index then f r else r

def Write.changes : Write → ℕ → ReferralRecord → ReferralRecord
  | rebind index inboxId acolyte now => fun i r =>
    (changeAt index (.rebind inboxId now) i r).follow acolyte inboxId now
  | pin index inboxId _ referrer referrerInboxId now =>
    changeAt index (.pin inboxId referrer referrerInboxId now)
  | register operator now => fun _ r => r.follow operator.address operator.inboxId now
  | complete index inboxId _ now => changeAt index (.complete inboxId now)
  | prepare index now => changeAt index (.prepare now)
  | observe index inboxId _ state observedAt => changeAt index (.observe inboxId state observedAt)
  | deferDue now => fun _ r => r.deferDue now
  | failAttempt index error now => changeAt index (.failAttempt error now)
  | requireFunding index notice now => changeAt index (.requireFunding notice now)
  | submit index transactionHash transactionNonce now =>
    changeAt index (.submit transactionHash transactionNonce now)
  | confirm index receipt delivery now => changeAt index (.confirm receipt delivery now)
  | delivered index now => changeAt index (.delivered now)
  | _ => fun _ r => r

def Write.added (policy : Policy) : Write → Option ReferralRecord
  | contact inboxId acolyte now => some (.new policy inboxId acolyte .newContact now)
  | pinNew inboxId acolyte referrer referrerInboxId now =>
    some ((ReferralRecord.new policy inboxId acolyte .newContact now).pin inboxId referrer
      referrerInboxId now)
  | enroll inboxId acolyte now => some (.new policy inboxId acolyte .direct now)
  | _ => none

theorem modify_eq_mapIdx (l : List ReferralRecord) (index : ℕ)
    (f : ReferralRecord → ReferralRecord) : l.modify index f = l.mapIdx (changeAt index f) := by
  refine List.ext_getElem? fun i => ?_
  rw [List.getElem?_modify, List.getElem?_mapIdx]
  refine congrArg (fun g => Option.map g l[i]?) (funext fun r => ?_)
  unfold changeAt
  by_cases h : index = i
  · rw [if_pos h, if_pos h.symm]
  · rw [if_neg h, if_neg (Ne.symm h)]

theorem mapIdx_const {f : ReferralRecord → ReferralRecord} (l : List ReferralRecord) :
    (l.mapIdx fun _ r => f r) = l.map f := by
  refine List.ext_getElem? fun i => ?_
  rw [List.getElem?_mapIdx, List.getElem?_map]

theorem records_complete (s : GrowthSnapshot) (index : ℕ) (inboxId : String) (now : ℕ) :
    (s.complete index inboxId now).records = s.records.modify index (.complete inboxId now) := by
  unfold GrowthSnapshot.complete
  dsimp only
  split_ifs <;> rfl

theorem records_apply (policy : Policy) (s : GrowthSnapshot) (w : Write) :
    (w.apply policy s).records = s.records.mapIdx w.changes ++ (w.added policy).toList := by
  have hsame : (s.records.mapIdx fun _ r => r) = s.records := by
    rw [mapIdx_const, List.map_id']
  cases w with
  | contact inboxId acolyte now | pinNew inboxId acolyte referrer referrerInboxId now
    | enroll inboxId acolyte now =>
    change s.records ++ [_] = (s.records.mapIdx fun _ r => r) ++ [_]
    rw [hsame]
  | rebind index inboxId acolyte now =>
    change (s.records.modify index _).map _ = s.records.mapIdx _ ++ []
    rw [modify_eq_mapIdx, List.append_nil]
    refine List.ext_getElem? fun i => ?_
    rw [List.getElem?_map, List.getElem?_mapIdx, List.getElem?_mapIdx, Option.map_map]
    rfl
  | register operator now =>
    exact (mapIdx_const s.records).symm.trans (List.append_nil _).symm
  | deferDue now =>
    exact (mapIdx_const s.records).symm.trans (List.append_nil _).symm
  | complete index inboxId acolyte now =>
    change (s.complete index inboxId now).records = s.records.mapIdx (changeAt index _) ++ []
    rw [List.append_nil, ← modify_eq_mapIdx, records_complete]
  | prefer preference =>
    change (s.prefer preference).records = (s.records.mapIdx fun _ r => r) ++ []
    rw [hsame, List.append_nil]
    cases preference <;> rfl
  | pin index _ _ _ _ _ | prepare index _ | observe index _ _ _ _ | failAttempt index _ _
    | requireFunding index _ _ | submit index _ _ _ | confirm index _ _ _ | delivered index _ =>
    change s.records.modify index _ = s.records.mapIdx (changeAt index _) ++ []
    rw [modify_eq_mapIdx, List.append_nil]
  | stamp _ | sendLink | recordAttempt _ _ | prompt _ | promptDelivered _ =>
    change s.records = (s.records.mapIdx fun _ r => r) ++ []
    rw [hsame, List.append_nil]

/-! ## Order -/

/-- The phases that a record may go through after one. A direct record stays one, and so does a
confirmed one; a bounty may go back and forth between pending and submitted. -/
def ReferralRewardPhase.reaches : ReferralRewardPhase → ReferralRewardPhase → Bool
  | .newContact, _ => true
  | .direct, q => q = .direct
  | .attributed, q => q ≠ .newContact && q ≠ .direct
  | .onboardingComplete, q =>
    q = .onboardingComplete || q = .rewardPending || q = .submitted || q = .confirmed
  | .rewardPending, q | .submitted, q => q = .rewardPending || q = .submitted || q = .confirmed
  | .confirmed, q => q = .confirmed

theorem ReferralRewardPhase.reaches_self (p : ReferralRewardPhase) : p.reaches p = true := by
  cases p <;> rfl

theorem ReferralRewardPhase.reaches_trans {p q t : ReferralRewardPhase}
    (h : p.reaches q = true) (h' : q.reaches t = true) : p.reaches t = true := by
  cases p <;> cases q <;> cases t <;> simp_all [reaches]

namespace ReferralRecord

structure Ordered (policy : Policy) (r : ReferralRecord) : Prop where
  early : r.onboardingCompletedAtUnix = none → r.phase = .newContact ∨ r.phase = .attributed
  referred : r.referrer = none → r.phase = .newContact ∨ r.phase = .direct
  parties : ∀ referrer, r.referrer = some referrer →
    r.acolyte ≠ policy.minter ∧ referrer ≠ r.acolyte ∧ referrer ≠ policy.minter
  inbox : r.referrer.isSome = r.referrerInboxId.isSome
  own : ∀ actionId, r.rewardActionId = some actionId → actionId = Growth.rewardActionId r.acolyte
  prepared : r.rewardActionId ≠ none →
    r.phase = .rewardPending ∨ r.phase = .submitted ∨ r.phase = .confirmed

/-- The record is further along. -/
structure Advances (r r' : ReferralRecord) : Prop where
  acolyte : r'.acolyte = r.acolyte
  referrer : r.referrer ≠ none ∨ r.onboardingCompletedAtUnix ≠ none → r'.referrer = r.referrer
  onboarding : r.onboardingCompletedAtUnix ≠ none →
    r'.onboardingCompletedAtUnix = r.onboardingCompletedAtUnix
  action : r.rewardActionId ≠ none → r'.rewardActionId = r.rewardActionId
  phase : r.phase.reaches r'.phase = true

theorem Advances.refl (r : ReferralRecord) : r.Advances r :=
  ⟨rfl, fun _ => rfl, fun _ => rfl, fun _ => rfl, r.phase.reaches_self⟩

theorem Advances.trans {r r' r'' : ReferralRecord} (h : r.Advances r') (h' : r'.Advances r'') :
    r.Advances r'' where
  acolyte := h'.acolyte.trans h.acolyte
  referrer hset := by
    have hkept := h.referrer hset
    refine (h'.referrer ?_).trans hkept
    rcases hset with hset | hset
    · exact .inl (hkept ▸ hset)
    · exact .inr (h.onboarding hset ▸ hset)
  onboarding hset := (h'.onboarding (h.onboarding hset ▸ hset)).trans (h.onboarding hset)
  action hset := (h'.action (h.action hset ▸ hset)).trans (h.action hset)
  phase := ReferralRewardPhase.reaches_trans h.phase h'.phase

variable {policy : Policy} {r r' : ReferralRecord}

/-- A record with an action has a referrer, and its onboarding is complete. -/
theorem Ordered.late (h : r.Ordered policy) (haction : r.rewardActionId ≠ none) :
    r.referrer ≠ none ∧ r.onboardingCompletedAtUnix ≠ none := by
  have hphase := h.prepared haction
  constructor
  · intro hnone
    have hearly := h.referred hnone
    grind
  · intro hnone
    have hearly := h.early hnone
    grind

/-- A record without a referrer and without an onboarding is a contact. -/
theorem Ordered.contact (h : r.Ordered policy) (hreferrer : r.referrer = none)
    (honboarding : r.onboardingCompletedAtUnix = none) : r.phase = .newContact := by
  have hearly := h.early honboarding
  have hreferred := h.referred hreferrer
  grind

theorem Valid.ordered [Hashing] (h : r.Valid policy) : r.Ordered policy := by
  have hphase := h.phase
  unfold checkPhase at hphase
  refine ⟨fun hnone => (h.unprepared hnone).1, fun hnone => ?_, fun referrer hsome => ?_,
    h.referral.bound, h.action, fun hsome => ?_⟩
  · cases hr : r.phase <;> simp_all
  · obtain ⟨-, hacolyte, hself, htreasury, -⟩ := h.referral.referrer referrer hsome
    exact ⟨hacolyte, hself, htreasury⟩
  · cases hr : r.phase <;> simp_all

/-! ### Changes of a record -/

/-- What the lifecycle is about is the same in both records. -/
structure Idle (r r' : ReferralRecord) : Prop where
  acolyte : r'.acolyte = r.acolyte
  referrer : r'.referrer = r.referrer
  inbox : r.referrer.isSome = r.referrerInboxId.isSome →
    r'.referrer.isSome = r'.referrerInboxId.isSome
  onboarding : r'.onboardingCompletedAtUnix = r.onboardingCompletedAtUnix
  action : r'.rewardActionId = r.rewardActionId
  phase : r'.phase = r.phase

/-- The record stays in order, and is not behind. -/
abbrev Keeps (policy : Policy) (r r' : ReferralRecord) : Prop :=
  r.Ordered policy → r'.Ordered policy ∧ r.Advances r'

theorem Idle.keeps (h : r.Idle r') : Keeps policy r r' := by
  intro hr
  refine ⟨⟨?_, ?_, ?_, h.inbox hr.inbox, ?_, ?_⟩, h.acolyte, fun _ => h.referrer,
    fun _ => h.onboarding, fun _ => h.action, ?_⟩
  · rw [h.onboarding, h.phase]
    exact hr.early
  · rw [h.referrer, h.phase]
    exact hr.referred
  · rw [h.referrer, h.acolyte]
    exact hr.parties
  · rw [h.action, h.acolyte]
    exact hr.own
  · rw [h.action, h.phase]
    exact hr.prepared
  · rw [h.phase]
    exact ReferralRewardPhase.reaches_self _

theorem idle_rebind (inboxId : String) (now : ℕ) (r : ReferralRecord) :
    r.Idle (r.rebind inboxId now) :=
  ⟨rfl, rfl, id, rfl, rfl, rfl⟩

theorem idle_follow (referrer : Address) (inboxId : String) (now : ℕ) (r : ReferralRecord) :
    r.Idle (r.follow referrer inboxId now) := by
  unfold ReferralRecord.follow
  split_ifs with h
  · refine ⟨rfl, rfl, fun _ => ?_, rfl, rfl, rfl⟩
    rw [h.1]
    rfl
  · exact ⟨rfl, rfl, id, rfl, rfl, rfl⟩

theorem idle_observe (inboxId : String) (state : DurableBrandingState) (observedAt : ℕ)
    (r : ReferralRecord) : r.Idle (r.observe inboxId state observedAt) :=
  ⟨rfl, rfl, id, rfl, rfl, rfl⟩

theorem idle_deferDue (now : ℕ) (r : ReferralRecord) : r.Idle (r.deferDue now) := by
  unfold deferDue
  split_ifs <;> exact ⟨rfl, rfl, id, rfl, rfl, rfl⟩

theorem idle_failAttempt (error : String) (now : ℕ) (r : ReferralRecord) :
    r.Idle (r.failAttempt error now) :=
  ⟨rfl, rfl, id, rfl, rfl, rfl⟩

theorem idle_delivered (now : ℕ) (r : ReferralRecord) : r.Idle (r.delivered now) := by
  unfold delivered
  split <;> exact ⟨rfl, rfl, id, rfl, rfl, rfl⟩

theorem keeps_pin {inboxId referrerInboxId : String} {referrer : Address} {now : ℕ}
    (hreferrer : r.referrer = none) (honboarding : r.onboardingCompletedAtUnix = none)
    (hparties : r.acolyte ≠ policy.minter ∧ referrer ≠ r.acolyte ∧ referrer ≠ policy.minter) :
    Keeps policy r (r.pin inboxId referrer referrerInboxId now) := by
  intro hr
  have haction : r.rewardActionId = none := by
    by_contra haction
    exact (hr.late haction).1 hreferrer
  refine ⟨⟨fun _ => .inr rfl, nofun, ?_, rfl, hr.own, fun hsome => absurd haction hsome⟩,
    rfl, ?_, fun _ => rfl, fun _ => rfl, ?_⟩
  · intro other hother
    obtain rfl := Option.some.inj hother
    exact hparties
  · rintro (hset | hset)
    · exact absurd hreferrer hset
    · exact absurd honboarding hset
  · rw [hr.contact hreferrer honboarding]
    rfl

theorem keeps_complete {inboxId : String} {now : ℕ}
    (honboarding : r.onboardingCompletedAtUnix = none) :
    Keeps policy r (r.complete inboxId now) := by
  intro hr
  have haction : r.rewardActionId = none := by
    by_contra haction
    exact (hr.late haction).2 honboarding
  refine ⟨⟨nofun, ?_, hr.parties, hr.inbox, hr.own, fun hsome => absurd haction hsome⟩, rfl,
    fun _ => rfl, fun hset => absurd honboarding hset, fun _ => rfl, ?_⟩
  · intro hnone
    have hnone' : r.referrer = none := hnone
    refine .inr ?_
    unfold complete
    rw [hnone']
    rfl
  · change r.phase.reaches (if r.referrer.isSome then .onboardingComplete else .direct) = true
    by_cases hreferrer : r.referrer = none
    · rw [hreferrer, hr.contact hreferrer honboarding]
      rfl
    · rw [if_pos (Option.isSome_iff_ne_none.mpr hreferrer)]
      rcases hr.early honboarding with hphase | hphase <;> rw [hphase] <;> rfl

theorem keeps_prepare {now : ℕ} (hphase : r.phase = .onboardingComplete) :
    Keeps policy r (r.prepare now) := by
  intro hr
  have haction : r.rewardActionId = none := by
    by_contra haction
    have hprepared := hr.prepared haction
    rw [hphase] at hprepared
    simp at hprepared
  have hreferrer : r.referrer ≠ none := by
    intro hnone
    have hreferred := hr.referred hnone
    rw [hphase] at hreferred
    simp at hreferred
  have honboarding : r.onboardingCompletedAtUnix ≠ none := by
    intro hnone
    have hearly := hr.early hnone
    rw [hphase] at hearly
    simp at hearly
  refine ⟨⟨fun hnone => absurd hnone honboarding, fun hnone => absurd hnone hreferrer, hr.parties,
    hr.inbox, fun _ hid => (Option.some.inj hid).symm, fun _ => .inl rfl⟩, rfl, fun _ => rfl,
    fun _ => rfl, fun hset => absurd haction hset, ?_⟩
  rw [hphase]
  rfl

/-- An answer of the gateway moves only the phase of a pending bounty. -/
theorem Pending.keeps (h : r.Pending) (hacolyte : r'.acolyte = r.acolyte)
    (hreferrer : r'.referrer = r.referrer) (hinbox : r'.referrerInboxId = r.referrerInboxId)
    (honboarding : r'.onboardingCompletedAtUnix = r.onboardingCompletedAtUnix)
    (haction : r'.rewardActionId = r.rewardActionId)
    (hphase : r'.phase = .rewardPending ∨ r'.phase = .submitted ∨ r'.phase = .confirmed) :
    Keeps policy r r' := by
  intro hr
  have honboarded := (hr.late h.action).2
  refine ⟨⟨?_, ?_, ?_, ?_, ?_, fun _ => hphase⟩, hacolyte, fun _ => hreferrer, fun _ => honboarding,
    fun _ => haction, ?_⟩
  · rw [honboarding]
    exact fun hnone => absurd hnone honboarded
  · rw [hreferrer]
    exact fun hnone => absurd hnone h.referrer
  · rw [hreferrer, hacolyte]
    exact hr.parties
  · rw [hreferrer, hinbox]
    exact hr.inbox
  · rw [haction, hacolyte]
    exact hr.own
  · rcases h.phase with hr' | hr' <;> rcases hphase with hp | hp | hp <;> rw [hr', hp] <;> rfl

end ReferralRecord

section Writes

variable [Hashing] {policy : Policy} {s : GrowthSnapshot} {w : Write} {r : ReferralRecord} {i : ℕ}

theorem keeps_changeAt {index : ℕ} {f : ReferralRecord → ReferralRecord}
    (hr : s.records[i]? = some r)
    (hf : ∀ r, s.records[index]? = some r → ReferralRecord.Keeps policy r (f r)) :
    ReferralRecord.Keeps policy r (changeAt index f i r) := by
  unfold changeAt
  split_ifs with h
  · exact hf r (h ▸ hr)
  · exact fun h => ⟨h, .refl r⟩

/-- A justified write keeps every record in order. -/
theorem keeps_changes (hjustified : w.Justified policy s) (hr : s.records[i]? = some r) :
    ReferralRecord.Keeps policy r (w.changes i r) := by
  cases w with
  | rebind index inboxId acolyte now =>
    intro h
    obtain ⟨hmoved, hmove⟩ := keeps_changeAt hr (fun r _ => (idle_rebind inboxId now r).keeps) h
    obtain ⟨hfollowed, hfollow⟩ := (idle_follow acolyte inboxId now _).keeps hmoved
    exact ⟨hfollowed, hmove.trans hfollow⟩
  | pin index inboxId acolyte referrer referrerInboxId now =>
    obtain ⟨haccepts, -, record, hget, hrecord, rfl⟩ := hjustified
    refine keeps_changeAt hr fun r' hr' => ?_
    obtain rfl := Option.some.inj (hget.symm.trans hr')
    obtain ⟨hreferrer, honboarding⟩ := haccepts.unreferred record hrecord
    exact keeps_pin hreferrer honboarding ⟨haccepts.minter, haccepts.self.symm, haccepts.treasury⟩
  | register operator now => exact (idle_follow _ _ _ r).keeps
  | complete index inboxId acolyte now =>
    obtain ⟨-, record, hget, -, hnone⟩ := hjustified
    refine keeps_changeAt hr fun r' hr' => ?_
    obtain rfl := Option.some.inj (hget.symm.trans hr')
    exact keeps_complete hnone
  | prepare index now =>
    obtain ⟨record, hget, hphase⟩ := hjustified
    refine keeps_changeAt hr fun r' hr' => ?_
    obtain rfl := Option.some.inj (hget.symm.trans hr')
    exact keeps_prepare hphase
  | observe index inboxId acolyte state observedAt =>
    exact keeps_changeAt hr fun r _ => (idle_observe inboxId state observedAt r).keeps
  | deferDue now => exact (idle_deferDue now r).keeps
  | failAttempt index error now =>
    exact keeps_changeAt hr fun r _ => (idle_failAttempt error now r).keeps
  | requireFunding index notice now =>
    obtain ⟨record, hget, hpending⟩ := hjustified
    refine keeps_changeAt hr fun r' hr' => ?_
    obtain rfl := Option.some.inj (hget.symm.trans hr')
    exact hpending.keeps rfl rfl rfl rfl rfl (.inl rfl)
  | submit index transactionHash transactionNonce now =>
    obtain ⟨record, hget, hpending⟩ := hjustified
    refine keeps_changeAt hr fun r' hr' => ?_
    obtain rfl := Option.some.inj (hget.symm.trans hr')
    exact hpending.keeps rfl rfl rfl rfl rfl (.inr (.inl rfl))
  | confirm index receipt delivery now =>
    obtain ⟨record, hget, hpending⟩ := hjustified
    refine keeps_changeAt hr fun r' hr' => ?_
    obtain rfl := Option.some.inj (hget.symm.trans hr')
    exact hpending.keeps rfl rfl rfl rfl rfl (.inr (.inr rfl))
  | delivered index now =>
    exact keeps_changeAt hr fun r _ => (idle_delivered now r).keeps
  | stamp _ | contact _ _ _ | pinNew _ _ _ _ _ | enroll _ _ _ | sendLink | recordAttempt _ _
    | prefer _ | prompt _ | promptDelivered _ =>
    exact fun h => ⟨h, .refl r⟩

/-! ## Moves -/

variable {rt : Runtime} {m : Move}

/-- The record at a place, after the move. -/
def Move.changes : Move → ℕ → ReferralRecord → ReferralRecord
  | write w => w.changes
  | _ => fun _ r => r

def Move.added (policy : Policy) : Move → Option ReferralRecord
  | write w => w.added policy
  | enroll inboxId acolyte now =>
    some ((ReferralRecord.new policy inboxId acolyte .direct now).complete inboxId now)
  | _ => none

theorem records_move (policy : Policy) (rt : Runtime) (m : Move) :
    (m.apply policy rt).state.records =
      rt.state.records.mapIdx m.changes ++ (m.added policy).toList := by
  have hsame : (rt.state.records.mapIdx fun _ r => r) = rt.state.records := by
    rw [mapIdx_const, List.map_id']
  cases m with
  | write w => exact records_apply policy rt.state w
  | enroll inboxId acolyte now =>
    change (GrowthSnapshot.complete _ _ _ _).records = (rt.state.records.mapIdx fun _ r => r) ++ [_]
    rw [records_complete, hsame]
    exact modify_append _ _ _
  | save =>
    change rt.state.records = (rt.state.records.mapIdx fun _ r => r) ++ []
    rw [hsame, List.append_nil]
  | invoke invocation =>
    change rt.state.records = (rt.state.records.mapIdx fun _ r => r) ++ []
    rw [hsame, List.append_nil]

/-- Where a record comes from. -/
theorem mem_move : r ∈ (m.apply policy rt).state.records ↔
      (∃ i r₀, rt.state.records[i]? = some r₀ ∧ r = m.changes i r₀) ∨ m.added policy = some r := by
  rw [records_move, List.mem_append, Option.mem_toList, List.mem_iff_getElem?]
  refine or_congr (exists_congr fun i => ?_) Iff.rfl
  rw [List.getElem?_mapIdx, Option.map_eq_some_iff]
  exact exists_congr fun r₀ => and_congr_right fun _ => eq_comm

/-- A justified move keeps every record in order. -/
theorem keeps_move (hjustified : m.Justified policy rt) (hr : rt.state.records[i]? = some r) :
    ReferralRecord.Keeps policy r (m.changes i r) := by
  cases m with
  | write w => exact keeps_changes hjustified hr
  | enroll _ _ _ | save | invoke _ => exact fun h => ⟨h, .refl r⟩

/-- The acolyte of a new record, and where it starts. -/
theorem ordered_added (hjustified : m.Justified policy rt) (hadded : m.added policy = some r) :
    r.Ordered policy ∧ r.rewardActionId = none ∧ ∀ r' ∈ rt.state.records, r'.acolyte ≠ r.acolyte := by
  cases m with
  | write w =>
    cases w with
    | contact inboxId acolyte now =>
      obtain rfl := Option.some.inj hadded
      exact ⟨⟨fun _ => .inl rfl, fun _ => .inl rfl, nofun, rfl, nofun, fun h => absurd rfl h⟩, rfl,
        hjustified.new⟩
    | pinNew inboxId acolyte referrer referrerInboxId now =>
      obtain rfl := Option.some.inj hadded
      obtain ⟨haccepts, hlacks⟩ := hjustified
      refine ⟨⟨fun _ => .inr rfl, nofun, ?_, rfl, nofun, fun h => absurd rfl h⟩, rfl, hlacks.new⟩
      intro other hother
      obtain rfl := Option.some.inj hother
      exact ⟨haccepts.minter, haccepts.self.symm, haccepts.treasury⟩
    | enroll inboxId acolyte now => exact hjustified.elim
    | _ => cases hadded
  | enroll inboxId acolyte now =>
    obtain rfl := Option.some.inj hadded
    exact ⟨⟨nofun, fun _ => .inr rfl, nofun, rfl, nofun, fun h => absurd rfl h⟩, rfl, hjustified.new⟩
  | save | invoke _ => cases hadded

/-! ## Snapshots -/

/-- What holds in memory at any time : the records are in order, and no acolyte has two. -/
structure GrowthSnapshot.Ordered (policy : Policy) (s : GrowthSnapshot) : Prop where
  records : ∀ r ∈ s.records, r.Ordered policy
  acolytes : (s.records.map (·.acolyte)).Nodup

theorem GrowthSnapshot.Valid.ordered (h : s.Valid policy) : s.Ordered policy :=
  ⟨fun r hr => (h.records r hr).ordered, List.pairwise_map.mpr (h.apart.imp (·.acolyte))⟩

/-- Every record is still there, and further along. -/
def GrowthSnapshot.Advances (s s' : GrowthSnapshot) : Prop :=
  ∀ r ∈ s.records, ∃ r' ∈ s'.records, r.Advances r'

theorem GrowthSnapshot.Advances.refl (s : GrowthSnapshot) : s.Advances s :=
  fun r hr => ⟨r, hr, .refl r⟩

theorem GrowthSnapshot.Advances.trans {s' s'' : GrowthSnapshot} (h : s.Advances s')
    (h' : s'.Advances s'') : s.Advances s'' := by
  intro r hr
  obtain ⟨r', hr', hadvance⟩ := h r hr
  obtain ⟨r'', hr'', hadvance'⟩ := h' r' hr'
  exact ⟨r'', hr'', hadvance.trans hadvance'⟩

theorem acolytes_move (hjustified : m.Justified policy rt) (h : rt.state.Ordered policy) :
    (m.apply policy rt).state.records.map (·.acolyte) =
      rt.state.records.map (·.acolyte) ++ (m.added policy).toList.map (·.acolyte) := by
  have hkept : (rt.state.records.mapIdx m.changes).map (·.acolyte) =
      rt.state.records.map (·.acolyte) := by
    refine List.ext_getElem? fun i => ?_
    rw [List.getElem?_map, List.getElem?_mapIdx, List.getElem?_map]
    cases hr : rt.state.records[i]? with
    | none => rfl
    | some r =>
      exact congrArg some
        (keeps_move hjustified hr (h.records r (List.mem_of_getElem? hr))).2.acolyte
  rw [records_move, List.map_append, hkept]

theorem ordered_move (hjustified : m.Justified policy rt) (h : rt.state.Ordered policy) :
    (m.apply policy rt).state.Ordered policy := by
  constructor
  · intro r hr
    rcases (mem_move).mp hr with ⟨i, r₀, hr₀, rfl⟩ | hadded
    · exact (keeps_move hjustified hr₀ (h.records r₀ (List.mem_of_getElem? hr₀))).1
    · exact (ordered_added hjustified hadded).1
  · rw [acolytes_move hjustified h]
    cases hadded : m.added policy with
    | none => simpa using h.acolytes
    | some r =>
      refine List.nodup_append.mpr ⟨h.acolytes, List.nodup_singleton _, ?_⟩
      intro acolyte hmem other hother
      obtain ⟨r', hr', rfl⟩ := List.mem_map.mp hmem
      rw [List.mem_singleton.mp hother]
      exact (ordered_added hjustified hadded).2.2 r' hr'

theorem advances_move (hjustified : m.Justified policy rt) (h : rt.state.Ordered policy) :
    rt.state.Advances (m.apply policy rt).state := by
  intro r hr
  obtain ⟨i, hi⟩ := List.mem_iff_getElem?.mp hr
  exact ⟨m.changes i r, (mem_move).mpr (.inl ⟨i, r, hi, rfl⟩), (keeps_move hjustified hi
    (h.records r hr)).2⟩

end Writes

end Cthuwu.Growth
