import Cthuwu.Growth.Lifecycle
import Cthuwu.Growth.Atomicity

/-!
# One bounty for a recovered identity

A `Ledger` remembers beside the runtime which inbox every acolyte has been in, and every record
whose bounty was prepared. The runtime looks only at the records that are there : an acolyte that
moves to another inbox leaves its old one to another wallet. A call is `Fresh` when it binds nobody
to an inbox that somebody else has left, and nobody to the inbox of its own referrer; in a run of
fresh calls, an inbox leads to one bounty at most (`one_bounty`).
-/

namespace Cthuwu.Growth

open Council TokenEye Fallible

/-! ## Ledgers -/

def GrowthSnapshot.pairs (s : GrowthSnapshot) : List (String × Address) :=
  s.records.map fun r => (r.inboxId, r.acolyte)

/-- The records whose bounty was prepared in between. -/
def GrowthSnapshot.newlyPrepared (s s' : GrowthSnapshot) : List ReferralRecord :=
  s'.records.filter fun r => r.rewardActionId.isSome &&
    s.records.all fun r' => r'.acolyte ≠ r.acolyte || r'.rewardActionId.isNone

/-- The runtime, with every pair of an inbox and an acolyte there has been, and the records as
they were when their bounty was prepared. -/
structure Ledger where
  runtime : Runtime
  owned : List (String × Address)
  prepared : List ReferralRecord

def Ledger.open (s : GrowthSnapshot) : Ledger :=
  ⟨⟨s, s, []⟩, s.pairs, s.records.filter (·.rewardActionId.isSome)⟩

section Calls

variable [Hashing]

def Ledger.next (policy : Policy) (l : Ledger) (call : Request × Faults) : Ledger :=
  let r := (call.1.run policy call.2).after l.runtime
  ⟨r, r.state.pairs ++ l.owned, l.runtime.state.newlyPrepared r.state ++ l.prepared⟩

/-- Any calls in any order, from a valid snapshot. -/
def ledgers (policy : Policy) (start : {s // validateSnapshot policy s = .ok ()}) :
    Machine Ledger (Request × Faults) where
  init := .open start
  Allowed _ _ := True
  next := Ledger.next policy

/-- An inbox leads to one bounty at most, an acolyte as well, and its parties are apart. -/
structure Ledger.OneBounty (policy : Policy) (l : Ledger) : Prop where
  inboxes : l.prepared.Pairwise fun r r' =>
    ∀ inboxId, (inboxId, r.acolyte) ∈ l.owned → (inboxId, r'.acolyte) ∉ l.owned
  acolytes : l.prepared.Pairwise fun r r' => r.acolyte ≠ r'.acolyte
  parties : ∀ r ∈ l.prepared, ∃ referrer referrerInboxId, r.referrer = some referrer ∧
    r.referrerInboxId = some referrerInboxId ∧ r.acolyte ≠ referrer ∧
    r.acolyte ≠ policy.minter ∧ referrer ≠ policy.minter ∧ referrerInboxId ≠ r.inboxId

/-- The call binds its acolyte to an inbox that no other acolyte has been in, and that is not the
one of its referrer. -/
def Ledger.Fresh (policy : Policy) (l : Ledger) (call : Request × Faults) : Prop :=
  ∀ inboxId acolyte, call.1.Binds policy l.runtime.state inboxId acolyte →
    (∀ other, (inboxId, other) ∈ l.owned → other = acolyte) ∧
      ∀ r ∈ l.runtime.state.records, r.acolyte = acolyte → r.referrerInboxId ≠ some inboxId

variable {policy : Policy} {s : GrowthSnapshot} {request : Request} {inboxId : String}
  {acolyte : Address}

theorem Request.Binds.unique {inboxId' : String} {acolyte' : Address}
    (h : request.Binds policy s inboxId acolyte) (h' : request.Binds policy s inboxId' acolyte') :
    inboxId = inboxId' ∧ acolyte = acolyte' := by
  cases h with
  | markContact hinbox hparse hfree =>
    cases h' with
    | markContact hinbox' hparse' hfree' =>
      exact ⟨rfl, Option.some.inj (hparse.symm.trans hparse')⟩
  | handleControl hinbox hcontrol hparse hreferrer hanswer =>
    cases h' with
    | handleControl hinbox' hcontrol' hparse' hreferrer' hanswer' =>
      exact ⟨rfl, Option.some.inj (hparse.symm.trans hparse')⟩
  | markOnboardingComplete hinbox hparse hfree honboarding =>
    cases h' with
    | markOnboardingComplete hinbox' hparse' hfree' honboarding' =>
      exact ⟨rfl, Option.some.inj (hparse.symm.trans hparse')⟩
  | noteBrandingState hinbox hfree hnews =>
    cases h' with
    | noteBrandingState hinbox' hfree' hnews' => exact ⟨rfl, rfl⟩

/-- The inbox of a binding is in the form in which it is kept. -/
theorem Request.Binds.lower (h : request.Binds policy s inboxId acolyte) :
    asciiLower inboxId = inboxId := by
  cases h with
  | markContact hinbox hparse hfree => exact asciiLower_of_valid hinbox
  | handleControl hinbox hcontrol hparse hreferrer hanswer => exact asciiLower_of_valid hinbox
  | markOnboardingComplete hinbox hparse hfree honboarding => exact asciiLower_of_valid hinbox
  | noteBrandingState hinbox hfree hnews => exact asciiLower_of_valid hinbox

/-! ## Inboxes under a move -/

variable {w : Write} {r : ReferralRecord} {i : ℕ}

variable {f : ReferralRecord → ReferralRecord} {rt : Runtime}

theorem changeAt_cases {index : ℕ} {P : ReferralRecord → Prop} (hother : P r)
    (hself : i = index → P (f r)) : P (changeAt index f i r) := by
  unfold changeAt
  split_ifs with h
  · exact hself h
  · exact hother

theorem inboxId_follow (referrer : Address) (inboxId : String) (now : ℕ) (r : ReferralRecord) :
    (r.follow referrer inboxId now).inboxId = r.inboxId := by
  unfold ReferralRecord.follow
  split_ifs <;> rfl

/-- The record that is moved is the one of the acolyte. -/
theorem inboxId_changeAt {index : ℕ} {record : ReferralRecord} (hr : s.records[i]? = some r)
    (hget : s.records[index]? = some record) (hacolyte : record.acolyte = acolyte)
    (hlower : asciiLower inboxId = inboxId) (hf : (f record).inboxId = asciiLower inboxId) :
    (changeAt index f i r).inboxId = r.inboxId ∨
      some (inboxId, acolyte) = some ((changeAt index f i r).inboxId, r.acolyte) := by
  refine changeAt_cases (P := fun r' => r'.inboxId = _ ∨ _ = some (r'.inboxId, _)) (.inl rfl) ?_
  rintro rfl
  obtain rfl := Option.some.inj (hget.symm.trans hr)
  rw [hf, hlower, hacolyte]
  exact .inr rfl

/-- A record changes its inbox only in a binding of its acolyte. -/
theorem inboxId_changes (hjustified : w.Justified policy s) (hr : s.records[i]? = some r)
    (hlower : ∀ inboxId acolyte, w.binding = some (inboxId, acolyte) →
      asciiLower inboxId = inboxId) :
    (w.changes i r).inboxId = r.inboxId ∨
      w.binding = some ((w.changes i r).inboxId, r.acolyte) := by
  cases w with
  | rebind index inboxId acolyte now =>
    obtain ⟨-, record, hget, hacolyte⟩ := hjustified
    change ((changeAt index _ i r).follow acolyte inboxId now).inboxId = _ ∨
      _ = some (((changeAt index _ i r).follow acolyte inboxId now).inboxId, _)
    rw [inboxId_follow]
    exact inboxId_changeAt hr hget hacolyte (hlower _ _ rfl) rfl
  | pin index inboxId acolyte referrer referrerInboxId now =>
    obtain ⟨-, -, record, hget, -, hacolyte⟩ := hjustified
    exact inboxId_changeAt hr hget hacolyte (hlower _ _ rfl) rfl
  | complete index inboxId acolyte now =>
    obtain ⟨-, record, hget, hacolyte, -⟩ := hjustified
    exact inboxId_changeAt hr hget hacolyte (hlower _ _ rfl) rfl
  | observe index inboxId acolyte state observedAt =>
    obtain ⟨record, hget, hacolyte⟩ := hjustified
    exact inboxId_changeAt hr hget hacolyte (hlower _ _ rfl) rfl
  | register operator now => exact .inl (inboxId_follow _ _ _ r)
  | deferDue now =>
    refine .inl ?_
    change (r.deferDue now).inboxId = _
    unfold ReferralRecord.deferDue
    split_ifs <;> rfl
  | delivered index now =>
    refine .inl (changeAt_cases (P := fun r' => r'.inboxId = _) rfl fun _ => ?_)
    unfold ReferralRecord.delivered
    split <;> rfl
  | prepare index _ | failAttempt index _ _ | requireFunding index _ _ | submit index _ _ _
    | confirm index _ _ _ =>
    exact .inl (changeAt_cases (P := fun r' => r'.inboxId = _) rfl fun _ => rfl)
  | stamp _ | contact _ _ _ | pinNew _ _ _ _ _ | enroll _ _ _ | sendLink | recordAttempt _ _
    | prefer _ | prompt _ | promptDelivered _ => exact .inl rfl

/-- Where a record's referrer is met changes with the referrer, or when the referrer is set. -/
inductive Rereferred (m : Move) (r r' : ReferralRecord) : Prop
  | same (h : r'.referrerInboxId = r.referrerInboxId)
  | registered (apart : r'.referrerInboxId ≠ some r'.inboxId) (h : m.registers = true)
  | bound {inboxId : String} {acolyte : Address} (apart : r'.referrerInboxId ≠ some r'.inboxId)
      (h : m.binding = some (inboxId, acolyte))
      (other : r.acolyte = acolyte → r'.referrerInboxId ≠ some inboxId)

/-- A record follows its referrer only to an inbox that it is not in itself. -/
theorem follow_cases (referrer : Address) (inboxId : String) (now : ℕ) (r : ReferralRecord) :
    r.follow referrer inboxId now = r ∨
      r.referrer = some referrer ∧ (r.follow referrer inboxId now).referrerInboxId ≠
        some (r.follow referrer inboxId now).inboxId := by
  unfold ReferralRecord.follow
  split_ifs with h
  · exact .inr ⟨h.1, fun heq => h.2 (Option.some.inj heq).symm⟩
  · exact .inl rfl

theorem rereferred_changes (i : ℕ) (hjustified : w.Justified policy s) (h : r.Ordered policy)
    (hlower : ∀ inboxId acolyte, w.binding = some (inboxId, acolyte) →
      asciiLower inboxId = inboxId) : Rereferred (.write w) r (w.changes i r) := by
  cases w with
  | rebind index inboxId acolyte now =>
    have hmoved : (changeAt index (ReferralRecord.rebind inboxId now) i r).referrerInboxId =
        r.referrerInboxId ∧
        (changeAt index (ReferralRecord.rebind inboxId now) i r).referrer = r.referrer :=
      changeAt_cases (P := fun r' => r'.referrerInboxId = _ ∧ r'.referrer = _) ⟨rfl, rfl⟩
        fun _ => ⟨rfl, rfl⟩
    rcases follow_cases acolyte inboxId now (changeAt index (.rebind inboxId now) i r)
      with hsame | ⟨hreferrer, hapart⟩
    · exact .same ((congrArg ReferralRecord.referrerInboxId hsame).trans hmoved.1)
    · refine .bound hapart rfl fun hacolyte => ?_
      rw [hmoved.2] at hreferrer
      exact absurd hacolyte.symm (h.parties acolyte hreferrer).2.1
  | pin index inboxId acolyte referrer referrerInboxId now =>
    obtain ⟨haccepts, -⟩ := hjustified
    refine changeAt_cases (P := Rereferred _ r) (.same rfl) fun _ => ?_
    have hother : some referrerInboxId ≠ some inboxId := fun heq =>
      haccepts.other (Option.some.inj heq)
    refine .bound ?_ rfl fun _ => hother
    change some referrerInboxId ≠ some (asciiLower inboxId)
    rwa [hlower inboxId acolyte rfl]
  | register operator now =>
    rcases follow_cases operator.address operator.inboxId now r with hsame | ⟨-, hapart⟩
    · exact .same (congrArg ReferralRecord.referrerInboxId hsame)
    · exact .registered hapart rfl
  | deferDue now =>
    refine .same ?_
    change (r.deferDue now).referrerInboxId = _
    unfold ReferralRecord.deferDue
    split_ifs <;> rfl
  | delivered index now =>
    refine changeAt_cases (P := Rereferred _ r) (.same rfl) fun _ => .same ?_
    unfold ReferralRecord.delivered
    split <;> rfl
  | complete index _ _ _ | prepare index _ | observe index _ _ _ _ | failAttempt index _ _
    | requireFunding index _ _ | submit index _ _ _ | confirm index _ _ _ =>
    exact changeAt_cases (P := Rereferred _ r) (.same rfl) fun _ => .same rfl
  | stamp _ | contact _ _ _ | pinNew _ _ _ _ _ | enroll _ _ _ | sendLink | recordAttempt _ _
    | prefer _ | prompt _ | promptDelivered _ => exact .same rfl

/-- The record that a move changes, with what the move binds. -/
theorem place_move {m : Move} (hjustified : m.Justified policy rt)
    (hr : rt.state.records[i]? = some r) (h : r.Ordered policy)
    (hlower : ∀ inboxId acolyte, m.binding = some (inboxId, acolyte) →
      asciiLower inboxId = inboxId) : ((m.changes i r).inboxId = r.inboxId ∨
      m.binding = some ((m.changes i r).inboxId, r.acolyte)) ∧ Rereferred m r (m.changes i r) := by
  cases m with
  | write w => exact ⟨inboxId_changes hjustified hr hlower, rereferred_changes i hjustified h hlower⟩
  | enroll _ _ _ | save | invoke _ => exact ⟨.inl rfl, .same rfl⟩

/-- A new record is bound to its inbox, which is not the one of its referrer. -/
theorem place_added {m : Move} (hjustified : m.Justified policy rt)
    (hadded : m.added policy = some r)
    (hlower : ∀ inboxId acolyte, m.binding = some (inboxId, acolyte) →
      asciiLower inboxId = inboxId) :
    m.binding = some (r.inboxId, r.acolyte) ∧ r.referrerInboxId ≠ some r.inboxId := by
  cases m with
  | write w =>
    cases w with
    | contact inboxId acolyte now =>
      obtain rfl := Option.some.inj hadded
      refine ⟨?_, nofun⟩
      change some (inboxId, acolyte) = some (asciiLower inboxId, acolyte)
      rw [hlower inboxId acolyte rfl]
    | pinNew inboxId acolyte referrer referrerInboxId now =>
      obtain rfl := Option.some.inj hadded
      change some (inboxId, acolyte) = some (asciiLower inboxId, acolyte) ∧
        some referrerInboxId ≠ some (asciiLower inboxId)
      rw [hlower inboxId acolyte rfl]
      exact ⟨rfl, fun heq => hjustified.1.other (Option.some.inj heq)⟩
    | enroll inboxId acolyte now => exact hjustified.elim
    | _ => cases hadded
  | enroll inboxId acolyte now =>
    obtain rfl := Option.some.inj hadded
    refine ⟨?_, nofun⟩
    change some (inboxId, acolyte) = some (asciiLower inboxId, acolyte)
    rw [hlower inboxId acolyte rfl]
  | save | invoke _ => cases hadded

/-! ## One call -/

/-- What holds while a fresh call is made, from the snapshot where it starts. -/
structure During (policy : Policy) (s₀ : GrowthSnapshot) (request : Request) (s : GrowthSnapshot) :
    Prop where
  ordered : s.Ordered policy
  advances : s₀.Advances s
  apart : ∀ r ∈ s.records, r.referrerInboxId ≠ some r.inboxId
  pairs : ∀ r ∈ s.records, (r.inboxId, r.acolyte) ∈ s₀.pairs ∨
    request.Binds policy s₀ r.inboxId r.acolyte
  fresh : ∀ inboxId acolyte, request.Binds policy s₀ inboxId acolyte → ∀ r ∈ s.records,
    r.acolyte = acolyte → r.referrerInboxId ≠ some inboxId

theorem During.move {s₀ : GrowthSnapshot} {m : Move} (h : During policy s₀ request rt.state)
    (hjustified : m.Justified policy rt) (hallowed : request.Allows policy s₀ m) :
    During policy s₀ request (m.apply policy rt).state := by
  have hlower : ∀ inboxId acolyte, m.binding = some (inboxId, acolyte) →
      asciiLower inboxId = inboxId := fun inboxId acolyte hbinding =>
    (hallowed.binds inboxId acolyte hbinding).lower
  have hchanges : ∀ {i r}, rt.state.records[i]? = some r → r ∈ rt.state.records ∧
      (m.changes i r).acolyte = r.acolyte ∧ Rereferred m r (m.changes i r) ∧
      ((m.changes i r).inboxId = r.inboxId ∨
        request.Binds policy s₀ (m.changes i r).inboxId r.acolyte) := by
    intro i r hr
    have hmem := List.mem_of_getElem? hr
    have hr' := h.ordered.records r hmem
    obtain ⟨hinbox, hrereferred⟩ := place_move hjustified hr hr' hlower
    exact ⟨hmem, (keeps_move hjustified hr hr').2.acolyte, hrereferred,
      hinbox.imp_right (hallowed.binds _ _)⟩
  refine ⟨ordered_move hjustified h.ordered,
    h.advances.trans (advances_move hjustified h.ordered), ?_, ?_, ?_⟩
  · intro r hr
    rcases mem_move.mp hr with ⟨i, r₀, hr₀, rfl⟩ | hadded
    · obtain ⟨hmem, -, hrereferred, hinbox⟩ := hchanges hr₀
      cases hrereferred with
      | registered hapart _ => exact hapart
      | bound hapart _ _ => exact hapart
      | same hsame =>
        rw [hsame]
        rcases hinbox with hinbox | hbinds
        · rw [hinbox]
          exact h.apart r₀ hmem
        · exact h.fresh _ _ hbinds r₀ hmem rfl
    · exact (place_added hjustified hadded hlower).2
  · intro r hr
    rcases mem_move.mp hr with ⟨i, r₀, hr₀, rfl⟩ | hadded
    · obtain ⟨hmem, hacolyte, -, hinbox⟩ := hchanges hr₀
      rw [hacolyte]
      rcases hinbox with hinbox | hbinds
      · rw [hinbox]
        exact h.pairs r₀ hmem
      · exact .inr hbinds
    · exact .inr (hallowed.binds _ _ (place_added hjustified hadded hlower).1)
  · intro inboxId acolyte hbinds r hr hsame
    rcases mem_move.mp hr with ⟨i, r₀, hr₀, rfl⟩ | hadded
    · obtain ⟨hmem, hacolyte, hrereferred, -⟩ := hchanges hr₀
      rw [hacolyte] at hsame
      cases hrereferred with
      | registered _ hregisters => exact absurd hbinds (hallowed.registers hregisters _ _)
      | bound _ hbinding hother =>
        obtain ⟨rfl, rfl⟩ := (hallowed.binds _ _ hbinding).unique hbinds
        exact hother hsame
      | same hsame' =>
        rw [hsame']
        exact h.fresh inboxId acolyte hbinds r₀ hmem hsame
    · obtain ⟨hbinding, hapart⟩ := place_added hjustified hadded hlower
      obtain ⟨rfl, -⟩ := (hallowed.binds _ _ hbinding).unique hbinds
      exact hapart

theorem During.after {l : Ledger} {call : Request × Faults}
    (h : During policy l.runtime.state call.1 l.runtime.state) :
    During policy l.runtime.state call.1 (l.next policy call).runtime.state := by
  have hdoes : Does policy l.runtime.state call.1 (call.1.run policy call.2) l.runtime :=
    run_does call.1 call.2 l.runtime
  obtain ⟨ms, hperforms, hallowed, -⟩ := hdoes
  refine hperforms.invariant (P := fun r => During policy l.runtime.state call.1 r.state) h
    fun r m hm hr hjustified => hr.move hjustified (hallowed m hm)

/-! ## Runs -/

/-- What holds between the calls of a run of fresh ones. -/
structure Ledger.Kept (policy : Policy) (l : Ledger) : Prop where
  ordered : l.runtime.state.Ordered policy
  apart : ∀ r ∈ l.runtime.state.records, r.referrerInboxId ≠ some r.inboxId
  pairs : ∀ p ∈ l.runtime.state.pairs, p ∈ l.owned
  single : ∀ inboxId acolyte acolyte', (inboxId, acolyte) ∈ l.owned →
    (inboxId, acolyte') ∈ l.owned → acolyte = acolyte'
  remembered : ∀ r ∈ l.prepared, ∃ r' ∈ l.runtime.state.records,
    r'.acolyte = r.acolyte ∧ r'.rewardActionId ≠ none
  acolytes : l.prepared.Pairwise fun r r' => r.acolyte ≠ r'.acolyte
  parties : ∀ r ∈ l.prepared, r.Ordered policy ∧ r.rewardActionId ≠ none ∧
    r.referrerInboxId ≠ some r.inboxId

theorem Ledger.Kept.oneBounty {l : Ledger} (h : l.Kept policy) : l.OneBounty policy where
  inboxes := h.acolytes.imp fun hne inboxId howned howned' =>
    hne (h.single inboxId _ _ howned howned')
  acolytes := h.acolytes
  parties r hr := by
    obtain ⟨hordered, haction, hapart⟩ := h.parties r hr
    obtain ⟨referrer, hreferrer⟩ := Option.ne_none_iff_exists'.mp (hordered.late haction).1
    have hbound : r.referrerInboxId.isSome := by
      rw [← hordered.inbox, hreferrer]
      rfl
    obtain ⟨referrerInboxId, hinbox⟩ := Option.isSome_iff_exists.mp hbound
    obtain ⟨hacolyte, hself, htreasury⟩ := hordered.parties referrer hreferrer
    exact ⟨referrer, referrerInboxId, hreferrer, hinbox, hself.symm, hacolyte, htreasury,
      fun heq => hapart (heq ▸ hinbox)⟩

theorem Ledger.Kept.open (h : s.Valid policy) : (Ledger.open s).Kept policy where
  ordered := h.ordered
  apart r hr heq := ((h.records r hr).referral.inbox _ heq).2 rfl
  pairs _ hp := hp
  single inboxId acolyte acolyte' hp hp' := by
    obtain ⟨r, hr, hpair⟩ := List.mem_map.mp hp
    obtain ⟨r', hr', hpair'⟩ := List.mem_map.mp hp'
    obtain ⟨rfl, rfl⟩ := Prod.mk.inj hpair
    obtain ⟨hinbox, rfl⟩ := Prod.mk.inj hpair'
    by_contra hne
    have : Std.Symm ReferralRecord.Apart := ⟨fun _ _ h => h.symm⟩
    have hapart := h.apart.forall hr hr' fun heq => hne (heq ▸ rfl)
    exact hapart.inbox hinbox.symm
  remembered r hr := by
    obtain ⟨hmem, hsome⟩ := List.mem_filter.mp hr
    exact ⟨r, hmem, rfl, Option.isSome_iff_ne_none.mp hsome⟩
  acolytes := (h.apart.imp (·.acolyte)).filter _
  parties r hr := by
    obtain ⟨hmem, hsome⟩ := List.mem_filter.mp hr
    exact ⟨(h.records r hmem).ordered, Option.isSome_iff_ne_none.mp hsome,
      fun heq => ((h.records r hmem).referral.inbox _ heq).2 rfl⟩

theorem mem_newlyPrepared {s' : GrowthSnapshot} : r ∈ s.newlyPrepared s' ↔ r ∈ s'.records ∧
    r.rewardActionId ≠ none ∧ ∀ r' ∈ s.records, r'.acolyte = r.acolyte → r'.rewardActionId = none := by
  simp only [GrowthSnapshot.newlyPrepared, List.mem_filter, Bool.and_eq_true, List.all_eq_true,
    Bool.or_eq_true, decide_eq_true_eq, Option.isSome_iff_ne_none, Option.isNone_iff_eq_none,
    or_iff_not_imp_left, not_not]

theorem Ledger.Kept.next {l : Ledger} {call : Request × Faults} (h : l.Kept policy)
    (hfresh : l.Fresh policy call) : (l.next policy call).Kept policy := by
  have hduring : During policy l.runtime.state call.1 (l.next policy call).runtime.state :=
    During.after ⟨h.ordered, .refl _, h.apart, fun r hr => .inl (List.mem_map.mpr ⟨r, hr, rfl⟩),
      fun inboxId acolyte hbinds => (hfresh inboxId acolyte hbinds).2⟩
  have howned : ∀ {inboxId acolyte}, (inboxId, acolyte) ∈ (l.next policy call).owned →
      (inboxId, acolyte) ∈ l.owned ∨ call.1.Binds policy l.runtime.state inboxId acolyte := by
    intro inboxId acolyte hp
    rcases List.mem_append.mp hp with hp | hp
    · obtain ⟨r, hr, hpair⟩ := List.mem_map.mp hp
      obtain ⟨rfl, rfl⟩ := Prod.mk.inj hpair
      exact (hduring.pairs r hr).imp_left (h.pairs _)
    · exact .inl hp
  refine ⟨hduring.ordered, hduring.apart, fun p hp => List.mem_append_left _ hp, ?_, ?_, ?_, ?_⟩
  · intro inboxId acolyte acolyte' hp hp'
    rcases howned hp with hold | hbinds <;> rcases howned hp' with hold' | hbinds'
    · exact h.single inboxId _ _ hold hold'
    · exact (hfresh _ _ hbinds').1 acolyte hold
    · exact ((hfresh _ _ hbinds).1 acolyte' hold').symm
    · exact (hbinds.unique hbinds').2
  · intro r hr
    rcases List.mem_append.mp hr with hr | hr
    · obtain ⟨hmem, haction, -⟩ := (mem_newlyPrepared).mp hr
      exact ⟨r, hmem, rfl, haction⟩
    · obtain ⟨r', hr', hacolyte, haction⟩ := h.remembered r hr
      obtain ⟨r'', hr'', hadvances⟩ := hduring.advances r' hr'
      exact ⟨r'', hr'', hadvances.acolyte.trans hacolyte, hadvances.action haction ▸ haction⟩
  · refine List.pairwise_append.mpr ⟨?_, h.acolytes, ?_⟩
    · exact (List.pairwise_map.mp hduring.ordered.acolytes).filter _
    · intro r hr r' hr' hsame
      obtain ⟨-, -, hnone⟩ := (mem_newlyPrepared).mp hr
      obtain ⟨record, hrecord, hacolyte, haction⟩ := h.remembered r' hr'
      exact haction (hnone record hrecord (hacolyte.trans hsame.symm))
  · intro r hr
    rcases List.mem_append.mp hr with hr | hr
    · obtain ⟨hmem, haction, -⟩ := (mem_newlyPrepared).mp hr
      exact ⟨hduring.ordered.records r hmem, haction, hduring.apart r hmem⟩
    · exact h.parties r hr

/-- In a run of fresh calls, every inbox and every acolyte lead to one bounty at most, and its
parties are apart when it is prepared. -/
theorem one_bounty {policy : Policy} {start : {s // validateSnapshot policy s = .ok ()}}
    {l : Ledger} (h : ((ledgers policy start).restrict (Ledger.Fresh policy)).Reachable l) :
    l.OneBounty policy := by
  refine (h.invariant (P := Ledger.Kept policy) (.open (validateSnapshot_ok.mp start.2)) ?_).oneBounty
  rintro l call - hl ⟨-, hfresh⟩
  exact hl.next hfresh

end Calls

/-! ## Two acolytes in one inbox -/

attribute [local instance] sampleHashing

def sampleStart : {s // validateSnapshot samplePolicy s = .ok ()} :=
  ⟨.new 0, validateSnapshot_ok.mpr (valid_new samplePolicy 0)⟩

def sampleReferral (inboxId : String) (acolyte : Address) : Request × Faults :=
  (.handleControl inboxId (some (addressText acolyte))
    (referralControlStart ++ "referrer=" ++ addressText sampleReferrer ++ "]]") 2, sampleFaults)

/-- An acolyte completes its onboarding in an inbox. -/
def sampleOnboarding (inboxId : String) (acolyte : Address) : Request × Faults :=
  (.markOnboardingComplete inboxId (addressText acolyte) 3, sampleFaults)

/-- An operator is registered, and an acolyte of it is referred and onboarded. -/
def sampleFirst : List (Request × Faults) :=
  [(.registerOperator (sampleText 'a' 64) (addressText sampleReferrer) 1, sampleFaults),
    sampleReferral (sampleText 'b' 64) sampleAcolyte,
    sampleOnboarding (sampleText 'b' 64) sampleAcolyte]

/-- The acolyte shows up in another inbox, and another wallet takes its old one. -/
def sampleSecond : List (Request × Faults) :=
  [(.markContact (sampleText 'c' 64) (addressText sampleAcolyte) 4, sampleFaults),
    sampleReferral (sampleText 'b' 64) 4, sampleOnboarding (sampleText 'b' 64) 4]

def sampleLedger (calls : List (Request × Faults)) : Ledger :=
  calls.foldl (Ledger.next samplePolicy) (.open sampleStart)

theorem sampleLedger_run :
    ((sampleLedger (sampleFirst ++ sampleSecond)).prepared.map (·.acolyte) = [4, sampleAcolyte] ∧
      (sampleText 'b' 64, (4 : Address)) ∈ (sampleLedger (sampleFirst ++ sampleSecond)).owned ∧
      (sampleText 'b' 64, sampleAcolyte) ∈ (sampleLedger (sampleFirst ++ sampleSecond)).owned) ∧
    (∀ p ∈ (sampleLedger (sampleFirst.take 2)).owned, p.2 = sampleAcolyte) ∧
    (∀ r ∈ (sampleLedger (sampleFirst.take 2)).runtime.state.records,
      r.referrerInboxId ≠ some (sampleText 'b' 64)) ∧
    (sampleLedger (sampleFirst.take 1)).owned = [] ∧
    (sampleLedger (sampleFirst.take 1)).runtime.state.records = [] := by
  decide +kernel

theorem reachable_sampleLedger (calls : List (Request × Faults)) :
    (ledgers samplePolicy sampleStart).Reachable (sampleLedger calls) :=
  Machine.Reachable.init.run (Machine.admits_of_forall fun _ _ => trivial)

theorem rotated_wallet_earns_again : ¬∀ (policy : Policy)
    (start : {s // validateSnapshot policy s = .ok ()}) (l : Ledger),
      (ledgers policy start).Reachable l → l.OneBounty policy := by
  intro h
  have hbounty := h samplePolicy sampleStart _ (reachable_sampleLedger (sampleFirst ++ sampleSecond))
  obtain ⟨hprepared, hlast, hfirst⟩ := sampleLedger_run.1
  generalize sampleLedger (sampleFirst ++ sampleSecond) = l at *
  have hinboxes : (l.prepared.map (·.acolyte)).Pairwise fun acolyte acolyte' =>
      ∀ inboxId, (inboxId, acolyte) ∈ l.owned → (inboxId, acolyte') ∉ l.owned :=
    List.pairwise_map.mpr hbounty.inboxes
  rw [hprepared] at hinboxes
  exact List.rel_of_pairwise_cons hinboxes (List.mem_singleton_self _) _ hlast hfirst

/-! ## A run of fresh calls -/

theorem sampleFirst_fresh :
    ((ledgers samplePolicy sampleStart).restrict (Ledger.Fresh samplePolicy)).Reachable
      (sampleLedger sampleFirst) := by
  obtain ⟨howned, hrecords, hnone, hempty⟩ := sampleLedger_run.2
  have hreferral : Ledger.Fresh samplePolicy (sampleLedger (sampleFirst.take 1))
      (sampleReferral (sampleText 'b' 64) sampleAcolyte) := by
    rintro inboxId acolyte -
    rw [hnone, hempty]
    exact ⟨fun _ h => absurd h List.not_mem_nil, fun _ h => absurd h List.not_mem_nil⟩
  have honboarding : Ledger.Fresh samplePolicy (sampleLedger (sampleFirst.take 2))
      (sampleOnboarding (sampleText 'b' 64) sampleAcolyte) := by
    intro inboxId acolyte hbinds
    obtain ⟨rfl, hparse⟩ : inboxId = sampleText 'b' 64 ∧
        parseAddress (asciiLower (addressText sampleAcolyte)) = some acolyte := by
      cases hbinds with
      | markOnboardingComplete hinbox hparse hfree honboarding => exact ⟨rfl, hparse⟩
    rw [asciiLower_addressText, parseAddress_addressText] at hparse
    obtain rfl := Option.some.inj hparse
    exact ⟨fun other h => howned _ h, fun r hr _ => hrecords r hr⟩
  exact Machine.Reachable.init.run
    ⟨⟨trivial, nofun⟩, ⟨trivial, hreferral⟩, ⟨trivial, honboarding⟩, trivial⟩

theorem one_bounty_sample : (sampleLedger sampleFirst).OneBounty samplePolicy :=
  one_bounty sampleFirst_fresh

end Cthuwu.Growth
