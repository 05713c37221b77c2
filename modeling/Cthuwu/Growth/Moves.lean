import Cthuwu.Growth.World
import Cthuwu.Lib.Moves

/-!
# What a call does to the growth runtime

A call writes, saves and asks the gateway, whether it returns or fails in the middle : `run_does`
reads these moves off the operations. Each write is justified by what the call has checked in the
snapshot where it writes, also when that snapshot is not valid any more, and binds no other inbox
than the one the call is about.
-/

namespace Cthuwu.Growth

open Council TokenEye Fallible
open Evolution (u64Max u32Max)
open Moves

/-- An acolyte without a record gets one with its onboarding complete, which is one move. -/
inductive Move
  | write (w : Write)
  | enroll (inboxId : String) (acolyte : Address) (now : ℕ)
  | save
  | invoke (invocation : Invocation)

variable [Hashing] {policy : Policy}

def Move.apply (policy : Policy) (r : Runtime) : Move → Runtime
  | write w => { r with state := w.apply policy r.state }
  | enroll inboxId acolyte now =>
    { r with
      state := (Write.complete r.state.records.length inboxId acolyte now).apply policy
        ((Write.enroll inboxId acolyte now).apply policy r.state) }
  | save => { r with disk := r.state }
  | invoke invocation => { r with invocations := r.invocations ++ [invocation] }

/-! ## Justified moves -/

/-- What a control needs to be accepted. -/
structure Accepts (policy : Policy) (s : GrowthSnapshot) (inboxId : String)
    (acolyte referrer : Address) (referrerInboxId : String) : Prop where
  free : s.identityConflicts inboxId acolyte = false
  minter : acolyte ≠ policy.minter
  self : acolyte ≠ referrer
  treasury : referrer ≠ policy.minter
  unreferred : ∀ r, s.record acolyte = some r →
    r.referrer = none ∧ r.onboardingCompletedAtUnix = none
  inbox : s.verifiedReferrerInbox referrer = some referrerInboxId
  other : referrerInboxId ≠ inboxId

/-- The acolyte has no record yet, and nobody is in the inbox. -/
structure GrowthSnapshot.Lacks (s : GrowthSnapshot) (inboxId : String) (acolyte : Address) : Prop where
  free : s.identityConflicts inboxId acolyte = false
  new : ∀ r ∈ s.records, r.acolyte ≠ acolyte

/-- The record waits for the answer of the gateway. -/
structure ReferralRecord.Pending (r : ReferralRecord) : Prop where
  phase : r.phase = .rewardPending ∨ r.phase = .submitted
  referrer : r.referrer ≠ none
  action : r.rewardActionId ≠ none

def Write.Justified (policy : Policy) (s : GrowthSnapshot) : Write → Prop
  | contact inboxId acolyte _ => s.Lacks inboxId acolyte
  | rebind index inboxId acolyte _ => s.identityConflicts inboxId acolyte = false ∧
      ∃ r, s.records[index]? = some r ∧ r.acolyte = acolyte
  | pin index inboxId acolyte referrer referrerInboxId _ =>
    Accepts policy s inboxId acolyte referrer referrerInboxId ∧ referrer ≠ 0 ∧
      ∃ r, s.records[index]? = some r ∧ s.record acolyte = some r ∧ r.acolyte = acolyte
  | pinNew inboxId acolyte referrer referrerInboxId _ =>
    Accepts policy s inboxId acolyte referrer referrerInboxId ∧ s.Lacks inboxId acolyte
  | enroll _ _ _ => False
  | complete index inboxId acolyte _ => s.identityConflicts inboxId acolyte = false ∧
      ∃ r, s.records[index]? = some r ∧ r.acolyte = acolyte ∧ r.onboardingCompletedAtUnix = none
  | prepare index _ => ∃ r, s.records[index]? = some r ∧ r.phase = .onboardingComplete
  | observe index _ acolyte _ _ => ∃ r, s.records[index]? = some r ∧ r.acolyte = acolyte
  | failAttempt index _ _ => ∃ r, s.records[index]? = some r ∧ r.Pending
  | requireFunding index _ _ => ∃ r, s.records[index]? = some r ∧ r.Pending
  | submit index _ _ _ => ∃ r, s.records[index]? = some r ∧ r.Pending
  | confirm index _ _ _ => ∃ r, s.records[index]? = some r ∧ r.Pending
  | delivered index _ => ∃ r, s.records[index]? = some r
  | _ => True

/-- The invocation is the one of a record that waits for its bounty. -/
def Invocation.IsDue (policy : Policy) (s : GrowthSnapshot) (invocation : Invocation) : Prop :=
  ∃ record ∈ s.records, ∃ referrer actionId,
    (record.phase = .rewardPending ∨ record.phase = .submitted) ∧
    record.referrer = some referrer ∧ record.rewardActionId = some actionId ∧
    invocation = record.invocation policy referrer actionId

def Move.Justified (policy : Policy) (r : Runtime) : Move → Prop
  | write w => w.Justified policy r.state
  | enroll inboxId acolyte _ => r.state.Lacks inboxId acolyte
  | save => validateSnapshot policy r.state = .ok ()
  | invoke invocation => invocation.IsDue policy r.state

def growthMoves (policy : Policy) : Moves Runtime Move where
  apply := Move.apply policy
  Justified := Move.Justified policy

/-! ## Bindings -/

/-- The inbox that a write binds to the record of an acolyte. -/
def Write.binding : Write → Option (String × Address)
  | contact inboxId acolyte _ => some (inboxId, acolyte)
  | rebind _ inboxId acolyte _ => some (inboxId, acolyte)
  | pin _ inboxId acolyte _ _ _ => some (inboxId, acolyte)
  | pinNew inboxId acolyte _ _ _ => some (inboxId, acolyte)
  | complete _ inboxId acolyte _ => some (inboxId, acolyte)
  | observe _ inboxId acolyte _ _ => some (inboxId, acolyte)
  | _ => none

def Move.binding : Move → Option (String × Address)
  | write w => w.binding
  | enroll inboxId acolyte _ => some (inboxId, acolyte)
  | _ => none

def Move.registers : Move → Bool
  | write (.register _ _) => true
  | _ => false

def Move.invoked : Move → Option Invocation
  | invoke invocation => some invocation
  | _ => none

/-- The inbox and the acolyte that a call binds together, when it does. -/
inductive Request.Binds (policy : Policy) (s : GrowthSnapshot) : Request → String → Address → Prop
  | markContact {inboxId authenticatedAddress : String} {now : ℕ} {acolyte : Address}
      (hinbox : validateInbox inboxId = .ok ())
      (hparse : parseAddress (asciiLower authenticatedAddress) = some acolyte)
      (hfree : s.identityConflicts inboxId acolyte = false) :
      Binds policy s (.markContact inboxId authenticatedAddress now) inboxId acolyte
  | handleControl {inboxId sender text rawReferrer : String} {now : ℕ} {acolyte referrer : Address}
      {referrerInboxId : String} (hinbox : validateInbox inboxId = .ok ())
      (hcontrol : parseReferralControl text = some rawReferrer)
      (hparse : parseAddress (asciiLower sender) = some acolyte)
      (hreferrer : parseAddress (asciiLower rawReferrer) = some referrer)
      (hanswer : s.answerControl policy inboxId acolyte referrer = .ok (.inr referrerInboxId)) :
      Binds policy s (.handleControl inboxId (some sender) text now) inboxId acolyte
  | markOnboardingComplete {inboxId authenticatedAddress : String} {now : ℕ} {acolyte : Address}
      (hinbox : validateInbox inboxId = .ok ())
      (hparse : parseAddress (asciiLower authenticatedAddress) = some acolyte)
      (hfree : s.identityConflicts inboxId acolyte = false)
      (honboarding : ∀ r ∈ s.records, r.acolyte = acolyte → r.onboardingCompletedAtUnix = none) :
      Binds policy s (.markOnboardingComplete inboxId authenticatedAddress now) inboxId acolyte
  | noteBrandingState {inboxId : String} {acolyte : Address} {state : DurableBrandingState}
      {observedAt : ℕ} (hinbox : validateInbox inboxId = .ok ())
      (hfree : s.record acolyte = none → s.identityConflicts inboxId acolyte = false)
      (hnews : ∀ r, s.record acolyte = some r → r.outdates state observedAt = false) :
      Binds policy s (.noteBrandingState inboxId acolyte state observedAt) inboxId acolyte

/-- The move binds only what the call binds, and a call that registers an operator binds nothing. The
gateway is invoked only for what waits for it when the call starts. -/
structure Request.Allows (policy : Policy) (s : GrowthSnapshot) (request : Request) (m : Move) :
    Prop where
  binds : ∀ inboxId acolyte, m.binding = some (inboxId, acolyte) →
    request.Binds policy s inboxId acolyte
  registers : m.registers = true → ∀ inboxId acolyte, ¬request.Binds policy s inboxId acolyte
  invokes : ∀ invocation, m.invoked = some invocation → invocation.IsDue policy s

/-! ## What the checks say -/

section Checks

variable {s : GrowthSnapshot} {inboxId : String} {acolyte : Address}

theorem isOf_iff {acolyte : Address} {record : ReferralRecord} :
    isOf acolyte record = true ↔ record.acolyte = acolyte := by
  rw [isOf, decide_eq_true_eq]

theorem acolyte_ne_of_none (h : position (isOf acolyte) s.records = none) :
    ∀ r ∈ s.records, r.acolyte ≠ acolyte := by
  intro r hr heq
  have hfalse := position_eq_none h r hr
  rw [(isOf_iff).mpr heq] at hfalse
  cases hfalse

theorem answerControl_inr {referrer : Address} {referrerInboxId : String}
    (h : s.answerControl policy inboxId acolyte referrer = .ok (.inr referrerInboxId)) :
    Accepts policy s inboxId acolyte referrer referrerInboxId := by
  unfold GrowthSnapshot.answerControl at h
  by_cases hconflict : s.identityConflicts inboxId acolyte = true
  · rw [if_pos hconflict] at h
    cases h
  by_cases hparties : acolyte = policy.minter ∨ acolyte = referrer ∨ referrer = policy.minter
  · rw [if_neg hconflict, if_pos hparties] at h
    cases h
  rw [if_neg hconflict, if_neg hparties] at h
  rw [not_or, not_or] at hparties
  split at h
  · split_ifs at h
    · cases h
    · simp only [requireNonzero, except_check_ok] at h
      cases h.2
  · rename_i hnone
    by_cases honboarded : (s.record acolyte).any (·.onboardingCompletedAtUnix.isSome) = true
    · rw [if_pos honboarded] at h
      cases h
    rw [if_neg honboarded] at h
    split at h
    · cases h
    · rename_i found hfound
      split_ifs at h with hother
      · cases h
      · obtain rfl := Sum.inr.inj (Except.ok.inj h)
        refine ⟨by rwa [Bool.not_eq_true] at hconflict, hparties.1, hparties.2.1, hparties.2.2,
          fun r hr => ?_, hfound, hother⟩
        rw [hr] at hnone honboarded
        simpa using And.intro hnone honboarded

variable {record : ReferralRecord} {index now : ℕ}

/-- A completed record, in the snapshot after the completion. -/
theorem get_complete (hget : s.records[index]? = some record) :
    ((Write.complete index inboxId acolyte now).apply policy s).records[index]? =
      some (record.complete inboxId now) := by
  have hmodify : (s.records.modify index (ReferralRecord.complete inboxId now))[index]? =
      some (record.complete inboxId now) := by
    rw [List.getElem?_modify_eq, hget]
    rfl
  change (s.complete index inboxId now).records[index]? = _
  unfold GrowthSnapshot.complete
  dsimp only
  split_ifs <;> exact hmodify

theorem waitingDelivery_none (h : s.waitingDelivery = none) :
    ∀ record ∈ s.records, record.pendingDelivery = none := by
  intro record hmem
  have hnone := List.findSome?_eq_none_iff.mp h record hmem
  exact Option.map_eq_none_iff.mp hnone

theorem phase_of_due (h : record.isDue now = true) (hphase : record.phase ≠ .onboardingComplete) :
    record.phase = .rewardPending ∨ record.phase = .submitted := by
  simp only [ReferralRecord.isDue, Bool.and_eq_true, Bool.or_eq_true, decide_eq_true_eq] at h
  tauto

end Checks

/-! ## Saving -/

section Saving

variable {now : ℕ}

/-- The runtime after a write that has been saved. -/
def Runtime.committed (policy : Policy) (r : Runtime) (w : Write) (now : ℕ) : Runtime :=
  let s := (Write.stamp now).apply policy (w.apply policy r.state)
  { r with state := s, disk := s }

/-- A snapshot is saved when it is valid and the store takes it. -/
theorem exec_persist_cases (r : Runtime) (fault : Option String) :
    (persist policy fault now).exec r = (.ok (), r.committed policy (.stamp now) now) ∧
        r.state.Valid policy ∨
      ∃ error, (persist policy fault now).exec r =
        (.error error, { r with state := Write.apply policy r.state (.stamp now) }) ∧
          (r.state.Valid policy → fault ≠ none) := by
  unfold persist write save
  rw [exec_modify_bind, exec_get_bind, exec_lift_bind]
  cases hvalid : validateSnapshot policy (Write.apply policy r.state (.stamp now)) with
  | error error =>
    refine .inr ⟨error, rfl, fun h => ?_⟩
    rw [validateSnapshot_ok.mpr h.stamp] at hvalid
    cases hvalid
  | ok u =>
    have hstate : r.state.Valid policy := { validateSnapshot_ok.mp hvalid with }
    cases fault with
    | none => exact .inl ⟨rfl, hstate⟩
    | some error => exact .inr ⟨error, rfl, fun _ => Option.some_ne_none _⟩

theorem state_persist {r r' : Runtime} {fault : Option String} {u : Unit}
    (h : (persist policy fault now).exec r = (.ok u, r')) :
    r'.state.records = r.state.records := by
  rcases @exec_persist_cases _ policy now r fault with ⟨hexec, -⟩ | ⟨error, hexec, -⟩
  · obtain ⟨-, rfl⟩ := Prod.mk.inj (hexec.symm.trans h)
    rfl
  · cases (Prod.mk.inj (hexec.symm.trans h)).1

end Saving

/-! ## The moves of a call -/

section Does

variable {α : Type} {r : Runtime} {s : GrowthSnapshot} {request : Request} {w : Write} {now : ℕ}
  {fault : Option String}

/-- The call does some justified moves, and binds only what it may. -/
abbrev Does (policy : Policy) (s : GrowthSnapshot) (request : Request) (x : Op α) (r : Runtime) :
    Prop :=
  (growthMoves policy).Does (fun _ => 0) (request.Allows policy s) x r

theorem allows_of_none {m : Move} (h : m.binding = none) (hregisters : m.registers = false)
    (hinvoked : m.invoked = none) : request.Allows policy s m := by
  constructor
  · intro inboxId acolyte hsome
    rw [h] at hsome
    cases hsome
  · intro htrue
    rw [hregisters] at htrue
    cases htrue
  · intro invocation hsome
    rw [hinvoked] at hsome
    cases hsome

theorem allows_of_binds {inboxId : String} {acolyte : Address}
    (hbinding : w.binding = some (inboxId, acolyte)) (h : request.Binds policy s inboxId acolyte) :
    request.Allows policy s (.write w) := by
  constructor
  · intro inboxId' acolyte' hsome
    obtain ⟨rfl, rfl⟩ := Prod.mk.inj (Option.some.inj (hbinding.symm.trans hsome))
    exact h
  · intro hregisters
    cases w with
    | register operator now => cases hbinding
    | _ => cases hregisters
  · exact nofun

theorem does_write (hjustified : w.Justified policy r.state)
    (hallowed : request.Allows policy s (.write w)) :
    Does policy s request (write policy w) r :=
  does_modify (m := .write w) hjustified hallowed rfl le_rfl

theorem does_persist : Does policy s request (persist policy fault now) r := by
  refine Moves.Does.bind (does_write trivial (allows_of_none rfl rfl rfl)) fun _ r' _ => ?_
  refine does_get_bind (does_lift_bind fun _ hvalid => ?_)
  cases fault with
  | some error => exact does_of_after rfl
  | none =>
    exact does_modify (m := .save) hvalid (allows_of_none rfl rfl rfl) rfl le_rfl

theorem does_commit {a : α} (hjustified : w.Justified policy r.state)
    (hallowed : request.Allows policy s (.write w)) :
    Does policy s request (do write policy w; persist policy fault now; return a : Op α) r :=
  Moves.Does.bind (does_write hjustified hallowed) fun _ _ _ =>
    Moves.Does.bind does_persist fun _ _ _ => does_pure a

theorem does_writeOrRestore (hjustified : w.Justified policy r.state)
    (hallowed : request.Allows policy s (.write w)) :
    Does policy s request (writeOrRestore policy w fault now) r := by
  unfold writeOrRestore write
  refine does_get_bind ?_
  rcases @exec_persist_cases _ policy now { r with state := w.apply policy r.state } fault
    with ⟨hexec, hvalid⟩ | ⟨error, hexec, -⟩
  · refine ⟨[.write w, .write (.stamp now), .save], ?_, ?_, fun _ _ => le_rfl⟩
    · unfold Fallible.after
      rw [exec_modify_bind, exec_tryCatch, hexec]
      exact ⟨hjustified, trivial, validateSnapshot_ok.mpr hvalid.stamp, rfl⟩
    · intro m hm
      simp only [List.mem_cons, List.not_mem_nil, or_false] at hm
      rcases hm with rfl | rfl | rfl
      · exact hallowed
      · exact allows_of_none rfl rfl rfl
      · exact allows_of_none rfl rfl rfl
  · refine does_of_after ?_
    unfold Fallible.after
    rw [exec_modify_bind, exec_tryCatch, hexec]
    dsimp only
    rw [exec_modify_bind]
    rfl

theorem does_discard {x : Op α} (h : Does policy s request x r) :
    Does policy s request (discard x) r :=
  Moves.Does.bind h fun _ _ _ => does_pure ()

theorem does_invoke {invocation : Invocation} (hdue : invocation.IsDue policy r.state)
    (hdue' : invocation.IsDue policy s) : Does policy s request (invoke invocation) r :=
  does_modify (m := .invoke invocation) hdue
    ⟨nofun, nofun, fun _ hsome => Option.some.inj hsome ▸ hdue'⟩ rfl le_rfl

/-! ### Contacts and controls -/

variable {inboxId : String} {acolyte : Address} {index : ℕ} {record : ReferralRecord}

theorem lacks_of_position (hfree : s.identityConflicts inboxId acolyte = false)
    (h : position (isOf acolyte) s.records = none) : s.Lacks inboxId acolyte :=
  ⟨hfree, acolyte_ne_of_none h⟩

variable {address : String}

theorem does_markContact (hbinds : ∀ acolyte,
      validateInbox inboxId = .ok () → parseAddress (asciiLower address) = some acolyte →
      r.state.identityConflicts inboxId acolyte = false →
      request.Binds policy s inboxId acolyte) :
    Does policy s request (markContact policy fault inboxId address now) r := by
  unfold markContact
  refine does_lift_bind fun _ hinbox => does_lift_bind fun acolyte hparse =>
    does_get_bind ?_
  obtain ⟨hparse, -⟩ := parseNonzeroAddress_ok.mp hparse
  split_ifs with hconflict
  · exact does_pure _
  rw [Bool.not_eq_true] at hconflict
  have hallowed := hbinds acolyte hinbox hparse hconflict
  split
  · rename_i index record hposition
    obtain ⟨hget, hof⟩ := position_eq_some hposition
    split_ifs
    · exact does_pure _
    · exact does_commit ⟨hconflict, record, hget, (isOf_iff).mp hof⟩ (allows_of_binds rfl hallowed)
  · rename_i hposition
    refine does_lift_bind fun _ _ => ?_
    exact does_commit (lacks_of_position hconflict hposition) (allows_of_binds rfl hallowed)

theorem does_handleControl {sender : Option String} {text : String}
    (hbinds : ∀ from' rawReferrer acolyte referrer referrerInboxId, sender = some from' →
      validateInbox inboxId = .ok () → parseReferralControl text = some rawReferrer →
      parseAddress (asciiLower from') = some acolyte →
      parseAddress (asciiLower rawReferrer) = some referrer →
      r.state.answerControl policy inboxId acolyte referrer = .ok (.inr referrerInboxId) →
      request.Binds policy s inboxId acolyte) :
    Does policy s request (handleControl policy fault inboxId sender text now) r := by
  unfold handleControl
  split
  · exact does_pure _
  · exact does_pure _
  · rename_i rawReferrer from' hraw
    refine does_lift_bind fun acolyte hacolyte => does_lift_bind fun referrer
      hreferrer => does_lift_bind fun _ hinbox => does_get_bind
      (does_lift_bind fun answer hanswer => ?_)
    obtain ⟨hacolyte, -⟩ := parseNonzeroAddress_ok.mp hacolyte
    obtain ⟨hreferrer, hne⟩ := parseNonzeroAddress_ok.mp hreferrer
    cases answer with
    | inl text => exact does_pure _
    | inr referrerInboxId =>
      have hallowed := hbinds _ _ _ _ _ rfl hinbox hraw hacolyte hreferrer hanswer
      have haccepts := answerControl_inr hanswer
      refine Moves.Does.bind ?_ fun _ _ _ =>
        Moves.Does.bind does_persist fun _ _ _ => does_pure _
      refine does_get_bind ?_
      split
      · rename_i index record hposition
        obtain ⟨hget, hof⟩ := position_eq_some hposition
        exact does_write ⟨haccepts, hne, record, hget, find?_of_position hposition, (isOf_iff).mp hof⟩
          (allows_of_binds rfl hallowed)
      · rename_i hposition
        refine does_lift_bind fun _ _ => ?_
        exact does_write ⟨haccepts, lacks_of_position haccepts.free hposition⟩
          (allows_of_binds rfl hallowed)

theorem does_registerOperator (hbinds : ∀ inboxId acolyte, ¬request.Binds policy s inboxId acolyte)
    : Does policy s request (registerOperator policy fault inboxId address now) r := by
  unfold registerOperator
  refine does_lift_bind fun _ _ => does_lift_bind fun acolyte _ =>
    does_get_bind ?_
  dsimp only
  split_ifs
  · exact does_pure _
  · exact does_lift_bind fun _ _ => does_writeOrRestore trivial
      ⟨fun _ _ h => (by cases h), fun _ => hbinds, fun _ h => (by cases h)⟩

/-! ### Onboarding and observations -/

theorem does_enroll_bind {β : Type} {f : Runtime → Op β} (hlacks : r.state.Lacks inboxId acolyte)
    (hallowed : request.Binds policy s inboxId acolyte)
    (hf : ∀ r' : Runtime, r'.state.records = r.state.records ++
        [ReferralRecord.new policy inboxId acolyte .direct now] →
      ∀ r'', Does policy s request (f r') r'') :
    Does policy s request (do
      write policy (.enroll inboxId acolyte now)
      let r' ← get
      write policy (.complete r.state.records.length inboxId acolyte now)
      f r') r := by
  have henroll : Does policy s request (modify fun r => Move.apply policy r (.enroll inboxId acolyte
      now) : Op PUnit) r :=
    does_modify (m := .enroll inboxId acolyte now) hlacks
      ⟨fun inboxId' acolyte' hsome => by
        obtain ⟨rfl, rfl⟩ := Prod.mk.inj (Option.some.inj hsome)
        exact hallowed, nofun, nofun⟩ rfl le_rfl
  refine Moves.Does.of_exec (Moves.Does.bind henroll fun _ r'' _ => hf
    { r with state := (Write.enroll inboxId acolyte now).apply policy r.state } rfl r'') ?_
  unfold write
  rw [exec_modify_bind, exec_get_bind, exec_modify_bind, exec_modify_bind]
  rfl

theorem does_markOnboardingComplete {faults : Faults} (hbinds : ∀ acolyte,
      validateInbox inboxId = .ok () → parseAddress (asciiLower address) = some acolyte →
      r.state.identityConflicts inboxId acolyte = false →
      (∀ record ∈ r.state.records, record.acolyte = acolyte →
        record.onboardingCompletedAtUnix = none) →
      request.Binds policy s inboxId acolyte) :
    Does policy s request (markOnboardingComplete policy faults inboxId address now) r := by
  unfold markOnboardingComplete
  refine does_lift_bind fun _ hinbox => does_lift_bind fun acolyte hparse =>
    does_get_bind ?_
  obtain ⟨hparse, -⟩ := parseNonzeroAddress_ok.mp hparse
  split_ifs with hrefused
  · exact does_pure _
  rw [not_or, Bool.not_eq_true, Bool.not_eq_true] at hrefused
  obtain ⟨hfree, honboarded⟩ := hrefused
  have honboarding : ∀ record ∈ r.state.records, record.acolyte = acolyte →
      record.onboardingCompletedAtUnix = none := by
    intro record hmem hacolyte
    have hrecord := List.any_eq_false.mp honboarded record hmem
    rw [(isOf_iff).mpr hacolyte] at hrecord
    simpa using hrecord
  have hallowed := hbinds acolyte hinbox hparse hfree honboarding
  simp only [enrolled, bind_assoc]
  refine does_get_bind ?_
  split
  · rename_i index record hposition
    obtain ⟨hget, hof⟩ := position_eq_some hposition
    rw [pure_bind]
    refine does_get_bind (Moves.Does.bind (does_write ⟨hfree, record, hget, (isOf_iff).mp hof,
      honboarding record (List.mem_of_getElem? hget) ((isOf_iff).mp hof)⟩
      (allows_of_binds rfl hallowed)) ?_)
    intro _ r₁ hcompleted
    obtain ⟨-, rfl⟩ := Prod.mk.inj hcompleted
    refine Moves.Does.bind does_persist fun _ r₂ hpersisted => ?_
    split_ifs with hreferred
    · rw [hget, Option.any_some] at hreferred
      refine does_commit ⟨record.complete inboxId now, ?_, if_pos hreferred⟩
        (allows_of_none rfl rfl rfl)
      rw [state_persist hpersisted]
      exact @get_complete _ policy r.state inboxId acolyte record index now hget
    · exact does_pure _
  · rename_i hposition
    simp only [bind_assoc, pure_bind]
    refine does_lift_bind fun _ _ => does_enroll_bind (lacks_of_position hfree hposition)
      hallowed fun r' hrecords r'' => Moves.Does.bind does_persist fun _ _ _ => ?_
    split_ifs with hreferred
    · rw [hrecords, List.getElem?_concat_length, Option.any_some] at hreferred
      cases hreferred
    · exact does_pure _

/-- A contact in somebody else's inbox does nothing. -/
theorem markContact_conflict {r' : Runtime} {b : Bool}
    (hconflict : r.state.identityConflicts inboxId acolyte = true)
    (h : (markContact policy fault inboxId (addressText acolyte) now).exec r = (.ok b, r')) :
    r' = r := by
  unfold markContact at h
  obtain ⟨-, -, h⟩ := lift_bind_ok.mp h
  obtain ⟨parsed, hparse, h⟩ := lift_bind_ok.mp h
  obtain ⟨hparsed, -⟩ := parseNonzeroAddress_ok.mp hparse
  rw [asciiLower_addressText, parseAddress_addressText] at hparsed
  obtain rfl := Option.some.inj hparsed
  rw [exec_get_bind, if_pos hconflict] at h
  exact (Prod.mk.inj h).2.symm

theorem does_noteBrandingState {faults : Faults} {state : DurableBrandingState} {observedAt : ℕ}
    (hbinds : validateInbox inboxId = .ok () →
      (r.state.record acolyte = none → r.state.identityConflicts inboxId acolyte = false) →
      (∀ record, r.state.record acolyte = some record → record.outdates state observedAt = false) →
      request.Binds policy s inboxId acolyte) :
    Does policy s request (noteBrandingState policy faults inboxId acolyte state observedAt) r := by
  unfold noteBrandingState
  refine does_lift_bind fun _ hinbox => does_get_bind ?_
  cases hrecord : r.state.record acolyte with
  | some record =>
    rw [if_neg (Option.some_ne_none _)]
    refine does_get_bind ?_
    split
    · exact does_of_after rfl
    · rename_i index found hposition
      obtain ⟨hget, hof⟩ := position_eq_some hposition
      split_ifs with houtdated
      · exact does_pure _
      · refine does_commit ⟨found, hget, (isOf_iff).mp hof⟩ (allows_of_binds rfl (hbinds hinbox ?_ ?_))
        · intro hnone
          rw [hrecord] at hnone
          cases hnone
        · intro other hother
          have hsame := (find?_of_position hposition).symm.trans hother
          obtain rfl := Option.some.inj hsame
          rwa [Bool.not_eq_true] at houtdated
  | none =>
    rw [if_pos rfl]
    have hallowed : r.state.identityConflicts inboxId acolyte = false →
        request.Binds policy s inboxId acolyte := by
      refine fun hfree => hbinds hinbox (fun _ => hfree) fun record hsome => ?_
      rw [hrecord] at hsome
      cases hsome
    refine Moves.Does.bind (does_discard (does_markContact fun acolyte' _ hparse hfree => ?_))
      fun _ r' hexec => does_get_bind ?_
    · rw [asciiLower_addressText, parseAddress_addressText] at hparse
      obtain rfl := Option.some.inj hparse
      exact hallowed hfree
    · split
      · exact does_of_after rfl
      · rename_i index found hposition
        obtain ⟨hget, hof⟩ := position_eq_some hposition
        split_ifs
        · exact does_pure _
        · refine does_commit ⟨found, hget, (isOf_iff).mp hof⟩ (allows_of_binds rfl (hallowed ?_))
          by_contra hconflict
          rw [Bool.not_eq_false] at hconflict
          obtain ⟨b, r₁, hcontact, hdone⟩ := bind_ok.mp hexec
          obtain ⟨-, rfl⟩ := Prod.mk.inj hdone
          rw [markContact_conflict hconflict hcontact] at hposition
          have hsome : r.state.record acolyte = some found := find?_of_position hposition
          rw [hrecord] at hsome
          cases hsome

/-! ### Deliveries and rewards -/

theorem does_promptOperator {branded : ℕ} :
    Does policy s request (promptOperator policy fault branded now) r := by
  unfold promptOperator
  refine does_get_bind ?_
  split
  · exact does_pure _
  · split_ifs
    · exact does_lift_bind fun _ _ => does_commit trivial (allows_of_none rfl rfl rfl)
    · exact does_pure _

theorem does_reconcileReward {reply : Reply} (hget : r.state.records[index]? = some record)
    (hphase : record.phase = .rewardPending ∨ record.phase = .submitted) :
    Does policy r.state request (reconcileReward policy fault reply index record now) r := by
  unfold reconcileReward
  refine does_lift_bind fun referrer hreferrer => does_lift_bind fun actionId haction =>
    Moves.Does.bind ?_ fun _ r' hexec => ?_
  · have hdue : (record.invocation policy referrer actionId).IsDue policy r.state :=
      ⟨record, List.mem_of_getElem? hget, referrer, actionId, hphase, okOr_ok.mp hreferrer,
        okOr_ok.mp haction, rfl⟩
    exact does_invoke hdue hdue
  obtain ⟨-, rfl⟩ := Prod.mk.inj hexec
  have hpending : ∃ other, r.state.records[index]? = some other ∧ other.Pending := by
    refine ⟨record, hget, hphase, ?_, ?_⟩
    · rw [okOr_ok.mp hreferrer]
      exact Option.some_ne_none _
    · rw [okOr_ok.mp haction]
      exact Option.some_ne_none _
  cases reply with
  | failed error => exact does_commit hpending (allows_of_none rfl rfl rfl)
  | malformed => exact does_of_after rfl
  | result result =>
    refine does_lift_bind fun _ _ => ?_
    cases result.disposition with
    | fundingRequired =>
      dsimp only
      unfold reconcileFunding
      split_ifs
      · exact does_commit hpending (allows_of_none rfl rfl rfl)
      · exact does_commit hpending (allows_of_none rfl rfl rfl)
    | submitted => exact does_commit hpending (allows_of_none rfl rfl rfl)
    | confirmed =>
      dsimp only
      unfold reconcileConfirmed
      iterate 7 refine does_lift_bind fun _ _ => ?_
      exact does_commit hpending (allows_of_none rfl rfl rfl)

theorem does_maintainOne {reply : Reply} {branded : ℕ} :
    Does policy r.state request (maintainOne policy fault reply branded now) r := by
  unfold maintainOne
  refine does_get_bind ?_
  split
  · exact does_pure _
  · rename_i record delivery _ _
    cases delivery.target with
    | referrerInbox => exact does_lift_bind fun _ _ => does_pure _
    | operators => exact does_pure _
  · rename_i index record _ _ hposition
    obtain ⟨hget, hdue⟩ := position_eq_some hposition
    split_ifs with hphase
    · exact does_lift_bind fun _ _ => does_commit ⟨record, hget, hphase⟩ (allows_of_none rfl rfl rfl)
    · exact does_reconcileReward hget (phase_of_due hdue hphase)
  · exact does_promptOperator

theorem does_acknowledgeDelivery {commitmentValue : String} {delivered : Bool} :
    Does policy s request (acknowledgeDelivery policy fault commitmentValue delivered now) r := by
  unfold acknowledgeDelivery
  refine does_get_bind ?_
  by_cases hprompt : isCommitted commitmentValue r.state.pendingOperatorPrompt = true
  · rw [if_pos hprompt]
    cases delivered with
    | false => exact does_persist
    | true =>
      exact Moves.Does.bind (does_write trivial (allows_of_none rfl rfl rfl)) fun _ _ _ => does_persist
  · rw [if_neg hprompt]
    split
    · exact does_pure _
    · rename_i index record hposition
      cases delivered with
      | false => exact does_persist
      | true =>
        exact Moves.Does.bind (does_write ⟨record, (position_eq_some hposition).1⟩
          (allows_of_none rfl rfl rfl)) fun _ _ _ => does_persist

/-- What a call does, from any snapshot and with any answers of the store and the gateway. -/
theorem run_does (request : Request) (faults : Faults) (r : Runtime) :
    Does policy r.state request (request.run policy faults) r := by
  cases request with
  | markContact inboxId address now =>
    exact does_discard (does_markContact fun acolyte hinbox hparse hfree =>
      .markContact hinbox hparse hfree)
  | handleControl inboxId sender text now =>
    refine does_discard (does_handleControl ?_)
    rintro from' rawReferrer acolyte referrer referrerInboxId rfl hinbox hraw hparse hreferrer
      hanswer
    exact .handleControl hinbox hraw hparse hreferrer hanswer
  | registerOperator inboxId address now => exact does_registerOperator nofun
  | markOnboardingComplete inboxId address now =>
    exact does_discard (does_markOnboardingComplete fun acolyte hinbox hparse hfree honboarding =>
      .markOnboardingComplete hinbox hparse hfree honboarding)
  | noteBrandingState inboxId acolyte state observedAt =>
    exact does_discard (does_noteBrandingState fun hinbox hfree hnews =>
      .noteBrandingState hinbox hfree hnews)
  | reminderPreferences arguments now =>
    refine does_discard (does_lift_bind fun preference _ => ?_)
    exact Moves.Does.bind (does_writeOrRestore trivial (allows_of_none rfl rfl rfl)) fun _ _ _ =>
      does_pure _
  | deferDue now =>
    exact Moves.Does.bind (does_write trivial (allows_of_none rfl rfl rfl)) fun _ _ _ => does_persist
  | maintainOne reply branded now => exact does_discard does_maintainOne
  | acknowledgeDelivery commitmentValue delivered now => exact does_acknowledgeDelivery
  | noteReferralLinkSent now =>
    exact Moves.Does.bind (does_write trivial (allows_of_none rfl rfl rfl)) fun _ _ _ => does_persist
  | operatorStatus operatorAddress branded now =>
    refine does_discard (does_get_bind (Moves.Does.bind ?_ fun _ _ _ => does_pure _))
    exact Moves.Does.bind (does_write trivial (allows_of_none rfl rfl rfl)) fun _ _ _ => does_persist
  | recordBrandingAttempt outcome now => exact does_writeOrRestore trivial (allows_of_none rfl rfl rfl)

end Does

end Cthuwu.Growth
