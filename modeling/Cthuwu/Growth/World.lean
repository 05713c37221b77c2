import Cthuwu.Growth.Records
import Cthuwu.Lib.Runs

/-!
# Runs of the growth runtime

A `Request` is one call with all it is given, and `machine` runs calls one after another, whether
they return or fail. In between the node may restart from what it saved last, under a policy of the
operator's, and it may crash in the middle of a call, after any of its saves.
-/

namespace Cthuwu.Growth

open Council TokenEye
open Evolution (u64Max u32Max)

variable [Hashing]

/-! ## Loading -/

/-- The record follows the amount of the policy. -/
def ReferralRecord.isEarly (r : ReferralRecord) : Bool :=
  r.phase = .newContact || r.phase = .direct || r.phase = .attributed

variable (w : World) (policy : Policy)

def ReferralRecord.migrate (r : ReferralRecord) : ReferralRecord :=
  if r.isEarly then { r with rewardAmountBaseUnits := policy.rewardAmountBaseUnits } else r

/-- `GrowthStore::load_or_create` of a snapshot that is there. -/
def load (fault : Option String) (disk : GrowthSnapshot) (now : ℕ) :
    Except String GrowthSnapshot := do
  let migrated := { disk with records := disk.records.map (ReferralRecord.migrate policy) }
  validateSnapshot policy migrated
  if disk.records.any fun r =>
      r.isEarly && r.rewardAmountBaseUnits ≠ policy.rewardAmountBaseUnits then do
    let stamped := { migrated with updatedAtUnix := max now migrated.updatedAtUnix }
    validateSnapshot policy stamped
    match fault with
    | some error => .error error
    | none => return stamped
  else return migrated

inductive Request
  | markContact (inboxId authenticatedAddress : String) (now : ℕ)
  | handleControl (inboxId : String) (authenticatedSender : Option String) (text : String)
      (now : ℕ)
  | registerOperator (inboxId authenticatedAddress : String) (now : ℕ)
  | markOnboardingComplete (inboxId authenticatedAddress : String) (now : ℕ)
  | noteBrandingState (inboxId : String) (acolyte : Address) (state : DurableBrandingState)
      (observedAt : ℕ)
  | reminderPreferences (arguments : String) (now : ℕ)
  | deferDue (now : ℕ)
  | maintainOne (reply : Reply) (branded now : ℕ)
  | acknowledgeDelivery (commitmentValue : String) (delivered : Bool) (now : ℕ)
  | noteReferralLinkSent (now : ℕ)
  | operatorStatus (operatorAddress : Address) (branded now : ℕ)
  | recordBrandingAttempt (outcome : BrandingAttemptOutcome) (now : ℕ)

def Request.run (faults : Faults) : Request → Op Unit
  | markContact inboxId authenticatedAddress now =>
    discard (Growth.markContact policy faults.first inboxId authenticatedAddress now)
  | handleControl inboxId authenticatedSender text now =>
    discard (Growth.handleControl policy faults.first inboxId authenticatedSender text now)
  | registerOperator inboxId authenticatedAddress now =>
    Growth.registerOperator policy faults.first inboxId authenticatedAddress now
  | markOnboardingComplete inboxId authenticatedAddress now =>
    discard (Growth.markOnboardingComplete policy faults inboxId authenticatedAddress now)
  | noteBrandingState inboxId acolyte state observedAt =>
    discard (Growth.noteBrandingState policy faults inboxId acolyte state observedAt)
  | reminderPreferences arguments now =>
    discard (Growth.reminderPreferences policy faults.first arguments now)
  | deferDue now => Growth.deferDue policy faults.first now
  | maintainOne reply branded now =>
    discard (Growth.maintainOne policy faults.first reply branded now)
  | acknowledgeDelivery commitmentValue delivered now =>
    Growth.acknowledgeDelivery policy faults.first commitmentValue delivered now
  | noteReferralLinkSent now => Growth.noteReferralLinkSent policy faults.first now
  | operatorStatus operatorAddress branded now =>
    discard (Growth.operatorStatus policy faults.first operatorAddress branded now)
  | recordBrandingAttempt outcome now =>
    Growth.recordBrandingAttempt policy faults.first outcome now

/-! ## Events -/

/-- How a node comes up again. -/
structure Reopening where
  policy : Policy
  fault : Option String
  now : ℕ

/-- A call, a call in which the node crashes, or a restart. In a crash, a save that does not happen
any more is one that fails. -/
inductive Event
  | call (request : Request) (faults : Faults)
  | crash (request : Request) (faults : Faults) (reopening : Reopening)
  | restart (reopening : Reopening)

structure World where
  policy : Policy
  runtime : Runtime

def World.open (now : ℕ) : World :=
  ⟨policy, .new now, .new now, []⟩

def World.called (request : Request) (faults : Faults) : World :=
  { w with runtime := (request.run w.policy faults).after w.runtime }

def World.reopened (reopening : Reopening) : World :=
  match load reopening.policy reopening.fault w.runtime.disk reopening.now with
  | .ok s => ⟨reopening.policy, s, s, w.runtime.invocations⟩
  | .error _ => w

def World.CanReopen (reopening : Reopening) : Prop :=
  (load reopening.policy reopening.fault w.runtime.disk reopening.now).isOk = true

def World.next : Event → World
  | .call request faults => w.called request faults
  | .crash request faults reopening => (w.called request faults).reopened reopening
  | .restart reopening => w.reopened reopening

/-- Any calls in any order, and restarts that come up. -/
def machine (now : ℕ) : Machine World Event where
  init := .open policy now
  Allowed w e := match e with
    | .call _ _ => True
    | .crash request faults reopening => (w.called request faults).CanReopen reopening
    | .restart reopening => w.CanReopen reopening
  next := World.next

end Cthuwu.Growth
