import Cthuwu.Growth.Snapshot

/-!
# Writes to the snapshot

A `Write` is what a call changes in memory before it saves : one record is added, or one record is
changed where it stands, and the prompts of the operator change beside it. A write that binds an
inbox to a record names the acolyte of the record.
-/

namespace Cthuwu.Growth

open TokenEye
open Evolution (u64Max u32Max)

def retrySeconds : ℕ := 60

def fundingRetrySeconds : ℕ := 5 * 60

def fundingNoticeCooldownSeconds : ℕ := 24 * 60 * 60

def operatorPromptCooldownSeconds : ℕ := 7 * 24 * 60 * 60

def recentOnboardingSeconds : ℕ := 7 * 24 * 60 * 60

def saturatingAdd (bound n m : ℕ) : ℕ :=
  min (n + m) bound

/-- The next of the three prompts, a byte counted modulo three. -/
def nextVariant (variant : ℕ) : ℕ :=
  (variant + 1) % 256 % 3

inductive Preference
  | interval (seconds : ℕ)
  | snooze (untilUnix : ℕ)
  | quiet (hours : Option (ℕ × ℕ))

inductive Write
  | stamp (now : ℕ)
  | contact (inboxId : String) (acolyte : Address) (now : ℕ)
  | rebind (index : ℕ) (inboxId : String) (acolyte : Address) (now : ℕ)
  | pin (index : ℕ) (inboxId : String) (acolyte referrer : Address) (referrerInboxId : String)
      (now : ℕ)
  | pinNew (inboxId : String) (acolyte referrer : Address) (referrerInboxId : String) (now : ℕ)
  | register (operator : VerifiedOperator) (now : ℕ)
  | enroll (inboxId : String) (acolyte : Address) (now : ℕ)
  | complete (index : ℕ) (inboxId : String) (acolyte : Address) (now : ℕ)
  | prepare (index : ℕ) (now : ℕ)
  | observe (index : ℕ) (inboxId : String) (acolyte : Address) (state : DurableBrandingState)
      (observedAt : ℕ)
  | sendLink
  | recordAttempt (outcome : BrandingAttemptOutcome) (now : ℕ)
  | prefer (preference : Preference)
  | deferDue (now : ℕ)
  | prompt (delivery : PendingDelivery)
  | failAttempt (index : ℕ) (error : String) (now : ℕ)
  | requireFunding (index : ℕ) (notice : Option PendingDelivery) (now : ℕ)
  | submit (index : ℕ) (transactionHash transactionNonce : Option String) (now : ℕ)
  | confirm (index : ℕ) (receipt : RewardReceipt) (delivery : PendingDelivery) (now : ℕ)
  | promptDelivered (now : ℕ)
  | delivered (index : ℕ) (now : ℕ)

/-! ## Records -/

variable (inboxId : String) (s : GrowthSnapshot) (now : ℕ) (r : ReferralRecord)

namespace ReferralRecord

def new (policy : Policy) (inboxId : String) (acolyte : Address) (phase : ReferralRewardPhase)
    (now : ℕ) : ReferralRecord where
  inboxId := asciiLower inboxId
  acolyte := acolyte
  referrer := none
  referrerInboxId := none
  phase := phase
  brandingState := none
  brandingStateUpdatedAtUnix := none
  rewardAmountBaseUnits := policy.rewardAmountBaseUnits
  rewardActionId := none
  transactionHash := none
  transactionNonce := none
  receipt := none
  pendingDelivery := none
  lastFundingFingerprint := none
  lastFundingNoticeUnix := none
  nextAttemptUnix := u64Max
  attemptCount := 0
  lastError := none
  attributedAtUnix := none
  onboardingCompletedAtUnix := none
  createdAtUnix := now
  updatedAtUnix := now

/-- The acolyte is met in another inbox. -/
def rebind : ReferralRecord :=
  { r with inboxId := asciiLower inboxId, updatedAtUnix := max r.updatedAtUnix now }

/-- The referrer is met in another inbox. -/
def follow (referrer : Address) (inboxId : String) (now : ℕ) (r : ReferralRecord) :
    ReferralRecord :=
  if r.referrer = some referrer ∧ r.inboxId ≠ inboxId then
    { r with referrerInboxId := some inboxId, updatedAtUnix := max r.updatedAtUnix now }
  else r

def pin (referrer : Address) (referrerInboxId : String) (now : ℕ)
    (r : ReferralRecord) : ReferralRecord :=
  { r with
    inboxId := asciiLower inboxId
    referrer := some referrer
    referrerInboxId := some referrerInboxId
    phase := .attributed
    attributedAtUnix := some now
    updatedAtUnix := now }

def complete : ReferralRecord :=
  { r with
    inboxId := asciiLower inboxId
    onboardingCompletedAtUnix := some now
    updatedAtUnix := now
    phase := if r.referrer.isSome then .onboardingComplete else .direct
    nextAttemptUnix := if r.referrer.isSome then now else u64Max }

def prepare : ReferralRecord :=
  { r with
    rewardActionId := some (Growth.rewardActionId r.acolyte)
    phase := .rewardPending
    nextAttemptUnix := now
    updatedAtUnix := now }

def observe (state : DurableBrandingState) (observedAt : ℕ)
    (r : ReferralRecord) : ReferralRecord :=
  { r with
    inboxId := asciiLower inboxId
    brandingState := some state
    brandingStateUpdatedAtUnix := some observedAt
    updatedAtUnix := max r.updatedAtUnix observedAt }

/-- The record waits for its next attempt on a bounty, and it is time. -/
def isDue : Bool :=
  (r.phase = .onboardingComplete || r.phase = .rewardPending || r.phase = .submitted) &&
    r.nextAttemptUnix ≤ now

def deferDue : ReferralRecord :=
  if r.isDue now then { r with nextAttemptUnix := saturatingAdd u64Max now retrySeconds } else r

def failAttempt (error : String) (now : ℕ) (r : ReferralRecord) : ReferralRecord :=
  { r with
    attemptCount := saturatingAdd u32Max r.attemptCount 1
    lastError := some (bounded error 512)
    nextAttemptUnix := saturatingAdd u64Max now retrySeconds
    updatedAtUnix := now }

def requireFunding (notice : Option PendingDelivery) (now : ℕ) (r : ReferralRecord) :
    ReferralRecord :=
  { r with
    phase := .rewardPending
    attemptCount := saturatingAdd u32Max r.attemptCount 1
    lastError := none
    updatedAtUnix := now
    pendingDelivery := notice <|> r.pendingDelivery
    nextAttemptUnix :=
      if notice.isSome then now else saturatingAdd u64Max now fundingRetrySeconds }

def submit (transactionHash transactionNonce : Option String) (now : ℕ) (r : ReferralRecord) :
    ReferralRecord :=
  { r with
    phase := .submitted
    transactionHash := transactionHash
    transactionNonce := transactionNonce
    attemptCount := saturatingAdd u32Max r.attemptCount 1
    nextAttemptUnix := saturatingAdd u64Max now retrySeconds
    lastError := none
    updatedAtUnix := now }

def confirm (receipt : RewardReceipt) (delivery : PendingDelivery) (now : ℕ) (r : ReferralRecord) :
    ReferralRecord :=
  { r with
    phase := .confirmed
    transactionHash := some receipt.transactionHash
    transactionNonce := some receipt.transactionNonce
    receipt := some receipt
    pendingDelivery := some delivery
    attemptCount := saturatingAdd u32Max r.attemptCount 1
    nextAttemptUnix := u64Max
    lastError := none
    updatedAtUnix := now }

/-- The delivery is done. A notice about funding is remembered. -/
def delivered : ReferralRecord :=
  match r.pendingDelivery.bind (·.fundingFingerprint) with
  | some fingerprint =>
    { r with
      pendingDelivery := none
      lastFundingFingerprint := some fingerprint
      lastFundingNoticeUnix := some now
      nextAttemptUnix := saturatingAdd u64Max now fundingRetrySeconds }
  | none => { r with pendingDelivery := none }

end ReferralRecord

/-! ## Snapshots -/

namespace GrowthSnapshot

def push : GrowthSnapshot :=
  { s with records := s.records ++ [r] }

def change (index : ℕ) (f : ReferralRecord → ReferralRecord) :
    GrowthSnapshot :=
  { s with records := s.records.modify index f }

/-- The operator is registered, in place of whoever had the address or the inbox. -/
def register (operator : VerifiedOperator) (now : ℕ) : GrowthSnapshot :=
  { s with
    verifiedOperators := (s.verifiedOperators.filter (fun other =>
      other.address ≠ operator.address ∧ other.inboxId ≠ operator.inboxId) ++
        [operator]).mergeSort fun a b => a.inboxId ≤ b.inboxId
    records := s.records.map (ReferralRecord.follow operator.address operator.inboxId now)
    currentOperator := some operator
    pendingOperatorPrompt := none }

/-- A referred acolyte has come : the next prompt is a new one. -/
def refreshPrompt : GrowthSnapshot :=
  { s with
    pendingOperatorPrompt := none
    operatorPromptVariant := nextVariant s.operatorPromptVariant
    lastOperatorPromptUnix := some (now - operatorPromptCooldownSeconds) }

def complete (index : ℕ) (inboxId : String) (now : ℕ) : GrowthSnapshot :=
  let completed := s.change index (ReferralRecord.complete inboxId now)
  if (s.records[index]?).any (·.referrer.isSome) then completed.refreshPrompt now else completed

def prefer (preference : Preference) : GrowthSnapshot :=
  let preferred := match preference with
    | .interval seconds => { s with operatorReminderInterval := some seconds }
    | .snooze untilUnix => { s with operatorSnoozeUntil := untilUnix }
    | .quiet hours => { s with operatorQuietHours := hours }
  { preferred with pendingOperatorPrompt := none }

def promptDelivered : GrowthSnapshot :=
  { s with
    pendingOperatorPrompt := none
    lastOperatorPromptUnix := some now
    operatorPromptVariant := nextVariant s.operatorPromptVariant
    referralsSent := saturatingAdd u64Max s.referralsSent 1 }

end GrowthSnapshot

open GrowthSnapshot in
def Write.apply (policy : Policy) (s : GrowthSnapshot) : Write → GrowthSnapshot
  | stamp now => { s with updatedAtUnix := now }
  | contact inboxId acolyte now => s.push (.new policy inboxId acolyte .newContact now)
  | rebind index inboxId acolyte now =>
    let rebound := s.change index (ReferralRecord.rebind inboxId now)
    { rebound with records := rebound.records.map (ReferralRecord.follow acolyte inboxId now) }
  | pin index inboxId _ referrer referrerInboxId now =>
    s.change index (ReferralRecord.pin inboxId referrer referrerInboxId now)
  | pinNew inboxId acolyte referrer referrerInboxId now =>
    s.push ((ReferralRecord.new policy inboxId acolyte .newContact now).pin inboxId referrer
      referrerInboxId now)
  | register operator now => s.register operator now
  | enroll inboxId acolyte now => s.push (.new policy inboxId acolyte .direct now)
  | complete index inboxId _ now => s.complete index inboxId now
  | prepare index now => s.change index (ReferralRecord.prepare now)
  | observe index inboxId _ state observedAt =>
    s.change index (ReferralRecord.observe inboxId state observedAt)
  | sendLink => { s with referralsSent := saturatingAdd u64Max s.referralsSent 1 }
  | recordAttempt outcome now => { s with lastBrandingAttempt := some (outcome, now) }
  | prefer preference => s.prefer preference
  | deferDue now => { s with records := s.records.map (ReferralRecord.deferDue now) }
  | prompt delivery => { s with pendingOperatorPrompt := some delivery }
  | failAttempt index error now => s.change index (ReferralRecord.failAttempt error now)
  | requireFunding index notice now => s.change index (ReferralRecord.requireFunding notice now)
  | submit index transactionHash transactionNonce now =>
    s.change index (ReferralRecord.submit transactionHash transactionNonce now)
  | confirm index receipt delivery now =>
    s.change index (ReferralRecord.confirm receipt delivery now)
  | promptDelivered now => s.promptDelivered now
  | delivered index now => s.change index (ReferralRecord.delivered now)

end Cthuwu.Growth
