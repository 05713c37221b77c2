import Cthuwu.Lib.Update
import Cthuwu.Offers.Gateway

/-!
# The Branding runtime

The calls of `BrandingRuntime`, each with its checks, its changes and its saves in the order of the
code. A call changes the snapshot in memory and then saves it (`persist`). Offers and consents put
the old snapshot back when the save fails (`orRestore`), the other calls do not. The supervisor
takes the actions that are due in turn, and asks the gateway once for each.
-/

namespace Cthuwu.Offers

open Council TokenEye

def minSigningWindowSeconds : ℕ := 120

def maxInspectionBlockAgeSeconds : ℕ := 5 * 60

def maxFutureBlockSkewSeconds : ℕ := 2 * 60

def retrySeconds : ℕ := 60

def fundingRetrySeconds : ℕ := 5 * 60

def fundingNoticeCooldownSeconds : ℕ := 24 * 60 * 60

def terminalRetentionSeconds : ℕ := 30 * 24 * 60 * 60

/-- A moment some time after another, on a clock of 64 bits. -/
def later (now seconds : ℕ) : ℕ :=
  min (now + seconds) u64Max

/-! ## The queue -/

variable (inboxId : String) (acolyte : Address) (now : ℕ) (a : BrandingAction)
  (s : BrandingSnapshot)

namespace BrandingAction

/-- The deadline of the offer, when it fits the local clock. -/
def deadline : Option ℕ :=
  a.inspection.bind fun inspection => parseU64 inspection.deadline

def isOf : Bool :=
  a.inboxId = inboxId && a.acolyte = acolyte

/-- The offer waits for consent past its deadline. -/
def elapsed : Bool :=
  (a.phase = .offerPendingDelivery || a.phase = .offered) && a.deadline.any (· ≤ now)

def expire : BrandingAction :=
  { a with
    phase := .expired
    pendingDelivery := none
    updatedAtUnix := now }

/-- The history of the queue that is kept. -/
def retained : Bool :=
  !a.phase.terminal || now - a.updatedAtUnix ≤ terminalRetentionSeconds

/-- The acolyte has consented, and the consent may still be used. -/
def holdsAuthority : Bool :=
  a.phase = .consented || a.phase = .fundingRequired || a.phase = .receiptPendingDelivery ||
    (a.phase = .failedPermanent && a.completionActionId.isSome && a.deadline.all (now ≤ ·))

/-- The same offer is still open. -/
def repeats (agentId : U256) (referrer : Address) (quote : BrandingQuote) (a : BrandingAction) :
    Bool :=
  !a.phase.terminal && a.referrer = referrer && a.controllerAgentId = agentId &&
    a.treasuryBalance = quote.treasuryBalance && a.priceBasisPoints = quote.priceBasisPoints &&
    a.initialDeclaredPrice = quote.initialDeclaredPrice &&
    a.firstWeekUpkeep = quote.firstWeekUpkeep

def supersede : BrandingAction :=
  { a with
    phase := .superseded
    consent := none
    pendingDelivery := none
    updatedAtUnix := now }

def isDue : Bool :=
  !a.phase.terminal && a.nextAttemptUnix ≤ now

end BrandingAction

namespace BrandingSnapshot

/-- Change the actions that satisfy `p`. -/
def updateWhere (p : BrandingAction → Bool) (f : BrandingAction → BrandingAction)
    (s : BrandingSnapshot) : BrandingSnapshot :=
  { s with actions := s.actions.map fun a => if p a = true then f a else a }

def update (index : ℕ) (f : BrandingAction → BrandingAction) (s : BrandingSnapshot) :
    BrandingSnapshot :=
  { s with actions := s.actions.modify index f }

def expireOffers : BrandingSnapshot :=
  s.updateWhere (·.elapsed now) (·.expire now)

def pruneTerminal : BrandingSnapshot :=
  let actions := s.actions.filter (·.retained now)
  { s with
    cursor := if actions = [] then 0 else s.cursor % actions.length
    actions := actions }

/-- What every offer does to the queue before it is looked at. -/
def tidy : BrandingSnapshot :=
  (s.expireOffers now).pruneTerminal now

/-- The first terminal action makes room in a full queue. -/
def evict : BrandingSnapshot :=
  if s.actions.length < maxActions then s
  else match s.actions.findIdx? (·.phase.terminal) with
    | none => s
    | some index =>
      { s with
        actions := s.actions.eraseIdx index
        cursor := if index < s.cursor then s.cursor - 1
          else if s.actions.length - 1 ≤ s.cursor then 0 else s.cursor }

def supersedeLive :
    BrandingSnapshot :=
  s.updateWhere (fun a => !a.phase.terminal && a.isOf inboxId acolyte) (·.supersede now)

def push : BrandingSnapshot :=
  { s with actions := s.actions ++ [a] }

/-- The queue does not take an offer of this conversation. -/
def refuses (agentId : U256) (referrer : Address)
    (quote : BrandingQuote) (now : ℕ) (s : BrandingSnapshot) : Bool :=
  s.actions.any (fun a => a.holdsAuthority now && a.isOf inboxId acolyte) ||
    s.actions.any fun a => a.isOf inboxId acolyte && a.repeats agentId referrer quote

/-- What `persist` writes before it saves. -/
def stamp : BrandingSnapshot :=
  { s with
    updatedAtUnix := now
    cursor := if s.actions = [] then 0
      else if s.actions.length ≤ s.cursor then s.cursor % s.actions.length else s.cursor }

/-- The place of the last action that satisfies `p`. -/
def rposition (p : BrandingAction → Bool) (s : BrandingSnapshot) : Option (ℕ × BrandingAction) :=
  (position p s.actions.reverse).map fun (index, a) => (s.actions.length - 1 - index, a)

/-- The first due action from the cursor on, around the queue. -/
def dueFrom : Option ℕ :=
  ((List.range s.actions.length).map fun offset =>
    (s.cursor % s.actions.length + offset) % s.actions.length).find? fun index =>
      (s.actions[index]?).any (·.isDue now)

end BrandingSnapshot

def BrandingAction.request [Hashing] (minter : Address) (inboxId : String) (acolyte : Address)
    (agentId : U256) (referrer : Address) (quote : BrandingQuote) (offerId : OfferId) (now : ℕ) :
    BrandingAction :=
  { offerId, inboxId, acolyte, minter
    controllerAgentId := agentId
    referrer
    treasuryBalance := quote.treasuryBalance
    priceBasisPoints := quote.priceBasisPoints
    initialDeclaredPrice := quote.initialDeclaredPrice
    firstWeekUpkeep := quote.firstWeekUpkeep
    acolyteName := Offers.acolyteName acolyte
    phase := .requested
    observedBrandingStatus := none
    inspection := none
    consent := none
    receipt := none
    completionActionId := none
    pendingDelivery := none
    lastFundingFingerprint := none
    lastFundingNoticeUnix := none
    attemptCount := 0
    nextAttemptUnix := now
    lastError := none
    createdAtUnix := now
    updatedAtUnix := now }

/-! ## Operations -/

structure Runtime where
  state : BrandingSnapshot
  /-- What was saved last. -/
  disk : BrandingSnapshot
  /-- What the gateway has been asked for, in order. -/
  invocations : List Invocation

abbrev Op (α : Type) := Fallible String Runtime α

/-- What becomes of the saves of a turn of the supervisor, in their order : the error when the
store does not take the snapshot, because it does not fit or the file system fails. -/
structure Faults where
  select : Option String
  work : Option String
  record : Option String

def change (f : BrandingSnapshot → BrandingSnapshot) : Op Unit :=
  modify fun r => { r with state := f r.state }

/-- Put the old snapshot back when the operation fails. -/
def orRestore {α : Type} (x : Op α) (previous : BrandingSnapshot) : Op α :=
  tryCatch x fun error => do
    change fun _ => previous
    throw error

variable [Hashing]

variable (result : BrandingCompletionResult) (now : ℕ) (a : BrandingAction) (minter : Address)
  (fault : Option String) (inboxId : String)

/-- `BrandingStore::save`. -/
def save : Op Unit := do
  let r ← get
  liftM (r.state.validate minter)
  match fault with
  | some error => throw error
  | none => modify fun r => { r with disk := r.state }

def persist (now : ℕ) : Op Unit := do
  change (·.stamp now)
  save minter fault

/-! ### Offers -/

def enqueueOfferInner
    (acolyte : Address) (agentId : U256) (referrer : Address) (quote : BrandingQuote)
    (offerId : OfferId) (now : ℕ) : Op Bool := do
  liftM (validateInboxId inboxId)
  liftM (requireNonzero referrer "Branding referrer")
  change (·.tidy now)
  let r ← get
  if r.state.refuses inboxId acolyte agentId referrer quote now = true then return false
  else do
    change fun s => s.evict.supersedeLive inboxId acolyte now
    let r ← get
    liftM (failIf (maxActions ≤ r.state.actions.length) "Branding action queue is full")
    change (·.push (.request minter inboxId acolyte agentId referrer quote offerId now))
    persist minter fault now
    return true

def enqueueOffer (acolyte : Address)
    (agentId : U256) (referrer : Address) (quote : BrandingQuote) (offerId : OfferId) (now : ℕ) :
    Op Bool := do
  let previous ← get
  let queued ← orRestore
    (enqueueOfferInner minter fault inboxId acolyte agentId referrer quote offerId now)
    previous.state
  let r ← get
  if queued = false ∧ r.state ≠ previous.state then
    orRestore (persist minter fault now) previous.state
  return queued

/-- The source of a fresh offer gives up its place. -/
def BrandingAction.retire : BrandingAction :=
  { a with
    phase := .superseded
    consent := none
    receipt := none
    completionActionId := none
    pendingDelivery := none
    lastFundingFingerprint := none
    lastFundingNoticeUnix := none
    nextAttemptUnix := u64Max
    lastError := some "superseded by an authenticated fresh-offer request"
    updatedAtUnix := now }

/-- The source has consumed its consent, or failed with it. -/
def BrandingAction.hasUsedConsent : Bool :=
  a.phase = .consented || a.phase = .fundingRequired ||
    (a.phase = .failedPermanent && a.completionActionId.isSome)

/-- The latest action of the conversation, when it may be replaced. -/
def BrandingSnapshot.replaceable (acolyte : Address) (now : ℕ)
    (s : BrandingSnapshot) : Except String (ℕ × BrandingAction) := do
  let source ← okOr (s.rposition (·.isOf inboxId acolyte))
    "no current Branding invitation is bound to this conversation"
  failIf (source.2.phase = .receiptPendingDelivery ∨ source.2.phase = .completed ∨
    source.2.phase = .declined)
    "the latest Branding action already has a verified receipt or is completed/declined"
  if source.2.hasUsedConsent = true then
    let inspection ← okOr source.2.inspection "the prior Branding consent has no deadline"
    let deadline ← okOr (parseU64 inspection.deadline)
      "the prior Branding deadline exceeds the local clock range"
    failIf (now ≤ deadline) "a consented Branding action cannot be replaced before its deadline"
  return source

def BrandingAction.quote : BrandingQuote :=
  ⟨a.treasuryBalance, a.priceBasisPoints, a.initialDeclaredPrice, a.firstWeekUpkeep⟩

/-- The source is superseded before the fresh offer is queued. -/
def BrandingAction.givesUp : Bool :=
  a.phase.terminal || a.phase = .consented || a.phase = .fundingRequired

/-- The queue with the source out of the way. -/
def BrandingSnapshot.retireSource (index : ℕ) (source : BrandingAction) (now : ℕ)
    (s : BrandingSnapshot) : BrandingSnapshot :=
  if source.givesUp = true then s.update index (·.retire now) else s

def replaceReferrerFromRequest
    (acolyte : Address) (agentId : U256) (referrer : Address) (name : String) (offerId : OfferId)
    (now : ℕ) : Op Bool := do
  liftM (failIf (name ≠ acolyteName acolyte) "Acolyte name mismatch")
  let r ← get
  let (index, source) ← liftM (r.state.replaceable inboxId acolyte now)
  change (·.retireSource index source now)
  let queued ← orRestore
    (enqueueOffer minter fault inboxId acolyte agentId referrer source.quote offerId now) r.state
  if queued = false then change fun _ => r.state
  return queued

/-! ### Consents -/

/-- A consent as it is read from a control message. -/
structure ParsedConsent where
  offerId : OfferId
  contract : Address
  minter : Address
  controllerAgentId : U256
  acolyte : Address
  referrer : Address
  initialDeclaredPrice : U256
  consentNonce : U256
  deadline : U256
  blockNumber : U256
  blockHash : Hash
  acolyteName : String
  signature : Signature

def validateConsentMatchesAction (consent : ParsedConsent) (a : BrandingAction) :
    Except String Unit := do
  let inspection ← okOr a.inspection "Branding offer has no canonical inspection"
  failIf (consent.contract ≠ brandingContractAddress) "Branding consent targets another contract"
  failIf (consent.minter ≠ a.minter) "Branding consent names another minter"
  failIf (consent.acolyte ≠ a.acolyte) "Branding consent names another acolyte"
  failIf (consent.referrer ≠ a.referrer) "Branding consent names another referrer"
  failIf (¬(consent.controllerAgentId = a.controllerAgentId ∧
    consent.initialDeclaredPrice = a.initialDeclaredPrice ∧
    consent.consentNonce = inspection.consentNonce ∧ consent.deadline = inspection.deadline ∧
    consent.blockNumber = inspection.blockNumber ∧ consent.blockHash = inspection.blockHash ∧
    consent.acolyteName = a.acolyteName)) "Branding consent does not exactly echo the durable offer"

/-- The action an offer names, in its own conversation. -/
def BrandingSnapshot.offer (sender : Address) (offerId : OfferId)
    (s : BrandingSnapshot) : Except String (ℕ × BrandingAction) := do
  let found ← okOr (position (·.offerId = offerId) s.actions)
    "the Branding offer is unknown or no longer retained"
  failIf (found.2.inboxId ≠ inboxId) "Branding offer conversation mismatch"
  failIf (found.2.acolyte ≠ sender) "Branding acolyte mismatch"
  return found

def BrandingAction.bind (signature : Signature) (now : ℕ) (a : BrandingAction) : BrandingAction :=
  { a with
    consent := some ⟨signature⟩
    completionActionId := some (Offers.completionActionId a.offerId)
    pendingDelivery := none
    phase := .consented
    nextAttemptUnix := now
    updatedAtUnix := now }

/-- The answer to a consent that is bound already. -/
def pendingConsentAnswer : String :=
  "that exact Branding consent is already bound and pending, fwiend. i'll keep reconciling it " ++
    "without issuing a second mint, uwu."

def boundConsentAnswer : String :=
  "i bound that exact Base consent to this durable offer. minting and the Acolyte Name repair " ++
    "will continue through the narrow executor, and i'll send a verified receipt when both are " ++
    "canonical, uwu."

/-- The receipt of an action that is complete. -/
def BrandingAction.receiptAnswer : String :=
  match a.inspection, a.receipt with
  | some inspection, some receipt => receiptText a inspection receipt
  | _, _ => ""

def acceptConsent (sender : Address)
    (consent : ParsedConsent) (now : ℕ) : Op String := do
  let r ← get
  let (index, a) ← liftM (r.state.offer inboxId sender consent.offerId)
  liftM (validateConsentMatchesAction consent a)
  match a.phase with
  | .completed => return a.receiptAnswer
  | .consented | .fundingRequired | .receiptPendingDelivery => do
    liftM (failIf (a.consent ≠ some ⟨consent.signature⟩)
      "a different signature cannot replace persisted Branding consent")
    return pendingConsentAnswer
  | .offerPendingDelivery | .offered => do
    let inspection ← liftM (okOr a.inspection "Branding offer has no inspection binding")
    let deadline ← liftM (okOr (parseU64 inspection.deadline)
      "Branding deadline exceeds local clock range")
    if deadline < now then
      change (·.update index (·.expire now))
      orRestore (persist minter fault now) r.state
      throw "Branding offer expired before consent was received"
    else do
      liftM (failIf (deadline - now < minSigningWindowSeconds)
        "Branding consent arrived without the required execution window")
      change (·.update index (·.bind consent.signature now))
      orRestore (persist minter fault now) r.state
      return boundConsentAnswer
  | _ => throw "Branding offer is not accepting consent"

/-- The action that a decline is about. -/
def BrandingSnapshot.declinable (sender : Address) (offerId : OfferId)
    (s : BrandingSnapshot) : Except String (ℕ × BrandingAction) := do
  let found ← s.offer inboxId sender offerId
  failIf (¬(found.2.phase = .requested ∨ found.2.phase = .offerPendingDelivery ∨
    found.2.phase = .offered ∨ found.2.phase = .expired ∨ found.2.phase = .declined))
    "a consented Branding action cannot be declined after execution began"
  return found

def BrandingAction.decline : BrandingAction :=
  { a with
    phase := .declined
    consent := none
    pendingDelivery := none
    updatedAtUnix := now }

def decline (sender : Address)
    (offerId : OfferId) (now : ℕ) : Op String := do
  let r ← get
  let (index, _) ← liftM (r.state.declinable inboxId sender offerId)
  change (·.update index (·.decline now))
  persist minter fault now
  return "no worries, fwiend—the exact Branding offer is declined and i won't mint from it :3"

/-! ### Deliveries -/

inductive BrandingDeliveryTarget
  | inbox (inboxId : String)
  | operators

structure BrandingDelivery where
  target : BrandingDeliveryTarget
  text : String
  commitment : String

def BrandingAction.delivery : Option BrandingDelivery :=
  a.pendingDelivery.map fun pending =>
    { target := match pending.kind with
        | .offer | .receipt => .inbox a.inboxId
        | .funding => .operators
      text := pending.text
      commitment := pending.commitment }

/-- A delivery that did not get through is tried again. -/
def BrandingAction.retry : BrandingAction :=
  { a with
    nextAttemptUnix := later now retrySeconds
    updatedAtUnix := now }

/-- What a delivery that got through makes of its action. -/
def BrandingAction.acknowledge (pending : PendingDelivery) (now : ℕ) (a : BrandingAction) :
    BrandingAction :=
  match pending.kind with
  | .offer =>
    { a with
      pendingDelivery := none
      phase := .offered
      nextAttemptUnix := a.deadline.getD now
      updatedAtUnix := now }
  | .funding =>
    { a with
      pendingDelivery := none
      phase := .fundingRequired
      lastFundingFingerprint := pending.fingerprint
      lastFundingNoticeUnix := some now
      nextAttemptUnix := later now fundingRetrySeconds
      updatedAtUnix := now }
  | .receipt =>
    { a with
      pendingDelivery := none
      phase := .completed
      consent := none
      nextAttemptUnix := u64Max
      updatedAtUnix := now }

def awaitsCommitment (commitment : String) (a : BrandingAction) : Bool :=
  a.pendingDelivery.any (·.commitment = commitment)

def acknowledgeDelivery (commitment : String)
    (delivered : Bool) (now : ℕ) : Op Unit := do
  liftM (validateActionId commitment)
  let r ← get
  match position (awaitsCommitment commitment) r.state.actions with
  | none => return ()
  | some (index, a) =>
    if delivered = false then do
      change (·.update index (·.retry now))
      persist minter fault now
    else do
      let pending ← liftM (okOr a.pendingDelivery "delivery disappeared while acknowledging it")
      change (·.update index (·.acknowledge pending now))
      persist minter fault now

/-! ### Maintenance -/

def BrandingAction.defer : BrandingAction :=
  { a with nextAttemptUnix := later now retrySeconds }

def deferDue (now : ℕ) : Op Unit := do
  change (·.updateWhere (·.isDue now) (·.defer now))
  persist minter fault now

/-- The place of the next due action. The cursor has moved past it on the disk. -/
def selectDueFairly (now : ℕ) : Op (Option ℕ) := do
  let r ← get
  match r.state.dueFrom now with
  | none => return none
  | some index => do
    change fun s => { s with cursor := (index + 1) % s.actions.length }
    persist minter fault now
    return some index

/-- The offer is for another registration of this Tentacle. -/
def BrandingAction.mismatch : BrandingAction :=
  { a with
    lastError := some "the offer controller no longer matches this Tentacle's active registration"
    nextAttemptUnix := later now retrySeconds
    updatedAtUnix := now }

/-- The branch that ends an offer without a delivery. -/
def BrandingAction.lapse : BrandingAction :=
  { a with
    phase := .expired
    updatedAtUnix := now }

def BrandingAction.inspectOperation : InspectOperation :=
  ⟨a.acolyte, a.controllerAgentId, a.referrer, a.treasuryBalance, a.priceBasisPoints,
    a.initialDeclaredPrice, a.acolyteName⟩

def BrandingAction.completeOperation (inspection : InspectionBinding)
    (consent : ConsentBinding) : CompleteOperation :=
  { acolyte := a.acolyte
    minter := a.minter
    controllerAgentId := a.controllerAgentId
    referrer := a.referrer
    treasuryBalance := a.treasuryBalance
    priceBasisPoints := a.priceBasisPoints
    initialDeclaredPrice := a.initialDeclaredPrice
    nonce := inspection.consentNonce
    deadline := inspection.deadline
    signature := consent.signature
    acolyteName := a.acolyteName
    offerBlockNumber := inspection.blockNumber
    offerBlockHash := inspection.blockHash }

def invoke (invocation : Invocation) : Op Unit :=
  modify fun r => { r with invocations := r.invocations ++ [invocation] }

def HelperBrandingStatus.name : HelperBrandingStatus → String
  | unminted => "Unminted"
  | active => "Active"
  | expired => "Expired"
  | ineligible => "Ineligible"
  | registryUnavailable => "RegistryUnavailable"

def BrandingAction.fail (status : HelperBrandingStatus) (now : ℕ) (a : BrandingAction) :
    BrandingAction :=
  { a with
    phase := .failedPermanent
    observedBrandingStatus := some status
    lastError := some ("canonical Branding status is " ++ status.name ++ "; offer retired")
    updatedAtUnix := now }

def BrandingAction.requote (quote : BrandingQuote) (now : ℕ) (a : BrandingAction) :
    BrandingAction :=
  { a with
    treasuryBalance := quote.treasuryBalance
    initialDeclaredPrice := quote.initialDeclaredPrice
    firstWeekUpkeep := quote.firstWeekUpkeep
    inspection := none
    consent := none
    receipt := none
    completionActionId := none
    pendingDelivery := none
    phase := .requested
    attemptCount := a.attemptCount + 1
    nextAttemptUnix := now
    lastError := some "canonical UWU treasury changed before delivery; quote refreshed"
    updatedAtUnix := now }

def refreshRequestedQuote (index : ℕ)
    (a : BrandingAction) (treasuryBalance : U256) (now : ℕ) : Op Unit := do
  liftM (failIf (a.phase ≠ .requested)
    "only an unsigned Requested Branding action may be re-quoted")
  let quote ← liftM (quoteInitialBranding treasuryBalance a.priceBasisPoints)
  change (·.update index (·.requote quote now))
  persist minter fault now

def BrandingInspectionResult.binding (result : BrandingInspectionResult) (blockTimestamp : ℕ) :
    InspectionBinding :=
  { consentNonce := result.consentNonce
    deadline := BitVec.ofNat 256 (blockTimestamp + offerLifetimeSeconds)
    blockNumber := result.observedBlockNumber
    blockHash := result.observedBlockHash
    blockTimestamp := result.observedBlockTimestamp }

/-- A delivery whose text says what the action has become. -/
def pendingDelivery (kind : PendingDeliveryKind) (offerId : OfferId) (text : String)
    (fingerprint : Option Hash) : PendingDelivery :=
  ⟨kind, deliveryCommitment kind offerId text, text, fingerprint⟩

def BrandingAction.offerOf (binding : InspectionBinding) (now : ℕ) (a : BrandingAction) :
    BrandingAction :=
  { a with
    observedBrandingStatus := some .unminted
    inspection := some binding
    phase := .offerPendingDelivery
    pendingDelivery := some (Offers.pendingDelivery .offer a.offerId (offerText a binding) none)
    attemptCount := a.attemptCount + 1
    nextAttemptUnix := now
    lastError := none
    updatedAtUnix := now }

/-- Save what has been made of an action that has nothing to deliver. -/
def settle (index : ℕ)
    (f : BrandingAction → BrandingAction) (now : ℕ) : Op (Option BrandingDelivery) := do
  change (·.update index f)
  persist minter fault now
  return none

/-- Save what has been made of an action, and deliver what it says. -/
def conclude (index : ℕ)
    (f : BrandingAction → BrandingAction) (a : BrandingAction) (now : ℕ) :
    Op (Option BrandingDelivery) := do
  change (·.update index f)
  persist minter fault now
  return (f a).delivery

/-- The inspection anchors a fresh offer. -/
def checkFreshness (blockTimestamp now : ℕ) : Except String Unit := do
  failIf (now + maxFutureBlockSkewSeconds < blockTimestamp)
    "Branding inspection block timestamp is implausibly far in the future"
  failIf (maxInspectionBlockAgeSeconds < now - blockTimestamp)
    "Branding inspection is too old to anchor a fresh offer"

def inspectOffer (reply : Reply) (index : ℕ)
    (a : BrandingAction) (now : ℕ) : Op (Option BrandingDelivery) := do
  invoke (.inspect ("branding-inspect:" ++ offerIdText a.offerId) a.inspectOperation)
  match reply with
  | .failed error => throw error
  | .completion _ => throw "Branding inspector returned an invalid result shape"
  | .inspection result => do
    liftM (validateInspectionResult result a)
    let blockTimestamp ← liftM (okOr (parseU64 result.observedBlockTimestamp)
      "Branding observation block timestamp exceeds u64")
    liftM (checkFreshness blockTimestamp now)
    liftM (failIf (result.brandingStatus = .registryUnavailable)
      "canonical Branding registry was unavailable during inspection")
    if result.brandingStatus ≠ .unminted ∨
        ¬(result.disposition = .ready ∨ result.disposition = .fundingRequired) then
      settle minter fault index (·.fail result.brandingStatus now) now
    else if result.uwuBalance ≠ a.treasuryBalance then do
      refreshRequestedQuote minter fault index a result.uwuBalance now
      return none
    else do
      liftM (failIf (u64Max < blockTimestamp + offerLifetimeSeconds)
        "Branding offer deadline overflowed")
      conclude minter fault index (·.offerOf (result.binding blockTimestamp) now) a now

/-- The operators have not been told about these shortfalls lately. -/
def BrandingAction.shouldNotify (fingerprint : Hash) (now : ℕ) (a : BrandingAction) : Bool :=
  a.lastFundingFingerprint ≠ some fingerprint ||
    a.lastFundingNoticeUnix.all fun last => fundingNoticeCooldownSeconds ≤ now - last

def BrandingAction.requireFunding : BrandingAction :=
  let fingerprint := fundingFingerprint result.toCommonResult
  let notify := a.shouldNotify fingerprint now
  { a with
    phase := .fundingRequired
    attemptCount := a.attemptCount + 1
    lastError := none
    pendingDelivery := if notify = true then
      some (Offers.pendingDelivery .funding a.offerId (fundingText result.toCommonResult)
        (some fingerprint)) else none
    nextAttemptUnix := if notify = true then now else later now fundingRetrySeconds
    updatedAtUnix := now }

/-- The receipt echoes the price that was signed. -/
def BrandingCompletionResult.receipt :
    ReceiptBinding :=
  ⟨result.tokenId, a.initialDeclaredPrice, result.observedBlockNumber, result.observedBlockHash⟩

def BrandingAction.receiptOf (inspection : InspectionBinding) (result : BrandingCompletionResult)
    (now : ℕ) (a : BrandingAction) : BrandingAction :=
  { a with
    receipt := some (result.receipt a)
    phase := .receiptPendingDelivery
    pendingDelivery := some (Offers.pendingDelivery .receipt a.offerId
      (receiptText a inspection (result.receipt a)) none)
    attemptCount := a.attemptCount + 1
    nextAttemptUnix := now
    lastError := none
    updatedAtUnix := now }

/-- What has to hold of a completion that says it is complete. -/
def checkComplete (inspection : InspectionBinding)
    (a : BrandingAction) : Except String Unit := do
  failIf (.mint ∈ result.transactionHashes.map (·.operation) ∧ result.brandingStatus ≠ .active)
    "newly minted Branding is not active"
  failIf (result.nameTrait ≠ some a.acolyteName)
    "completed Branding has not repaired the canonical Acolyte Name trait"
  let expected ← decimalIncrement inspection.consentNonce
  failIf (result.currentConsentNonce ≠ expected)
    "completed Branding did not consume exactly one consent nonce"

def completeBranding (reply : Reply) (index : ℕ)
    (a : BrandingAction) (now : ℕ) : Op (Option BrandingDelivery) := do
  let inspection ← liftM (okOr a.inspection "consented Branding action has no inspection")
  let consent ← liftM (okOr a.consent "consented Branding action has no signature")
  let actionId ← liftM (okOr a.completionActionId
    "consented Branding action has no durable helper action ID")
  invoke (.complete actionId (a.completeOperation inspection consent))
  match reply with
  | .failed error => throw error
  | .inspection _ => throw "Branding executor returned an invalid result shape"
  | .completion result => do
    liftM (validateCompletionResult result a)
    match result.disposition with
    | .fundingRequired => conclude minter fault index (·.requireFunding result now) a now
    | .complete => do
      liftM (checkComplete result inspection a)
      conclude minter fault index (·.receiptOf inspection result now) a now
    | .ready | .repairRequired =>
      throw "Branding executor returned a nonterminal completion disposition"

/-- The first characters of a text, on one line. -/
def boundedDiagnostic (value : String) (maximum : ℕ) : String :=
  String.ofList ((value.toList.map fun c => if c = '\r' ∨ c = '\n' then ' ' else c).take maximum)

/-- The executor will not complete the offer any more. -/
def isPermanent (error : String) : Bool :=
  "permanent ERC-8004 helper error".toList <:+: error.toList

def BrandingAction.recordError (error : String) (now : ℕ) (a : BrandingAction) : BrandingAction :=
  let permanent := isPermanent error
  { a with
    attemptCount := a.attemptCount + 1
    lastError := some (boundedDiagnostic error 512)
    pendingDelivery := none
    updatedAtUnix := now
    phase := if permanent = true then .failedPermanent else a.phase
    consent := if permanent = true then none else a.consent
    nextAttemptUnix := if permanent = true then a.nextAttemptUnix else later now retrySeconds }

def recordAttemptError (index : ℕ) (error : String)
    (now : ℕ) : Op Unit := do
  change (·.update index (·.recordError error now))
  persist minter fault now

def attempt (index : ℕ) (now : ℕ)
    (ask : Op (Option BrandingDelivery)) : Op (Option BrandingDelivery) :=
  tryCatch ask fun error => do
    recordAttemptError minter fault index error now
    return none

/-- What is done with an action that has been selected. -/
def work (faults : Faults) (reply : Reply) (agentId : U256) (index : ℕ)
    (a : BrandingAction) (now : ℕ) : Op (Option BrandingDelivery) :=
  if a.controllerAgentId ≠ agentId then settle minter faults.work index (·.mismatch now) now
  else if a.phase = .offerPendingDelivery ∧ a.deadline.any (· ≤ now) = true then
    settle minter faults.work index (·.expire now) now
  else match a.delivery with
    | some delivery => return some delivery
    | none => match a.phase with
      | .requested => attempt minter faults.record index now
          (inspectOffer minter faults.work reply index a now)
      | .consented | .fundingRequired => attempt minter faults.record index now
          (completeBranding minter faults.work reply index a now)
      | .offered => settle minter faults.work index (·.lapse now) now
      | _ => return none

def maintainOne (faults : Faults) (reply : Reply) (agentId : U256) (now : ℕ) :
    Op (Option BrandingDelivery) := do
  match ← selectDueFairly minter faults.select now with
  | none => return none
  | some index => do
    let r ← get
    match r.state.actions[index]? with
    | none => return none
    | some a => work minter faults reply agentId index a now

end Cthuwu.Offers
