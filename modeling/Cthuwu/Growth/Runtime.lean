import Cthuwu.Growth.Writes

/-!
# The growth runtime

The calls of `GrowthRuntime`, each with its checks, its writes and its saves in the order of the
code. A call changes the snapshot in memory and then saves it (`persist`); two of them put the old
snapshot back when the save fails (`writeOrRestore`). Rewards are paid by a gateway, which is
invoked once by each attempt and answers whatever it likes.
-/

namespace Cthuwu.Growth

open Council TokenEye
open Evolution (u64Max u32Max baseChainId)

def defaultUwuTokenContract : String := "0x9dba3ae7002daefd7324e7b9f829ed31cb5f0b07"

/-! ## The gateway -/

/-- An operation that the gateway is asked for, with its action. -/
structure Invocation where
  actionId : String
  wallet : Address
  acolyte : Address
  referrer : Address
  token : String
  chainId : ℕ
  amountBaseUnits : String
  configuredAmountBaseUnits : String
  transactionHash : Option String
  transactionNonce : Option String

inductive ReferralBountyDisposition
  | fundingRequired
  | submitted
  | confirmed

structure ReferralBountyResult where
  kind : String
  disposition : ReferralBountyDisposition
  chainId : ℕ
  token : String
  wallet : String
  acolyte : String
  referrer : String
  amountBaseUnits : String
  ethBalanceWei : String
  ethTargetWei : String
  ethShortfallWei : String
  uwuBalanceBaseUnits : String
  uwuTargetBaseUnits : String
  uwuShortfallBaseUnits : String
  transactionHash : Option String
  transactionNonce : Option String
  receiptBlockNumber : Option String
  receiptBlockHash : Option String

/-- What the gateway answers : an error with its text, a value of another shape, or a result. -/
inductive Reply
  | failed (error : String)
  | malformed
  | result (result : ReferralBountyResult)

def expectAddress (value label : String) (expected : Address) (message : String) :
    Except String Unit := do
  let address ← parseNonzeroAddress value label
  failIf (address ≠ expected) message

def validateDisposition (result : ReferralBountyResult) : Except String Unit :=
  match result.disposition with
  | .fundingRequired =>
    failIf (¬(result.transactionHash = none ∧ result.transactionNonce = none ∧
      result.receiptBlockNumber = none ∧ result.receiptBlockHash = none ∧
      (result.ethShortfallWei ≠ "0" ∨ result.uwuShortfallBaseUnits ≠ "0")))
      "funding-required bounty result is inconsistent"
  | .submitted => do
    let hash ← okOr result.transactionHash "submitted bounty has no hash"
    validateHash hash "submitted hash"
    let nonce ← okOr result.transactionNonce "submitted bounty has no nonce"
    validateDecimal nonce "submitted nonce" false
    failIf (¬(result.receiptBlockNumber = none ∧ result.receiptBlockHash = none))
      "submitted bounty already has a receipt"
  | .confirmed => do
    let hash ← okOr result.transactionHash "confirmed bounty has no hash"
    validateHash hash "confirmed hash"
    let nonce ← okOr result.transactionNonce "confirmed bounty has no nonce"
    validateDecimal nonce "confirmed nonce" false
    let block ← okOr result.receiptBlockNumber "confirmed bounty has no block"
    validateDecimal block "confirmed block" false
    let blockHash ← okOr result.receiptBlockHash "confirmed bounty has no block hash"
    validateHash blockHash "confirmed block hash"

def ReferralBountyResult.amounts (result : ReferralBountyResult) : List (String × String) :=
  [(result.ethBalanceWei, "ETH balance"), (result.ethTargetWei, "ETH target"),
    (result.ethShortfallWei, "ETH shortfall"), (result.uwuBalanceBaseUnits, "UWU balance"),
    (result.uwuTargetBaseUnits, "UWU target"), (result.uwuShortfallBaseUnits, "UWU shortfall")]

/-- The result is about this bounty. -/
def validateBounty (policy : Policy) (result : ReferralBountyResult) (r : ReferralRecord) :
    Except String Unit := do
  failIf (result.kind ≠ "referral_bounty") "unexpected bounty result kind"
  failIf (result.chainId ≠ baseChainId) "bounty result is not Base mainnet"
  let token ← parseNonzeroAddress result.token "bounty result token"
  expectAddress defaultUwuTokenContract "canonical UWU" token "bounty result uses another token"
  expectAddress result.wallet "bounty result treasury" policy.minter
    "bounty result uses another treasury"
  let acolyte ← parseNonzeroAddress result.acolyte "bounty result acolyte"
  requireNonzero r.acolyte "persisted acolyte"
  failIf (acolyte ≠ r.acolyte) "bounty result acolyte mismatch"
  let referrer ← parseNonzeroAddress result.referrer "bounty result referrer"
  let expected ← okOr r.referrer "persisted referrer is not a canonical Ethereum address"
  requireNonzero expected "persisted referrer"
  failIf (referrer ≠ expected) "bounty result referrer mismatch"
  failIf (result.amountBaseUnits ≠ policy.rewardAmountBaseUnits) "bounty result amount mismatch"

def validateResult (policy : Policy) (result : ReferralBountyResult) (r : ReferralRecord) :
    Except String Unit := do
  validateBounty policy result r
  result.amounts.forM fun (value, label) => validateDecimal value label false
  failIf (result.uwuTargetBaseUnits ≠ policy.rewardAmountBaseUnits)
    "bounty result UWU target differs from policy"
  failIf (result.ethShortfallWei ≠ decimalShortfall result.ethBalanceWei result.ethTargetWei)
    "bounty result ETH shortfall is inconsistent"
  failIf (result.uwuShortfallBaseUnits ≠
      decimalShortfall result.uwuBalanceBaseUnits result.uwuTargetBaseUnits)
    "bounty result UWU shortfall is inconsistent"
  validateDisposition result

/-! ## Operations -/

structure Runtime where
  state : GrowthSnapshot
  /-- What was saved last. -/
  disk : GrowthSnapshot
  /-- What the gateway has been asked for, in order. -/
  invocations : List Invocation

abbrev Op (α : Type) := Fallible String Runtime α

/-- What becomes of the first and the second save of a call : the error when the store does not
take the snapshot, because it does not fit or the file system fails. -/
structure Faults where
  first : Option String
  second : Option String

variable [Hashing]

variable (policy : Policy) (result : ReferralBountyResult) (s : GrowthSnapshot)
  (fault : Option String) (inboxId : String) (acolyte referrer : Address)

def write (w : Write) : Op Unit :=
  modify fun r => { r with state := w.apply policy r.state }

/-- `GrowthStore::save`. -/
def save : Op Unit := do
  let r ← get
  liftM (validateSnapshot policy r.state)
  match fault with
  | some error => throw error
  | none => modify fun r => { r with disk := r.state }

def persist (now : ℕ) : Op Unit := do
  write policy (.stamp now)
  save policy fault

/-- Write and save, or put the old snapshot back. -/
def writeOrRestore (w : Write) (fault : Option String) (now : ℕ) : Op Unit := do
  let r ← get
  write policy w
  tryCatch (persist policy fault now) fun error => do
    modify fun r' => { r' with state := r.state }
    throw error

def isOf (acolyte : Address) (r : ReferralRecord) : Bool :=
  r.acolyte = acolyte

namespace GrowthSnapshot

def identityConflicts (acolyte : Address) : Bool :=
  s.records.any fun r => r.inboxId = asciiLower inboxId && r.acolyte ≠ acolyte

def record (acolyte : Address) : Option ReferralRecord :=
  s.records.find? (isOf acolyte)

def verifiedReferrerInbox (referrer : Address) : Option String :=
  match s.records.find? fun r => isOf referrer r && r.onboardingCompletedAtUnix.isSome with
  | some r => some r.inboxId
  | none => (s.verifiedOperators.find? (·.address = referrer)).map (·.inboxId)

def checkRoom : Except String Unit :=
  failIf (maxRecords ≤ s.records.length) "growth record limit reached"

end GrowthSnapshot

def markContact (inboxId authenticatedAddress : String)
    (now : ℕ) : Op Bool := do
  liftM (validateInbox inboxId)
  let acolyte ← liftM (parseNonzeroAddress authenticatedAddress "authenticated contact")
  let r ← get
  if r.state.identityConflicts inboxId acolyte then return false
  else match position (isOf acolyte) r.state.records with
    | some (index, record) =>
      if record.inboxId = asciiLower inboxId then return false
      else do
        write policy (.rebind index inboxId acolyte now)
        persist policy fault now
        return false
    | none => do
      liftM r.state.checkRoom
      write policy (.contact inboxId acolyte now)
      persist policy fault now
      return true

/-! ### Referral controls -/

/-- The control is answered without a change, or names the inbox of the referrer. -/
def GrowthSnapshot.answerControl : Except String (String ⊕ String) :=
  if s.identityConflicts inboxId acolyte then
    .ok (.inl ("this recovered XMTP identity is already pinned to another authenticated acolyte " ++
      "wallet, so changing associated wallets cannot create or replace referral attribution, " ++
      "fwiend."))
  else if acolyte = policy.minter ∨ acolyte = referrer ∨ referrer = policy.minter then
    .ok (.inl ("that referral is not eligible for a bounty because self-referrals and the " ++
      "servicing Tentacle treasury are excluded, fwiend."))
  else match (s.record acolyte).bind (·.referrer) with
    | some existing =>
      if existing = referrer then .ok (.inl (referralAck "accepted" (some referrer)))
      else do
        requireNonzero existing "persisted referrer"
        return .inl ("ur original referral is already pinned to " ++ shortAddress existing ++
          ". i refused the later replacement, uwu.\n" ++ referralAck "immutable" (some existing))
    | none =>
      if (s.record acolyte).any (·.onboardingCompletedAtUnix.isSome) then
        .ok (.inl ("this acolyte already completed onboarding without a referral, so later " ++
          "links cannot manufacture a bounty, fwiend.\n" ++ referralAck "direct" none))
      else match s.verifiedReferrerInbox referrer with
        | none =>
          .ok (.inl ("i could not verify that referral address as an established local acolyte " ++
            "or authenticated operator, so i pinned nothing and queued no payout, fwiend."))
        | some referrerInboxId =>
          if referrerInboxId = inboxId then
            .ok (.inl ("that referral resolves to this same authenticated XMTP inbox, so i " ++
              "treated it as an ineligible self-referral and queued no payout, fwiend."))
          else .ok (.inr referrerInboxId)

/-- Pin a referrer to the record of an acolyte, or to a new one. -/
def pinReferrer
    (referrerInboxId : String) (now : ℕ) : Op Unit := do
  let r ← get
  match position (isOf acolyte) r.state.records with
  | some (index, _) => write policy (.pin index inboxId acolyte referrer referrerInboxId now)
  | none => do
    liftM r.state.checkRoom
    write policy (.pinNew inboxId acolyte referrer referrerInboxId now)

def handleControl
    (authenticatedSender : Option String) (text : String) (now : ℕ) : Op (Option String) :=
  match parseReferralControl text, authenticatedSender with
  | none, _ =>
    return if containsReferralControl text then
      some ("that referral control was malformed, so i pinned nothing and queued no reward, " ++
        "fwiend.")
    else none
  | some _, none =>
    return some ("i could not bind that referral to an authenticated Ethereum sender, so i " ++
      "pinned nothing, fwiend.")
  | some rawReferrer, some sender => do
    let acolyte ← liftM (parseNonzeroAddress sender "authenticated acolyte")
    let referrer ← liftM (parseNonzeroAddress rawReferrer "referrer")
    liftM (validateInbox inboxId)
    let r ← get
    match ← liftM (r.state.answerControl policy inboxId acolyte referrer) with
    | .inl answer => return some answer
    | .inr referrerInboxId => do
      pinReferrer policy inboxId acolyte referrer referrerInboxId now
      persist policy fault now
      return some ("referral pinned to " ++ shortAddress referrer ++ " for this authenticated " ++
        "acolyte. it is immutable; the one-time UWU bounty becomes eligible only after " ++
        "canonical onboarding completes, uwu.\n" ++ referralAck "accepted" (some referrer))

/-! ### Operators and onboarding -/

def registerOperator
    (inboxId authenticatedAddress : String) (now : ℕ) : Op Unit := do
  liftM (validateInbox inboxId)
  let address ← liftM (parseNonzeroAddress authenticatedAddress "authenticated operator")
  let r ← get
  let current : VerifiedOperator := ⟨asciiLower inboxId, address⟩
  if address = policy.minter ∨ r.state.currentOperator = some current then return ()
  else do
    liftM (failIf (maxOperators ≤ (r.state.verifiedOperators.filter fun other =>
        other.address ≠ current.address ∧ other.inboxId ≠ current.inboxId).length)
      "verified operator referral limit reached")
    writeOrRestore policy (.register current now) fault now

/-- The place of the acolyte's record, which is added when there is none. -/
def enrolled (acolyte : Address) (now : ℕ) : Op ℕ := do
  let r ← get
  match position (isOf acolyte) r.state.records with
  | some (index, _) => return index
  | none => do
    liftM r.state.checkRoom
    write policy (.enroll inboxId acolyte now)
    return r.state.records.length

def markOnboardingComplete (faults : Faults)
    (inboxId authenticatedAddress : String) (now : ℕ) : Op Bool := do
  liftM (validateInbox inboxId)
  let acolyte ← liftM (parseNonzeroAddress authenticatedAddress "authenticated acolyte")
  let r ← get
  if r.state.identityConflicts inboxId acolyte ∨
      r.state.records.any (fun r => isOf acolyte r && r.onboardingCompletedAtUnix.isSome) then
    return false
  else do
    let index ← enrolled policy inboxId acolyte now
    let r ← get
    write policy (.complete index inboxId acolyte now)
    persist policy faults.first now
    if (r.state.records[index]?).any (·.referrer.isSome) then do
      write policy (.prepare index now)
      persist policy faults.second now
      return true
    else return true

/-- The record knows better than an observation. -/
def ReferralRecord.outdates (r : ReferralRecord) (state : DurableBrandingState)
    (observedAt : ℕ) : Bool :=
  r.brandingStateUpdatedAtUnix.any (observedAt < ·) ||
    (r.brandingState = some state && r.brandingStateUpdatedAtUnix = some observedAt) ||
    (r.brandingState = some .branded && state = .declined)

def noteBrandingState (faults : Faults) (inboxId : String) (acolyte : Address)
    (state : DurableBrandingState) (observedAt : ℕ) : Op Bool := do
  liftM (validateInbox inboxId)
  let r ← get
  if r.state.record acolyte = none then
    discard (markContact policy faults.first inboxId (addressText acolyte)
      (max r.state.updatedAtUnix observedAt))
  let r ← get
  match position (isOf acolyte) r.state.records with
  | none => throw "Branding state contact disappeared"
  | some (index, record) =>
    if record.outdates state observedAt then return false
    else do
      write policy (.observe index inboxId acolyte state observedAt)
      persist policy faults.second (max r.state.updatedAtUnix observedAt)
      return true

/-! ### Statistics and prompts -/

structure GrowthStats where
  totalAcolytes : ℕ
  branded : ℕ
  unbranded : ℕ
  recentlyOnboarded : ℕ
  referralsSent : ℕ
  successfulReferrals : ℕ
  referralUwuPaidBaseUnits : String

namespace GrowthSnapshot

def stats (branded now : ℕ) : GrowthStats :=
  let total := s.records.countP (·.onboardingCompletedAtUnix.isSome)
  { totalAcolytes := total
    branded := min branded total
    unbranded := total - branded
    recentlyOnboarded := s.records.countP fun r =>
      r.onboardingCompletedAtUnix.any fun completed => now - completed ≤ recentOnboardingSeconds
    referralsSent := s.referralsSent
    successfulReferrals := s.records.countP fun r =>
      r.referrer.isSome && r.onboardingCompletedAtUnix.isSome
    referralUwuPaidBaseUnits := (s.records.filter (·.phase = .confirmed)).foldl
      (fun total r => decimalAdd total r.rewardAmountBaseUnits) "0" }

def remindersAllowed (now : ℕ) : Bool :=
  let hour := now / 3600 % 24
  let quiet := s.operatorQuietHours.any fun (start, stop) =>
    if start < stop then start ≤ hour && hour < stop else start ≤ hour || hour < stop
  !quiet && s.operatorSnoozeUntil ≤ now && s.operatorReminderInterval ≠ some 0

def promptIsDue (now : ℕ) : Bool :=
  s.lastOperatorPromptUnix.any fun last => s.remindersAllowed now &&
    s.operatorReminderInterval.getD operatorPromptCooldownSeconds ≤ now - last

end GrowthSnapshot

def Policy.referralUrl (referrer : Address) : String :=
  policy.publicOrigin ++ "/#t=" ++ addressText policy.minter ++ "&r=" ++ addressText referrer

def noteReferralLinkSent (now : ℕ) : Op Unit := do
  write policy .sendLink
  persist policy fault now

def operatorStatus (operatorAddress : Address)
    (branded now : ℕ) : Op String := do
  let r ← get
  let stats := r.state.stats branded now
  noteReferralLinkSent policy fault now
  return "GROWTH STATUS\n- TOTAL ACOLYTES: " ++ toString stats.totalAcolytes ++
    "\n- BRANDED / UNBRANDED: " ++ toString stats.branded ++ " / " ++ toString stats.unbranded ++
    "\n- RECENTLY ONBOARDED (7D): " ++ toString stats.recentlyOnboarded ++
    "\n- REFERRAL LINKS SENT: " ++ toString stats.referralsSent ++
    "\n- SUCCESSFUL REFERRED ONBOARDINGS: " ++ toString stats.successfulReferrals ++
    "\n- REFERRAL UWU PAID (BASE UNITS): " ++ stats.referralUwuPaidBaseUnits ++
    "\n- OPERATOR RECRUITMENT LINK: " ++ policy.referralUrl operatorAddress ++
    "\n\nSHARE THIS WITH ONE OR TWO PEOPLE WHO WOULD ACTUALLY VALUE A VOLUNTARY CTHUWU ACOLYTE " ++
    "RELATIONSHIP. DO NOT SPAM THEM, UWU."

def recordBrandingAttempt
    (outcome : BrandingAttemptOutcome) (now : ℕ) : Op Unit :=
  writeOrRestore policy (.recordAttempt outcome now) fault now

/-! ### Preferences -/

def trim (value : List Char) : List Char :=
  (value.dropWhile isWhiteSpace).rdropWhile isWhiteSpace

/-- `split_whitespace`. -/
def splitWhitespace (value : List Char) : List (List Char) :=
  (value.splitOnP isWhiteSpace).filter (· ≠ [])

/-- `str::parse` of an unsigned number. -/
def parseUnsigned (bound : ℕ) (value : List Char) : Except String ℕ :=
  let digits := match value with
    | '+' :: c :: rest => c :: rest
    | value => value
  if digits = [] then .error "cannot parse integer from empty string"
  else digits.foldlM (fun n c => do
    failIf (c.isDigit = false) "invalid digit found in string"
    failIf (bound < 10 * n + digitOf c) "number too large to fit in target type"
    return 10 * n + digitOf c) 0

def parseQuietHours (value : List Char) : Except String (ℕ × ℕ) := do
  match ← (splitWhitespace value).mapM (parseUnsigned 255) with
  | [start, stop] =>
    failIf (¬(start < 24 ∧ stop < 24 ∧ start ≠ stop))
      "quiet hours require different UTC hours 0–23"
    return (start, stop)
  | _ => .error "quiet hours require different UTC hours 0–23"

def parsePreference (arguments : String) (now : ℕ) : Except String Preference :=
  let value := trim arguments.toList
  if value = "daily".toList then .ok (.interval 86400)
  else if value = "weekly".toList then .ok (.interval (7 * 86400))
  else if value = "off".toList then .ok (.interval 0)
  else if value = "quiet off".toList then .ok (.quiet none)
  else match stripStart "snooze " value, stripStart "quiet " value with
    | some days, _ => do
      let days ← parseUnsigned u64Max (trim days)
      failIf (¬(1 ≤ days ∧ days ≤ 365)) "snooze must be 1–365 days"
      return .snooze (saturatingAdd u64Max now (days * 86400))
    | none, some hours => do
      let hours ← parseQuietHours hours
      return .quiet (some hours)
    | none, none => .error
      ("usage: /referrals daily|weekly|off|snooze <days>|quiet <startUTC> <endUTC>|quiet off")

def reminderPreferences (arguments : String) (now : ℕ) :
    Op String := do
  let preference ← liftM (parsePreference arguments now)
  writeOrRestore policy (.prefer preference) fault now
  return "Referral reminder preferences saved. Quiet hours use UTC. Use /referrals daily, " ++
    "weekly, off, or snooze <days>."

/-! ### Deliveries -/

inductive GrowthDeliveryAudience
  | inbox (inboxId : String)
  | activeOperator (inboxId : String)
  | operators

structure GrowthDelivery where
  audience : GrowthDeliveryAudience
  text : String
  commitment : String

def deferDue (now : ℕ) : Op Unit := do
  write policy (.deferDue now)
  persist policy fault now

def promptVariants : List String :=
  ["SHARE THIS LINK WITH ONE PERSON WHO MIGHT ENJOY A VOLUNTARY ACOLYTE RELATIONSHIP",
    "PICK ONE RELEVANT COMMUNITY OR FRIEND—NOT A BLAST LIST—AND OFFER THIS INVITE",
    "ASK ONE SATISFIED ACOLYTE WHO ELSE WOULD BENEFIT, THEN GIVE THEM THIS LINK"]

def operatorPromptText (operator : Address)
    (branded now : ℕ) : String :=
  let stats := s.stats branded now
  "RECRUITMENT OBJECTIVE · " ++
    promptVariants.getD (s.operatorPromptVariant % promptVariants.length) "" ++ ".\n" ++
    policy.referralUrl operator ++ "\nCURRENT FUNNEL: " ++ toString stats.totalAcolytes ++
    " TOTAL, " ++ toString stats.branded ++ " BRANDED, " ++ toString stats.unbranded ++
    " UNBRANDED, " ++ toString stats.recentlyOnboarded ++ " NEW IN 7D, " ++
    toString stats.successfulReferrals ++ " SUCCESSFUL REFERRALS, " ++
    stats.referralUwuPaidBaseUnits ++ " UWU BASE UNITS PAID.\n" ++
    "KEEP IT SPECIFIC AND CONSENSUAL; DO NOT SPAM OR PRESSURE ANYONE, UWU. Use /referrals off " ++
    "or /referrals snooze 7 to pause. Optional: keep a dedicated backup model key with " ++
    "/env add VENICE_API_KEY backup <key>; /env list shows redacted slots."

def fundingText :
    String :=
  "REFERRAL BOUNTY FUNDING REQUIRED. FUND TENTACLE WALLET " ++ addressText policy.minter ++
    " WITH EXACTLY " ++ result.uwuShortfallBaseUnits ++ " MORE UWU BASE UNITS AT CANONICAL " ++
    defaultUwuTokenContract ++ " AND AT LEAST " ++ result.ethShortfallWei ++
    " MORE BASE ETH WEI. THE DURABLE BOUNTY FOR ACOLYTE " ++ shortAddress acolyte ++
    " -> REFERRER " ++ shortAddress referrer ++
    " REMAINS PENDING AND WILL RESUME AUTOMATICALLY, UWU."

def confirmedText (amount : String) (acolyte referrer : Address) : String :=
  "ur one-time " ++ formatUwuBaseUnits amount ++
    " UWU referral bounty is confirmed because acolyte " ++ shortAddress acolyte ++
    " completed canonical onboarding, fwiend! thank u for growing the network. share ur invite " ++
    "again when it feels natural: " ++ policy.referralUrl referrer ++
    "\n[[cthuwu:referral-reward:v1;status=confirmed;amount=" ++ amount ++ "]]"

def fundingFingerprint : String :=
  commitment "funding" (result.ethShortfallWei ++ ":" ++ result.uwuShortfallBaseUnits ++ ":" ++
    result.ethTargetWei ++ ":" ++ result.uwuTargetBaseUnits)

/-- The operators are told about missing funds when these have changed, or after a day. -/
def ReferralRecord.notifiesFunding (r : ReferralRecord) (fingerprint : String) (now : ℕ) : Bool :=
  r.lastFundingFingerprint ≠ some fingerprint ||
    r.lastFundingNoticeUnix.all fun last => fundingNoticeCooldownSeconds ≤ now - last

def fundingNotice :
    PendingDelivery where
  target := .operators
  commitment := commitment "reward-funding" (fundingText policy result acolyte referrer)
  text := fundingText policy result acolyte referrer
  fundingFingerprint := some (fundingFingerprint result)

def confirmedDelivery (amount : String) (acolyte referrer : Address) :
    PendingDelivery where
  target := .referrerInbox
  commitment := commitment "reward-confirmed" (confirmedText policy amount acolyte referrer)
  text := confirmedText policy amount acolyte referrer
  fundingFingerprint := none

/-- Why there is no inbox to deliver to. -/
def ReferralRecord.requireReferrerInbox (r : ReferralRecord) : Except String String :=
  okOr r.referrerInboxId "referral confirmation has no durably verified referrer inbox"

/-! ### Rewards -/

def reconcileFunding (index : ℕ) (r : ReferralRecord)
    (referrer : Address) (result : ReferralBountyResult) (now : ℕ) : Op (Option GrowthDelivery) :=
  if r.notifiesFunding (fundingFingerprint result) now then do
    let notice := fundingNotice policy result r.acolyte referrer
    write policy (.requireFunding index (some notice) now)
    persist policy fault now
    return some ⟨.operators, notice.text, notice.commitment⟩
  else do
    write policy (.requireFunding index none now)
    persist policy fault now
    return none

def reconcileConfirmed (index : ℕ) (r : ReferralRecord)
    (referrer : Address) (result : ReferralBountyResult) (now : ℕ) :
    Op (Option GrowthDelivery) := do
  let transactionHash ← liftM (okOr result.transactionHash
    "confirmed bounty has no transaction hash")
  let transactionNonce ← liftM (okOr result.transactionNonce
    "confirmed bounty has no transaction nonce")
  let blockNumber ← liftM (okOr result.receiptBlockNumber
    "confirmed bounty has no receipt block")
  let blockHash ← liftM (okOr result.receiptBlockHash
    "confirmed bounty has no receipt block hash")
  liftM (requireNonzero referrer "referrer")
  let referrerInbox ← liftM r.requireReferrerInbox
  liftM (requireNonzero r.acolyte "acolyte")
  let delivery := confirmedDelivery policy r.rewardAmountBaseUnits r.acolyte referrer
  write policy (.confirm index ⟨transactionHash, transactionNonce, blockNumber, blockHash⟩ delivery
    now)
  persist policy fault now
  return some ⟨.inbox referrerInbox, delivery.text, delivery.commitment⟩

def ReferralRecord.invocation (r : ReferralRecord) (referrer : Address)
    (actionId : String) : Invocation where
  actionId := actionId
  wallet := policy.minter
  acolyte := r.acolyte
  referrer := referrer
  token := defaultUwuTokenContract
  chainId := baseChainId
  amountBaseUnits := r.rewardAmountBaseUnits
  configuredAmountBaseUnits := policy.rewardAmountBaseUnits
  transactionHash := r.transactionHash
  transactionNonce := r.transactionNonce

def invoke (invocation : Invocation) : Op Unit :=
  modify fun r => { r with invocations := r.invocations ++ [invocation] }

def reconcileReward (reply : Reply) (index : ℕ)
    (r : ReferralRecord) (now : ℕ) : Op (Option GrowthDelivery) := do
  let referrer ← liftM (okOr r.referrer "reward record has no referrer")
  let actionId ← liftM (okOr r.rewardActionId "reward record has no action ID")
  invoke (r.invocation policy referrer actionId)
  match reply with
  | .failed error => do
    write policy (.failAttempt index error now)
    persist policy fault now
    return none
  | .malformed => throw "referral bounty helper returned an invalid result"
  | .result result => do
    liftM (validateResult policy result r)
    match result.disposition with
    | .fundingRequired => reconcileFunding policy fault index r referrer result now
    | .submitted => do
      write policy (.submit index result.transactionHash result.transactionNonce now)
      persist policy fault now
      return none
    | .confirmed => reconcileConfirmed policy fault index r referrer result now

def GrowthSnapshot.waitingPrompt (now : ℕ) : Option GrowthDelivery := do
  let delivery ← s.pendingOperatorPrompt
  let operator ← s.currentOperator
  guard (s.remindersAllowed now)
  return ⟨.activeOperator operator.inboxId, delivery.text, delivery.commitment⟩

def GrowthSnapshot.waitingDelivery :
    Option (ReferralRecord × PendingDelivery) :=
  s.records.findSome? fun r => r.pendingDelivery.map (r, ·)

/-- A prompt for the operator, when it is time for one. -/
def promptOperator (branded now : ℕ) :
    Op (Option GrowthDelivery) := do
  let r ← get
  match r.state.currentOperator with
  | none => return none
  | some operator =>
    if r.state.promptIsDue now then do
      liftM (requireNonzero operator.address "persisted operator")
      let text := operatorPromptText policy r.state operator.address branded now
      let named := commitment "operator-prompt" text
      write policy (.prompt ⟨.operators, named, text, none⟩)
      persist policy fault now
      return some ⟨.activeOperator operator.inboxId, text, named⟩
    else return none

def maintainOne (reply : Reply) (branded now : ℕ) :
    Op (Option GrowthDelivery) := do
  let r ← get
  match r.state.waitingPrompt now, r.state.waitingDelivery,
      position (ReferralRecord.isDue now) r.state.records with
  | some delivery, _, _ => return some delivery
  | none, some (record, delivery), _ => do
    let audience ← match delivery.target with
      | .referrerInbox => do
        let inboxId ← liftM record.requireReferrerInbox
        pure (.inbox inboxId)
      | .operators => pure .operators
    return some ⟨audience, delivery.text, delivery.commitment⟩
  | none, none, some (index, record) =>
    if record.phase = .onboardingComplete then do
      liftM (requireNonzero record.acolyte "persisted acolyte")
      write policy (.prepare index now)
      persist policy fault now
      return none
    else reconcileReward policy fault reply index record now
  | none, none, none => promptOperator policy fault branded now

def isCommitted (commitmentValue : String) (delivery : Option PendingDelivery) : Bool :=
  delivery.any (·.commitment = commitmentValue)

def acknowledgeDelivery (commitmentValue : String)
    (delivered : Bool) (now : ℕ) : Op Unit := do
  let r ← get
  if isCommitted commitmentValue r.state.pendingOperatorPrompt then do
    if delivered then write policy (.promptDelivered now)
    persist policy fault now
  else match position (fun r => isCommitted commitmentValue r.pendingDelivery) r.state.records with
    | none => return ()
    | some (index, _) => do
      if delivered then write policy (.delivered index now)
      persist policy fault now

end Cthuwu.Growth
