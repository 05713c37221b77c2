import Cthuwu.Minting.Phases

/-!
# The completion of a Branding

`completeBranding` sends the first phase that is left, reads the chain again, checks that the phase had
its effect, and plans afresh, until nothing is left. In a run that nothing disturbs (`Weather`), where
every transaction that is sent has its effect on the contract and is paid for, the loop ends after the
allowance, the mint and the name (`plan_exceeds_execution`). The avatar was planned, priced and
reported, but once the name is written the plan for a minted Branding is empty, so that it is never
sent.
-/

namespace Cthuwu.Minting

open Fallible

/-! ## Completion -/

/-- What a completion asks of the outside : a reading of the chain, the block of the offer, the digest
and the signature of the consent, prices, and a transaction. -/
structure Outside (σ : Type) where
  read : Fallible SignerError σ Reading
  offerBlock : Fallible SignerError σ Hash
  consent : Fallible SignerError σ Unit
  fees : Fallible SignerError σ FeeAnswers
  send : PreparedBrandingPhase → Fallible SignerError σ Hash

section

variable {σ : Type} (outside : Outside σ) (generateBrandSigilDataUri : Address → ℕ → String → String)

def readSnapshot (operation : BrandingOperation) (minter : Address) :
    Fallible SignerError σ BrandingSnapshot := do
  let r ← outside.read
  liftM (readBrandingSnapshot operation minter r)

def checkOfferBlock (operation : CompleteBrandingOperation) : Fallible SignerError σ Unit := do
  let hash ← outside.offerBlock
  liftM (failIf (hash ≠ operation.offerBlockHash) (SignerError.recoverable "branding_offer_reorg"
    "the signed Branding offer block is no longer canonical"))

/-- The nonce and the deadline of a consent that is still to be used. -/
def checkConsent (operation : CompleteBrandingOperation) (snapshot : BrandingSnapshot) :
    Except SignerError Unit := do
  failIf (snapshot.currentConsentNonce ≠ operation.nonce) (.permanent "branding_nonce"
    "mint consent nonce no longer matches canonical Branding state")
  failIf (operation.deadline ≤ snapshot.observation.blockTimestamp) (.permanent "branding_deadline"
    "mint consent expired at the fresh pre-mint block")
  failIf (operation.deadline < snapshot.observation.blockTimestamp + 120)
    (.recoverable "branding_deadline_close"
      "mint consent has less than 120 seconds remaining at the fresh pre-mint block")

def verifyMintConsent (operation : CompleteBrandingOperation) (snapshot : BrandingSnapshot) :
    Fallible SignerError σ Unit :=
  if snapshot.brandingStatus ≠ .unminted then pure ()
  else do
    liftM (checkConsent operation snapshot)
    outside.consent

def fundPhases (snapshot : BrandingSnapshot) (phases : List PreparedBrandingPhase) :
    Fallible SignerError σ BrandingFunding := do
  let answers ← outside.fees
  liftM (brandingFunding answers snapshot phases)

def sendBrandingPhase (phase : PreparedBrandingPhase) : Fallible SignerError σ Hash := do
  liftM (failIf (isAllowedBrandingTransaction phase = false) (SignerError.permanent
    "branding_calldata" <| "prepared Branding phase is outside the closed approve, mint, and " ++
      "name-trait allowlist"))
  outside.send phase

def phaseAdvanced (operation : CompleteBrandingOperation) (phase : BrandingTransactionPhase)
    (snapshot : BrandingSnapshot) : Bool :=
  (phase = .approve && snapshot.firstWeekUpkeep ≤ snapshot.allowance) ||
    (phase = .mint && snapshot.brandingStatus ≠ .unminted &&
      snapshot.currentConsentNonce = operation.nonce + 1) ||
    (phase = .nameTrait && snapshot.nameTrait = some operation.acolyteName)

/-- The Branding is the one of the operation. -/
def isCompleted (operation : CompleteBrandingOperation) (minter : Address)
    (snapshot : BrandingSnapshot) : Bool :=
  snapshot.brandingStatus ≠ .unminted && snapshot.nameTrait = some operation.acolyteName &&
    snapshot.currentConsentNonce = operation.nonce + 1 && snapshot.branding.owner = minter &&
    snapshot.branding.controllerAgentId = operation.controllerAgentId &&
    snapshot.branding.referrer = operation.referrer

/-- What is done when no phase is left. -/
def finishBranding (operation : CompleteBrandingOperation) (minter : Address)
    (snapshot : BrandingSnapshot) (hashes : List (BrandingTransactionPhase × Hash)) :
    Fallible SignerError σ BrandingResult := do
  liftM (failIf (isCompleted operation minter snapshot = false) (SignerError.recoverable
    "branding_incomplete" "Branding completion could not be verified from fresh canonical state"))
  let funding ← fundPhases outside snapshot []
  return brandingResult .brandingCompletion (.complete operation) snapshot [] funding hashes

/-- A phase is sent, and what it left is read and checked. -/
def advanceBranding (operation : CompleteBrandingOperation) (minter : Address)
    (next : PreparedBrandingPhase) : Fallible SignerError σ (Hash × BrandingSnapshot) := do
  let hash ← sendBrandingPhase outside next
  let snapshot ← readSnapshot outside (.complete operation) minter
  liftM (failIf (phaseAdvanced operation next.operation snapshot = false)
    (SignerError.recoverable "branding_no_effect" <| "confirmed " ++ next.operation.text ++
      " transaction did not produce its exact expected canonical state transition"))
  verifyMintConsent outside operation snapshot
  return (hash, snapshot)

/-- The loop of `completeBranding`, for at most `n` turns. -/
def completionLoop (operation : CompleteBrandingOperation) (minter : Address) :
    ℕ → BrandingSnapshot → List PreparedBrandingPhase → List (BrandingTransactionPhase × Hash) →
      Fallible SignerError σ (Option BrandingResult)
  | 0, _, _, _ => pure none
  | _ + 1, snapshot, [], hashes => do
    let result ← finishBranding outside operation minter snapshot hashes
    return some result
  | n + 1, _, next :: _, hashes => do
    let (hash, snapshot) ← advanceBranding outside operation minter next
    let phases := brandingPhases generateBrandSigilDataUri (.complete operation) snapshot
    let funding ← fundPhases outside snapshot phases
    if funding.isFunded = false then
      return some (brandingResult .brandingCompletion (.complete operation) snapshot phases funding
        (hashes ++ [(next.operation, hash)]))
    else completionLoop operation minter n snapshot phases (hashes ++ [(next.operation, hash)])

/-- The first reading, and the checks of the consent where it is still to be used. -/
def beginBranding (operation : CompleteBrandingOperation) (minter : Address) :
    Fallible SignerError σ BrandingSnapshot := do
  let snapshot ← readSnapshot outside (.complete operation) minter
  if snapshot.brandingStatus = .unminted then
    checkOfferBlock outside operation
    verifyMintConsent outside operation snapshot
    return snapshot
  else return snapshot

def completeBranding (operation : CompleteBrandingOperation) (minter : Address) (n : ℕ) :
    Fallible SignerError σ (Option BrandingResult) := do
  let snapshot ← beginBranding outside operation minter
  let phases := brandingPhases generateBrandSigilDataUri (.complete operation) snapshot
  let funding ← fundPhases outside snapshot phases
  if funding.isFunded = false then
    return some (brandingResult .brandingCompletion (.complete operation) snapshot phases funding [])
  else completionLoop outside generateBrandSigilDataUri operation minter n snapshot phases []

end

/-! ## The contract -/

structure MintedBranding where
  owner : Address
  controllerAgentId : ℕ
  referrer : Address
  declaredPrice : ℕ
  paidThrough : ℕ

/-- What the contracts hold of an acolyte and a minter. -/
structure Chain where
  branding : Option MintedBranding
  nonce : ℕ
  allowance : ℕ
  uwuBalance : ℕ
  customTraits : List (String × String)
  avatarUri : String

def week : ℕ := 604800

/-- A custom trait is written over, or added. -/
def writeTrait (traitType value : String) (traits : List (String × String)) :
    List (String × String) :=
  if traits.any (·.1 = traitType) then
    traits.map fun trait => if trait.1 = traitType then (traitType, value) else trait
  else traits ++ [(traitType, value)]

/-- The effect of a transaction on the contracts. -/
def Chain.effect (chain : Chain) (sender : Address) (timestamp : ℕ) : Calldata → Chain
  | .approve _ amount => { chain with allowance := amount }
  | .mintBranding consent _ =>
    { chain with
      branding := some ⟨sender, consent.controllerAgentId, consent.referrer,
        consent.initialDeclaredPrice, timestamp + week⟩
      nonce := chain.nonce + 1
      allowance := chain.allowance - firstWeekUpkeepOf consent.initialDeclaredPrice
      uwuBalance := chain.uwuBalance - firstWeekUpkeepOf consent.initialDeclaredPrice }
  | .setCustomTrait _ traitType value =>
    { chain with customTraits := writeTrait traitType value chain.customTraits }
  | .setAvatarURI _ uri => { chain with avatarUri := uri }

/-- What may differ from one transaction to the next though nothing disturbs the run : the block, the
balance that pays for gas, the status of what was minted, the prices, and the hash of the
transaction. -/
structure Weather where
  observation : CanonicalBrandingObservation
  ethBalance : ℕ
  lapse : Fin 4
  fees : FeeAnswers
  hash : Hash

def Chain.view (chain : Chain) (acolyte : Address) (weather : Weather) : BrandingView :=
  match chain.branding with
  | none => ⟨acolyte.toNat, acolyte, 0, 0, 0, 0, 0, 0⟩
  | some branding => ⟨acolyte.toNat, acolyte, branding.owner, branding.controllerAgentId,
      branding.referrer, branding.declaredPrice, branding.paidThrough, weather.lapse.val + 1⟩

def Chain.reading (chain : Chain) (operation : BrandingInspectOperation) (weather : Weather) :
    Reading where
  observation := .ok weather.observation
  branding := chain.view operation.acolyte weather
  currentConsentNonce := chain.nonce
  firstWeekUpkeep := firstWeekUpkeepOf operation.initialDeclaredPrice
  ethBalance := weather.ethBalance
  uwuBalance := chain.uwuBalance
  allowance := chain.allowance
  controller := .ok ()
  customTraits := chain.customTraits
  canonical := true

/-- The contracts, and how many transactions were sent. -/
structure World where
  chain : Chain
  sent : ℕ

/-- A run that nothing disturbs. -/
def undisturbed (weather : ℕ → Weather) (operation : CompleteBrandingOperation) : Outside World where
  read := do
    let w ← get
    return w.chain.reading operation.toBrandingInspectOperation (weather w.sent)
  offerBlock := return operation.offerBlockHash
  consent := return ()
  fees := do
    let w ← get
    return (weather w.sent).fees
  send phase := do
    let w ← get
    set (⟨w.chain.effect operation.minter (weather w.sent).observation.blockTimestamp phase.data,
      w.sent + 1⟩ : World)
    return (weather w.sent).hash

/-! ## What a run reads -/

section

variable {weather : ℕ → Weather} {operation : CompleteBrandingOperation} {chain : Chain} {k : ℕ}
  {generateBrandSigilDataUri : Address → ℕ → String → String}

def unmintedSnapshot (weather : ℕ → Weather) (operation : CompleteBrandingOperation) (chain : Chain)
    (k : ℕ) : BrandingSnapshot where
  observation := (weather k).observation
  minter := operation.minter
  tokenId := operation.acolyte.toNat
  branding := chain.view operation.acolyte (weather k)
  brandingStatus := .unminted
  currentConsentNonce := chain.nonce
  firstWeekUpkeep := firstWeekUpkeepOf operation.initialDeclaredPrice
  ethBalance := (weather k).ethBalance
  uwuBalance := chain.uwuBalance
  allowance := chain.allowance
  nameTrait := none

theorem read_unminted (hnone : chain.branding = none)
    (htreasury : chain.uwuBalance = operation.treasuryBalance) :
    readBrandingSnapshot (.complete operation) operation.minter
      (chain.reading operation.toBrandingInspectOperation (weather k)) =
        .ok (unmintedSnapshot weather operation chain k) := by
  unfold readBrandingSnapshot
  simp only [except_bind_ok, okOr_ok, failIf_ok, exists_unit, except_pure_ok]
  refine ⟨_, rfl, .unminted, ?_, ?_, none, ?_, Bool.noConfusion, rfl⟩
  · unfold Chain.reading Chain.view
    rw [hnone]
    rfl
  · unfold Chain.reading Chain.view
    rw [hnone]
    simp [BrandingOperation.terms]
  · unfold readStatus checkUnminted checkTreasury
    simp only [except_bind_ok, failIf_ok, exists_unit, except_pure_ok, and_true, not_not]
    unfold Chain.reading Chain.view
    rw [hnone]
    simp [BrandingOperation.terms, htreasury]

def lapsedStatus (lapse : Fin 4) : BrandingStatusName :=
  brandingStatusNames.get ⟨lapse.val + 1, Nat.succ_lt_succ lapse.isLt⟩

theorem lapsedStatus_ne (lapse : Fin 4) : lapsedStatus lapse ≠ .unminted := by
  revert lapse
  decide

/-- The Branding that the operation mints. -/
structure Minted (operation : CompleteBrandingOperation) (chain : Chain) (branding : MintedBranding) :
    Prop where
  some : chain.branding = some branding
  owner : branding.owner = operation.minter
  controllerAgentId : branding.controllerAgentId = operation.controllerAgentId
  referrer : branding.referrer = operation.referrer
  nonce : chain.nonce = operation.nonce + 1

def mintedSnapshot (weather : ℕ → Weather) (operation : CompleteBrandingOperation) (chain : Chain)
    (k : ℕ) (nameTrait : Option String) : BrandingSnapshot :=
  { unmintedSnapshot weather operation chain k with
    brandingStatus := lapsedStatus (weather k).lapse
    nameTrait := nameTrait }

variable {rest phases : List PreparedBrandingPhase} {nameTrait : Option String}
  {next : PreparedBrandingPhase} {snapshot' : BrandingSnapshot} {funding : BrandingFunding}

theorem readStatus_minted {status : BrandingStatusName} {r : Reading} (hstatus : status ≠ .unminted)
    (hminted : checkMinted (.complete operation) operation.minter r = .ok ())
    (hname : readAcolyteNameTrait r.customTraits = .ok nameTrait) :
    readStatus (.complete operation) operation.minter r status = .ok nameTrait := by
  cases status with
  | unminted => exact absurd rfl hstatus
  | _ =>
    unfold readStatus
    dsimp only
    exact except_bind_ok.mpr ⟨(), hminted, hname⟩

theorem read_minted {branding : MintedBranding} (h : Minted operation chain branding)
    (hname : readAcolyteNameTrait chain.customTraits = .ok nameTrait) :
    readBrandingSnapshot (.complete operation) operation.minter
      (chain.reading operation.toBrandingInspectOperation (weather k)) =
        .ok (mintedSnapshot weather operation chain k nameTrait) := by
  have hview : chain.view operation.acolyte (weather k) = ⟨operation.acolyte.toNat,
      operation.acolyte, branding.owner, branding.controllerAgentId, branding.referrer,
      branding.declaredPrice, branding.paidThrough, (weather k).lapse.val + 1⟩ := by
    unfold Chain.view
    rw [h.some]
  unfold readBrandingSnapshot
  simp only [except_bind_ok, okOr_ok, failIf_ok, exists_unit, except_pure_ok]
  refine ⟨_, rfl, lapsedStatus (weather k).lapse, ?_, ?_, nameTrait, ?_, Bool.noConfusion, rfl⟩
  · unfold Chain.reading
    dsimp only
    rw [hview]
    exact List.getElem?_eq_getElem _
  · unfold Chain.reading
    dsimp only
    rw [hview]
    simp [BrandingOperation.terms]
  · refine readStatus_minted (lapsedStatus_ne _) ?_ hname
    unfold checkMinted checkConsumed
    rw [except_bind_ok]
    simp only [failIf_ok, exists_unit]
    unfold Chain.reading
    dsimp only
    rw [hview]
    simp [BrandingOperation.terms, h.owner, h.controllerAgentId, h.referrer, h.nonce]

/-! ## One turn of the loop -/

theorem send_ok (hallowed : isAllowedBrandingTransaction next = true) :
    (sendBrandingPhase (undisturbed weather operation) next).exec ⟨chain, k⟩ = (.ok (weather k).hash,
      ⟨chain.effect operation.minter (weather k).observation.blockTimestamp next.data, k + 1⟩) := by
  unfold sendBrandingPhase
  refine lift_bind_ok.mpr ⟨(), ?_, rfl⟩
  rw [failIf_ok, hallowed]
  exact Bool.noConfusion

theorem readSnapshot_ok {snapshot : BrandingSnapshot}
    (hread : readBrandingSnapshot (.complete operation) operation.minter
      (chain.reading operation.toBrandingInspectOperation (weather k)) = .ok snapshot) :
    (readSnapshot (undisturbed weather operation) (.complete operation) operation.minter).exec
      ⟨chain, k⟩ = (.ok snapshot, ⟨chain, k⟩) := by
  unfold readSnapshot
  refine bind_ok.mpr ⟨_, ⟨chain, k⟩, rfl, ?_⟩
  rw [exec_lift, hread]

theorem verifyMintConsent_ok {snapshot : BrandingSnapshot} {w : World}
    (hconsent : snapshot.brandingStatus = .unminted → checkConsent operation snapshot = .ok ()) :
    (verifyMintConsent (undisturbed weather operation) operation snapshot).exec w = (.ok (), w) := by
  unfold verifyMintConsent
  split_ifs with hminted
  · rfl
  · exact lift_bind_ok.mpr ⟨(), hconsent (not_not.mp hminted), rfl⟩

theorem advance_ok {snapshot : BrandingSnapshot}
    (hallowed : isAllowedBrandingTransaction next = true)
    (hread : readBrandingSnapshot (.complete operation) operation.minter
      ((chain.effect operation.minter (weather k).observation.blockTimestamp next.data).reading
        operation.toBrandingInspectOperation (weather (k + 1))) = .ok snapshot)
    (hadvanced : phaseAdvanced operation next.operation snapshot = true)
    (hconsent : snapshot.brandingStatus = .unminted → checkConsent operation snapshot = .ok ()) :
    (advanceBranding (undisturbed weather operation) operation operation.minter next).exec ⟨chain, k⟩ =
      (.ok ((weather k).hash, snapshot),
        ⟨chain.effect operation.minter (weather k).observation.blockTimestamp next.data, k + 1⟩) := by
  unfold advanceBranding
  refine bind_ok.mpr ⟨_, _, send_ok hallowed, bind_ok.mpr ⟨_, _, readSnapshot_ok hread, ?_⟩⟩
  refine lift_bind_ok.mpr ⟨(), ?_, bind_ok.mpr ⟨(), _, verifyMintConsent_ok hconsent, rfl⟩⟩
  rw [failIf_ok, hadvanced]
  exact Bool.noConfusion

/-- A phase that advances is sent, and the rest is planned afresh. -/
theorem loop_step {σ : Type} {outside : Outside σ} {minter : Address} {n : ℕ} {w w' : σ}
    {snapshot : BrandingSnapshot} {hash : Hash} {hashes : List (BrandingTransactionPhase × Hash)}
    (hadvance : (advanceBranding outside operation minter next).exec w = (.ok (hash, snapshot'), w'))
    (hfund : (fundPhases outside snapshot' (brandingPhases generateBrandSigilDataUri
      (.complete operation) snapshot')).exec w' = (.ok funding, w'))
    (hfunded : funding.isFunded = true) :
    (completionLoop outside generateBrandSigilDataUri operation minter (n + 1) snapshot (next :: rest)
      hashes).exec w =
    (completionLoop outside generateBrandSigilDataUri operation minter n snapshot'
      (brandingPhases generateBrandSigilDataUri (.complete operation) snapshot')
      (hashes ++ [(next.operation, hash)])).exec w' := by
  rw [completionLoop, exec_bind, hadvance]
  dsimp only
  rw [exec_bind, hfund]
  dsimp only
  rw [hfunded, if_neg (by decide)]

/-! ## Funding -/

/-- In every block the balance pays for everything that is planned, and for every part of it. -/
def Funded (weather : ℕ → Weather) (planned : List PreparedBrandingPhase) : Prop :=
  ∀ k snapshot phases, phases.Sublist planned → snapshot.ethBalance = (weather k).ethBalance →
    ∃ funding, brandingFunding (weather k).fees snapshot phases = .ok funding ∧
      funding.ethShortfall = 0

theorem uwuShortfall_of_funding {answers : FeeAnswers} {snapshot : BrandingSnapshot}
    (h : brandingFunding answers snapshot phases = .ok funding)
    (huwu : (∃ phase ∈ phases, phase.operation = .mint) →
      snapshot.firstWeekUpkeep ≤ snapshot.uwuBalance) : funding.uwuShortfall = 0 := by
  unfold brandingFunding at h
  simp only [except_bind_ok, failIf_ok, exists_unit] at h
  obtain ⟨safetyBps, -, -, reserve, -, h⟩ := h
  split_ifs at h with hnil hmint
  · cases h
    rfl
  · simp only [except_bind_ok, except_pure_ok] at h
    obtain ⟨_, -, _, -, _, -, rfl⟩ := h
    exact Nat.sub_eq_zero_of_le (huwu (by simpa using hmint))
  · simp only [except_bind_ok, except_pure_ok] at h
    obtain ⟨_, -, _, -, _, -, rfl⟩ := h
    exact Nat.zero_sub _

theorem fund_ok (operation : CompleteBrandingOperation) (chain : Chain)
    {planned : List PreparedBrandingPhase} {snapshot : BrandingSnapshot}
    (h : Funded weather planned) (hphases : phases.Sublist planned)
    (heth : snapshot.ethBalance = (weather k).ethBalance)
    (huwu : (∃ phase ∈ phases, phase.operation = .mint) →
      snapshot.firstWeekUpkeep ≤ snapshot.uwuBalance) :
    ∃ funding, (fundPhases (undisturbed weather operation) snapshot phases).exec ⟨chain, k⟩ =
      (.ok funding, ⟨chain, k⟩) ∧ funding.isFunded = true := by
  obtain ⟨funding, hfunding, hzero⟩ := h k snapshot phases hphases heth
  refine ⟨funding, ?_, ?_⟩
  · unfold fundPhases
    refine bind_ok.mpr ⟨_, ⟨chain, k⟩, rfl, ?_⟩
    rw [exec_lift, hfunding]
  · unfold BrandingFunding.isFunded
    rw [hzero, uwuShortfall_of_funding hfunding huwu]
    rfl

/-! ## The run -/

/-- The operations of the transactions that were sent. -/
def BrandingResult.sent (result : BrandingResult) : List BrandingTransactionPhase :=
  (result.transactionHashes.getD []).map (·.1)

/-- The run is complete and has sent the operations, and no avatar was written. -/
def Sends (operations : List BrandingTransactionPhase)
    (x : Fallible SignerError World (Option BrandingResult)) (w : World) : Prop :=
  ∃ result w', x.exec w = (.ok (some result), w') ∧ result.disposition = .complete ∧
    result.sent = operations ∧ w'.chain.avatarUri = w.chain.avatarUri

variable {planned : List PreparedBrandingPhase} {branding : MintedBranding} {n : ℕ}
  {snapshot : BrandingSnapshot} {hashes : List (BrandingTransactionPhase × Hash)}
  {operations : List BrandingTransactionPhase}

/-- Nothing is left once the name is written. -/
theorem sends_named (hfunded : Funded weather planned) (hminted : Minted operation chain branding)
    (hsent : hashes.map (·.1) = operations) :
    Sends operations (completionLoop (undisturbed weather operation)
      generateBrandSigilDataUri operation operation.minter (n + 1)
      (mintedSnapshot weather operation chain k (some operation.acolyteName)) [] hashes)
      ⟨chain, k⟩ := by
  have hview : (chain.view operation.acolyte (weather k)).owner = operation.minter ∧
      (chain.view operation.acolyte (weather k)).controllerAgentId = operation.controllerAgentId ∧
      (chain.view operation.acolyte (weather k)).referrer = operation.referrer := by
    unfold Chain.view
    rw [hminted.some]
    exact ⟨hminted.owner, hminted.controllerAgentId, hminted.referrer⟩
  have hcompleted : isCompleted operation operation.minter
      (mintedSnapshot weather operation chain k (some operation.acolyteName)) = true := by
    unfold isCompleted mintedSnapshot unmintedSnapshot
    simp [lapsedStatus_ne, hview, hminted.nonce]
  have heth : (mintedSnapshot weather operation chain k (some operation.acolyteName)).ethBalance =
      (weather k).ethBalance := rfl
  obtain ⟨funding, hfund, -⟩ := fund_ok operation chain hfunded (List.nil_sublist planned) heth
    (by simp)
  refine ⟨brandingResult .brandingCompletion (.complete operation)
    (mintedSnapshot weather operation chain k (some operation.acolyteName)) [] funding hashes,
    ⟨chain, k⟩, ?_, rfl, hsent, rfl⟩
  rw [completionLoop]
  refine bind_ok.mpr ⟨_, _, lift_bind_ok.mpr ⟨(), ?_, bind_ok.mpr ⟨funding, _, hfund, rfl⟩⟩, rfl⟩
  rw [failIf_ok, hcompleted]
  exact Bool.noConfusion

/-- A phase that advances, and what is sent after it. -/
theorem Sends.step {chain' : Chain} (hfunded : Funded weather planned)
    (hallowed : isAllowedBrandingTransaction next = true)
    (heffect : chain.effect operation.minter (weather k).observation.blockTimestamp next.data = chain')
    (havatar : chain'.avatarUri = chain.avatarUri)
    (hread : readBrandingSnapshot (.complete operation) operation.minter
      (chain'.reading operation.toBrandingInspectOperation (weather (k + 1))) = .ok snapshot')
    (hadvanced : phaseAdvanced operation next.operation snapshot' = true)
    (hconsent : snapshot'.brandingStatus = .unminted → checkConsent operation snapshot' = .ok ())
    (hplanned : (brandingPhases generateBrandSigilDataUri (.complete operation) snapshot').Sublist
      planned) (heth : snapshot'.ethBalance = (weather (k + 1)).ethBalance)
    (huwu : snapshot'.brandingStatus = .unminted → snapshot'.firstWeekUpkeep ≤ snapshot'.uwuBalance)
    (h : ∀ hash, Sends operations (completionLoop (undisturbed weather operation)
      generateBrandSigilDataUri operation operation.minter n snapshot'
      (brandingPhases generateBrandSigilDataUri (.complete operation) snapshot')
      (hashes ++ [(next.operation, hash)])) ⟨chain', k + 1⟩) :
    Sends operations (completionLoop (undisturbed weather operation) generateBrandSigilDataUri
      operation operation.minter (n + 1) snapshot (next :: rest) hashes) ⟨chain, k⟩ := by
  subst heffect
  have hmint : (∃ phase ∈ brandingPhases generateBrandSigilDataUri (.complete operation) snapshot',
      phase.operation = .mint) → snapshot'.firstWeekUpkeep ≤ snapshot'.uwuBalance := by
    rintro ⟨phase, hmem, hphase⟩
    by_cases hstatus : snapshot'.brandingStatus = .unminted
    · exact huwu hstatus
    · unfold brandingPhases at hmem
      rw [if_pos hstatus] at hmem
      split_ifs at hmem
      · cases hmem
      · rw [List.mem_singleton.mp hmem] at hphase
        cases hphase
  obtain ⟨funding, hfund, hisFunded⟩ := fund_ok operation _ hfunded hplanned heth hmint
  obtain ⟨result, w', hexec, hcomplete, hsent, huri⟩ := h (weather k).hash
  refine ⟨result, w', ?_, hcomplete, hsent, huri.trans havatar⟩
  rw [loop_step (advance_ok hallowed hread hadvanced hconsent) hfund hisFunded]
  exact hexec

theorem phases_named : brandingPhases generateBrandSigilDataUri (.complete operation)
    (mintedSnapshot weather operation chain k (some operation.acolyteName)) = [] := by
  unfold brandingPhases
  exact (if_pos (lapsedStatus_ne _)).trans (if_pos rfl)

theorem phases_unnamed : brandingPhases generateBrandSigilDataUri (.complete operation)
    (mintedSnapshot weather operation chain k none) =
      [namePhase (.complete operation) (mintedSnapshot weather operation chain k none)] := by
  unfold brandingPhases
  exact (if_pos (lapsedStatus_ne _)).trans (if_neg nofun)

theorem approve_allowed (snapshot : BrandingSnapshot) :
    isAllowedBrandingTransaction (approvePhase snapshot) = true := by
  simp [isAllowedBrandingTransaction, approvePhase]

theorem mint_allowed (operation : BrandingOperation) (snapshot : BrandingSnapshot) :
    isAllowedBrandingTransaction (mintPhase operation snapshot) = true := by
  simp [isAllowedBrandingTransaction, mintPhase]

theorem name_allowed (operation : BrandingOperation) (snapshot : BrandingSnapshot) :
    isAllowedBrandingTransaction (namePhase operation snapshot) = true := by
  simp [isAllowedBrandingTransaction, namePhase]

theorem map_snoc {phase : BrandingTransactionPhase} {hash : Hash} :
    (hashes ++ [(phase, hash)]).map (·.1) = hashes.map (·.1) ++ [phase] :=
  List.map_append

theorem sends_minted (hfunded : Funded weather planned)
    (hname : operation.acolyteName.utf8ByteSize ≤ 256) (htraits : chain.customTraits = [])
    (hminted : Minted operation chain branding)
    (hsent : hashes.map (·.1) ++ [.nameTrait] = operations) :
    Sends operations (completionLoop (undisturbed weather operation)
      generateBrandSigilDataUri operation operation.minter (n + 2) snapshot
      (brandingPhases generateBrandSigilDataUri (.complete operation)
        (mintedSnapshot weather operation chain k none)) hashes) ⟨chain, k⟩ := by
  have hread : readAcolyteNameTrait [(acolyteNameTrait, operation.acolyteName)] =
      .ok (some operation.acolyteName) := by
    unfold readAcolyteNameTrait findNameTrait
    simp only [except_bind_ok, exists_unit, failIf_ok, if_pos]
    exact ⟨by simp, not_or.mpr ⟨by decide, Nat.not_lt.mpr hname⟩, trivial⟩
  have hminted' : Minted operation
      { chain with customTraits := [(acolyteNameTrait, operation.acolyteName)] } branding :=
    ⟨hminted.some, hminted.owner, hminted.controllerAgentId, hminted.referrer, hminted.nonce⟩
  have heffect : chain.effect operation.minter (weather k).observation.blockTimestamp
      (namePhase (.complete operation) (mintedSnapshot weather operation chain k none)).data =
        { chain with customTraits := [(acolyteNameTrait, operation.acolyteName)] } := by
    unfold namePhase Chain.effect
    dsimp only
    rw [htraits]
    rfl
  rw [phases_unnamed]
  refine Sends.step hfunded (name_allowed _ _) heffect rfl (read_minted hminted' hread) ?_
    (fun hunminted => absurd hunminted (lapsedStatus_ne _)) ?_ rfl
    (fun hunminted => absurd hunminted (lapsedStatus_ne _)) fun hash => ?_
  · unfold phaseAdvanced namePhase mintedSnapshot
    simp
  · rw [phases_named]
    exact List.nil_sublist planned
  · rw [phases_named]
    exact sends_named hfunded hminted' ((map_snoc).trans hsent)

theorem advanced_mint (h : Minted operation chain branding) :
    phaseAdvanced operation .mint (mintedSnapshot weather operation chain k nameTrait) = true := by
  unfold phaseAdvanced mintedSnapshot unmintedSnapshot
  simp [lapsedStatus_ne, h.nonce]

theorem phases_before : brandingPhases generateBrandSigilDataUri (.complete operation)
    (unmintedSnapshot weather operation chain k) =
      (if chain.allowance < firstWeekUpkeepOf operation.initialDeclaredPrice
        then [approvePhase (unmintedSnapshot weather operation chain k)] else []) ++
      [mintPhase (.complete operation) (unmintedSnapshot weather operation chain k),
        namePhase (.complete operation) (unmintedSnapshot weather operation chain k),
        avatarPhase generateBrandSigilDataUri (.complete operation)
          (unmintedSnapshot weather operation chain k)] := rfl

/-- The chain before the mint, where the operation may be completed. -/
structure Ready (weather : ℕ → Weather) (operation : CompleteBrandingOperation) (chain : Chain) :
    Prop where
  unminted : chain.branding = none
  customTraits : chain.customTraits = []
  nonce : chain.nonce = operation.nonce
  treasury : chain.uwuBalance = operation.treasuryBalance
  upkeep : firstWeekUpkeepOf operation.initialDeclaredPrice ≤ chain.uwuBalance
  name : operation.acolyteName.utf8ByteSize ≤ 256
  deadline : ∀ k ≤ 1, (weather k).observation.blockTimestamp + 120 ≤ operation.deadline

theorem Ready.consent (h : Ready weather operation chain) (hk : k ≤ 1) :
    checkConsent operation (unmintedSnapshot weather operation chain k) = .ok () := by
  have hdeadline := h.deadline k hk
  unfold checkConsent unmintedSnapshot
  simp only [except_bind_ok, exists_unit, failIf_ok, not_not, Nat.not_lt, Nat.not_le]
  exact ⟨h.nonce, by omega, by omega⟩

/-- Once the allowance is there, the mint and the name are sent. -/
theorem sends_allowed (hfunded : Funded weather planned) (h : Ready weather operation chain)
    (hallowance : firstWeekUpkeepOf operation.initialDeclaredPrice ≤ chain.allowance)
    (hname : namePhase (.complete operation) (unmintedSnapshot weather operation chain k) ∈ planned)
    (hsent : hashes.map (·.1) ++ [.mint, .nameTrait] = operations) :
    Sends operations (completionLoop (undisturbed weather operation)
      generateBrandSigilDataUri operation operation.minter (n + 3) snapshot
      (brandingPhases generateBrandSigilDataUri (.complete operation)
        (unmintedSnapshot weather operation chain k)) hashes) ⟨chain, k⟩ := by
  have hminted : Minted operation (chain.effect operation.minter
      (weather k).observation.blockTimestamp
      (mintPhase (.complete operation) (unmintedSnapshot weather operation chain k)).data) _ :=
    ⟨rfl, rfl, rfl, rfl, congrArg (· + 1) h.nonce⟩
  have htraits : (chain.effect operation.minter (weather k).observation.blockTimestamp
      (mintPhase (.complete operation) (unmintedSnapshot weather operation chain k)).data).customTraits =
        [] := h.customTraits
  have hnone : readAcolyteNameTrait [] = .ok none := rfl
  rw [phases_before, if_neg (Nat.not_lt.mpr hallowance), List.nil_append]
  refine Sends.step hfunded (mint_allowed _ _) rfl rfl
    (read_minted hminted (htraits ▸ hnone)) (advanced_mint hminted)
    (fun hunminted => absurd hunminted (lapsedStatus_ne _)) ?_ rfl
    (fun hunminted => absurd hunminted (lapsedStatus_ne _)) fun hash => ?_
  · rw [phases_unnamed]
    exact List.singleton_sublist.mpr hname
  · refine sends_minted hfunded h.name htraits hminted ?_
    rw [map_snoc, List.append_assoc]
    exact hsent

/-- Before the mint the allowance is sent where it falls short. -/
theorem sends_ready (hfunded : Funded weather (brandingPhases generateBrandSigilDataUri
      (.complete operation) (unmintedSnapshot weather operation chain 0)))
    (h : Ready weather operation chain) :
    Sends ((if chain.allowance < firstWeekUpkeepOf operation.initialDeclaredPrice
        then [.approve] else []) ++ [.mint, .nameTrait])
      (completionLoop (undisturbed weather operation) generateBrandSigilDataUri operation
        operation.minter (n + 4) (unmintedSnapshot weather operation chain 0)
        (brandingPhases generateBrandSigilDataUri (.complete operation)
          (unmintedSnapshot weather operation chain 0)) []) ⟨chain, 0⟩ := by
  by_cases hallowance : chain.allowance < firstWeekUpkeepOf operation.initialDeclaredPrice
  · have hready : Ready weather operation
        { chain with allowance := firstWeekUpkeepOf operation.initialDeclaredPrice } :=
      ⟨h.unminted, h.customTraits, h.nonce, h.treasury, h.upkeep, h.name, h.deadline⟩
    have heffect : chain.effect operation.minter (weather 0).observation.blockTimestamp
        (approvePhase (unmintedSnapshot weather operation chain 0)).data =
          { chain with allowance := firstWeekUpkeepOf operation.initialDeclaredPrice } := rfl
    rw [if_pos hallowance]
    rw [phases_before, if_pos hallowance] at hfunded ⊢
    refine Sends.step hfunded (approve_allowed _) heffect rfl
      (read_unminted hready.unminted hready.treasury) ?_ (fun _ => hready.consent (Nat.le_refl _)) ?_ rfl
      (fun _ => hready.upkeep) fun hash => ?_
    · unfold phaseAdvanced approvePhase unmintedSnapshot
      simp
    · rw [phases_before, if_neg (Nat.lt_irrefl _)]
      exact List.sublist_append_right _ _
    · refine sends_allowed hfunded hready (Nat.le_refl _) ?_ rfl
      simp [namePhase, unmintedSnapshot]
  · rw [if_neg hallowance]
    refine sends_allowed hfunded h (Nat.not_lt.mp hallowance) ?_ rfl
    rw [phases_before]
    simp

/-- A run that nothing disturbs and that is paid for is complete after the allowance, the mint and the
name. -/
theorem completeBranding_sends (h : Ready weather operation chain)
    (hfunded : Funded weather (brandingPhases generateBrandSigilDataUri (.complete operation)
      (unmintedSnapshot weather operation chain 0))) (hn : 4 ≤ n) :
    Sends ((if chain.allowance < firstWeekUpkeepOf operation.initialDeclaredPrice
        then [.approve] else []) ++ [.mint, .nameTrait])
      (completeBranding (undisturbed weather operation) generateBrandSigilDataUri operation
        operation.minter n) ⟨chain, 0⟩ := by
  obtain ⟨n, rfl⟩ := Nat.exists_eq_add_of_le' hn
  obtain ⟨result, w', hexec, hrest⟩ := sends_ready (n := n) hfunded h
  have hstatus : (unmintedSnapshot weather operation chain 0).brandingStatus = .unminted := rfl
  have heth : (unmintedSnapshot weather operation chain 0).ethBalance = (weather 0).ethBalance := rfl
  obtain ⟨funding, hfund, hisFunded⟩ := fund_ok operation chain hfunded (List.Sublist.refl _) heth
    fun _ => h.upkeep
  refine ⟨result, w', ?_, hrest⟩
  unfold completeBranding
  refine bind_ok.mpr ⟨_, ⟨chain, 0⟩, ?_, bind_ok.mpr ⟨funding, _, hfund, ?_⟩⟩
  · unfold beginBranding
    refine bind_ok.mpr ⟨_, _, readSnapshot_ok (read_unminted h.unminted h.treasury), ?_⟩
    rw [if_pos hstatus]
    refine bind_ok.mpr ⟨(), ⟨chain, 0⟩, ?_, bind_ok.mpr ⟨(), ⟨chain, 0⟩, ?_, rfl⟩⟩
    · refine bind_ok.mpr ⟨_, ⟨chain, 0⟩, rfl, ?_⟩
      rw [exec_lift, failIf_ok.mpr (not_not.mpr rfl)]
    · exact verifyMintConsent_ok fun _ => h.consent (Nat.zero_le 1)
  · rw [hisFunded, if_neg (by decide)]
    exact hexec

/-- Everything that is planned is sent but for the avatar, which is always planned. -/
theorem plan_exceeds_execution (h : Ready weather operation chain)
    (hfunded : Funded weather (brandingPhases generateBrandSigilDataUri (.complete operation)
      (unmintedSnapshot weather operation chain 0))) (hn : 4 ≤ n) :
    ∃ snapshot result w', readBrandingSnapshot (.complete operation) operation.minter
        (chain.reading operation.toBrandingInspectOperation (weather 0)) = .ok snapshot ∧
      (completeBranding (undisturbed weather operation) generateBrandSigilDataUri operation
        operation.minter n).exec ⟨chain, 0⟩ = (.ok (some result), w') ∧
      result.disposition = .complete ∧
      result.sent ++ [.brandAvatar] = (brandingPhases generateBrandSigilDataUri
        (.complete operation) snapshot).map (·.operation) ∧
      result.sent ≠ (brandingPhases generateBrandSigilDataUri (.complete operation) snapshot).map
        (·.operation) ∧
      w'.chain.avatarUri = chain.avatarUri ∧
      ∀ snapshot, phaseAdvanced operation .brandAvatar snapshot = false := by
  obtain ⟨result, w', hexec, hcomplete, hsent, huri⟩ := completeBranding_sends h hfunded hn
  have hplanned : result.sent ++ [.brandAvatar] = (brandingPhases generateBrandSigilDataUri
      (.complete operation) (unmintedSnapshot weather operation chain 0)).map (·.operation) := by
    rw [hsent, phases_before]
    split_ifs <;> rfl
  refine ⟨_, result, w', read_unminted h.unminted h.treasury, hexec, hcomplete, hplanned, ?_, huri,
    fun snapshot => by simp [phaseAdvanced]⟩
  intro heq
  rw [heq] at hplanned
  simp at hplanned

end

/-! ## A sample run -/

def sampleSigil (_ : Address) (_ : ℕ) (acolyteName : String) : String :=
  "data:image/svg+xml," ++ acolyteName

def sampleOperation : CompleteBrandingOperation where
  acolyte := 7
  controllerAgentId := 42
  referrer := 5
  treasuryBalance := 100000
  initialDeclaredPrice := 1000
  acolyteName := "Nib"
  minter := 9
  nonce := 3
  deadline := 1000
  offerBlockNumber := 1
  offerBlockHash := 1
  signature := []

/-- Nothing can be estimated, so that the ceiling is paid for every phase. -/
def sampleFees : FeeAnswers where
  safetyBps := .ok 10000
  reserve := .ok 10
  gasCeiling := .ok 1000
  feeParameters := .ok (2, 1)
  gas _ := none
  l1Fee _ := none

local instance fourNonzero : NeZero 4 := ⟨by decide⟩

def sampleWeather (k : ℕ) : Weather :=
  ⟨⟨k + 1, k, 100⟩, 20000, 0, sampleFees, k⟩

def sampleChain : Chain :=
  ⟨none, 3, 0, 100000, [], ""⟩

theorem sample_ready : Ready sampleWeather sampleOperation sampleChain :=
  ⟨rfl, rfl, rfl, rfl, by decide, by decide, fun _ _ => Nat.le_of_ble_eq_true rfl⟩

/-- Phases that cannot be estimated count with the ceiling. -/
theorem estimate_ceiling (phases : List PreparedBrandingPhase) (sum : GasEstimate) :
    ∃ estimate, phases.foldlM (estimatePhase sampleFees 1000) sum = .ok estimate ∧
      estimate.executionGas = sum.executionGas + 1000 * phases.length := by
  induction phases generalizing sum with
  | nil => exact ⟨sum, rfl, rfl⟩
  | cons phase phases ih =>
    obtain ⟨estimate, hfold, hgas⟩ := ih { sum with
      executionGas := sum.executionGas + 1000
      conservativeOperations := sum.conservativeOperations ++ [phase.operation] }
    refine ⟨estimate, ?_, ?_⟩
    · rw [List.foldlM_cons]
      exact except_bind_ok.mpr ⟨_, rfl, hfold⟩
    · rw [hgas, List.length_cons]
      dsimp only
      omega

theorem sample_funded {planned : List PreparedBrandingPhase} (hlength : planned.length ≤ 4) :
    Funded sampleWeather planned := by
  intro k snapshot phases hphases heth
  have hle := hphases.length_le
  have hbalance : snapshot.ethBalance = 20000 := heth
  obtain ⟨estimate, hestimate, hgas⟩ := estimate_ceiling phases ⟨0, [], []⟩
  unfold brandingFunding
  by_cases hnil : phases = []
  · subst hnil
    exact ⟨_, rfl, rfl⟩
  · have hl1 : (sumL1Fees sampleFees phases (1000 * 2)).1 ≤ 2000 * phases.length := by
      unfold sumL1Fees
      cases phases with
      | nil => exact absurd rfl hnil
      | cons phase phases => exact Nat.le_refl _
    refine ⟨_, except_bind_ok.mpr ⟨_, rfl, except_bind_ok.mpr ⟨(), rfl, except_bind_ok.mpr ⟨_, rfl,
      (if_neg hnil).trans (except_bind_ok.mpr ⟨_, rfl, except_bind_ok.mpr ⟨_, rfl,
      except_bind_ok.mpr ⟨_, hestimate, rfl⟩⟩⟩)⟩⟩⟩, ?_⟩
    show ((estimate.executionGas * 2 + (sumL1Fees sampleFees phases (1000 * 2)).1) * 10000 + 9999) /
      10000 + 10 - snapshot.ethBalance = 0
    rw [hbalance, hgas]
    dsimp only
    omega

theorem plan_exceeds_execution_sample : ∃ snapshot result w',
    readBrandingSnapshot (.complete sampleOperation) sampleOperation.minter
      (sampleChain.reading sampleOperation.toBrandingInspectOperation (sampleWeather 0)) =
        .ok snapshot ∧
    (completeBranding (undisturbed sampleWeather sampleOperation) sampleSigil sampleOperation
      sampleOperation.minter 4).exec ⟨sampleChain, 0⟩ = (.ok (some result), w') ∧
    result.disposition = .complete ∧
    result.sent ++ [.brandAvatar] = (brandingPhases sampleSigil (.complete sampleOperation)
      snapshot).map (·.operation) ∧
    result.sent ≠ (brandingPhases sampleSigil (.complete sampleOperation) snapshot).map
      (·.operation) ∧
    w'.chain.avatarUri = sampleChain.avatarUri ∧
    ∀ snapshot, phaseAdvanced sampleOperation .brandAvatar snapshot = false :=
  plan_exceeds_execution sample_ready (sample_funded (by decide)) (Nat.le_refl 4)

/-- The avatar is planned and not sent. -/
theorem avatar_planned_not_sent : ¬ ∀ (weather : ℕ → Weather)
    (operation : CompleteBrandingOperation) (chain : Chain), Ready weather operation chain →
    Funded weather (brandingPhases sampleSigil (.complete operation)
      (unmintedSnapshot weather operation chain 0)) →
    ∀ n ≥ 4, ∃ result w', (completeBranding (undisturbed weather operation) sampleSigil operation
      operation.minter n).exec ⟨chain, 0⟩ = (.ok (some result), w') ∧
      result.sent = (brandingPhases sampleSigil (.complete operation)
        (unmintedSnapshot weather operation chain 0)).map (·.operation) := by
  intro h
  have hfunded : Funded sampleWeather (brandingPhases sampleSigil (.complete sampleOperation)
      (unmintedSnapshot sampleWeather sampleOperation sampleChain 0)) := sample_funded (by decide)
  obtain ⟨result, w, hexec, hplanned⟩ := h _ _ _ sample_ready hfunded 4 (Nat.le_refl 4)
  obtain ⟨result', w', hexec', -, hsent, -⟩ :=
    completeBranding_sends sample_ready hfunded (Nat.le_refl 4)
  cases hexec.symm.trans hexec'
  exact absurd (hsent.symm.trans hplanned) (by decide)

end Cthuwu.Minting
