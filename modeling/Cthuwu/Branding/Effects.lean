import Cthuwu.Branding.Contract

/-!
# What a successful call does

The settlement arithmetic is total : `upkeepOf` and `referralShare` are the words the
checked functions return (`weeklyUpkeepForPrice_eq`, `mulDiv_referral`), so no price
makes a settlement panic. `Minted`, `Renewed`, `Repriced`, `Bought` and `Claimed` say
what a successful call of each entrypoint checked, wrote and paid, and `dispatch_ok`
inverts any call into its record. The invariants of the later modules are proved from
these records and never unfold an entrypoint.
-/

namespace Cthuwu.Branding
open Revertible BrandingData

variable {T : Type}

/-! ## Settlement arithmetic -/

/-- A week's upkeep : 0.1% of the price, rounded up. -/
def upkeepOf (price : Uint256) : Uint256 :=
  BitVec.ofNat 256 ((price.toNat + 999) / 1000)

/-- The referrer's 10% of an amount, rounded down. -/
def referralShare (amount : Uint256) : Uint256 :=
  BitVec.ofNat 256 (amount.toNat / 10)

theorem toNat_upkeepOf (price : Uint256) : (upkeepOf price).toNat = (price.toNat + 999) / 1000 := by
  have := price.isLt
  rw [upkeepOf, BitVec.toNat_ofNat, Nat.mod_eq_of_lt (by omega)]

theorem toNat_referralShare (amount : Uint256) :
    (referralShare amount).toNat = amount.toNat / 10 := by
  have := amount.isLt
  rw [referralShare, BitVec.toNat_ofNat, Nat.mod_eq_of_lt (by omega)]

theorem referralShare_le (amount : Uint256) : referralShare amount ≤ amount := by
  rw [BitVec.le_def, toNat_referralShare]
  omega

@[simp] theorem mulDiv_referral (amount : Uint256) :
    mulDiv amount referralBps bpsDenominator = .ok (referralShare amount) := by
  rw [mulDiv_of_le (by decide) (by decide), referralShare]
  congr 2
  change amount.toNat * 1000 / 10000 = _
  omega

@[simp] theorem upkeepReferralForAmount_eq (upkeep : Uint256) :
    upkeepReferralForAmount upkeep = .ok (referralShare upkeep) :=
  mulDiv_referral upkeep

@[simp] theorem checkedSub_referralShare (amount : Uint256) :
    checkedSub amount (referralShare amount) = .ok (amount - referralShare amount) :=
  checkedSub_of_le (referralShare_le amount)

@[simp] theorem weeklyUpkeepForPrice_eq (price : Uint256) :
    weeklyUpkeepForPrice price = .ok (upkeepOf price) := by
  have hp := price.isLt
  unfold weeklyUpkeepForPrice mulDivCeil
  rw [mulDiv_of_le (by decide) (by decide)]
  change checkedAdd (BitVec.ofNat 256 (price.toNat * 10 / 10000))
    (if 0 < price.toNat * 10 % 10000 then 1 else 0) = _
  have hq : (BitVec.ofNat 256 (price.toNat * 10 / 10000)).toNat = price.toNat / 1000 := by
    rw [BitVec.toNat_ofNat]
    omega
  unfold checkedAdd
  split_ifs with hr hbig hbig
  · rw [hq] at hbig
    change 2 ^ 256 ≤ _ + 1 at hbig
    omega
  · congr 1
    apply BitVec.eq_of_toNat_eq
    rw [BitVec.toNat_add, hq, toNat_upkeepOf]
    change (price.toNat / 1000 + 1) % 2 ^ 256 = _
    omega
  · rw [hq] at hbig
    change 2 ^ 256 ≤ _ + 0 at hbig
    omega
  · congr 1
    apply BitVec.eq_of_toNat_eq
    rw [BitVec.toNat_add, hq, toNat_upkeepOf]
    change (price.toNat / 1000 + 0) % 2 ^ 256 = _
    omega

/-- A week after `timestamp` is still a word. -/
def WeekFits (timestamp : Uint256) : Prop :=
  timestamp.toNat + 604800 < 2 ^ 256

theorem toNat_add_week {timestamp : Uint256} (h : WeekFits timestamp) :
    (timestamp + week).toNat = timestamp.toNat + 604800 := by
  rw [BitVec.toNat_add]
  exact Nat.mod_eq_of_lt h

theorem oneWeekFrom_ok {timestamp r : Uint256} :
    oneWeekFrom timestamp = .ok r ↔ WeekFits timestamp ∧ r = timestamp + week := by
  have hfits : ¬(BitVec.allOnes 256 - week < timestamp) ↔ WeekFits timestamp := by
    rw [BitVec.lt_def]
    change ¬(2 ^ 256 - 1 - 604800 < timestamp.toNat) ↔ _
    unfold WeekFits
    omega
  simp only [oneWeekFrom, except_bind_ok, failIf_ok, exists_const, hfits]
  exact and_congr_right fun _ => ⟨fun h => (Except.ok.inj h).symm, fun h => congrArg _ h.symm⟩

/-! ## Payments -/

/-- One `safeTransferFrom` of the payment token. -/
structure Payment where
  payer : Address
  recipient : Address
  amount : Uint256

/-- The token's state after the payments, in order; `none` if one fails. -/
def payAll (env : Env T) (token : T) : List Payment → Option T
  | [] => some token
  | p :: ps => (env.transferFrom token p.payer p.recipient p.amount).bind (payAll env · ps)

theorem payAll_append (env : Env T) (token : T) (ps qs : List Payment) :
    payAll env token (ps ++ qs) = (payAll env token ps).bind (payAll env · qs) := by
  induction ps generalizing token with
  | nil => rfl
  | cons p ps ih =>
    simp only [List.cons_append, payAll, Option.bind_assoc]
    congr 1
    funext t
    exact ih t

/-- The payments of an upkeep : a zero referral is not sent. -/
def upkeepPayments (payer acolyte referrer : Address) (upkeep : Uint256) : List Payment :=
  (if referralShare upkeep ≠ 0 then [⟨payer, referrer, referralShare upkeep⟩] else []) ++
    [⟨payer, acolyte, upkeep - referralShare upkeep⟩]

/-- The payments of a sale : the referrer's share, then the seller's. -/
def salePayments (payer seller referrer : Address) (grossPrice : Uint256) : List Payment :=
  [⟨payer, referrer, referralShare grossPrice⟩,
    ⟨payer, seller, grossPrice - referralShare grossPrice⟩]

variable {r : Unit × Tx T} {receiver : Address}

theorem payToken_ok {env : Env T} {payer recipient : Address} {amount : Uint256} {tx : Tx T} :
    (payToken env payer recipient amount).run tx = .ok r ↔
      ∃ t, env.transferFrom tx.token payer recipient amount = some t ∧
        r = ((), { tx with token := t }) := by
  simp only [payToken, run_get_bind, lift_bind_ok, okOr_ok, run_modify_ok, Except.ok.injEq]
  exact exists_congr fun t => and_congr_right fun _ => eq_comm

theorem payUpkeep_ok {env : Env T} {tokenId : Uint256} {payer acolyte referrer : Address}
    {upkeep paidThrough : Uint256} {tx : Tx T}
    (h : (payUpkeep env tokenId payer acolyte referrer upkeep paidThrough).run tx = .ok r) :
    ∃ t, payAll env tx.token (upkeepPayments payer acolyte referrer upkeep) = some t ∧
      r.2 = ({ tx with token := t } : Tx T).emit (.upkeepPaid tokenId payer acolyte upkeep
        (referralShare upkeep) (upkeep - referralShare upkeep) paidThrough) := by
  simp only [payUpkeep, upkeepReferralForAmount_eq, lift_bind_ok, Except.ok.injEq,
    exists_eq_left', checkedSub_referralShare] at h
  unfold upkeepPayments
  split_ifs at h ⊢ with hr
  · simp only [bind_ok, payToken_ok, run_modify_ok, Except.ok.injEq] at h
    obtain ⟨_, ⟨t₁, h₁, rfl⟩, _, ⟨t₂, h₂, rfl⟩, rfl⟩ := h
    exact ⟨t₂, by simp [payAll, h₁, h₂], rfl⟩
  · simp only [bind_ok, payToken_ok, run_modify_ok, Except.ok.injEq] at h
    obtain ⟨_, ⟨t₂, h₂, rfl⟩, rfl⟩ := h
    exact ⟨t₂, by simp [payAll, h₂], rfl⟩

/-! ## Parts of the entrypoints -/

/-- `branding` after `_syncDeclaredPrice` at `timestamp`. -/
def BrandingData.synced (timestamp : Uint256) (branding : BrandingData) : BrandingData :=
  if branding.pendingPriceActivation = 0 ∨ timestamp < branding.pendingPriceActivation then
    branding
  else { branding with
    declaredPrice := branding.pendingDeclaredPrice
    pendingDeclaredPrice := 0
    pendingPriceActivation := 0 }

section Synced

variable (timestamp : Uint256) (branding : BrandingData)

@[simp] theorem synced_acolyte : (branding.synced timestamp).acolyte = branding.acolyte := by
  unfold BrandingData.synced
  split_ifs <;> rfl

@[simp] theorem synced_referrer : (branding.synced timestamp).referrer = branding.referrer := by
  unfold BrandingData.synced
  split_ifs <;> rfl

@[simp] theorem synced_controllerAgentId :
    (branding.synced timestamp).controllerAgentId = branding.controllerAgentId := by
  unfold BrandingData.synced
  split_ifs <;> rfl

@[simp] theorem synced_paidThrough :
    (branding.synced timestamp).paidThrough = branding.paidThrough := by
  unfold BrandingData.synced
  split_ifs <;> rfl

theorem synced_declaredPrice :
    (branding.synced timestamp).declaredPrice = effectiveDeclaredPrice timestamp branding := by
  unfold BrandingData.synced effectiveDeclaredPrice
  by_cases h : branding.pendingPriceActivation = 0 ∨ timestamp < branding.pendingPriceActivation
  · rw [if_pos h, if_neg (by rw [← BitVec.not_lt]; tauto)]
  · rw [if_neg h, if_pos (by rw [← BitVec.not_lt]; tauto)]

@[simp] theorem renewalBase_synced :
    renewalBase timestamp (branding.synced timestamp) = renewalBase timestamp branding := by
  unfold renewalBase
  rw [synced_paidThrough]

end Synced

/-- A guarded body runs only while no other does, and frees the lock when it succeeds. -/
theorem nonReentrant_ok {α : Type} {body : Entry T α} {tx : Tx T} {r : α × Tx T} :
    (nonReentrant body).run tx = .ok r ↔ tx.store.entered = false ∧
      ∃ p, body.run (tx.setEntered true) = .ok p ∧ r = (p.1, p.2.setEntered false) := by
  simp only [nonReentrant, run_get_bind, lift_bind_ok, failIf_ok,
    Bool.not_eq_true, exists_const, run_modify_bind]
  simp only [bind_ok, run_modify_bind, run_pure_ok, Except.ok.injEq]
  exact and_congr_right fun _ => exists_congr fun p => and_congr_right fun _ => eq_comm

theorem requireOwned_ok {tokenId : Uint256} {tx : Tx T} {r : Address × Tx T} :
    (requireOwned tokenId).run tx = .ok r ↔
      tx.store.owners tokenId ≠ 0 ∧ r = (tx.store.owners tokenId, tx) := by
  simp only [requireOwned, run_get_bind, lift_bind_ok, failIf_ok,
    exists_const, run_pure_ok, Except.ok.injEq]
  exact and_congr_right fun _ => eq_comm

theorem requireEligible_ok [Keccak] {env : Env T} {n : ℕ} {agentId : Uint256}
    {wallet : Address} {u : Unit} :
    requireEligible env n agentId wallet = .ok u ↔
      registryEligibility env n agentId wallet = .eligible := by
  simp only [requireEligible, except_bind_ok, failIf_ok, exists_const]
  cases registryEligibility env n agentId wallet <;> simp

theorem tokenIdOf_ok {env : Env T} {acolyte : Address} {r : Uint256} :
    tokenIdOf env acolyte = .ok r ↔
      env.chainId = baseChainId ∧ acolyte ≠ 0 ∧ r = tokenIdBits acolyte := by
  simp only [tokenIdOf, except_bind_ok, failIf_ok, exists_const, not_not]
  exact and_congr_right fun _ => and_congr_right fun _ =>
    ⟨fun h => (Except.ok.inj h).symm, fun h => congrArg _ h.symm⟩

theorem syncDeclaredPrice_ok {env : Env T} {tokenId : Uint256} {tx : Tx T}
    (h : (syncDeclaredPrice env tokenId).run tx = .ok r) : ∃ log, r.2 = { tx.setBranding tokenId
      ((tx.store.brandings tokenId).synced env.timestamp) with log } := by
  simp only [syncDeclaredPrice, run_get_bind] at h
  unfold BrandingData.synced
  split_ifs at h ⊢ with hp
  · simp only [run_pure_ok, Except.ok.injEq] at h
    exact ⟨tx.log, by rw [← h, Tx.setBranding, Function.update_eq_self]⟩
  · simp only [run_modify_ok, Except.ok.injEq] at h
    exact ⟨_, by rw [← h]; rfl⟩

theorem checkOnERC721Received_ok {env : Env T} {tx : Tx T} :
    (checkOnERC721Received env receiver).run tx = .ok r ↔
      ∃ t, env.onERC721Received tx.token = some t ∧ r = ((), { tx with token := t }) := by
  simp only [checkOnERC721Received, run_get_bind, lift_bind_ok, okOr_ok,
    run_modify_ok, Except.ok.injEq]
  exact exists_congr fun t => and_congr_right fun _ => eq_comm

theorem safeMint_ok {env : Env T} {tokenId : Uint256} {tx : Tx T} :
    (safeMint env receiver tokenId).run tx = .ok r ↔ receiver ≠ 0 ∧ tx.store.owners tokenId = 0 ∧
        ∃ t, env.onERC721Received tx.token = some t ∧
          r = ((), { tx.setOwner tokenId receiver with token := t }) := by
  simp only [safeMint, run_get_bind, lift_bind_ok, failIf_ok, exists_const,
    not_not, run_modify_bind, checkOnERC721Received_ok]
  rfl

theorem safeTransfer_ok {env : Env T} {sender : Address} {tokenId : Uint256} {tx : Tx T} :
    (safeTransfer env sender receiver tokenId).run tx = .ok r ↔
      receiver ≠ 0 ∧ tx.store.owners tokenId ≠ 0 ∧ tx.store.owners tokenId = sender ∧
        ∃ t, env.onERC721Received tx.token = some t ∧
          r = ((), { tx.setOwner tokenId receiver with token := t }) := by
  simp only [safeTransfer, run_get_bind, lift_bind_ok, failIf_ok,
    exists_const, not_not, run_modify_bind, checkOnERC721Received_ok]
  rfl

theorem setTokenRoyalty_ok {tokenId : Uint256} {fee : Uint256} {tx : Tx T}
    (h : (setTokenRoyalty tokenId receiver fee).run tx = .ok r) :
    r.2 = tx.setRoyalty tokenId ⟨receiver, fee⟩ := by
  simp only [setTokenRoyalty, lift_bind_ok, failIf_ok, exists_const,
    run_modify_ok, Except.ok.injEq] at h
  rw [← h.2.2]

/-! ## The entrypoints -/

section Entrypoints

variable {env : Env T} {tx tx' : Tx T} {tokenId : Uint256}

def mintedBranding (timestamp : Uint256) (consent : MintConsent) : BrandingData where
  acolyte := consent.acolyte
  referrer := consent.referrer
  controllerAgentId := consent.controllerAgentId
  declaredPrice := consent.initialDeclaredPrice
  paidThrough := timestamp + week
  pendingDeclaredPrice := 0
  pendingPriceActivation := 0

/-- The data with prepaid time until `paidThrough`. -/
def BrandingData.extended (paidThrough : Uint256) (branding : BrandingData) : BrandingData :=
  { branding with paidThrough }

@[simp] theorem extended_acolyte (paidThrough : Uint256) (branding : BrandingData) :
    (branding.extended paidThrough).acolyte = branding.acolyte := rfl

@[simp] theorem extended_referrer (paidThrough : Uint256) (branding : BrandingData) :
    (branding.extended paidThrough).referrer = branding.referrer := rfl

/-- The data after a renewal at `timestamp`. -/
def BrandingData.renewed (timestamp : Uint256) (branding : BrandingData) : BrandingData :=
  (branding.synced timestamp).extended (renewalBase timestamp branding + week)

@[simp] theorem renewed_acolyte (timestamp : Uint256) (branding : BrandingData) :
    (branding.renewed timestamp).acolyte = branding.acolyte := by
  rw [BrandingData.renewed, extended_acolyte, synced_acolyte]

@[simp] theorem renewed_referrer (timestamp : Uint256) (branding : BrandingData) :
    (branding.renewed timestamp).referrer = branding.referrer := by
  rw [BrandingData.renewed, extended_referrer, synced_referrer]

/-- The price the renewal at `timestamp` pays upkeep on. -/
def BrandingData.renewalPrice (timestamp : Uint256) (branding : BrandingData) : Uint256 :=
  Branding.renewalPrice (renewalBase timestamp branding) (branding.synced timestamp)

/-- The data after the owner declares `newPrice` : a reduction is immediate, a raise
waits for the end of the prepaid week unless that has passed. -/
def BrandingData.repriced (timestamp newPrice : Uint256) (branding : BrandingData) :
    BrandingData :=
  if newPrice ≤ branding.declaredPrice ∨ branding.paidThrough ≤ timestamp then
    { branding with
      declaredPrice := newPrice
      pendingDeclaredPrice := 0
      pendingPriceActivation := 0 }
  else
    { branding with
      pendingDeclaredPrice := newPrice
      pendingPriceActivation :=
        if branding.pendingPriceActivation = 0 then branding.paidThrough
        else branding.pendingPriceActivation }

@[simp] theorem repriced_acolyte (timestamp newPrice : Uint256) (branding : BrandingData) :
    (branding.repriced timestamp newPrice).acolyte = branding.acolyte := by
  unfold repriced
  split_ifs <;> rfl

@[simp] theorem repriced_referrer (timestamp newPrice : Uint256) (branding : BrandingData) :
    (branding.repriced timestamp newPrice).referrer = branding.referrer := by
  unfold repriced
  split_ifs <;> rfl

@[simp] theorem repriced_paidThrough (timestamp newPrice : Uint256) (branding : BrandingData) :
    (branding.repriced timestamp newPrice).paidThrough = branding.paidThrough := by
  unfold repriced
  split_ifs <;> rfl

/-- A queued price that a renewal has already paid on is not raised further. -/
def BrandingData.RaiseFits (timestamp newPrice : Uint256) (branding : BrandingData) : Prop :=
  (newPrice ≤ branding.declaredPrice ∨ branding.paidThrough ≤ timestamp) ∨
    ¬(branding.pendingPriceActivation ≠ 0 ∧ branding.pendingPriceActivation < branding.paidThrough ∧
      branding.pendingDeclaredPrice < newPrice)

/-- The data after a sale or a claim at `price` by the holder of `agentId` : a fresh week,
and no queued price. -/
def BrandingData.acquired (timestamp agentId price : Uint256) (branding : BrandingData) :
    BrandingData :=
  { branding with
    controllerAgentId := agentId
    declaredPrice := price
    paidThrough := timestamp + week
    pendingDeclaredPrice := 0
    pendingPriceActivation := 0 }

@[simp] theorem acquired_synced (timestamp agentId price : Uint256) (branding : BrandingData) :
    (branding.synced timestamp).acquired timestamp agentId price =
      branding.acquired timestamp agentId price := by
  unfold acquired
  rw [synced_acolyte, synced_referrer]

variable {buyerAgentId buyerDeclaredPrice deadline : Uint256} {expectedOwner : Address}
  {traitType : Bytes}

theorem settlePurchase_ok {seller : Address} {r : Unit × Tx T}
    (h : (settlePurchase env tokenId seller buyerAgentId buyerDeclaredPrice).run tx = .ok r) :
    WeekFits env.timestamp ∧ env.sender ≠ 0 ∧ ∃ log token,
      r.2 = { (tx.setBranding tokenId ((tx.store.brandings tokenId).acquired env.timestamp
        buyerAgentId buyerDeclaredPrice)).setOwner tokenId env.sender with log, token } ∧
      ∃ t, env.onERC721Received tx.token = some t ∧
        payAll env t (salePayments env.sender seller (tx.store.brandings tokenId).referrer
            (tx.store.brandings tokenId).declaredPrice ++
          upkeepPayments env.sender (tx.store.brandings tokenId).acolyte
            (tx.store.brandings tokenId).referrer (upkeepOf buyerDeclaredPrice)) = some token := by
  simp only [settlePurchase, run_get_bind, mulDiv_referral, lift_bind_ok,
    checkedSub_referralShare, weeklyUpkeepForPrice_eq, oneWeekFrom_ok, Except.ok.injEq,
    exists_eq_left', run_modify_bind] at h
  obtain ⟨_, ⟨hfits, rfl⟩, h⟩ := h
  simp only [bind_ok, safeTransfer_ok, payToken_ok, run_modify_ok, Except.ok.injEq] at h
  obtain ⟨_, ⟨hsender, -, -, t, hhook, rfl⟩, _, ⟨t₁, hp₁, rfl⟩, _, ⟨t₂, hp₂, rfl⟩, p, hpay, rfl⟩ := h
  obtain ⟨t₃, hp₃, hp⟩ := payUpkeep_ok hpay
  refine ⟨hfits, hsender, _, t₃, by rw [hp]; rfl, t, hhook, ?_⟩
  rw [payAll_append]
  simp only [salePayments, payAll, hp₁, hp₂, hp₃, Option.bind_some]

/-- A metadata edit : nothing the settlement reads is written. -/
structure Edited (tx tx' : Tx T) : Prop where
  entered : tx'.store.entered = tx.store.entered
  nonces : tx'.store.nonces = tx.store.nonces
  owners : tx'.store.owners = tx.store.owners
  brandings : tx'.store.brandings = tx.store.brandings
  token : tx'.token = tx.token

theorem setAvatarURI_ok {uri : Bytes}
    (h : (setAvatarURI env tokenId uri).run tx = .ok ((), tx')) : Edited tx tx' := by
  rw [setAvatarURI, bind_ok] at h
  obtain ⟨_, howner, h⟩ := h
  obtain ⟨-, rfl⟩ := (requireOwned_ok).mp howner
  simp only [lift_bind_ok, failIf_ok, exists_const, run_modify_ok,
    Except.ok.injEq, Prod.mk.injEq, true_and] at h
  obtain ⟨-, -, rfl⟩ := h
  exact ⟨rfl, rfl, rfl, rfl, rfl⟩

variable [Keccak]

/-- What a successful `mintBranding` checked, wrote and paid. -/
structure Minted (env : Env T) (tx tx' : Tx T) (consent : MintConsent) (signature : Bytes) :
    Prop where
  unlocked : tx.store.entered = false
  acolyte_ne : consent.acolyte ≠ 0
  referrer_ne : consent.referrer ≠ 0
  price_ne : consent.initialDeclaredPrice ≠ 0
  minter : consent.minter = env.sender
  timely : env.timestamp ≤ consent.deadline
  nonce : consent.nonce = tx.store.nonces consent.acolyte
  nonce_ne : tx.store.nonces consent.acolyte ≠ BitVec.allOnes 256
  chain : env.chainId = baseChainId
  unowned : tx.store.owners (tokenIdBits consent.acolyte) = 0
  signed : env.isValidSignatureNow consent.acolyte (consentDigest env consent) signature = true
  eligible : registryEligibility env 0 consent.controllerAgentId env.sender = .eligible
  fits : WeekFits env.timestamp
  sender_ne : env.sender ≠ 0
  entered : tx'.store.entered = false
  nonces : tx'.store.nonces =
    Function.update tx.store.nonces consent.acolyte (tx.store.nonces consent.acolyte + 1)
  owners : tx'.store.owners =
    Function.update tx.store.owners (tokenIdBits consent.acolyte) env.sender
  brandings : tx'.store.brandings = Function.update tx.store.brandings
    (tokenIdBits consent.acolyte) (mintedBranding env.timestamp consent)
  paid : ∃ t, env.onERC721Received tx.token = some t ∧
    payAll env t (upkeepPayments env.sender consent.acolyte consent.referrer
      (upkeepOf consent.initialDeclaredPrice)) = some tx'.token

theorem mintBranding_ok {consent : MintConsent} {signature : Bytes} {r : Uint256}
    (h : (mintBranding env consent signature).run tx = .ok (r, tx')) :
    Minted env tx tx' consent signature := by
  rw [mintBranding, nonReentrant_ok] at h
  obtain ⟨hfree, ⟨_, tx₁⟩, h, hr⟩ := h
  cases hr
  simp only [lift_bind_ok, failIf_ok, exists_const, run_get_bind, not_not,
    tokenIdOf_ok, requireEligible_ok, oneWeekFrom_ok, weeklyUpkeepForPrice_eq, Except.ok.injEq,
    exists_eq_left', run_modify_bind, BitVec.not_lt] at h
  obtain ⟨hacolyte, hreferrer, hprice, hminter, htimely, hnonce, hmax, _, ⟨hchain, -, rfl⟩,
    howner, hsigned, heligible, _, ⟨hfits, rfl⟩, h⟩ := h
  simp only [bind_ok, run_modify_bind, run_pure_ok, Except.ok.injEq] at h
  obtain ⟨p₁, h₁, p₂, h₂, p₃, h₃, h⟩ := h
  obtain ⟨hsender, -, t₁, hhook, rfl⟩ := (safeMint_ok).mp h₂
  obtain ⟨t₂, hpay, hp₃⟩ := payUpkeep_ok h₃
  rw [setTokenRoyalty_ok h₁] at hhook hpay hp₃
  cases h
  rw [hp₃]
  exact {
    unlocked := hfree
    acolyte_ne := hacolyte
    referrer_ne := hreferrer
    price_ne := hprice
    minter := hminter
    timely := htimely
    nonce := hnonce
    nonce_ne := hmax
    chain := hchain
    unowned := howner
    signed := hsigned
    eligible := heligible
    fits := hfits
    sender_ne := hsender
    entered := rfl
    nonces := rfl
    owners := rfl
    brandings := rfl
    paid := ⟨t₁, hhook, hpay⟩ }

/-- What a successful `renew` checked, wrote and paid. -/
structure Renewed (env : Env T) (tx tx' : Tx T) (tokenId : Uint256) (branding : BrandingData) :
    Prop where
  unlocked : tx.store.entered = false
  owner : tx.store.owners tokenId = env.sender
  owner_ne : tx.store.owners tokenId ≠ 0
  eligible : registryEligibility env 0 branding.controllerAgentId env.sender = .eligible
  early : ¬(env.timestamp < branding.paidThrough ∧ week < branding.paidThrough - env.timestamp)
  fits : WeekFits (renewalBase env.timestamp branding)
  entered : tx'.store.entered = false
  nonces : tx'.store.nonces = tx.store.nonces
  owners : tx'.store.owners = tx.store.owners
  brandings : tx'.store.brandings =
    Function.update tx.store.brandings tokenId (branding.renewed env.timestamp)
  paid : payAll env tx.token (upkeepPayments env.sender branding.acolyte branding.referrer
    (upkeepOf (branding.renewalPrice env.timestamp))) = some tx'.token

theorem renew_ok (h : (renew env tokenId).run tx = .ok ((), tx')) :
    Renewed env tx tx' tokenId (tx.store.brandings tokenId) := by
  rw [renew, nonReentrant_ok] at h
  obtain ⟨hfree, ⟨_, tx₁⟩, h, hr⟩ := h
  cases hr
  rw [bind_ok] at h
  obtain ⟨_, howner, h⟩ := h
  obtain ⟨hne, rfl⟩ := (requireOwned_ok).mp howner
  simp only [lift_bind_ok, failIf_ok, exists_const, run_get_bind, not_not, requireEligible_ok] at h
  obtain ⟨hsender, heligible, hearly, h⟩ := h
  rw [bind_ok] at h
  obtain ⟨p₁, h₁, h⟩ := h
  obtain ⟨log, hp₁⟩ := syncDeclaredPrice_ok h₁
  rw [hp₁] at h
  simp only [lift_bind_ok, run_get_bind, oneWeekFrom_ok,
    weeklyUpkeepForPrice_eq, Except.ok.injEq, exists_eq_left', run_modify_bind] at h
  obtain ⟨_, ⟨hfits, rfl⟩, h⟩ := h
  obtain ⟨t, hpay, htx⟩ := payUpkeep_ok h
  simp only [Tx.setBranding, Tx.setEntered, Function.update_self, Function.update_idem,
    renewalBase_synced] at hpay htx hfits
  rw [synced_acolyte, synced_referrer] at hpay
  rw [htx]
  exact {
    unlocked := hfree
    owner := hsender
    owner_ne := hne
    eligible := heligible
    early := hearly
    fits := hfits
    entered := rfl
    nonces := rfl
    owners := rfl
    brandings := rfl
    paid := hpay }

/-- What a successful `setDeclaredPrice` checked and wrote. -/
structure Repriced (env : Env T) (tx tx' : Tx T) (tokenId newPrice : Uint256)
    (branding : BrandingData) : Prop where
  unlocked : tx.store.entered = false
  price_ne : newPrice ≠ 0
  owner : tx.store.owners tokenId = env.sender
  owner_ne : tx.store.owners tokenId ≠ 0
  eligible : registryEligibility env 0 branding.controllerAgentId env.sender = .eligible
  unraised : (branding.synced env.timestamp).RaiseFits env.timestamp newPrice
  entered : tx'.store.entered = false
  nonces : tx'.store.nonces = tx.store.nonces
  owners : tx'.store.owners = tx.store.owners
  brandings : tx'.store.brandings = Function.update tx.store.brandings tokenId
    ((branding.synced env.timestamp).repriced env.timestamp newPrice)
  token : tx'.token = tx.token

theorem setDeclaredPrice_ok {newPrice : Uint256}
    (h : (setDeclaredPrice env tokenId newPrice).run tx = .ok ((), tx')) :
    Repriced env tx tx' tokenId newPrice (tx.store.brandings tokenId) := by
  rw [setDeclaredPrice, nonReentrant_ok] at h
  obtain ⟨hfree, ⟨_, tx₁⟩, h, hr⟩ := h
  cases hr
  simp only [lift_bind_ok, failIf_ok, exists_const] at h
  obtain ⟨hprice, h⟩ := h
  rw [bind_ok] at h
  obtain ⟨_, howner, h⟩ := h
  obtain ⟨hne, rfl⟩ := (requireOwned_ok).mp howner
  simp only [lift_bind_ok, failIf_ok, exists_const, run_get_bind, not_not, requireEligible_ok] at h
  obtain ⟨hsender, heligible, h⟩ := h
  rw [bind_ok] at h
  obtain ⟨p₁, h₁, h⟩ := h
  obtain ⟨log, hp₁⟩ := syncDeclaredPrice_ok h₁
  rw [hp₁] at h
  simp only [run_get_bind, Tx.setBranding, Tx.setEntered, Function.update_self] at h
  have hwrites : ((tx.store.brandings tokenId).synced env.timestamp).RaiseFits env.timestamp
        newPrice ∧
      tx₁.store.brandings = Function.update tx.store.brandings tokenId
        (((tx.store.brandings tokenId).synced env.timestamp).repriced env.timestamp newPrice) ∧
      tx₁.store.owners = tx.store.owners ∧ tx₁.store.nonces = tx.store.nonces ∧
      tx₁.token = tx.token := by
    unfold repriced BrandingData.RaiseFits
    split_ifs at h ⊢ with hlow hnone
    all_goals
      simp only [lift_bind_ok, failIf_ok, exists_const, run_modify_ok,
        Except.ok.injEq, Prod.mk.injEq, true_and] at h
    · subst h
      exact ⟨.inl hlow, Function.update_idem .., rfl, rfl, rfl⟩
    · obtain ⟨hlock, rfl⟩ := h
      exact ⟨.inr hlock, Function.update_idem .., rfl, rfl, rfl⟩
    · obtain ⟨hlock, rfl⟩ := h
      exact ⟨.inr hlock, Function.update_idem .., rfl, rfl, rfl⟩
  obtain ⟨hfits, hbrandings, howners, hnonces, htoken⟩ := hwrites
  exact {
    unlocked := hfree
    price_ne := hprice
    owner := hsender
    owner_ne := hne
    eligible := heligible
    unraised := hfits
    entered := rfl
    nonces := hnonces
    owners := howners
    brandings := hbrandings
    token := htoken }

@[simp] theorem statusOfBranding_synced (n : ℕ) (owner : Address) (branding : BrandingData) :
    statusOfBranding env n owner (branding.synced env.timestamp) =
      statusOfBranding env n owner branding := by
  unfold statusOfBranding
  rw [synced_controllerAgentId, synced_paidThrough]

/-- What a successful `buy` checked, wrote and paid. -/
structure Bought (env : Env T) (tx tx' : Tx T) (tokenId : Uint256) (expectedOwner : Address)
    (expectedControllerAgentId maximumGrossPrice buyerAgentId buyerDeclaredPrice deadline : Uint256)
    (branding : BrandingData) : Prop where
  unlocked : tx.store.entered = false
  timely : env.timestamp ≤ deadline
  price_ne : buyerDeclaredPrice ≠ 0
  owner : tx.store.owners tokenId = expectedOwner
  owner_ne : tx.store.owners tokenId ≠ 0
  sender_ne_owner : env.sender ≠ tx.store.owners tokenId
  agent : branding.controllerAgentId = expectedControllerAgentId
  status : statusOfBranding env 0 (tx.store.owners tokenId) branding = .active
  eligible : registryEligibility env 5 buyerAgentId env.sender = .eligible
  gross_le : effectiveDeclaredPrice env.timestamp branding ≤ maximumGrossPrice
  fits : WeekFits env.timestamp
  sender_ne : env.sender ≠ 0
  entered : tx'.store.entered = false
  nonces : tx'.store.nonces = tx.store.nonces
  owners : tx'.store.owners = Function.update tx.store.owners tokenId env.sender
  brandings : tx'.store.brandings = Function.update tx.store.brandings tokenId
    (branding.acquired env.timestamp buyerAgentId buyerDeclaredPrice)
  paid : ∃ t, env.onERC721Received tx.token = some t ∧
    payAll env t (salePayments env.sender (tx.store.owners tokenId) branding.referrer
        (effectiveDeclaredPrice env.timestamp branding) ++
      upkeepPayments env.sender branding.acolyte branding.referrer
        (upkeepOf buyerDeclaredPrice)) = some tx'.token

theorem buy_ok {agentId maximumGrossPrice : Uint256}
    (h : (buy env tokenId expectedOwner agentId maximumGrossPrice buyerAgentId buyerDeclaredPrice
      deadline).run tx = .ok ((), tx')) :
    Bought env tx tx' tokenId expectedOwner agentId maximumGrossPrice buyerAgentId
      buyerDeclaredPrice deadline (tx.store.brandings tokenId) := by
  rw [buy, nonReentrant_ok] at h
  obtain ⟨hfree, ⟨_, tx₁⟩, h, hr⟩ := h
  cases hr
  simp only [lift_bind_ok, failIf_ok, exists_const, BitVec.not_lt] at h
  obtain ⟨htimely, hprice, h⟩ := h
  rw [bind_ok] at h
  obtain ⟨_, howner, h⟩ := h
  obtain ⟨hne, rfl⟩ := (requireOwned_ok).mp howner
  simp only [lift_bind_ok, failIf_ok, exists_const, run_get_bind, not_not] at h
  obtain ⟨hexpected, hself, hagent, h⟩ := h
  rw [bind_ok] at h
  obtain ⟨p₁, h₁, h⟩ := h
  obtain ⟨log, hp₁⟩ := syncDeclaredPrice_ok h₁
  rw [hp₁] at h
  simp only [lift_bind_ok, failIf_ok, exists_const, run_get_bind, not_not,
    requireEligible_ok, Tx.setBranding, Tx.setEntered, Function.update_self,
    statusOfBranding_synced, synced_declaredPrice, BitVec.not_lt] at h
  obtain ⟨hstatus, heligible, hmax, h⟩ := h
  obtain ⟨hfits, hsender, _, token, hp, t, hhook, hpay⟩ := settlePurchase_ok h
  simp only [Tx.setBranding, Tx.setOwner, Function.update_self, Function.update_idem,
    acquired_synced] at hp
  simp only [Function.update_self, synced_declaredPrice, synced_acolyte, synced_referrer] at hpay
  rw [hp]
  exact {
    unlocked := hfree
    timely := htimely
    price_ne := hprice
    owner := hexpected
    owner_ne := hne
    sender_ne_owner := hself
    agent := hagent
    status := hstatus
    eligible := heligible
    gross_le := hmax
    fits := hfits
    sender_ne := hsender
    entered := rfl
    nonces := rfl
    owners := rfl
    brandings := rfl
    paid := ⟨t, hhook, hpay⟩ }

/-- What a successful `claimUnserved` checked, wrote and paid. -/
structure Claimed (env : Env T) (tx tx' : Tx T) (tokenId : Uint256) (expectedOwner : Address)
    (expectedControllerAgentId claimantAgentId newDeclaredPrice deadline : Uint256)
    (branding : BrandingData) : Prop where
  unlocked : tx.store.entered = false
  timely : env.timestamp ≤ deadline
  price_ne : newDeclaredPrice ≠ 0
  owner : tx.store.owners tokenId = expectedOwner
  owner_ne : tx.store.owners tokenId ≠ 0
  sender_ne_owner : env.sender ≠ tx.store.owners tokenId
  agent : branding.controllerAgentId = expectedControllerAgentId
  status : statusOfBranding env 0 (tx.store.owners tokenId) branding = .expired ∨
    statusOfBranding env 0 (tx.store.owners tokenId) branding = .ineligible
  eligible : registryEligibility env 5 claimantAgentId env.sender = .eligible
  fits : WeekFits env.timestamp
  sender_ne : env.sender ≠ 0
  entered : tx'.store.entered = false
  nonces : tx'.store.nonces = tx.store.nonces
  owners : tx'.store.owners = Function.update tx.store.owners tokenId env.sender
  brandings : tx'.store.brandings = Function.update tx.store.brandings tokenId
    (branding.acquired env.timestamp claimantAgentId newDeclaredPrice)
  paid : ∃ t, env.onERC721Received tx.token = some t ∧
    payAll env t (upkeepPayments env.sender branding.acolyte branding.referrer
      (upkeepOf newDeclaredPrice)) = some tx'.token

theorem claimUnserved_ok {agentId claimantAgentId newDeclaredPrice : Uint256}
    (h : (claimUnserved env tokenId expectedOwner agentId claimantAgentId newDeclaredPrice
      deadline).run tx = .ok ((), tx')) :
    Claimed env tx tx' tokenId expectedOwner agentId claimantAgentId newDeclaredPrice deadline
      (tx.store.brandings tokenId) := by
  rw [claimUnserved, nonReentrant_ok] at h
  obtain ⟨hfree, ⟨_, tx₁⟩, h, hr⟩ := h
  cases hr
  simp only [lift_bind_ok, failIf_ok, exists_const, BitVec.not_lt] at h
  obtain ⟨htimely, hprice, h⟩ := h
  rw [bind_ok] at h
  obtain ⟨_, howner, h⟩ := h
  obtain ⟨hne, rfl⟩ := (requireOwned_ok).mp howner
  simp only [lift_bind_ok, failIf_ok, exists_const, run_get_bind, not_not,
    requireEligible_ok, weeklyUpkeepForPrice_eq, oneWeekFrom_ok, Except.ok.injEq,
    exists_eq_left', run_modify_bind] at h
  obtain ⟨hexpected, hself, hagent, hstatus, heligible, _, ⟨hfits, rfl⟩, h⟩ := h
  simp only [bind_ok, safeTransfer_ok, run_modify_ok, Except.ok.injEq] at h
  obtain ⟨_, ⟨hsender, -, -, t, hhook, rfl⟩, p, hpay, h⟩ := h
  obtain ⟨t₁, hp₁, hp⟩ := payUpkeep_ok hpay
  rw [hp] at h
  cases h
  exact {
    unlocked := hfree
    timely := htimely
    price_ne := hprice
    owner := hexpected
    owner_ne := hne
    sender_ne_owner := hself
    agent := hagent
    status := by tauto
    eligible := heligible
    fits := hfits
    sender_ne := hsender
    entered := rfl
    nonces := rfl
    owners := rfl
    brandings := rfl
    paid := ⟨t, hhook, hp₁⟩ }

theorem setCustomTrait_ok {value : Bytes}
    (h : (setCustomTrait env tokenId traitType value).run tx = .ok ((), tx')) : Edited tx tx' := by
  rw [setCustomTrait, bind_ok] at h
  obtain ⟨_, howner, h⟩ := h
  obtain ⟨-, rfl⟩ := (requireOwned_ok).mp howner
  simp only [lift_bind_ok, failIf_ok, exists_const, run_get_bind] at h
  obtain ⟨-, -, -, -, h⟩ := h
  split at h
  all_goals
    simp only [lift_bind_ok, failIf_ok, okOr_ok, exists_const,
      run_modify_bind, run_modify_ok, Except.ok.injEq, Prod.mk.injEq,
      true_and] at h
  · obtain ⟨-, rfl⟩ := h
    exact ⟨rfl, rfl, rfl, rfl, rfl⟩
  · obtain ⟨_, -, -, rfl⟩ := h
    exact ⟨rfl, rfl, rfl, rfl, rfl⟩

theorem removeCustomTrait_ok (h : (removeCustomTrait env tokenId traitType).run tx = .ok ((), tx')) :
    Edited tx tx' := by
  rw [removeCustomTrait, bind_ok] at h
  obtain ⟨_, howner, h⟩ := h
  obtain ⟨-, rfl⟩ := (requireOwned_ok).mp howner
  simp only [lift_bind_ok, failIf_ok, okOr_ok, exists_const, run_get_bind] at h
  obtain ⟨-, -, -, _, -, h⟩ := h
  split_ifs at h
  · simp only [lift_bind_ok, okOr_ok, run_modify_bind,
      run_modify_ok, Except.ok.injEq, Prod.mk.injEq, true_and] at h
    obtain ⟨_, -, rfl⟩ := h
    exact ⟨rfl, rfl, rfl, rfl, rfl⟩
  · simp only [run_modify_bind, run_modify_ok, Except.ok.injEq, Prod.mk.injEq, true_and] at h
    subst h
    exact ⟨rfl, rfl, rfl, rfl, rfl⟩

/-- What a successful call did. The approval and transfer functions never succeed. -/
def Effect (env : Env T) (tx tx' : Tx T) : Call → Prop
  | .mintBranding consent signature => Minted env tx tx' consent signature
  | .renew tokenId => Renewed env tx tx' tokenId (tx.store.brandings tokenId)
  | .setDeclaredPrice tokenId newPrice =>
    Repriced env tx tx' tokenId newPrice (tx.store.brandings tokenId)
  | .buy tokenId expectedOwner agentId maximum buyerAgentId price deadline =>
    Bought env tx tx' tokenId expectedOwner agentId maximum buyerAgentId price deadline
      (tx.store.brandings tokenId)
  | .claimUnserved tokenId expectedOwner agentId claimantAgentId price deadline =>
    Claimed env tx tx' tokenId expectedOwner agentId claimantAgentId price deadline
      (tx.store.brandings tokenId)
  | .setAvatarURI _ _ | .setCustomTrait _ _ _ | .removeCustomTrait _ _ => Edited tx tx'
  | .approve _ _ | .setApprovalForAll _ _ | .transferFrom _ _ _ | .safeTransferFrom _ _ _ _ =>
    False

theorem dispatch_ok {call : Call} (h : (dispatch env call).run tx = .ok ((), tx')) :
    Effect env tx tx' call := by
  cases call with
  | mintBranding consent signature =>
    rw [dispatch, bind_ok] at h
    obtain ⟨⟨r, tx₁⟩, h, hr⟩ := h
    cases hr
    exact mintBranding_ok h
  | renew => exact renew_ok h
  | setDeclaredPrice => exact setDeclaredPrice_ok h
  | buy => exact buy_ok h
  | claimUnserved => exact claimUnserved_ok h
  | setAvatarURI => exact setAvatarURI_ok h
  | setCustomTrait => exact setCustomTrait_ok h
  | removeCustomTrait => exact removeCustomTrait_ok h
  | approve => cases h
  | setApprovalForAll => cases h
  | transferFrom => cases h
  | safeTransferFrom => cases h

end Entrypoints

end Cthuwu.Branding
