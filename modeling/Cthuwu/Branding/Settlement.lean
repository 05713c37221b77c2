import Mathlib.Algebra.Order.BigOperators.Group.List
import Cthuwu.Branding.World

/-!
# What a settlement moves

`settlementOf` reads off a call who pays whom : the gross price of a sale, split between
referrer and seller, and the upkeep of one week, split between referrer and acolyte. All
transfers come after the receiver hook, whose own code may move tokens first, so balances
are compared from the hook's return (`AfterHook`).

With a token that moves exactly what it is asked to (`StandardToken`), `payAll_balance`
gives every account's balance after a list of payments. The contract's own balance is one
more account : it can only be credited as the signed referrer, because it never calls
itself and signs nothing (`ContractPassive`).
-/

namespace Cthuwu.Branding

variable {T : Type}

/-! ## A standard token -/

/-- `transferFrom` moves exactly the requested amount, or fails. -/
structure StandardToken (balanceOf : T → Address → ℕ) (env : Env T) : Prop where
  moves : ∀ {t t' : T} {payer recipient : Address} {amount : Uint256},
    env.transferFrom t payer recipient amount = some t' → ∀ a,
      balanceOf t' a + (if payer = a then amount.toNat else 0) =
        balanceOf t a + (if recipient = a then amount.toNat else 0)

/-- What an account pays in a list of payments. -/
def debits (payments : List Payment) (a : Address) : ℕ :=
  (payments.map fun p => if p.payer = a then p.amount.toNat else 0).sum

/-- What an account receives in a list of payments. -/
def credits (payments : List Payment) (a : Address) : ℕ :=
  (payments.map fun p => if p.recipient = a then p.amount.toNat else 0).sum

@[simp] theorem debits_nil (a : Address) : debits [] a = 0 := rfl

@[simp] theorem credits_nil (a : Address) : credits [] a = 0 := rfl

@[simp] theorem debits_cons (p : Payment) (ps : List Payment) (a : Address) :
    debits (p :: ps) a = (if p.payer = a then p.amount.toNat else 0) + debits ps a :=
  List.sum_cons

@[simp] theorem credits_cons (p : Payment) (ps : List Payment) (a : Address) :
    credits (p :: ps) a = (if p.recipient = a then p.amount.toNat else 0) + credits ps a :=
  List.sum_cons

theorem debits_append (ps qs : List Payment) (a : Address) :
    debits (ps ++ qs) a = debits ps a + debits qs a := by
  unfold debits
  rw [List.map_append, List.sum_append]

theorem credits_append (ps qs : List Payment) (a : Address) :
    credits (ps ++ qs) a = credits ps a + credits qs a := by
  unfold credits
  rw [List.map_append, List.sum_append]

theorem payAll_balance {balanceOf : T → Address → ℕ} {env : Env T}
    (h : StandardToken balanceOf env) {payments : List Payment} {t t' : T}
    (hpay : payAll env t payments = some t') (a : Address) :
    balanceOf t' a + debits payments a = balanceOf t a + credits payments a := by
  induction payments generalizing t with
  | nil =>
    cases hpay
    rfl
  | cons p ps ih =>
    obtain ⟨t₁, hfirst, hrest⟩ := Option.bind_eq_some_iff.mp hpay
    have hmove := h.moves hfirst a
    have hps := ih hrest
    rw [debits_cons, credits_cons]
    omega

/-! ## Settlements -/

/-- Who pays whom : `sale` is the seller and the gross price, `price` the one whose week of
upkeep is paid. -/
structure Settlement where
  payer : Address
  acolyte : Address
  referrer : Address
  sale : Option (Address × Uint256)
  price : Uint256

/-- The settlement of a call, for the four calls that have one. -/
def settlementOf (env : Env T) (store : Storage) : Call → Option Settlement
  | .mintBranding consent _ => some
    { payer := env.sender
      acolyte := consent.acolyte
      referrer := consent.referrer
      sale := none
      price := consent.initialDeclaredPrice }
  | .renew tokenId =>
    let branding := store.brandings tokenId
    some
      { payer := env.sender
        acolyte := branding.acolyte
        referrer := branding.referrer
        sale := none
        price := branding.renewalPrice env.timestamp }
  | .buy tokenId _ _ _ _ price _ =>
    let branding := store.brandings tokenId
    some
      { payer := env.sender
        acolyte := branding.acolyte
        referrer := branding.referrer
        sale := some (store.owners tokenId, effectiveDeclaredPrice env.timestamp branding)
        price }
  | .claimUnserved tokenId _ _ _ price _ =>
    let branding := store.brandings tokenId
    some
      { payer := env.sender
        acolyte := branding.acolyte
        referrer := branding.referrer
        sale := none
        price }
  | _ => none

variable (s : Settlement)

namespace Settlement

def payments : List Payment :=
  (match s.sale with
    | some (seller, grossPrice) => salePayments s.payer seller s.referrer grossPrice
    | none => []) ++
  upkeepPayments s.payer s.acolyte s.referrer (upkeepOf s.price)

/-- The gross price, zero without a sale. -/
def gross : ℕ :=
  (s.sale.map fun sale => sale.2.toNat).getD 0

/-- A week's upkeep : 0.1% of the price rounded up. -/
def upkeep : ℕ :=
  (s.price.toNat + 999) / 1000

/-- The referrer's share of the sale and of the upkeep. -/
def referral : ℕ :=
  s.gross / 10 + s.upkeep / 10

/-- What an account is due : the referrer its share, the seller the rest of the gross
price, the acolyte the rest of the upkeep. -/
def credit (a : Address) : ℕ :=
  (if s.referrer = a then s.referral else 0) +
    (if s.sale.map Prod.fst = some a then s.gross - s.gross / 10 else 0) +
    if s.acolyte = a then s.upkeep - s.upkeep / 10 else 0

end Settlement

theorem toNat_sub_referralShare (amount : Uint256) :
    (amount - referralShare amount).toNat = amount.toNat - amount.toNat / 10 := by
  rw [toNat_sub_of_le (referralShare_le amount), toNat_referralShare]

theorem referralShare_eq_zero {amount : Uint256} :
    referralShare amount = 0 ↔ amount.toNat / 10 = 0 := by
  rw [← toNat_referralShare]
  exact ⟨fun h => by rw [h]; rfl, fun h => BitVec.eq_of_toNat_eq h⟩

theorem debits_upkeepPayments (payer acolyte referrer : Address) (upkeep : Uint256) (a : Address) :
    debits (upkeepPayments payer acolyte referrer upkeep) a =
      if payer = a then upkeep.toNat else 0 := by
  unfold upkeepPayments
  rw [debits_append, debits_cons, debits_nil, toNat_sub_referralShare]
  by_cases hr : referralShare upkeep = 0
  · have := (referralShare_eq_zero).mp hr
    rw [if_neg (not_not.mpr hr), debits_nil]
    split_ifs <;> omega
  · rw [if_pos hr, debits_cons, debits_nil, toNat_referralShare]
    split_ifs <;> omega

theorem credits_upkeepPayments (payer acolyte referrer : Address) (upkeep : Uint256)
    (a : Address) : credits (upkeepPayments payer acolyte referrer upkeep) a =
      (if referrer = a then upkeep.toNat / 10 else 0) +
        if acolyte = a then upkeep.toNat - upkeep.toNat / 10 else 0 := by
  unfold upkeepPayments
  rw [credits_append, credits_cons, credits_nil, toNat_sub_referralShare]
  by_cases hr : referralShare upkeep = 0
  · rw [if_neg (not_not.mpr hr), credits_nil, (referralShare_eq_zero).mp hr, ite_self]
    rfl
  · rw [if_pos hr, credits_cons, credits_nil, toNat_referralShare]
    rfl

theorem debits_salePayments (payer seller referrer : Address) (grossPrice : Uint256)
    (a : Address) : debits (salePayments payer seller referrer grossPrice) a =
      if payer = a then grossPrice.toNat else 0 := by
  simp only [salePayments, debits_cons, debits_nil, toNat_referralShare, toNat_sub_referralShare]
  split_ifs <;> omega

theorem credits_salePayments (payer seller referrer : Address) (grossPrice : Uint256)
    (a : Address) : credits (salePayments payer seller referrer grossPrice) a =
      (if referrer = a then grossPrice.toNat / 10 else 0) +
        if seller = a then grossPrice.toNat - grossPrice.toNat / 10 else 0 := by
  simp only [salePayments, credits_cons, credits_nil, toNat_referralShare,
    toNat_sub_referralShare, add_zero]

/-- The payer is debited the gross price and the upkeep, nobody else anything. -/
theorem Settlement.debits_payments (s : Settlement) (a : Address) :
    debits s.payments a = if s.payer = a then s.gross + s.upkeep else 0 := by
  unfold payments gross upkeep
  rw [debits_append, debits_upkeepPayments, toNat_upkeepOf]
  rcases s.sale with _ | ⟨seller, grossPrice⟩
  · simp
  · dsimp only
    rw [debits_salePayments]
    split_ifs <;> simp

theorem Settlement.credits_payments (s : Settlement) (a : Address) :
    credits s.payments a = s.credit a := by
  unfold payments credit referral gross upkeep
  rw [credits_append, credits_upkeepPayments, toNat_upkeepOf]
  rcases s.sale with _ | ⟨seller, grossPrice⟩
  · simp
  · dsimp only
    rw [credits_salePayments]
    simp only [Option.map_some, Option.getD_some, Option.some.injEq]
    split_ifs <;> omega

theorem Settlement.payer_of_mem {s : Settlement} {p : Payment} (h : p ∈ s.payments) :
    p.payer = s.payer := by
  unfold payments salePayments upkeepPayments at h
  rw [List.mem_append, List.mem_append, List.mem_singleton] at h
  obtain h | h | rfl := h
  · split at h
    · rw [List.mem_pair] at h
      obtain rfl | rfl := h <;> rfl
    · cases h
  · split_ifs at h
    · rw [List.mem_singleton.mp h]
    · cases h
  · rfl

/-- The transfers add up to the gross price and the upkeep. -/
theorem Settlement.total_payments (s : Settlement) :
    (s.payments.map (·.amount.toNat)).sum = s.gross + s.upkeep := by
  have hdebits := s.debits_payments s.payer
  rw [if_pos rfl, debits] at hdebits
  rw [← hdebits]
  exact congrArg List.sum (List.map_congr_left fun p hp => (if_pos (payer_of_mem hp)).symm)

/-! ## No panic -/

section Panics

def Revert.isPanic : Revert → Bool
  | .panic _ => true
  | _ => false

/-- No run of the transaction reverts with a panic. -/
structure NoPanic {α : Type} (x : Entry T α) : Prop where
  avoids : ∀ reason : Revert, reason.isPanic = true → x.Avoids reason

variable {α β : Type}

variable {f : α → Entry T β} {reason : Revert}

theorem NoPanic.bind {x : Entry T α} (hx : NoPanic x) (hf : ∀ a, NoPanic (f a)) :
    NoPanic (x >>= f) :=
  ⟨fun reason h => (hx.avoids reason h).bind fun a => (hf a).avoids reason h⟩

theorem noPanic_get_bind {f : Tx T → Entry T β} (hf : ∀ tx, NoPanic (f tx)) : NoPanic (get >>= f) :=
  NoPanic.bind ⟨fun _ _ => Revertible.avoids_get⟩ hf

theorem noPanic_modify (g : Tx T → Tx T) : NoPanic (modify g : Entry T PUnit) :=
  ⟨fun _ _ => Revertible.avoids_modify g⟩

theorem noPanic_modify_bind {g : Tx T → Tx T} {f : PUnit → Entry T β}
    (hf : ∀ u, NoPanic (f u)) : NoPanic (modify g >>= f) :=
  (noPanic_modify g).bind hf

theorem noPanic_pure (a : α) : NoPanic (pure a : Entry T α) :=
  ⟨fun _ _ => Revertible.avoids_pure a⟩

/-- A check or a read that names its own reason is no panic. -/
theorem noPanic_check_bind {x : Except Revert α}
    (hx : ∀ reason, x = .error reason → reason.isPanic = false) (hf : ∀ a, NoPanic (f a)) :
    NoPanic (liftM x >>= f) :=
  NoPanic.bind ⟨fun _ h => Revertible.avoids_lift fun herr => nomatch h.symm.trans (hx _ herr)⟩ hf

theorem revertIf_isPanic {c : Prop} [Decidable c] (h : reason.isPanic = false) :
    ∀ r, revertIf c reason = .error r → r.isPanic = false := by
  intro r hr
  unfold revertIf failIf at hr
  split_ifs at hr
  cases hr
  exact h

theorem noPanic_revertIf_bind {c : Prop} [Decidable c] {f : Unit → Entry T β}
    (h : reason.isPanic = false) (hf : ∀ u, NoPanic (f u)) :
    NoPanic (liftM (revertIf c reason) >>= f) :=
  noPanic_check_bind (revertIf_isPanic h) hf

theorem noPanic_orRevert_bind {o : Option α} (h : reason.isPanic = false) (hf : ∀ a, NoPanic (f a))
    : NoPanic (liftM (orRevert o reason) >>= f) := by
  refine noPanic_check_bind (fun r hr => ?_) hf
  cases o with
  | none =>
    cases hr
    exact h
  | some a => cases hr

theorem noPanic_ok_bind {a : α} (h : NoPanic (f a)) :
    NoPanic (liftM (Except.ok a : Except Revert α) >>= f) :=
  ⟨fun reason hr => Revertible.avoids_ok_bind (h.avoids reason hr)⟩

theorem noPanic_nonReentrant {body : Entry T α} (h : NoPanic body) : NoPanic (nonReentrant body) :=
  noPanic_get_bind fun _ => noPanic_revertIf_bind rfl fun _ => noPanic_modify_bind fun _ =>
    h.bind fun _ => noPanic_modify_bind fun _ => noPanic_pure _

theorem oneWeekFrom_isPanic {timestamp : Uint256} :
    ∀ reason, oneWeekFrom timestamp = .error reason → reason.isPanic = false := by
  intro reason h
  unfold oneWeekFrom revertIf failIf at h
  split_ifs at h
  · cases h
    rfl
  · cases h

theorem requireEligible_isPanic [Keccak] {env : Env T} {n : ℕ} {agentId : Uint256}
    {wallet : Address} :
    ∀ reason, requireEligible env n agentId wallet = .error reason → reason.isPanic = false := by
  intro reason h
  unfold requireEligible at h
  cases he : registryEligibility env n agentId wallet <;> rw [he] at h <;> cases h <;> rfl

theorem tokenIdOf_isPanic {env : Env T} {acolyte : Address} :
    ∀ reason, tokenIdOf env acolyte = .error reason → reason.isPanic = false := by
  intro reason h
  unfold tokenIdOf revertIf failIf at h
  split_ifs at h <;> cases h <;> rfl

theorem payToken_noPanic (env : Env T) (payer recipient : Address) (amount : Uint256) :
    NoPanic (payToken env payer recipient amount) :=
  noPanic_get_bind fun _ => noPanic_orRevert_bind rfl fun _ => noPanic_modify _

theorem requireOwned_noPanic (tokenId : Uint256) : NoPanic (requireOwned (T := T) tokenId) :=
  noPanic_get_bind fun _ => noPanic_revertIf_bind rfl fun _ => noPanic_pure _

theorem safeMint_noPanic (env : Env T) (receiver : Address) (tokenId : Uint256) :
    NoPanic (safeMint env receiver tokenId) :=
  noPanic_revertIf_bind rfl fun _ => noPanic_get_bind fun _ => noPanic_revertIf_bind rfl fun _ =>
    noPanic_modify_bind fun _ => noPanic_get_bind fun _ => noPanic_orRevert_bind rfl fun _ =>
      noPanic_modify _

theorem safeTransfer_noPanic (env : Env T) (sender receiver : Address) (tokenId : Uint256) :
    NoPanic (safeTransfer env sender receiver tokenId) :=
  noPanic_revertIf_bind rfl fun _ => noPanic_get_bind fun _ => noPanic_revertIf_bind rfl fun _ =>
    noPanic_revertIf_bind rfl fun _ => noPanic_modify_bind fun _ => noPanic_get_bind fun _ =>
      noPanic_orRevert_bind rfl fun _ => noPanic_modify _

theorem setTokenRoyalty_noPanic (tokenId : Uint256) (receiver : Address) (fee : Uint256) :
    NoPanic (setTokenRoyalty (T := T) tokenId receiver fee) :=
  noPanic_revertIf_bind rfl fun _ => noPanic_revertIf_bind rfl fun _ => noPanic_modify _

theorem syncDeclaredPrice_noPanic (env : Env T) (tokenId : Uint256) :
    NoPanic (syncDeclaredPrice env tokenId) := by
  refine noPanic_get_bind fun tx => ?_
  dsimp only
  split_ifs
  · exact noPanic_pure _
  · exact noPanic_modify _

theorem payUpkeep_noPanic (env : Env T) (tokenId : Uint256) (payer acolyte referrer : Address)
    (upkeep paidThrough : Uint256) :
    NoPanic (payUpkeep env tokenId payer acolyte referrer upkeep paidThrough) := by
  unfold payUpkeep
  rw [upkeepReferralForAmount_eq]
  refine noPanic_ok_bind ?_
  rw [checkedSub_referralShare]
  refine noPanic_ok_bind ?_
  split_ifs
  · exact (payToken_noPanic ..).bind fun _ => (payToken_noPanic ..).bind fun _ =>
      noPanic_modify _
  · exact (payToken_noPanic ..).bind fun _ => noPanic_modify _

theorem settlePurchase_noPanic (env : Env T) (tokenId : Uint256) (seller : Address)
    (buyerAgentId price : Uint256) :
    NoPanic (settlePurchase env tokenId seller buyerAgentId price) := by
  refine noPanic_get_bind fun tx => ?_
  dsimp only
  rw [mulDiv_referral]
  refine noPanic_ok_bind ?_
  rw [checkedSub_referralShare]
  refine noPanic_ok_bind ?_
  rw [weeklyUpkeepForPrice_eq]
  refine noPanic_ok_bind ?_
  refine noPanic_check_bind oneWeekFrom_isPanic fun _ => ?_
  exact noPanic_modify_bind fun _ => (safeTransfer_noPanic ..).bind fun _ =>
    (payToken_noPanic ..).bind fun _ => (payToken_noPanic ..).bind fun _ =>
      (payUpkeep_noPanic ..).bind fun _ => noPanic_modify _

section Entrypoints

variable [Keccak]

theorem mintBranding_noPanic (env : Env T) (consent : MintConsent) (signature : Bytes) :
    NoPanic (mintBranding env consent signature) := by
  refine noPanic_nonReentrant ?_
  iterate 5 refine noPanic_revertIf_bind rfl fun _ => ?_
  refine noPanic_get_bind fun tx => ?_
  dsimp only
  iterate 2 refine noPanic_revertIf_bind rfl fun _ => ?_
  refine noPanic_check_bind tokenIdOf_isPanic fun tokenId => ?_
  iterate 2 refine noPanic_revertIf_bind rfl fun _ => ?_
  refine noPanic_check_bind requireEligible_isPanic fun _ => ?_
  refine noPanic_check_bind oneWeekFrom_isPanic fun _ => ?_
  rw [weeklyUpkeepForPrice_eq]
  refine noPanic_ok_bind ?_
  exact noPanic_modify_bind fun _ => noPanic_modify_bind fun _ =>
    (setTokenRoyalty_noPanic ..).bind fun _ => (safeMint_noPanic ..).bind fun _ =>
      (payUpkeep_noPanic ..).bind fun _ => noPanic_modify_bind fun _ => noPanic_pure _

theorem renew_noPanic (env : Env T) (tokenId : Uint256) : NoPanic (renew env tokenId) := by
  refine noPanic_nonReentrant ?_
  refine (requireOwned_noPanic tokenId).bind fun owner => ?_
  refine noPanic_revertIf_bind rfl fun _ => noPanic_get_bind fun tx => ?_
  refine noPanic_check_bind requireEligible_isPanic fun _ => noPanic_revertIf_bind rfl fun _ => ?_
  refine (syncDeclaredPrice_noPanic env tokenId).bind fun _ => noPanic_get_bind fun tx => ?_
  refine noPanic_check_bind oneWeekFrom_isPanic fun _ => ?_
  rw [weeklyUpkeepForPrice_eq]
  exact noPanic_ok_bind (noPanic_modify_bind fun _ => payUpkeep_noPanic ..)

theorem buy_noPanic (env : Env T) (tokenId : Uint256) (expectedOwner : Address)
    (agentId maximum buyerAgentId price deadline : Uint256) :
    NoPanic (buy env tokenId expectedOwner agentId maximum buyerAgentId price deadline) := by
  refine noPanic_nonReentrant ?_
  iterate 2 refine noPanic_revertIf_bind rfl fun _ => ?_
  refine (requireOwned_noPanic tokenId).bind fun seller => ?_
  iterate 2 refine noPanic_revertIf_bind rfl fun _ => ?_
  refine noPanic_get_bind fun tx => noPanic_revertIf_bind rfl fun _ => ?_
  refine (syncDeclaredPrice_noPanic env tokenId).bind fun _ => noPanic_get_bind fun tx => ?_
  refine noPanic_revertIf_bind rfl fun _ => ?_
  refine noPanic_check_bind requireEligible_isPanic fun _ => noPanic_revertIf_bind rfl fun _ => ?_
  exact settlePurchase_noPanic ..

theorem claimUnserved_noPanic (env : Env T) (tokenId : Uint256) (expectedOwner : Address)
    (agentId claimantAgentId price deadline : Uint256) :
    NoPanic (claimUnserved env tokenId expectedOwner agentId claimantAgentId price deadline) := by
  refine noPanic_nonReentrant ?_
  iterate 2 refine noPanic_revertIf_bind rfl fun _ => ?_
  refine (requireOwned_noPanic tokenId).bind fun owner => ?_
  iterate 2 refine noPanic_revertIf_bind rfl fun _ => ?_
  refine noPanic_get_bind fun tx => noPanic_revertIf_bind rfl fun _ => ?_
  refine noPanic_revertIf_bind rfl fun _ => noPanic_check_bind requireEligible_isPanic fun _ => ?_
  rw [weeklyUpkeepForPrice_eq]
  refine noPanic_ok_bind (noPanic_check_bind oneWeekFrom_isPanic fun _ => ?_)
  exact noPanic_modify_bind fun _ => (safeTransfer_noPanic ..).bind fun _ =>
    (payUpkeep_noPanic ..).bind fun _ => noPanic_modify _

/-- No settling call panics, whatever the prices. -/
theorem dispatch_noPanic {env : Env T} {store : Storage} {call : Call} {s : Settlement}
    (h : settlementOf env store call = some s) : NoPanic (dispatch env call) := by
  cases call with
  | mintBranding => exact (mintBranding_noPanic ..).bind fun _ => noPanic_pure _
  | renew => exact renew_noPanic ..
  | buy => exact buy_noPanic ..
  | claimUnserved => exact claimUnserved_noPanic ..
  | _ => cases h

end Entrypoints

end Panics

/-! ## The contract's own account -/

section Runs

variable [Keccak]

/-- The token once the receiver hook has returned. A renewal calls no hook. -/
def AfterHook (v : Visit T) (t : T) : Prop :=
  match v.call with
  | .renew _ => t = v.token
  | _ => v.env.onERC721Received v.token = some t

/-- A successful settlement is its payments, made after the hook. -/
theorem settled {w : World} {v : Visit T} {s : Settlement}
    (hs : settlementOf v.env w.store v.call = some s) (h : w.Enabled v) :
    ∃ t, AfterHook v t ∧ payAll v.env t s.payments = some (w.outcome v).token := by
  have heffect := h.effect
  unfold AfterHook
  cases hcall : v.call with (rw [hcall] at hs heffect; cases hs)
  | mintBranding consent signature =>
    obtain ⟨t, hhook, hpay⟩ := Minted.paid heffect
    exact ⟨t, hhook, hpay⟩
  | renew tokenId => exact ⟨v.token, rfl, Renewed.paid heffect⟩
  | buy =>
    obtain ⟨t, hhook, hpay⟩ := Bought.paid heffect
    exact ⟨t, hhook, hpay⟩
  | claimUnserved =>
    obtain ⟨t, hhook, hpay⟩ := Claimed.paid heffect
    exact ⟨t, hhook, hpay⟩

/-- The contract is nobody's caller and answers for no signature : it makes no call to
itself and has no ERC-1271 function. -/
structure ContractPassive (contract : Address) (env : Env T) : Prop where
  self_eq : env.self = contract
  sender_ne : env.sender ≠ contract
  unsigned : ∀ digest signature, env.isValidSignatureNow contract digest signature = false

/-- Runs of the contract at `contract` with a standard payment token. -/
def settlementMachine (balanceOf : T → Address → ℕ) (contract : Address) : Machine World (Visit T) :=
  (machine T).restrict fun _ v => ContractPassive contract v.env ∧ StandardToken balanceOf v.env

variable {balanceOf : T → Address → ℕ} {contract : Address}

/-- The contract owns no token and is no token's acolyte. -/
theorem Reachable.outsider {w : World} (h : (settlementMachine balanceOf contract).Reachable w)
    {tokenId : Uint256} : w.store.owners tokenId ≠ 0 →
      w.store.owners tokenId ≠ contract ∧ (w.store.brandings tokenId).acolyte ≠ contract := by
  induction h with
  | init => exact fun howner => absurd rfl howner
  | @next w v h hv ih =>
    obtain ⟨-, hpassive, -⟩ := hv
    change ((w.visit v).token tokenId).owner ≠ 0 → ((w.visit v).token tokenId).owner ≠ contract ∧
      ((w.visit v).token tokenId).branding.acolyte ≠ contract
    obtain hidle | hstep := visit_token w v tokenId
    · rw [hidle]
      exact ih
    generalize (w.visit v).token tokenId = k' at hstep
    rintro -
    cases hstep with
    | mint consent hid hsigned =>
      refine ⟨hpassive.sender_ne, fun hself => ?_⟩
      obtain ⟨digest, signature, hsigned⟩ := hsigned
      have hself : consent.acolyte = contract := hself
      rw [hself, hpassive.unsigned] at hsigned
      cases hsigned
    | renew howner =>
      rw [renewed_acolyte]
      exact ih howner
    | reprice newPrice howner =>
      rw [repriced_acolyte, synced_acolyte]
      exact ih howner
    | acquire agentId price howner => exact ⟨hpassive.sender_ne, (ih howner).2⟩

/-- The contract is credited as the signed referrer only. -/
theorem credit_self {w : World} (hw : (settlementMachine balanceOf contract).Reachable w)
    {v : Visit T} (hpassive : ContractPassive contract v.env) {s : Settlement}
    (hs : settlementOf v.env w.store v.call = some s) (h : w.Enabled v) :
    s.credit contract = (if s.referrer = contract then s.referral else 0) ∧ s.payer ≠ contract := by
  have heffect := h.effect
  have hcredit : s.acolyte ≠ contract → s.sale.map Prod.fst ≠ some contract →
      s.credit contract = if s.referrer = contract then s.referral else 0 := by
    intro hacolyte hseller
    rw [Settlement.credit, if_neg hacolyte, if_neg hseller]
    rfl
  cases hcall : v.call with (rw [hcall] at hs heffect; cases hs)
  | mintBranding consent signature =>
    refine ⟨hcredit (fun hself => ?_) nofun, hpassive.sender_ne⟩
    have hsigned := Minted.signed heffect
    have hself : consent.acolyte = contract := hself
    rw [hself, hpassive.unsigned] at hsigned
    cases hsigned
  | renew tokenId =>
    exact ⟨hcredit (Reachable.outsider hw (Renewed.owner_ne heffect)).2 nofun, hpassive.sender_ne⟩
  | buy tokenId =>
    have hout := Reachable.outsider hw (Bought.owner_ne heffect)
    exact ⟨hcredit hout.2 fun hseller => hout.1 (Option.some.inj hseller), hpassive.sender_ne⟩
  | claimUnserved tokenId =>
    exact ⟨hcredit (Reachable.outsider hw (Claimed.owner_ne heffect)).2 nofun, hpassive.sender_ne⟩

/-- In every run with a standard token, a successful mint, renewal, sale or claim debits
the payer exactly the gross price and the upkeep, credits referrer, seller and acolyte
their shares of it, and leaves every other account alone, the contract's among them
unless the contract is itself the signed referrer. No price makes one panic, and a call
that fails changes nothing. -/
theorem money_conserved {balanceOf : T → Address → ℕ} {contract : Address} {w : World}
    (hw : (settlementMachine balanceOf contract).Reachable w) {v : Visit T}
    (hpassive : ContractPassive contract v.env) (htoken : StandardToken balanceOf v.env) :
    (∀ s, settlementOf v.env w.store v.call = some s → w.Enabled v →
      (s.payments.map (·.amount.toNat)).sum = s.gross + s.upkeep ∧
        ∃ t, AfterHook v t ∧ payAll v.env t s.payments = some (w.outcome v).token ∧
          (∀ a, balanceOf (w.outcome v).token a +
              (if s.payer = a then s.gross + s.upkeep else 0) = balanceOf t a + s.credit a) ∧
          balanceOf (w.outcome v).token contract =
            balanceOf t contract + if s.referrer = contract then s.referral else 0) ∧
      (∀ s code, settlementOf v.env w.store v.call = some s →
        (dispatch v.env v.call).Avoids (.panic code)) ∧
      (¬w.Enabled v → w.outcome v = ⟨w.store, v.token, []⟩) := by
  refine ⟨fun s hs henabled => ⟨s.total_payments, ?_⟩, fun s code hs =>
    (dispatch_noPanic hs).avoids _ rfl, outcome_of_not_enabled⟩
  obtain ⟨t, hhook, hpay⟩ := settled hs henabled
  have hbalance (a : Address) : balanceOf (w.outcome v).token a +
      (if s.payer = a then s.gross + s.upkeep else 0) = balanceOf t a + s.credit a := by
    rw [← s.debits_payments, ← s.credits_payments]
    exact payAll_balance htoken hpay a
  obtain ⟨hcredit, hpayer⟩ := credit_self hw hpassive hs henabled
  have hself := hbalance contract
  rw [if_neg hpayer, hcredit] at hself
  exact ⟨t, hhook, hpay, hbalance, hself⟩

end Runs

section Sample

attribute [local instance] sampleKeccak

/-- A token that keeps one balance per address. -/
def transferBalances (balances : Address → ℕ) (payer recipient : Address) (amount : Uint256) :
    Option (Address → ℕ) :=
  if amount.toNat ≤ balances payer then
    let debited := Function.update balances payer (balances payer - amount.toNat)
    some (Function.update debited recipient (debited recipient + amount.toNat))
  else none

theorem standardToken_transferBalances {env : Env (Address → ℕ)}
    (h : env.transferFrom = transferBalances) : StandardToken (fun balances => balances) env where
  moves := by
    intro t t' payer recipient amount hmove a
    rw [h, transferBalances, Option.ite_none_right_eq_some] at hmove
    obtain ⟨hle, hmove⟩ := hmove
    have ha := congrFun (Option.some.inj hmove) a
    by_cases hr : recipient = a
    · subst hr
      rw [Function.update_self] at ha
      by_cases hp : payer = recipient
      · subst hp
        rw [Function.update_self] at ha
        simp only [if_true]
        omega
      · rw [Function.update_of_ne (Ne.symm hp)] at ha
        rw [if_neg hp, if_pos rfl]
        omega
    · rw [Function.update_of_ne (Ne.symm hr)] at ha
      by_cases hp : payer = a
      · subst hp
        rw [Function.update_self] at ha
        rw [if_pos rfl, if_neg hr]
        omega
      · rw [Function.update_of_ne (Ne.symm hp)] at ha
        rw [if_neg hp, if_neg hr]
        omega

/-- The sample mint at a price of 50000 with `referrer` as the signed referrer, by a minter
with 1000 of the token. -/
def sampleSettlement (referrer : Address) : Visit (Address → ℕ) where
  env := sampleEnv 0xB0 100 transferBalances
  token a := if a = 0xB0 then 1000 else 0
  call := .mintBranding { sampleConsent with referrer, initialDeclaredPrice := 50000 } []

theorem contractPassive_sampleSettlement (referrer : Address) :
    ContractPassive 0xC0 (sampleSettlement referrer).env where
  self_eq := rfl
  sender_ne := by
    change (0xB0 : Address) ≠ 0xC0
    decide
  unsigned _ _ := rfl

theorem sampleSettlement_run :
    ((dispatch (sampleSettlement 0xC0).env (sampleSettlement 0xC0).call).run
      ⟨World.init.store, (sampleSettlement 0xC0).token, []⟩).isOk = true ∧
    ((dispatch (sampleSettlement 0xEF).env (sampleSettlement 0xEF).call).run
      ⟨World.init.store, (sampleSettlement 0xEF).token, []⟩).isOk = true ∧
    (World.init.outcome (sampleSettlement 0xC0)).token 0xC0 ≠
      (sampleSettlement 0xC0).token 0xC0 := by
  decide +kernel

/-- A mint whose signed referrer is the contract itself succeeds and leaves a tenth of the
upkeep with the contract. -/
theorem contract_keeps_referral : ContractPassive 0xC0 (sampleSettlement 0xC0).env ∧
      StandardToken (fun balances => balances) (sampleSettlement 0xC0).env ∧
      World.init.Enabled (sampleSettlement 0xC0) ∧
      AfterHook (sampleSettlement 0xC0) (sampleSettlement 0xC0).token ∧
      (World.init.outcome (sampleSettlement 0xC0)).token 0xC0 ≠
        (sampleSettlement 0xC0).token 0xC0 :=
  ⟨contractPassive_sampleSettlement _, standardToken_transferBalances rfl,
    enabled_iff_isOk.mpr sampleSettlement_run.1, rfl, sampleSettlement_run.2.2⟩

/-- With the referrer 0xEF the minter pays 50 : the referrer gets 5, the acolyte 45 and the
contract nothing. -/
theorem money_conserved_sample :
    ∃ s, settlementOf (sampleSettlement 0xEF).env Storage.init (sampleSettlement 0xEF).call =
        some s ∧ s.gross + s.upkeep = 50 ∧ s.credit 0xEF = 5 ∧ s.credit 0xAC = 45 ∧
      ∃ t, payAll (sampleSettlement 0xEF).env t s.payments =
          some (World.init.outcome (sampleSettlement 0xEF)).token ∧
        (World.init.outcome (sampleSettlement 0xEF)).token 0xC0 = t 0xC0 := by
  obtain ⟨-, t, -, hpay, -, hcontract⟩ := (money_conserved (w := World.init) .init
    (contractPassive_sampleSettlement 0xEF) (standardToken_transferBalances rfl)).1 _ rfl
      (enabled_iff_isOk.mpr sampleSettlement_run.2.1)
  exact ⟨_, rfl, by decide, by decide, by decide, t, hpay, hcontract⟩

end Sample

end Cthuwu.Branding
