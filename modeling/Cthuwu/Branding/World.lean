import Cthuwu.Lib.Runs
import Cthuwu.Branding.Effects

/-!
# Runs of the contract

A `Visit` is one call with everything it finds outside the contract : the sender, the
block time, and answers of the registry, the payment token, signers and receivers that may
differ from visit to visit and fail at will. `machine` runs any sequence of visits whose
block times do not decrease.

Beside the storage a `World` keeps a `History` per token that the contract does not store :
the mint consents it consumed, the time of the last successful operation, and the weeks of
upkeep paid, newest first, each with the price it was paid on. `TokenStep` is what a visit
can do to one token, and `visit_token` reduces every visit to it.
-/

namespace Cthuwu.Branding

variable {T : Type}

/-- A week of upkeep `[start, through)` paid on `price`. -/
structure PaidWeek where
  start : Uint256
  through : Uint256
  price : Uint256

structure History where
  consents : List MintConsent
  lastOp : Uint256
  paid : List PaidWeek

structure World where
  store : Storage
  clock : Uint256
  history : Uint256 → History

def World.init : World where
  store := .init
  clock := 0
  history _ := ⟨[], 0, []⟩

/-- One call and what it finds outside the contract. -/
structure Visit (T : Type) where
  env : Env T
  token : T
  call : Call

/-- A token's history after a successful operation at `timestamp`. -/
def History.record (timestamp : Uint256) (consents : List MintConsent) (paid : List PaidWeek)
    (history : History) : History where
  consents := consents ++ history.consents
  lastOp := timestamp
  paid := paid ++ history.paid

/-- The token a call operates on. A metadata edit is not an operation. -/
def Call.operatesOn : Call → Option Uint256
  | .mintBranding consent _ => some (tokenIdBits consent.acolyte)
  | .renew tokenId => some tokenId
  | .setDeclaredPrice tokenId _ => some tokenId
  | .buy tokenId _ _ _ _ _ _ => some tokenId
  | .claimUnserved tokenId _ _ _ _ _ => some tokenId
  | _ => none

def Call.consents : Call → List MintConsent
  | .mintBranding consent _ => [consent]
  | _ => []

/-- The weeks a call at `timestamp` pays for. -/
def Call.paidWeeks (timestamp : Uint256) (store : Storage) : Call → List PaidWeek
  | .mintBranding consent _ =>
    [⟨timestamp, timestamp + week, consent.initialDeclaredPrice⟩]
  | .renew tokenId =>
    let base := renewalBase timestamp (store.brandings tokenId)
    [⟨base, base + week, (store.brandings tokenId).renewalPrice timestamp⟩]
  | .buy _ _ _ _ _ price _ => [⟨timestamp, timestamp + week, price⟩]
  | .claimUnserved _ _ _ _ price _ => [⟨timestamp, timestamp + week, price⟩]
  | _ => []

/-- The histories after a successful `call` at `timestamp` from `store`. -/
def recordCall (timestamp : Uint256) (store : Storage) (history : Uint256 → History)
    (call : Call) (tokenId : Uint256) : History :=
  if call.operatesOn = some tokenId then
    (history tokenId).record timestamp call.consents (call.paidWeeks timestamp store)
  else history tokenId

/-- The world after a visit. A reverting call moves the clock only. -/
def World.visit [Keccak] (w : World) (v : Visit T) : World :=
  match (dispatch v.env v.call).run ⟨w.store, v.token, []⟩ with
  | .error _ => { w with clock := v.env.timestamp }
  | .ok (_, tx') =>
    { store := tx'.store
      clock := v.env.timestamp
      history := recordCall v.env.timestamp w.store w.history v.call }

/-- Any visits in any order, as long as block time does not run backwards. -/
def machine [Keccak] (T : Type) : Machine World (Visit T) where
  init := .init
  Allowed w v := w.clock ≤ v.env.timestamp
  next := World.visit

theorem reachable_init [Keccak] : (machine T).Reachable World.init :=
  .init

theorem reachable_visit [Keccak] {w : World} (h : (machine T).Reachable w) (v : Visit T)
    (hv : w.clock ≤ v.env.timestamp) : (machine T).Reachable (w.visit v) :=
  h.next hv

/-! ## One token -/

@[simp] theorem addressBits_tokenIdBits (acolyte : Address) :
    addressBits (tokenIdBits acolyte) = acolyte := by
  apply BitVec.eq_of_toNat_eq
  have := acolyte.isLt
  simp only [addressBits, tokenIdBits, BitVec.toNat_setWidth]
  omega

theorem tokenIdBits_injective : Function.Injective tokenIdBits :=
  Function.LeftInverse.injective addressBits_tokenIdBits

structure Token where
  owner : Address
  branding : BrandingData
  history : History

def World.token (w : World) (tokenId : Uint256) : Token where
  owner := w.store.owners tokenId
  branding := w.store.brandings tokenId
  history := w.history tokenId

/-- What an operation can do to the token `tokenId`. -/
inductive TokenStep (env : Env T) (tokenId : Uint256) (k : Token) : Token → Prop
  | mint (consent : MintConsent) (hid : tokenIdBits consent.acolyte = tokenId)
      (hsigned : ∃ digest signature,
        env.isValidSignatureNow consent.acolyte digest signature = true)
      (hunowned : k.owner = 0) (hsender : env.sender ≠ 0) (hacolyte : consent.acolyte ≠ 0)
      (hreferrer : consent.referrer ≠ 0) (hprice : consent.initialDeclaredPrice ≠ 0)
      (hfits : WeekFits env.timestamp) :
      TokenStep env tokenId k ⟨env.sender, mintedBranding env.timestamp consent,
        k.history.record env.timestamp [consent]
          [⟨env.timestamp, env.timestamp + week, consent.initialDeclaredPrice⟩]⟩
  | renew (howner : k.owner ≠ 0) (hearly : ¬(env.timestamp < k.branding.paidThrough ∧
        week < k.branding.paidThrough - env.timestamp))
      (hfits : WeekFits (renewalBase env.timestamp k.branding)) :
      TokenStep env tokenId k ⟨k.owner, k.branding.renewed env.timestamp,
        k.history.record env.timestamp [] [⟨renewalBase env.timestamp k.branding,
          renewalBase env.timestamp k.branding + week, k.branding.renewalPrice env.timestamp⟩]⟩
  | reprice (newPrice : Uint256) (howner : k.owner ≠ 0) (hprice : newPrice ≠ 0)
      (hraise : (k.branding.synced env.timestamp).RaiseFits env.timestamp newPrice) :
      TokenStep env tokenId k ⟨k.owner,
        (k.branding.synced env.timestamp).repriced env.timestamp newPrice,
        k.history.record env.timestamp [] []⟩
  | acquire (agentId price : Uint256) (howner : k.owner ≠ 0) (hsender : env.sender ≠ 0)
      (hprice : price ≠ 0) (hfits : WeekFits env.timestamp) :
      TokenStep env tokenId k ⟨env.sender, k.branding.acquired env.timestamp agentId price,
        k.history.record env.timestamp [] [⟨env.timestamp, env.timestamp + week, price⟩]⟩

/-- A call that writes one token leaves every other alone. -/
theorem token_update {w : World} {store : Storage} {timestamp target owner branding} {call : Call}
    (hcall : call.operatesOn = some target)
    (howners : store.owners = Function.update w.store.owners target owner)
    (hbrandings : store.brandings = Function.update w.store.brandings target branding)
    (tokenId : Uint256) :
    (⟨store, timestamp, recordCall timestamp w.store w.history call⟩ : World).token tokenId =
      if tokenId = target then ⟨owner, branding, (w.history target).record timestamp call.consents
        (call.paidWeeks timestamp w.store)⟩
      else w.token tokenId := by
  unfold World.token recordCall
  rw [howners, hbrandings, hcall]
  by_cases h : tokenId = target
  · subst h
    simp only [Function.update_self, ↓reduceIte]
  · simp only [Function.update_of_ne h, Option.some.injEq, Ne.symm h, h, ↓reduceIte]

section Visits

variable [Keccak]

/-- The transaction a visit runs, from the storage the world has. -/
def World.outcome (w : World) (v : Visit T) : Tx T :=
  transact v.env ⟨w.store, v.token, []⟩ v.call

/-- The call would succeed. -/
def World.Enabled (w : World) (v : Visit T) : Prop :=
  ∃ tx, (dispatch v.env v.call).run ⟨w.store, v.token, []⟩ = .ok ((), tx)

theorem enabled_iff_isOk {w : World} {v : Visit T} :
    w.Enabled v ↔ ((dispatch v.env v.call).run ⟨w.store, v.token, []⟩).isOk = true := by
  unfold World.Enabled
  rcases (dispatch v.env v.call).run ⟨w.store, v.token, []⟩ with e | ⟨u, tx⟩
  · simp [Except.isOk, Except.toBool]
  · simp [Except.isOk, Except.toBool]

theorem World.Enabled.effect {w : World} {v : Visit T} (h : w.Enabled v) :
    Effect v.env ⟨w.store, v.token, []⟩ (w.outcome v) v.call := by
  obtain ⟨tx, h⟩ := h
  unfold World.outcome transact
  rw [h]
  exact dispatch_ok h

/-- A reverting call leaves storage and token as they were. -/
theorem outcome_of_not_enabled {w : World} {v : Visit T} (h : ¬w.Enabled v) :
    w.outcome v = ⟨w.store, v.token, []⟩ := by
  unfold World.outcome transact
  rcases hrun : (dispatch v.env v.call).run ⟨w.store, v.token, []⟩ with e | ⟨u, tx'⟩
  · rfl
  · exact absurd ⟨tx', hrun⟩ h

/-- A visit reverts, or does what its call's effect says. -/
theorem visit_cases (w : World) (v : Visit T) : w.visit v = { w with clock := v.env.timestamp } ∨
      Effect v.env ⟨w.store, v.token, []⟩ (w.outcome v) v.call ∧ w.visit v =
        ⟨(w.outcome v).store, v.env.timestamp,
          recordCall v.env.timestamp w.store w.history v.call⟩ := by
  by_cases henabled : w.Enabled v
  · refine .inr ⟨henabled.effect, ?_⟩
    obtain ⟨tx, h⟩ := henabled
    unfold World.visit World.outcome transact
    rw [h]
  · refine .inl ?_
    unfold World.visit
    rcases h : (dispatch v.env v.call).run ⟨w.store, v.token, []⟩ with e | ⟨u, tx'⟩
    · rfl
    · exact absurd ⟨tx', h⟩ henabled

@[simp] theorem visit_clock (w : World) (v : Visit T) : (w.visit v).clock = v.env.timestamp := by
  obtain h | ⟨-, h⟩ := visit_cases w v <;> rw [h]

/-- A visit leaves a token alone or takes one step of it. -/
theorem visit_token (w : World) (v : Visit T) (tokenId : Uint256) :
    (w.visit v).token tokenId = w.token tokenId ∨
      TokenStep v.env tokenId (w.token tokenId) ((w.visit v).token tokenId) := by
  obtain h | ⟨heffect, h⟩ := visit_cases w v
  · exact .inl (by rw [h]; rfl)
  rw [h]
  cases hcall : v.call with rw [hcall] at heffect
  | mintBranding consent signature =>
    have hm : Minted _ _ _ consent signature := heffect
    rw [token_update rfl hm.owners hm.brandings]
    split_ifs with hid
    · subst hid
      exact .inr (.mint consent rfl ⟨_, _, hm.signed⟩ hm.unowned hm.sender_ne hm.acolyte_ne
        hm.referrer_ne hm.price_ne hm.fits)
    · exact .inl rfl
  | renew target =>
    have hr : Renewed _ _ _ target _ := heffect
    rw [token_update rfl (hr.owners.trans (Function.update_eq_self target _).symm) hr.brandings]
    split_ifs with hid
    · subst hid
      exact .inr (.renew hr.owner_ne hr.early hr.fits)
    · exact .inl rfl
  | setDeclaredPrice target newPrice =>
    have hr : Repriced _ _ _ target newPrice _ := heffect
    rw [token_update rfl (hr.owners.trans (Function.update_eq_self target _).symm) hr.brandings]
    split_ifs with hid
    · subst hid
      exact .inr (.reprice newPrice hr.owner_ne hr.price_ne hr.unraised)
    · exact .inl rfl
  | buy target expectedOwner agentId maximum buyerAgentId price deadline =>
    have hb : Bought _ _ _ target expectedOwner agentId maximum buyerAgentId price deadline _ :=
      heffect
    rw [token_update rfl hb.owners hb.brandings]
    split_ifs with hid
    · subst hid
      exact .inr (.acquire buyerAgentId price hb.owner_ne hb.sender_ne hb.price_ne hb.fits)
    · exact .inl rfl
  | claimUnserved target expectedOwner agentId claimantAgentId price deadline =>
    have hc : Claimed _ _ _ target expectedOwner agentId claimantAgentId price deadline _ :=
      heffect
    rw [token_update rfl hc.owners hc.brandings]
    split_ifs with hid
    · subst hid
      exact .inr (.acquire claimantAgentId price hc.owner_ne hc.sender_ne hc.price_ne hc.fits)
    · exact .inl rfl
  | setAvatarURI | setCustomTrait | removeCustomTrait =>
    have he : Edited _ _ := heffect
    refine .inl ?_
    unfold World.token
    rw [he.owners, he.brandings]
    rfl
  | approve | setApprovalForAll | transferFrom | safeTransferFrom => exact heffect.elim

/-- A visit raises an acolyte's nonce exactly when it consumes a consent of the acolyte,
whose token nobody owned. -/
theorem visit_nonces (w : World) (v : Visit T) (acolyte : Address) :
    ((w.visit v).store.nonces acolyte = w.store.nonces acolyte ∧
      ((w.visit v).history (tokenIdBits acolyte)).consents =
        (w.history (tokenIdBits acolyte)).consents) ∨
    w.store.owners (tokenIdBits acolyte) = 0 ∧
      (w.visit v).store.nonces acolyte = w.store.nonces acolyte + 1 ∧
      ∃ consent, ((w.visit v).history (tokenIdBits acolyte)).consents =
        consent :: (w.history (tokenIdBits acolyte)).consents := by
  obtain h | ⟨heffect, h⟩ := visit_cases w v
  · exact .inl (by rw [h]; exact ⟨rfl, rfl⟩)
  rw [h]
  have hkept : v.call.consents = [] →
      (recordCall v.env.timestamp w.store w.history v.call (tokenIdBits acolyte)).consents =
        (w.history (tokenIdBits acolyte)).consents := by
    intro hnone
    unfold recordCall
    split_ifs
    · rw [History.record, hnone]
      rfl
    · rfl
  cases hcall : v.call with rw [hcall] at heffect hkept
  | mintBranding consent signature =>
    have hm : Minted _ _ _ consent signature := heffect
    rw [hm.nonces]
    by_cases hac : acolyte = consent.acolyte
    · subst hac
      exact .inr ⟨hm.unowned, by rw [Function.update_self], consent,
        congrArg History.consents (if_pos rfl)⟩
    · rw [Function.update_of_ne hac]
      exact .inl ⟨rfl, congrArg History.consents
        (if_neg fun h => hac (tokenIdBits_injective (Option.some.inj h).symm))⟩
  | renew target => exact .inl ⟨congrFun (Renewed.nonces heffect) acolyte, hkept rfl⟩
  | setDeclaredPrice target newPrice =>
    exact .inl ⟨congrFun (Repriced.nonces heffect) acolyte, hkept rfl⟩
  | buy => exact .inl ⟨congrFun (Bought.nonces heffect) acolyte, hkept rfl⟩
  | claimUnserved => exact .inl ⟨congrFun (Claimed.nonces heffect) acolyte, hkept rfl⟩
  | setAvatarURI | setCustomTrait | removeCustomTrait =>
    exact .inl ⟨congrFun (Edited.nonces heffect) acolyte, rfl⟩
  | approve | setApprovalForAll | transferFrom | safeTransferFrom => exact heffect.elim

end Visits

/-! ## A deployment to compute with -/

section Sample

/-- A hash that computes, for runs on fixed inputs. -/
@[reducible] def sampleKeccak : Keccak where
  keccak256 bytes := BitVec.ofNat 256 (bytes.foldl (fun n b => n * 257 + b.toNat + 1) 0)

/-- The ABI encoding of one dynamic value. -/
def encodeDynamic (value : Bytes) : Bytes :=
  abiEncode [32, BitVec.ofNat 256 value.length] ++ value ++
    List.replicate ((32 - value.length % 32) % 32) 0

/-- A registry in which agent 7 belongs to `wallet` and serves the protocol. -/
def sampleRegistry (wallet : Address) : RegistryCall → CallResult
  | .getVersion => ⟨true, encodeDynamic (ascii "2.0.0")⟩
  | .getAgentWallet _ => ⟨true, abiEncode [wallet.setWidth 256]⟩
  | .isAuthorizedOrOwner account _ => ⟨true, abiEncode [if account = wallet then 1 else 0]⟩
  | .getMetadata _ key =>
    ⟨true, encodeDynamic (if key = allegianceKey then ascii "uwu-tentacle-v1" else ascii "1")⟩

/-- A call by `sender` at `timestamp` on Base to the contract at 0xC0. Every other account
signs, and every receiver accepts. -/
def sampleEnv (sender : Address) (timestamp : Uint256)
    (transferFrom : T → Address → Address → Uint256 → Option T) : Env T where
  chainId := baseChainId
  timestamp
  sender
  self := 0xC0
  registry _ := sampleRegistry sender
  isValidSignatureNow signer _ _ := signer != 0xC0
  onERC721Received := some
  transferFrom

/-- Acolyte 0xAC consents to the controller 0xB0 at a price of 5000, referred by 0xEF. -/
def sampleConsent : MintConsent where
  acolyte := 0xAC
  minter := 0xB0
  controllerAgentId := 7
  referrer := 0xEF
  initialDeclaredPrice := 5000
  nonce := 0
  deadline := 1000

def sampleMint : Visit Unit where
  env := sampleEnv 0xB0 100 fun _ _ _ _ => some ()
  token := ()
  call := .mintBranding sampleConsent []

end Sample

end Cthuwu.Branding
