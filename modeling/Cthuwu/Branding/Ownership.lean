import Cthuwu.Branding.World

/-!
# Who can become an owner

An existing token changes hands only by a sale while its status is active, on the terms
the buyer named, or by a claim while its status is expired or ineligible. A registry read
that reverts or comes back malformed is neither : `Unreadable` spells out the bytes of the
five reads, and with one of them unreadable no call writes the token
(`registryEligibility_of_unreadable`).
-/

namespace Cthuwu.Branding

variable {T : Type}

/-! ## Unreadable answers -/

/-- A successful call that returned exactly one word. -/
def CallResult.WellFormedWord (result : CallResult) : Prop :=
  result.success = true ∧ result.returndata.length = 32

/-- A successful call that returned one ABI-encoded dynamic value of bounded size : the
offset of the value, its length, and its bytes padded to whole words. -/
def CallResult.WellFormedDynamic (result : CallResult) : Prop :=
  result.success = true ∧ 64 ≤ result.returndata.length ∧ result.returndata.length ≤ 1024 ∧
    wordAt result.returndata 0 = 32 ∧ result.returndata.length =
      64 + ((wordAt result.returndata 32).toNat + 31) / 32 * 32

variable {result : CallResult}

theorem readWord_readable : (readWord result).1 = true ↔ result.WellFormedWord := by
  unfold readWord CallResult.WellFormedWord
  split_ifs with h <;> simp [h]

theorem readWord_value (h : (readWord result).1 = true) :
    (readWord result).2 = wordAt result.returndata 0 :=
  congrArg Prod.snd (if_pos ((readWord_readable).mp h))

/-- Clearing the low five bits rounds down to a whole word. -/
theorem toNat_and_not_31 (x : Uint256) : (x &&& ~~~(31 : Uint256)).toNat = x.toNat / 32 * 32 := by
  have hmask (i : ℕ) : (31 : ℕ).testBit i = decide (i < 5) := Nat.testBit_two_pow_sub_one 5 i
  have hshift : x &&& ~~~(31 : Uint256) = (x >>> 5) <<< 5 := by
    refine BitVec.eq_of_getLsbD_eq fun i hi => ?_
    simp only [BitVec.getLsbD_and, BitVec.getLsbD_not, BitVec.ofNat_eq_ofNat,
      BitVec.getLsbD_ofNat, BitVec.getLsbD_shiftLeft, BitVec.getLsbD_ushiftRight, hmask, hi]
    by_cases h : i < 5
    · simp [h]
    · simp [h, Nat.add_sub_cancel' (not_lt.mp h)]
  have := x.isLt
  rw [hshift, BitVec.toNat_shiftLeft, BitVec.toNat_ushiftRight, Nat.shiftRight_eq_div_pow,
    Nat.shiftLeft_eq]
  omega

/-- A length within a word's range of its end is rounded up without wrapping. -/
theorem toNat_paddedLength {valueLength : Uint256} (h : ¬BitVec.allOnes 256 - 31 < valueLength) :
    ((valueLength + 31) &&& ~~~(31 : Uint256)).toNat = (valueLength.toNat + 31) / 32 * 32 := by
  have hle : valueLength.toNat ≤ 2 ^ 256 - 32 := BitVec.le_def.mp (BitVec.not_lt.mp h)
  rw [toNat_and_not_31, BitVec.toNat_add]
  change (valueLength.toNat + 31) % 2 ^ 256 / 32 * 32 = _
  rw [Nat.mod_eq_of_lt (by omega)]

theorem readDynamicResult_readable [Keccak] :
    (readDynamicResult result).1 = true ↔ result.WellFormedDynamic := by
  unfold readDynamicResult CallResult.WellFormedDynamic maxRegistryDynamicReturnBytes
  generalize wordAt result.returndata 32 = valueLength
  dsimp only
  split_ifs with hsize hhead htail
  · refine iff_of_false (nomatch ·) ?_
    rintro ⟨hsuccess, hmin, hmax, -⟩
    rcases hsize with h | h | h
    · exact h hsuccess
    all_goals omega
  · refine iff_of_false (nomatch ·) ?_
    rintro ⟨-, -, hmax, hoffset, hlength⟩
    rcases hhead with h | h
    · exact h hoffset
    · have hbig : 2 ^ 256 - 32 < valueLength.toNat := BitVec.lt_def.mp h
      omega
  · refine iff_of_false (nomatch ·) ?_
    rintro ⟨-, -, hmax, -, hlength⟩
    have hpadded := toNat_paddedLength (not_or.mp hhead).2
    generalize (valueLength + 31) &&& ~~~(31 : Uint256) = padded at htail hpadded
    rcases htail with h | h
    · have hbig : 2 ^ 256 - 1 - 64 < padded.toNat := BitVec.lt_def.mp h
      omega
    · refine h ?_
      rw [BitVec.toNat_add]
      change _ = (64 + padded.toNat) % 2 ^ 256
      omega
  · have hpadded := toNat_paddedLength (not_or.mp hhead).2
    generalize (valueLength + 31) &&& ~~~(31 : Uint256) = padded at htail hpadded
    obtain ⟨hsuccess, hmin, hmax⟩ : _ ∧ _ ∧ _ := by simpa only [not_or, not_not] using hsize
    obtain ⟨hoffset, -⟩ : _ ∧ _ := by simpa only [not_or, not_not] using hhead
    obtain ⟨hfits, hlength⟩ : _ ∧ _ := by simpa only [not_or, not_not] using htail
    have hfits : padded.toNat ≤ 2 ^ 256 - 1 - 64 := BitVec.le_def.mp (BitVec.not_lt.mp hfits)
    rw [BitVec.toNat_add] at hlength
    change _ = (64 + padded.toNat) % 2 ^ 256 at hlength
    refine iff_of_true rfl ⟨hsuccess, by omega, by omega, hoffset, by omega⟩

section Reads

variable [Keccak]

/-- One of the five reads of an agent's eligibility, the calls `n` to `n + 4`, reverted or
came back malformed. -/
def Unreadable (env : Env T) (n : ℕ) (agentId : Uint256) (wallet : Address) : Prop :=
  let walletRead := env.registry (n + 1) (.getAgentWallet agentId)
  let authorization := env.registry (n + 2) (.isAuthorizedOrOwner wallet agentId)
  ¬(env.registry n .getVersion).WellFormedDynamic ∨
    (¬walletRead.WellFormedWord ∨ 2 ^ 160 ≤ (wordAt walletRead.returndata 0).toNat) ∨
    (¬authorization.WellFormedWord ∨ 2 ≤ (wordAt authorization.returndata 0).toNat) ∨
    ¬(env.registry (n + 3) (.getMetadata agentId allegianceKey)).WellFormedDynamic ∨
    ¬(env.registry (n + 4) (.getMetadata agentId protocolKey)).WellFormedDynamic

/-- An unreadable answer is never taken for ineligibility. -/
theorem registryEligibility_of_unreadable {env : Env T} {n : ℕ} {agentId : Uint256}
    {wallet : Address} (h : Unreadable env n agentId wallet) :
    registryEligibility env n agentId wallet = .unavailable := by
  unfold Unreadable at h
  simp only [← readDynamicResult_readable, ← readWord_readable, Bool.not_eq_true] at h
  unfold registryEligibility
  dsimp only
  split_ifs with hversion hread
  · rfl
  · rfl
  all_goals
    simp only [not_or, Bool.not_eq_false] at hversion hread
    obtain ⟨hwallet, hwide, hauth, hbool, hallegiance, hprotocol⟩ := hread
    rw [readWord_value hwallet] at hwide
    rw [readWord_value hauth] at hbool
    have hwide : (wordAt _ 0).toNat ≤ 2 ^ 160 - 1 := BitVec.le_def.mp (BitVec.not_lt.mp hwide)
    have hbool : (wordAt _ 0).toNat ≤ 1 := BitVec.le_def.mp (BitVec.not_lt.mp hbool)
    rcases h with h | (h | h) | (h | h) | h | h
    · rw [h] at hversion
      exact absurd hversion.1 (by decide)
    · rw [h] at hwallet
      exact absurd hwallet (by decide)
    · omega
    · rw [h] at hauth
      exact absurd hauth (by decide)
    · omega
    · rw [h] at hallegiance
      exact absurd hallegiance (by decide)
    · rw [h] at hprotocol
      exact absurd hprotocol (by decide)

end Reads

/-! ## Changes of hands -/

section Changes

variable [Keccak]

/-- The visit is a successful sale on the buyer's terms while the status is active. -/
def World.SoldAt (w : World) (v : Visit T) (tokenId : Uint256) : Prop :=
  ∃ expectedOwner agentId maximumGrossPrice buyerAgentId price deadline,
    v.call = .buy tokenId expectedOwner agentId maximumGrossPrice buyerAgentId price deadline ∧
    statusOf v.env w.store tokenId = .active ∧
    w.store.owners tokenId = expectedOwner ∧
    (w.store.brandings tokenId).controllerAgentId = agentId ∧
    v.env.timestamp ≤ deadline ∧
    ∃ grossPrice t t',
      grossPrice = effectiveDeclaredPrice v.env.timestamp (w.store.brandings tokenId) ∧
      grossPrice ≤ maximumGrossPrice ∧
      payAll v.env t (salePayments v.env.sender (w.store.owners tokenId)
        (w.store.brandings tokenId).referrer grossPrice) = some t'

/-- The visit is a successful claim while the status is expired or ineligible. -/
def World.ClaimedAt (w : World) (v : Visit T) (tokenId : Uint256) : Prop :=
  ∃ expectedOwner agentId claimantAgentId price deadline,
    v.call = .claimUnserved tokenId expectedOwner agentId claimantAgentId price deadline ∧
    (statusOf v.env w.store tokenId = .expired ∨ statusOf v.env w.store tokenId = .ineligible) ∧
    w.store.owners tokenId = expectedOwner ∧
    (w.store.brandings tokenId).controllerAgentId = agentId ∧
    v.env.timestamp ≤ deadline

variable {tokenId : Uint256}

theorem statusOf_owned {env : Env T} {store : Storage} (h : store.owners tokenId ≠ 0) :
    statusOf env store tokenId =
      statusOfBranding env 0 (store.owners tokenId) (store.brandings tokenId) :=
  if_neg h

/-- Only a sale or a claim writes the owner of an existing token. -/
theorem owner_changes {w : World} {v : Visit T} (howner : w.store.owners tokenId ≠ 0)
    (hchange : (w.visit v).store.owners tokenId ≠ w.store.owners tokenId) :
    w.SoldAt v tokenId ∨ w.ClaimedAt v tokenId := by
  obtain h | ⟨heffect, h⟩ := visit_cases w v
  · rw [h] at hchange
    exact absurd rfl hchange
  rw [h] at hchange
  cases hcall : v.call with rw [hcall] at heffect
  | mintBranding consent signature =>
    have hm : Minted _ _ _ consent signature := heffect
    have hne : tokenId ≠ tokenIdBits consent.acolyte := fun hid => howner (hid ▸ hm.unowned)
    rw [hm.owners, Function.update_of_ne hne] at hchange
    exact absurd rfl hchange
  | renew target => exact absurd (congrFun (Renewed.owners heffect) tokenId) hchange
  | setDeclaredPrice target newPrice =>
    exact absurd (congrFun (Repriced.owners heffect) tokenId) hchange
  | buy target expectedOwner agentId maximum buyerAgentId price deadline =>
    have hb : Bought _ _ _ target expectedOwner agentId maximum buyerAgentId price deadline _ :=
      heffect
    by_cases hid : tokenId = target
    · subst hid
      obtain ⟨t, -, hpay⟩ := hb.paid
      rw [payAll_append, Option.bind_eq_some_iff] at hpay
      obtain ⟨t', hsale, -⟩ := hpay
      exact .inl ⟨_, _, _, _, _, _, hcall, (statusOf_owned howner).trans hb.status, hb.owner,
        hb.agent, hb.timely, _, t, t', rfl, hb.gross_le, hsale⟩
    · rw [hb.owners, Function.update_of_ne hid] at hchange
      exact absurd rfl hchange
  | claimUnserved target expectedOwner agentId claimantAgentId price deadline =>
    have hc : Claimed _ _ _ target expectedOwner agentId claimantAgentId price deadline _ :=
      heffect
    by_cases hid : tokenId = target
    · subst hid
      exact .inr ⟨_, _, _, _, _, hcall, by rw [statusOf_owned howner]; exact hc.status, hc.owner,
        hc.agent, hc.timely⟩
    · rw [hc.owners, Function.update_of_ne hid] at hchange
      exact absurd rfl hchange
  | setAvatarURI | setCustomTrait | removeCustomTrait =>
    exact absurd (congrFun (Edited.owners heffect) tokenId) hchange
  | approve | setApprovalForAll | transferFrom | safeTransferFrom => exact heffect.elim

/-- While the serving agent's registry reads are unavailable, nothing writes the token. -/
theorem frozen_of_unavailable {w : World} {v : Visit T} (howner : w.store.owners tokenId ≠ 0)
    (hread : registryEligibility v.env 0 (w.store.brandings tokenId).controllerAgentId
      (w.store.owners tokenId) = .unavailable) :
    (w.visit v).store.owners tokenId = w.store.owners tokenId ∧
      (w.visit v).store.brandings tokenId = w.store.brandings tokenId := by
  have hstatus : statusOfBranding v.env 0 (w.store.owners tokenId) (w.store.brandings tokenId) =
      .registryUnavailable := if_pos hread
  obtain h | ⟨heffect, h⟩ := visit_cases w v
  · rw [h]
    exact ⟨rfl, rfl⟩
  rw [h]
  cases hcall : v.call with rw [hcall] at heffect
  | mintBranding consent signature =>
    have hm : Minted _ _ _ consent signature := heffect
    have hne : tokenId ≠ tokenIdBits consent.acolyte := fun hid => howner (hid ▸ hm.unowned)
    rw [hm.owners, hm.brandings]
    exact ⟨Function.update_of_ne hne .., Function.update_of_ne hne ..⟩
  | renew target =>
    have hr : Renewed _ _ _ target _ := heffect
    have hne : tokenId ≠ target := by
      rintro rfl
      have heligible := hr.eligible
      rw [← hr.owner] at heligible
      exact nomatch hread.symm.trans heligible
    rw [hr.owners, hr.brandings]
    exact ⟨rfl, Function.update_of_ne hne ..⟩
  | setDeclaredPrice target newPrice =>
    have hr : Repriced _ _ _ target newPrice _ := heffect
    have hne : tokenId ≠ target := by
      rintro rfl
      have heligible := hr.eligible
      rw [← hr.owner] at heligible
      exact nomatch hread.symm.trans heligible
    rw [hr.owners, hr.brandings]
    exact ⟨rfl, Function.update_of_ne hne ..⟩
  | buy target expectedOwner agentId maximum buyerAgentId price deadline =>
    have hb : Bought _ _ _ target expectedOwner agentId maximum buyerAgentId price deadline _ :=
      heffect
    have hne : tokenId ≠ target := by
      rintro rfl
      exact nomatch hstatus.symm.trans hb.status
    rw [hb.owners, hb.brandings]
    exact ⟨Function.update_of_ne hne .., Function.update_of_ne hne ..⟩
  | claimUnserved target expectedOwner agentId claimantAgentId price deadline =>
    have hc : Claimed _ _ _ target expectedOwner agentId claimantAgentId price deadline _ :=
      heffect
    have hne : tokenId ≠ target := by
      rintro rfl
      rcases hc.status with h | h
      · exact nomatch hstatus.symm.trans h
      · exact nomatch hstatus.symm.trans h
    rw [hc.owners, hc.brandings]
    exact ⟨Function.update_of_ne hne .., Function.update_of_ne hne ..⟩
  | setAvatarURI | setCustomTrait | removeCustomTrait =>
    exact ⟨congrFun (Edited.owners heffect) tokenId, congrFun (Edited.brandings heffect) tokenId⟩
  | approve | setApprovalForAll | transferFrom | safeTransferFrom => exact heffect.elim

/-- The approval and transfer functions of ERC-721. -/
def Call.IsErc721 : Call → Prop
  | .approve _ _ | .setApprovalForAll _ _ | .transferFrom _ _ _ | .safeTransferFrom _ _ _ _ =>
    True
  | _ => False

/-- At one time, with one registry, nobody can buy a token that somebody can claim. -/
theorem not_buy_and_claim {w : World} {v₁ v₂ : Visit T}
    (htime : v₁.env.timestamp = v₂.env.timestamp) (hregistry : v₁.env.registry = v₂.env.registry)
    {owner₁ agent₁ maximum buyerAgent price₁ deadline₁}
    (hbuy : v₁.call = .buy tokenId owner₁ agent₁ maximum buyerAgent price₁ deadline₁)
    {owner₂ agent₂ claimantAgent price₂ deadline₂}
    (hclaim : v₂.call = .claimUnserved tokenId owner₂ agent₂ claimantAgent price₂ deadline₂)
    (h₁ : w.Enabled v₁) : ¬w.Enabled v₂ := by
  rintro ⟨tx₂, h₂⟩
  obtain ⟨tx₁, h₁⟩ := h₁
  rw [hbuy] at h₁
  rw [hclaim] at h₂
  have hactive := (buy_ok h₁).status
  have hunserved := (claimUnserved_ok h₂).status
  unfold statusOfBranding registryEligibility at hactive hunserved
  rw [htime, hregistry] at hactive
  rcases hunserved with h | h
  · exact nomatch hactive.symm.trans h
  · exact nomatch hactive.symm.trans h

/-- In any world and at any visit, whatever the registry answers : an existing token
changes hands only by a sale or a claim, and no ERC-721 function succeeds; with one of the
serving agent's reads unreadable the token keeps its owner, agent and terms; and a token
that can be bought cannot be claimed. -/
theorem ownership_safe (w : World) : (∀ (v : Visit T) tokenId, w.store.owners tokenId ≠ 0 →
      (w.visit v).store.owners tokenId ≠ w.store.owners tokenId →
        w.SoldAt v tokenId ∨ w.ClaimedAt v tokenId) ∧
      (∀ v : Visit T, v.call.IsErc721 → (dispatch v.env v.call).run ⟨w.store, v.token, []⟩ =
        .error .transfersDisabled) ∧
      (∀ (v : Visit T) tokenId, w.store.owners tokenId ≠ 0 →
        Unreadable v.env 0 (w.store.brandings tokenId).controllerAgentId (w.store.owners tokenId) →
          (w.visit v).store.owners tokenId = w.store.owners tokenId ∧
            (w.visit v).store.brandings tokenId = w.store.brandings tokenId) ∧
      ∀ (v₁ v₂ : Visit T) tokenId owner₁ agent₁ maximum buyerAgent price₁ deadline₁ owner₂ agent₂
        claimantAgent price₂ deadline₂, v₁.env.timestamp = v₂.env.timestamp →
          v₁.env.registry = v₂.env.registry →
          v₁.call = .buy tokenId owner₁ agent₁ maximum buyerAgent price₁ deadline₁ →
          v₂.call = .claimUnserved tokenId owner₂ agent₂ claimantAgent price₂ deadline₂ →
            ¬(w.Enabled v₁ ∧ w.Enabled v₂) := by
  refine ⟨fun v tokenId => owner_changes, ?_, fun v tokenId howner hread =>
    frozen_of_unavailable howner (registryEligibility_of_unreadable hread), ?_⟩
  · intro v hv
    cases hcall : v.call with rw [hcall] at hv
    | approve | setApprovalForAll | transferFrom | safeTransferFrom => rfl
    | _ => exact hv.elim
  · intro v₁ v₂ _ _ _ _ _ _ _ _ _ _ _ _ htime hregistry hbuy hclaim h
    exact not_buy_and_claim htime hregistry hbuy hclaim h.1 h.2

end Changes

end Cthuwu.Branding
