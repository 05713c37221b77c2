import Cthuwu.Branding.World

/-!
# The token invariant

`PriceOk` couples the declared price, the queued price and the prepaid time of a token;
each way of writing them keeps it, in whatever order the operations come. `TokenOk` adds
the identity its mint consent fixed and the bound of two weeks on prepaid time.
`token_invariant` carries both over every run, with one consent consumed per acolyte.

A token's owner is protected by the price in force : nobody can buy below it. The history
keeps the weeks of upkeep paid, newest first, and `coveringWeek` is the one an instant
falls in. `Covered` says that until prepaid time ends, with no further operation, the
price in force never exceeds the price that instant's week was paid on.

A raise waits for the end of prepaid time, so it is not in force in any week already
paid; a renewal pays for its week on the queued price if that price is in force when the
week starts; and a queued price that a renewal paid on is not raised again
(`RaiseFits`). `TokenStep.covered` is the step lemma for these.
-/

namespace Cthuwu.Branding

variable {T : Type}

/-! ## Prices -/

structure PriceOk (branding : BrandingData) : Prop where
  price_pos : 0 < branding.declaredPrice
  pending_iff : branding.pendingDeclaredPrice = 0 ↔ branding.pendingPriceActivation = 0
  pending_gt : branding.pendingPriceActivation ≠ 0 →
    branding.declaredPrice < branding.pendingDeclaredPrice
  pending_le : branding.pendingPriceActivation ≠ 0 →
    branding.pendingPriceActivation ≤ branding.paidThrough

theorem pos_of_ne_zero {x : Uint256} (h : x ≠ 0) : 0 < x := by
  rw [BitVec.lt_def]
  exact Nat.pos_of_ne_zero fun h' => h (BitVec.eq_of_toNat_eq h')

variable {branding : BrandingData} {timestamp : Uint256}

/-- Without a queued price only the declared one matters. -/
theorem PriceOk.of_settled (hprice : branding.declaredPrice ≠ 0)
    (hpending : branding.pendingDeclaredPrice = 0)
    (hactivation : branding.pendingPriceActivation = 0) : PriceOk branding where
  price_pos := pos_of_ne_zero hprice
  pending_iff := by simp only [hpending, hactivation]
  pending_gt := fun h => absurd hactivation h
  pending_le := fun h => absurd hactivation h

theorem PriceOk.synced (h : PriceOk branding) (timestamp : Uint256) :
    PriceOk (branding.synced timestamp) := by
  unfold BrandingData.synced
  split_ifs with hp
  · exact h
  · have hne := h.pending_iff.not.mpr (not_or.mp hp).1
    exact .of_settled hne rfl rfl

theorem PriceOk.repriced (h : PriceOk branding) {newPrice : Uint256} (hprice : newPrice ≠ 0) :
    PriceOk (branding.repriced timestamp newPrice) := by
  unfold BrandingData.repriced
  split_ifs with hlow hnone
  · exact .of_settled hprice rfl rfl
  all_goals
    obtain ⟨hraise, hprepaid⟩ := not_or.mp hlow
    rw [BitVec.not_le] at hraise hprepaid
  · have hthrough : branding.paidThrough ≠ 0 := by
      rintro h0
      rw [h0, BitVec.lt_def] at hprepaid
      exact absurd hprepaid (Nat.not_lt_zero _)
    exact ⟨h.price_pos, iff_of_false hprice hthrough, fun _ => hraise, fun _ => BitVec.le_refl _⟩
  · exact ⟨h.price_pos, iff_of_false hprice hnone, fun _ => hraise, h.pending_le⟩

/-! ## Prepaid time -/

/-- A renewal adds a week to prepaid time of at most a week. -/
theorem renewalBase_le
    (h : ¬(timestamp < branding.paidThrough ∧ week < branding.paidThrough - timestamp)) :
    branding.paidThrough.toNat ≤ (renewalBase timestamp branding).toNat ∧
      timestamp.toNat ≤ (renewalBase timestamp branding).toNat ∧
      (renewalBase timestamp branding).toNat ≤ timestamp.toNat + 604800 := by
  unfold renewalBase
  split_ifs with hb
  · rw [BitVec.le_def] at hb
    omega
  · rw [BitVec.not_le] at hb
    have hweek : ¬week < branding.paidThrough - timestamp := fun hw => h ⟨hb, hw⟩
    rw [BitVec.lt_def, toNat_sub_of_le (BitVec.le_of_lt hb)] at hweek
    change ¬604800 < _ at hweek
    rw [BitVec.lt_def] at hb
    omega

theorem PriceOk.extended (h : PriceOk branding) {through : Uint256}
    (hle : branding.paidThrough ≤ through) : PriceOk (branding.extended through) where
  price_pos := h.price_pos
  pending_iff := h.pending_iff
  pending_gt := h.pending_gt
  pending_le := fun hne => BitVec.le_trans (h.pending_le hne) hle

theorem PriceOk.renewed {branding : BrandingData} (h : PriceOk branding) {timestamp : Uint256}
    (hearly : ¬(timestamp < branding.paidThrough ∧ week < branding.paidThrough - timestamp))
    (hfits : WeekFits (renewalBase timestamp branding)) :
    PriceOk (branding.renewed timestamp) := by
  refine (h.synced timestamp).extended ?_
  have hbase := (renewalBase_le hearly).1
  rw [synced_paidThrough, BitVec.le_def, toNat_add_week hfits]
  exact hbase.trans (Nat.le_add_right _ _)

/-! ## Tokens -/

/-- The invariant of an existing token : its identity is that of the one consent consumed
for it, and nobody has prepaid more than two weeks past the last operation. -/
structure TokenOk (tokenId : Uint256) (k : Token) : Prop where
  acolyte : k.branding.acolyte = addressBits tokenId
  acolyte_ne : k.branding.acolyte ≠ 0
  referrer_ne : k.branding.referrer ≠ 0
  consent : ∃ consent, k.history.consents = [consent] ∧ tokenIdBits consent.acolyte = tokenId ∧
    k.branding.acolyte = consent.acolyte ∧ k.branding.referrer = consent.referrer
  prices : PriceOk k.branding
  paidThrough : k.branding.paidThrough.toNat ≤ k.history.lastOp.toNat + 2 * 604800

/-- The invariant of any token ID. -/
structure TokenInv (clock tokenId : Uint256) (k : Token) : Prop where
  lastOp : k.history.lastOp ≤ clock
  unowned : k.owner = 0 → k.history.consents = []
  owned : k.owner ≠ 0 → TokenOk tokenId k

/-- Rewriting the market terms keeps the identity. -/
theorem TokenOk.of_identity {tokenId : Uint256} {k k' : Token} (h : TokenOk tokenId k)
    (hacolyte : k'.branding.acolyte = k.branding.acolyte)
    (hreferrer : k'.branding.referrer = k.branding.referrer)
    (hconsents : k'.history.consents = k.history.consents) (hprices : PriceOk k'.branding)
    (hthrough : k'.branding.paidThrough.toNat ≤ k'.history.lastOp.toNat + 2 * 604800) :
    TokenOk tokenId k' where
  acolyte := hacolyte.trans h.acolyte
  acolyte_ne := hacolyte ▸ h.acolyte_ne
  referrer_ne := hreferrer ▸ h.referrer_ne
  consent := by rw [hacolyte, hreferrer, hconsents]; exact h.consent
  prices := hprices
  paidThrough := hthrough

theorem TokenStep.tokenInv {env : Env T} {clock tokenId : Uint256} {k k' : Token}
    (hs : TokenStep env tokenId k k') (hk : TokenInv clock tokenId k)
    (hclock : clock ≤ env.timestamp) : TokenInv env.timestamp tokenId k' := by
  have hlast : k.history.lastOp.toNat ≤ env.timestamp.toNat :=
    BitVec.le_def.mp (BitVec.le_trans hk.lastOp hclock)
  cases hs with
  | mint consent hid hsigned hunowned hsender hacolyte hreferrer hprice hfits =>
    refine ⟨BitVec.le_refl _, fun h => absurd h hsender, fun _ => ?_⟩
    have hnone := hk.unowned hunowned
    exact {
      acolyte := by rw [← hid, addressBits_tokenIdBits]; rfl
      acolyte_ne := hacolyte
      referrer_ne := hreferrer
      consent := ⟨consent, by rw [History.record, hnone]; rfl, hid, rfl, rfl⟩
      prices := .of_settled hprice rfl rfl
      paidThrough := by
        change (env.timestamp + week).toNat ≤ env.timestamp.toNat + _
        rw [toNat_add_week hfits]
        omega }
  | renew howner hearly hfits =>
    refine ⟨BitVec.le_refl _, fun h => absurd h howner, fun _ => ?_⟩
    have hok := hk.owned howner
    refine hok.of_identity (renewed_acolyte env.timestamp k.branding)
      (renewed_referrer env.timestamp k.branding) rfl
      (hok.prices.renewed hearly hfits) ?_
    have hbase := (renewalBase_le hearly).2.2
    change (renewalBase env.timestamp k.branding + week).toNat ≤ env.timestamp.toNat + _
    rw [toNat_add_week hfits]
    omega
  | reprice newPrice howner hprice hraise =>
    refine ⟨BitVec.le_refl _, fun h => absurd h howner, fun _ => ?_⟩
    have hok := hk.owned howner
    refine hok.of_identity ?_ ?_ rfl ((hok.prices.synced env.timestamp).repriced hprice) ?_
    · simp only [repriced_acolyte, synced_acolyte]
    · simp only [repriced_referrer, synced_referrer]
    · have := hok.paidThrough
      simp only [repriced_paidThrough, synced_paidThrough, History.record]
      omega
  | acquire agentId price howner hsender hprice hfits =>
    refine ⟨BitVec.le_refl _, fun h => absurd h hsender, fun _ => ?_⟩
    refine (hk.owned howner).of_identity rfl rfl rfl (.of_settled hprice rfl rfl) ?_
    change (env.timestamp + week).toNat ≤ env.timestamp.toNat + _
    rw [toNat_add_week hfits]
    omega

/-! ## Runs -/

section Runs

variable [Keccak]

theorem Reachable.tokenInv {w : World} (h : (machine T).Reachable w) (tokenId : Uint256) :
    TokenInv w.clock tokenId (w.token tokenId) := by
  refine h.invariant (P := fun w => TokenInv w.clock tokenId (w.token tokenId))
    ⟨BitVec.le_refl _, fun _ => rfl, fun h => absurd rfl h⟩ ?_
  intro w v _ hw hclock
  change TokenInv (w.visit v).clock tokenId ((w.visit v).token tokenId)
  rw [visit_clock]
  obtain hidle | hstep := visit_token w v tokenId
  · rw [hidle]
    exact ⟨BitVec.le_trans hw.lastOp hclock, hw.unowned, hw.owned⟩
  · exact hstep.tokenInv hw hclock

/-- An acolyte's nonce counts the consents consumed. -/
theorem Reachable.nonce {w : World} (h : (machine T).Reachable w) (acolyte : Address) :
    w.store.nonces acolyte =
      if (w.history (tokenIdBits acolyte)).consents = [] then 0 else 1 := by
  induction h with
  | init => rfl
  | @next w v h hv ih =>
    change (w.visit v).store.nonces acolyte =
      if ((w.visit v).history (tokenIdBits acolyte)).consents = [] then 0 else 1
    obtain ⟨hnonce, hconsents⟩ | ⟨hunowned, hnonce, consent, hconsents⟩ := visit_nonces w v acolyte
    · rw [hnonce, hconsents, ih]
    · have hnone : (w.history (tokenIdBits acolyte)).consents = [] :=
        (Reachable.tokenInv h (tokenIdBits acolyte)).unowned hunowned
      rw [hnonce, hconsents, ih, if_pos hnone, if_neg (List.cons_ne_nil _ _)]
      rfl

/-- In every run, whatever the senders, the registry and the payment token do : an owned
token keeps the identity of its one mint consent, a positive price below any queued one,
and at most two prepaid weeks past its last operation; and no acolyte's consent is
consumed twice. -/
theorem token_invariant {w : World} (h : (machine T).Reachable w) :
    (∀ tokenId, w.store.owners tokenId ≠ 0 → TokenOk tokenId (w.token tokenId)) ∧
      (∀ acolyte, w.store.nonces acolyte =
        if (w.history (tokenIdBits acolyte)).consents = [] then 0 else 1) ∧
      ∀ tokenId, (w.history tokenId).consents.length ≤ 1 ∧
        ∀ consent ∈ (w.history tokenId).consents, tokenIdBits consent.acolyte = tokenId := by
  refine ⟨fun tokenId => (Reachable.tokenInv h tokenId).owned, Reachable.nonce h, fun tokenId => ?_⟩
  have hinv := Reachable.tokenInv h tokenId
  by_cases howner : (w.token tokenId).owner = 0
  · have hnone : (w.history tokenId).consents = [] := hinv.unowned howner
    simp [hnone]
  · obtain ⟨consent, hone, hid, -, -⟩ := (hinv.owned howner).consent
    have hone : (w.history tokenId).consents = [consent] := hone
    simp [hone, hid]

end Runs

attribute [local instance] sampleKeccak in
theorem sampleMint_run : (World.init.visit sampleMint).store.owners 0xAC ≠ 0 ∧
    (World.init.visit sampleMint).store.nonces 0xAC = 1 ∧
    (World.init.visit sampleMint).clock ≤ 86500 ∧
    86500 < ((World.init.visit sampleMint).store.brandings 0xAC).paidThrough := by
  decide +kernel

attribute [local instance] sampleKeccak in
/-- After one mint the token 0xAC is owned and its acolyte's nonce is spent. -/
theorem token_invariant_sample : TokenOk 0xAC ((World.init.visit sampleMint).token 0xAC) ∧
    (World.init.visit sampleMint).store.nonces 0xAC = 1 := by
  have h := reachable_visit reachable_init sampleMint (by decide)
  exact ⟨(token_invariant h).1 0xAC sampleMint_run.1, sampleMint_run.2.1⟩

end Cthuwu.Branding

/-! ## Nobody holds a price above the one upkeep was paid on -/

namespace Cthuwu.Branding

variable {T : Type}

/-- The instant falls in the week. -/
def PaidWeek.Covers (week : PaidWeek) (t : Uint256) : Prop :=
  week.start ≤ t ∧ t < week.through

instance (week : PaidWeek) (t : Uint256) : Decidable (week.Covers t) :=
  inferInstanceAs (Decidable (_ ∧ _))

/-- The newest paid week an instant falls in. -/
def History.coveringWeek (history : History) (t : Uint256) : Option PaidWeek :=
  history.paid.find? (·.Covers t)

/-- From `clock` to the end of prepaid time the price in force is one upkeep was paid on. -/
def Covered (clock : Uint256) (k : Token) : Prop :=
  ∀ t, clock ≤ t → t < k.branding.paidThrough → ∃ week, k.history.coveringWeek t = some week ∧
      effectiveDeclaredPrice t k.branding ≤ week.price

theorem Covered.mono {clock clock' : Uint256} {k : Token} (h : Covered clock k)
    (hclock : clock ≤ clock') : Covered clock' k :=
  fun t ht => h t (BitVec.le_trans hclock ht)

variable {timestamp t : Uint256} {consents : List MintConsent} {branding : BrandingData}

theorem coveringWeek_record_of_covers {history : History} {week : PaidWeek} (h : week.Covers t) :
    (history.record timestamp consents [week]).coveringWeek t = some week :=
  List.find?_cons_of_pos (by simpa using h)

theorem coveringWeek_record_of_not_covers {history : History} {week : PaidWeek} (h : ¬week.Covers t)
    : (history.record timestamp consents [week]).coveringWeek t = history.coveringWeek t :=
  List.find?_cons_of_neg (by simpa using h)

/-! ## The price in force -/

theorem effectiveDeclaredPrice_of_settled (h : branding.pendingPriceActivation = 0) :
    effectiveDeclaredPrice t branding = branding.declaredPrice :=
  if_neg fun hp => hp.1 h

/-- Syncing does not change the price in force from then on. -/
theorem effectiveDeclaredPrice_synced (branding : BrandingData) (ht : timestamp ≤ t) :
    effectiveDeclaredPrice t (branding.synced timestamp) = effectiveDeclaredPrice t branding := by
  unfold BrandingData.synced
  split_ifs with hp
  · rfl
  · obtain ⟨hne, hdue⟩ := not_or.mp hp
    rw [effectiveDeclaredPrice_of_settled rfl, effectiveDeclaredPrice,
      if_pos ⟨hne, BitVec.le_trans (BitVec.not_lt.mp hdue) ht⟩]

theorem effectiveDeclaredPrice_extended (paidThrough t : Uint256) (branding : BrandingData) :
    effectiveDeclaredPrice t (branding.extended paidThrough) =
      effectiveDeclaredPrice t branding := rfl

theorem effectiveDeclaredPrice_renewed (timestamp t : Uint256) (branding : BrandingData) :
    effectiveDeclaredPrice t (branding.renewed timestamp) =
      effectiveDeclaredPrice t (branding.synced timestamp) := by
  rw [BrandingData.renewed, effectiveDeclaredPrice_extended]

/-- A queued price only raises. -/
theorem PriceOk.declaredPrice_le (h : PriceOk branding) (t : Uint256) :
    branding.declaredPrice ≤ effectiveDeclaredPrice t branding := by
  unfold effectiveDeclaredPrice
  split_ifs with hp
  · exact BitVec.le_of_lt (h.pending_gt hp.1)
  · exact BitVec.le_refl _

/-- The price a renewal pays on bounds the price in force at any instant, once prepaid
time up to the new week has been paid. -/
theorem PriceOk.effectiveDeclaredPrice_le (h : PriceOk branding) {base : Uint256}
    (hbase : branding.paidThrough ≤ base) (t : Uint256) :
    effectiveDeclaredPrice t branding ≤ renewalPrice base branding := by
  unfold effectiveDeclaredPrice renewalPrice
  by_cases hne : branding.pendingPriceActivation = 0
  · rw [if_neg fun hp => hp.1 hne, if_neg fun hp => hp.1 hne]
    exact BitVec.le_refl _
  · rw [if_pos (c := _ ∧ branding.pendingPriceActivation ≤ base)
      ⟨hne, BitVec.le_trans (h.pending_le hne) hbase⟩]
    split_ifs
    · exact BitVec.le_refl _
    · exact BitVec.le_of_lt (h.pending_gt hne)

/-- Declaring a price puts no higher one in force before prepaid time ends. -/
theorem PriceOk.repriced_le (h : PriceOk branding) {newPrice : Uint256}
    (hraise : branding.RaiseFits timestamp newPrice) (ht : timestamp ≤ t)
    (hprepaid : t < branding.paidThrough) :
    effectiveDeclaredPrice t (branding.repriced timestamp newPrice) ≤
      effectiveDeclaredPrice t branding := by
  unfold BrandingData.repriced
  split_ifs with hlow hnone
  · obtain hlow | hover := hlow
    · rw [effectiveDeclaredPrice_of_settled rfl]
      exact BitVec.le_trans hlow (h.declaredPrice_le t)
    · exact absurd (BitVec.le_trans hover ht) (BitVec.not_le.mpr hprepaid)
  · -- a fresh raise starts when prepaid time ends
    rw [effectiveDeclaredPrice, if_neg fun hp => BitVec.not_le.mpr hprepaid hp.2]
    exact h.declaredPrice_le t
  · obtain hlow' | hlock := hraise
    · exact absurd hlow' hlow
    unfold effectiveDeclaredPrice
    split_ifs with hp
    · have hbefore : branding.pendingPriceActivation < branding.paidThrough :=
        BitVec.lt_def.mpr (lt_of_le_of_lt (BitVec.le_def.mp hp.2) (BitVec.lt_def.mp hprepaid))
      exact BitVec.not_lt.mp fun hlt => hlock ⟨hnone, hbefore, hlt⟩
    · exact BitVec.le_refl _

/-! ## Steps and runs -/

theorem TokenStep.covered {env : Env T} {clock tokenId : Uint256} {k k' : Token}
    (hs : TokenStep env tokenId k k') (hk : TokenInv clock tokenId k)
    (hclock : clock ≤ env.timestamp) (hcov : k.owner ≠ 0 → Covered clock k) :
    Covered env.timestamp k' := by
  intro t ht hprepaid
  cases hs with
  | mint consent hid hsigned hunowned hsender hacolyte hreferrer hprice hfits =>
    refine ⟨_, coveringWeek_record_of_covers ⟨ht, hprepaid⟩, ?_⟩
    rw [effectiveDeclaredPrice_of_settled rfl]
    exact BitVec.le_refl _
  | renew howner hearly hfits =>
    change t < renewalBase env.timestamp k.branding + week at hprepaid
    have hprices := (hk.owned howner).prices.synced env.timestamp
    by_cases hnew : renewalBase env.timestamp k.branding ≤ t
    · refine ⟨_, coveringWeek_record_of_covers ⟨hnew, hprepaid⟩, ?_⟩
      have hbase := (renewalBase_le hearly).1
      rw [← BitVec.le_def, ← synced_paidThrough env.timestamp] at hbase
      rw [effectiveDeclaredPrice_renewed]
      exact hprices.effectiveDeclaredPrice_le hbase t
    · -- before the new week starts, the old prepaid time has not ended
      have hold : t < k.branding.paidThrough := by
        rw [renewalBase] at hnew
        split_ifs at hnew with hb
        · exact absurd ht hnew
        · exact BitVec.not_le.mp hnew
      obtain ⟨paid, hfind, hle⟩ := (hcov howner).mono hclock t ht hold
      refine ⟨paid, (coveringWeek_record_of_not_covers fun h => hnew h.1).trans hfind, ?_⟩
      rw [effectiveDeclaredPrice_renewed, effectiveDeclaredPrice_synced k.branding ht]
      exact hle
  | reprice newPrice howner hprice hraise =>
    have hprices := (hk.owned howner).prices.synced env.timestamp
    rw [repriced_paidThrough, synced_paidThrough] at hprepaid
    obtain ⟨paid, hfind, hle⟩ := (hcov howner).mono hclock t ht hprepaid
    refine ⟨paid, hfind, ?_⟩
    rw [← effectiveDeclaredPrice_synced k.branding ht] at hle
    refine BitVec.le_trans (hprices.repriced_le hraise ht ?_) hle
    rw [synced_paidThrough]
    exact hprepaid
  | acquire agentId price howner hsender hprice hfits =>
    refine ⟨_, coveringWeek_record_of_covers ⟨ht, hprepaid⟩, ?_⟩
    rw [effectiveDeclaredPrice_of_settled rfl]
    exact BitVec.le_refl _

section Runs

variable [Keccak]

theorem Reachable.covered {w : World} (h : (machine T).Reachable w) {tokenId : Uint256} :
    w.store.owners tokenId ≠ 0 → Covered w.clock (w.token tokenId) := by
  induction h with
  | init => exact fun howner => absurd rfl howner
  | @next w v h hv ih =>
    intro howner
    change Covered (w.visit v).clock ((w.visit v).token tokenId)
    rw [visit_clock]
    obtain hidle | hstep := visit_token w v tokenId
    · rw [hidle]
      have : (w.visit v).store.owners tokenId = w.store.owners tokenId :=
        congrArg Token.owner hidle
      exact (ih (this ▸ howner)).mono hv
    · exact hstep.covered (Reachable.tokenInv h tokenId) hv ih

/-- The payments of `upkeep` for a token end the visit. -/
def World.PaysUpkeep (w : World) (v : Visit T) (tokenId upkeep : Uint256) : Prop :=
  ∃ t, payAll v.env t (upkeepPayments v.env.sender
    ((w.visit v).store.brandings tokenId).acolyte ((w.visit v).store.brandings tokenId).referrer
      upkeep) = some (w.outcome v).token

/-- A week enters the history only with its upkeep. -/
theorem visit_paid (w : World) (v : Visit T) (tokenId : Uint256) :
    ((w.visit v).history tokenId).paid = (w.history tokenId).paid ∨
      ∃ week, ((w.visit v).history tokenId).paid = week :: (w.history tokenId).paid ∧
        w.PaysUpkeep v tokenId (upkeepOf week.price) := by
  unfold World.PaysUpkeep
  obtain h | ⟨heffect, h⟩ := visit_cases w v
  · exact .inl (by rw [h])
  rw [h]
  cases hcall : v.call with rw [hcall] at heffect
  | mintBranding consent signature =>
    have hm : Minted _ _ _ consent signature := heffect
    by_cases hid : tokenId = tokenIdBits consent.acolyte
    · subst hid
      obtain ⟨t, -, hpay⟩ := hm.paid
      refine .inr ⟨_, congrArg History.paid (if_pos rfl), t, ?_⟩
      rw [hm.brandings, Function.update_self]
      exact hpay
    · exact .inl (congrArg History.paid (if_neg fun h => hid (Option.some.inj h).symm))
  | renew target =>
    have hr : Renewed _ _ _ target _ := heffect
    by_cases hid : tokenId = target
    · subst hid
      refine .inr ⟨_, congrArg History.paid (if_pos rfl), v.token, ?_⟩
      rw [hr.brandings, Function.update_self, renewed_acolyte, renewed_referrer]
      exact hr.paid
    · exact .inl (congrArg History.paid (if_neg fun h => hid (Option.some.inj h).symm))
  | setDeclaredPrice target newPrice =>
    refine .inl ?_
    by_cases hid : tokenId = target
    · subst hid
      have hrecord : recordCall v.env.timestamp w.store w.history
          (.setDeclaredPrice tokenId newPrice) tokenId =
            (w.history tokenId).record v.env.timestamp [] [] := if_pos rfl
      exact (congrArg History.paid hrecord).trans (List.nil_append _)
    · exact congrArg History.paid (if_neg fun h => hid (Option.some.inj h).symm)
  | buy target expectedOwner agentId maximum buyerAgentId price deadline =>
    have hb : Bought _ _ _ target expectedOwner agentId maximum buyerAgentId price deadline _ :=
      heffect
    by_cases hid : tokenId = target
    · subst hid
      obtain ⟨t, -, hpay⟩ := hb.paid
      rw [payAll_append, Option.bind_eq_some_iff] at hpay
      obtain ⟨t', -, hpay⟩ := hpay
      refine .inr ⟨_, congrArg History.paid (if_pos rfl), t', ?_⟩
      rw [hb.brandings, Function.update_self]
      exact hpay
    · exact .inl (congrArg History.paid (if_neg fun h => hid (Option.some.inj h).symm))
  | claimUnserved target expectedOwner agentId claimantAgentId price deadline =>
    have hc : Claimed _ _ _ target expectedOwner agentId claimantAgentId price deadline _ :=
      heffect
    by_cases hid : tokenId = target
    · subst hid
      obtain ⟨t, -, hpay⟩ := hc.paid
      refine .inr ⟨_, congrArg History.paid (if_pos rfl), t, ?_⟩
      rw [hc.brandings, Function.update_self]
      exact hpay
    · exact .inl (congrArg History.paid (if_neg fun h => hid (Option.some.inj h).symm))
  | setAvatarURI | setCustomTrait | removeCustomTrait => exact .inl rfl
  | approve | setApprovalForAll | transferFrom | safeTransferFrom => exact heffect.elim

/-- In every run, at every instant until an owned token's prepaid time ends, the price in
force is at most the price that instant's week of upkeep was paid on; and every week in
the history entered it with the payment of that price's upkeep. -/
theorem price_covered {w : World} (h : (machine T).Reachable w) :
    (∀ tokenId, w.store.owners tokenId ≠ 0 → ∀ t, w.clock ≤ t →
      t < (w.store.brandings tokenId).paidThrough →
        ∃ week, (w.history tokenId).coveringWeek t = some week ∧
          effectiveDeclaredPrice t (w.store.brandings tokenId) ≤ week.price) ∧
      ∀ (v : Visit T) tokenId, ((w.visit v).history tokenId).paid = (w.history tokenId).paid ∨
        ∃ week, ((w.visit v).history tokenId).paid = week :: (w.history tokenId).paid ∧
          w.PaysUpkeep v tokenId (upkeepOf week.price) :=
  ⟨fun _ howner => Reachable.covered h howner, visit_paid w⟩

end Runs

attribute [local instance] sampleKeccak in
/-- A day after the sample mint its week is the one of 5000. -/
theorem price_covered_sample : ∃ week,
    ((World.init.visit sampleMint).history 0xAC).coveringWeek 86500 = some week ∧
      effectiveDeclaredPrice 86500 ((World.init.visit sampleMint).store.brandings 0xAC) ≤
        week.price :=
  (price_covered (reachable_visit reachable_init sampleMint (by decide))).1 0xAC
    sampleMint_run.1 86500 sampleMint_run.2.2.1 sampleMint_run.2.2.2

end Cthuwu.Branding
