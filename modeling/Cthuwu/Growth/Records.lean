import Cthuwu.Growth.Valid

/-!
# Writes that keep the snapshot valid

What each write needs so that the snapshot can be saved afterwards. A record may be written when
its time has come, and may move to an inbox which is not its referrer's and in which nobody else
is.
-/

namespace Cthuwu.Growth

open Council TokenEye
open Evolution (u64Max u32Max)

variable [Hashing] {policy : Policy} {s : GrowthSnapshot} {r : ReferralRecord} {inboxId : String}
  {acolyte : Address} {now index : ℕ}

/-! ## Records -/

namespace ReferralRecord

/-- A record without a referrer and without an onboarding is a contact. -/
theorem Valid.isContact (h : r.Valid policy) (hreferrer : r.referrer = none)
    (honboarding : r.onboardingCompletedAtUnix = none) : r.phase = .newContact := by
  have hphase := h.phase
  unfold checkPhase at hphase
  cases hr : r.phase <;> simp_all

/-- Before its onboarding nothing is prepared for a record. -/
theorem Valid.unprepared (h : r.Valid policy) (honboarding : r.onboardingCompletedAtUnix = none) :
    (r.phase = .newContact ∨ r.phase = .attributed) ∧ r.rewardActionId = none ∧
      r.transactionHash = none ∧ r.receipt = none := by
  have hphase := h.phase
  unfold checkPhase at hphase
  cases hr : r.phase <;> simp_all

theorem Valid.prepared (h : r.Valid policy)
    (hphase : r.phase = .rewardPending ∨ r.phase = .submitted) :
    r.referrer ≠ none ∧ r.onboardingCompletedAtUnix ≠ none ∧ r.rewardActionId ≠ none ∧
      r.receipt = none := by
  have hcheck := h.phase
  unfold checkPhase at hcheck
  rcases hphase with hphase | hphase <;> simp_all

theorem checkTransaction_ok : r.checkTransaction = .ok () ↔
    (∀ hash, r.transactionHash = some hash → validateHash hash "transaction hash" = .ok ()) ∧
      (∀ nonce, r.transactionNonce = some nonce →
        validateDecimal nonce "transaction nonce" false = .ok ()) ∧
      r.transactionHash.isSome = r.transactionNonce.isSome ∧
      ∀ receipt, r.receipt = some receipt →
        validateHash receipt.transactionHash "receipt transaction hash" = .ok () ∧
        validateDecimal receipt.transactionNonce "receipt nonce" false = .ok () ∧
        validateDecimal receipt.blockNumber "receipt block" false = .ok () ∧
        validateHash receipt.blockHash "receipt block hash" = .ok () ∧
        r.phase = .confirmed ∧ r.transactionHash = some receipt.transactionHash ∧
          r.transactionNonce = some receipt.transactionNonce := by
  simp only [checkTransaction, except_check_ok, checkSome_ok, failIf_ok, ne_eq, not_not]

/-- The check of a transaction without a receipt reads nothing else. -/
theorem checkTransaction_same {r' : ReferralRecord} (h : r.checkTransaction = .ok ())
    (hreceipt : r.receipt = none) (hsame : r'.transactionHash = r.transactionHash ∧
      r'.transactionNonce = r.transactionNonce ∧ r'.receipt = r.receipt) :
    r'.checkTransaction = .ok () := by
  unfold checkTransaction at h ⊢
  rw [hreceipt] at h hsame
  rwa [hsame.1, hsame.2.1, hsame.2.2]

theorem valid_new (hinbox : validateInbox inboxId = .ok ()) (hacolyte : acolyte ≠ 0) :
    (new policy inboxId acolyte .newContact now).Valid policy where
  inbox := by rwa [new, asciiLower_of_valid hinbox]
  acolyte := hacolyte
  amount := validateDecimal_label policy.reward_valid
  referral := ⟨nofun, rfl, nofun⟩
  action := nofun
  transaction := rfl
  delivery := nofun
  times := le_refl now
  error := nofun
  noticed := rfl
  fingerprint := nofun
  phase := rfl
  policy _ := rfl
  branding := rfl

/-- A valid record in another inbox, which is not its referrer's. -/
theorem ValidReferral.moved (h : r.ValidReferral policy)
    (hreferrer : r.referrerInboxId ≠ some inboxId) {r' : ReferralRecord}
    (hinbox : r'.inboxId = inboxId) (hacolyte : r'.acolyte = r.acolyte)
    (hsame : r'.referrer = r.referrer ∧ r'.referrerInboxId = r.referrerInboxId ∧
      r'.attributedAtUnix = r.attributedAtUnix) : r'.ValidReferral policy := by
  obtain ⟨hreferrer', hinbox', htime⟩ := hsame
  refine ⟨fun referrer href => ?_, ?_, fun inbox hin => ?_⟩
  · rw [hacolyte, htime]
    exact h.referrer referrer (hreferrer' ▸ href)
  · rw [hreferrer', hinbox']
    exact h.bound
  · rw [hinbox'] at hin
    refine ⟨(h.inbox inbox hin).1, fun heq => hreferrer ?_⟩
    rw [hin, heq, hinbox]

theorem ValidReferral.same (h : r.ValidReferral policy) {r' : ReferralRecord}
    (hsame : r'.inboxId = r.inboxId ∧ r'.acolyte = r.acolyte ∧ r'.referrer = r.referrer ∧
      r'.referrerInboxId = r.referrerInboxId ∧ r'.attributedAtUnix = r.attributedAtUnix) :
    r'.ValidReferral policy := by
  obtain ⟨hinbox, hacolyte, hreferrer, hreferrerInbox, htime⟩ := hsame
  refine ⟨?_, ?_, ?_⟩
  · rw [hacolyte, hreferrer, htime]
    exact h.referrer
  · rw [hreferrer, hreferrerInbox]
    exact h.bound
  · rw [hreferrerInbox, hinbox]
    exact h.inbox

theorem valid_rebind (now : ℕ) (h : r.Valid policy) (hinbox : validateInbox inboxId = .ok ())
    (hreferrer : r.referrerInboxId ≠ some inboxId) : (r.rebind inboxId now).Valid policy :=
  { h with
    inbox := by rwa [rebind, asciiLower_of_valid hinbox]
    referral := h.referral.moved hreferrer (asciiLower_of_valid hinbox) rfl ⟨rfl, rfl, rfl⟩
    times := h.times.trans (le_max_left _ _) }

variable {referrer : Address}

theorem valid_follow (h : r.Valid policy) (hinbox : validateInbox inboxId = .ok ()) :
    (r.follow referrer inboxId now).Valid policy := by
  unfold follow
  split_ifs with hfollow
  · obtain ⟨hreferrer, hne⟩ := hfollow
    refine { h with
    referral := ?_
    times := h.times.trans (le_max_left _ _) }
    refine ⟨h.referral.referrer, ?_, fun inbox hin => ?_⟩
    · change r.referrer.isSome = true
      rw [hreferrer]
      rfl
    · obtain rfl := Option.some.inj hin
      exact ⟨hinbox, hne.symm⟩
  · exact h

theorem valid_pin {referrerInboxId : String} (h : r.Valid policy)
    (hinbox : validateInbox inboxId = .ok ())
    (hreferrerInbox : validateInbox referrerInboxId = .ok ()) (hother : referrerInboxId ≠ inboxId)
    (hreferrer : referrer ≠ 0) (hminter : r.acolyte ≠ policy.minter) (hself : r.acolyte ≠ referrer)
    (htreasury : referrer ≠ policy.minter) (hnone : r.referrer = none)
    (honboarding : r.onboardingCompletedAtUnix = none) (htime : r.createdAtUnix ≤ now) :
    (r.pin inboxId referrer referrerInboxId now).Valid policy := by
  have hcontact := h.isContact hnone honboarding
  obtain ⟨-, haction, hhash, hreceipt⟩ := h.unprepared honboarding
  refine { h with
    inbox := ?_
    referral := ?_
    transaction := checkTransaction_same h.transaction hreceipt ⟨rfl, rfl, rfl⟩
    delivery := ?_
    times := htime
    phase := ?_
    policy := ?_ }
  · rwa [pin, asciiLower_of_valid hinbox]
  · refine ⟨fun other heq => ?_, rfl, fun inbox hin => ?_⟩
    · obtain rfl := Option.some.inj heq
      exact ⟨hreferrer, hminter, Ne.symm hself, htreasury, Option.some_ne_none _⟩
    · obtain rfl := Option.some.inj hin
      refine ⟨hreferrerInbox, ?_⟩
      rwa [pin, asciiLower_of_valid hinbox]
  · intro delivery hd
    have hfits := h.delivery delivery hd
    rw [hcontact] at hfits
    unfold PendingDelivery.Fits at hfits
    split at hfits <;> simp at hfits
  · rw [checkPhase, pin]
    simp [honboarding, haction, hhash, hreceipt]
  · exact fun _ => h.policy (by rw [hcontact]; decide)

theorem valid_complete (h : r.Valid policy) (hinbox : validateInbox inboxId = .ok ())
    (hreferrer : r.referrerInboxId ≠ some inboxId)
    (honboarding : r.onboardingCompletedAtUnix = none) (htime : r.createdAtUnix ≤ now)
    (hnow : r.referrer ≠ none → now ≠ u64Max) :
    (r.complete inboxId now).Valid policy := by
  obtain ⟨hphase, haction, hhash, hreceipt⟩ := h.unprepared honboarding
  refine { h with
    inbox := ?_
    referral := ?_
    transaction := checkTransaction_same h.transaction hreceipt ⟨rfl, rfl, rfl⟩
    delivery := ?_
    times := htime
    phase := ?_
    policy := ?_ }
  · rwa [complete, asciiLower_of_valid hinbox]
  · exact h.referral.moved hreferrer (asciiLower_of_valid hinbox) rfl ⟨rfl, rfl, rfl⟩
  · intro delivery hd
    have hfits := h.delivery delivery hd
    unfold PendingDelivery.Fits at hfits
    rcases hphase with hphase | hphase <;> rw [hphase] at hfits <;> split at hfits <;> simp at hfits
  · rw [checkPhase, complete]
    cases hr : r.referrer with
    | none => simp [haction, hhash, hreceipt]
    | some referrer =>
      have hne := hnow (by rw [hr]; simp)
      simp [haction, hhash, hreceipt, hne]
  · refine fun _ => h.policy ?_
    rcases hphase with hphase | hphase <;> rw [hphase] <;> decide

theorem valid_prepare (h : r.Valid policy) (hphase : r.phase = .onboardingComplete)
    (htime : r.createdAtUnix ≤ now) : (r.prepare now).Valid policy := by
  have hcheck := h.phase
  unfold checkPhase at hcheck
  rw [hphase] at hcheck
  simp only [failIf_ok, not_not] at hcheck
  obtain ⟨hreferrer, honboarding, -, hhash, hreceipt, -⟩ := hcheck
  refine { h with
    referral := h.referral.same ⟨rfl, rfl, rfl, rfl, rfl⟩
    action := ?_
    transaction := checkTransaction_same h.transaction hreceipt ⟨rfl, rfl, rfl⟩
    delivery := ?_
    times := htime
    phase := ?_
    policy := ?_ }
  · rintro actionId ⟨⟩
    rfl
  · intro delivery hd
    have hfits := h.delivery delivery hd
    rw [hphase] at hfits
    unfold PendingDelivery.Fits at hfits
    split at hfits <;> simp at hfits
  · rw [checkPhase, prepare]
    simp [hreferrer, honboarding, hhash, hreceipt]
  · exact fun _ => h.policy (by rw [hphase]; decide)

theorem valid_observe {state : DurableBrandingState} (h : r.Valid policy)
    (hinbox : validateInbox inboxId = .ok ()) (hreferrer : r.referrerInboxId ≠ some inboxId) :
    (r.observe inboxId state now).Valid policy :=
  { h with
    inbox := by rwa [observe, asciiLower_of_valid hinbox]
    referral := h.referral.moved hreferrer (asciiLower_of_valid hinbox) rfl ⟨rfl, rfl, rfl⟩
    times := h.times.trans (le_max_left _ _)
    branding := rfl }

theorem valid_deferDue (h : r.Valid policy) (hfits : r.isDue now = true →
    r.phase = .onboardingComplete → saturatingAdd u64Max now retrySeconds ≠ u64Max) :
    (r.deferDue now).Valid policy := by
  unfold deferDue
  split_ifs with hdue
  · refine { h with
    referral := h.referral.same ⟨rfl, rfl, rfl, rfl, rfl⟩
    phase := ?_ }
    have hcheck := h.phase
    have hne := hfits hdue
    unfold checkPhase at hcheck ⊢
    cases hphase : r.phase <;> rw [hphase] at hcheck <;> simp_all
  · exact h

theorem valid_failAttempt {error : String} (h : r.Valid policy)
    (hphase : r.phase = .rewardPending ∨ r.phase = .submitted) (htime : r.createdAtUnix ≤ now)
    (herror : (bounded error 512).utf8ByteSize ≤ maxErrorBytes) :
    (r.failAttempt error now).Valid policy := by
  refine { h with
    referral := h.referral.same ⟨rfl, rfl, rfl, rfl, rfl⟩
    times := htime
    error := ?_
    phase := ?_ }
  · rintro _ ⟨⟩
    exact herror
  · have hcheck := h.phase
    unfold checkPhase at hcheck ⊢
    rcases hphase with hphase | hphase <;> rw [hphase] at hcheck <;> rw [failAttempt, hphase] <;>
      exact hcheck

theorem valid_requireFunding {notice : Option PendingDelivery} (h : r.Valid policy)
    (hphase : r.phase = .rewardPending ∨ r.phase = .submitted) (htime : r.createdAtUnix ≤ now)
    (hhash : r.transactionHash = none) (hnone : r.pendingDelivery = none)
    (hnotice : ∀ delivery, notice = some delivery → delivery.Fits .rewardPending) :
    (r.requireFunding notice now).Valid policy := by
  obtain ⟨hreferrer, honboarding, haction, hreceipt⟩ := h.prepared hphase
  refine { h with
    referral := h.referral.same ⟨rfl, rfl, rfl, rfl, rfl⟩
    transaction := checkTransaction_same h.transaction hreceipt ⟨rfl, rfl, rfl⟩
    delivery := ?_
    times := htime
    error := ?_
    phase := ?_
    policy := ?_ }
  · intro delivery hd
    refine hnotice delivery ?_
    change (notice <|> r.pendingDelivery) = some delivery at hd
    rw [hnone] at hd
    cases notice with
    | none => cases hd
    | some d => exact hd
  · rintro _ ⟨⟩
  · rw [checkPhase, requireFunding]
    simp [hreferrer, honboarding, haction, hhash, hreceipt]
  · exact fun _ => h.policy (by rcases hphase with hphase | hphase <;> rw [hphase] <;> decide)

theorem valid_submit {transactionHash transactionNonce : String} (h : r.Valid policy)
    (hphase : r.phase = .rewardPending ∨ r.phase = .submitted) (htime : r.createdAtUnix ≤ now)
    (hnone : r.pendingDelivery = none)
    (hhash : validateHash transactionHash "submitted hash" = .ok ())
    (hnonce : validateDecimal transactionNonce "submitted nonce" false = .ok ()) :
    (r.submit (some transactionHash) (some transactionNonce) now).Valid policy := by
  obtain ⟨hreferrer, honboarding, haction, hreceipt⟩ := h.prepared hphase
  refine { h with
    referral := h.referral.same ⟨rfl, rfl, rfl, rfl, rfl⟩
    transaction := ?_
    delivery := ?_
    times := htime
    error := ?_
    phase := ?_
    policy := ?_ }
  · refine (checkTransaction_ok).mpr ⟨?_, ?_, rfl,
      fun receipt hr => absurd (hreceipt.symm.trans hr) (by simp)⟩
    · rintro _ ⟨⟩
      exact validateHash_label hhash
    · rintro _ ⟨⟩
      exact validateDecimal_label hnonce
  · exact fun delivery hd => absurd (hnone.symm.trans hd) (by simp)
  · rintro _ ⟨⟩
  · rw [checkPhase, submit]
    simp [hreferrer, honboarding, haction, hreceipt]
  · exact fun _ => h.policy (by rcases hphase with hphase | hphase <;> rw [hphase] <;> decide)

theorem valid_confirm {receipt : RewardReceipt} {delivery : PendingDelivery} (h : r.Valid policy)
    (hphase : r.phase = .rewardPending ∨ r.phase = .submitted) (htime : r.createdAtUnix ≤ now)
    (hhash : validateHash receipt.transactionHash "confirmed hash" = .ok ())
    (hnonce : validateDecimal receipt.transactionNonce "confirmed nonce" false = .ok ())
    (hblock : validateDecimal receipt.blockNumber "confirmed block" false = .ok ())
    (hblockHash : validateHash receipt.blockHash "confirmed block hash" = .ok ())
    (hdelivery : delivery.Fits .confirmed) : (r.confirm receipt delivery now).Valid policy := by
  obtain ⟨hreferrer, honboarding, haction, -⟩ := h.prepared hphase
  refine { h with
    referral := h.referral.same ⟨rfl, rfl, rfl, rfl, rfl⟩
    transaction := ?_
    delivery := ?_
    times := htime
    error := ?_
    phase := ?_
    policy := ?_ }
  · refine (checkTransaction_ok).mpr ⟨?_, ?_, rfl, ?_⟩
    · rintro _ ⟨⟩
      exact validateHash_label hhash
    · rintro _ ⟨⟩
      exact validateDecimal_label hnonce
    · rintro _ ⟨⟩
      exact ⟨validateHash_label hhash, validateDecimal_label hnonce, validateDecimal_label hblock,
        validateHash_label hblockHash, rfl, rfl, rfl⟩
  · rintro _ ⟨⟩
    exact hdelivery
  · rintro _ ⟨⟩
  · rw [checkPhase, confirm]
    simp [hreferrer, honboarding, haction]
  · exact fun hne => absurd rfl hne

theorem valid_delivered (h : r.Valid policy) (hsome : r.pendingDelivery ≠ none) :
    (r.delivered now).Valid policy := by
  obtain ⟨delivery, hdelivery⟩ := Option.ne_none_iff_exists'.mp hsome
  have hfits := h.delivery delivery hdelivery
  unfold PendingDelivery.Fits at hfits
  unfold delivered
  rw [hdelivery]
  cases hfunding : delivery.fundingFingerprint with
  | none =>
    simp only [Option.bind_some, hfunding]
    exact { h with
      referral := h.referral.same ⟨rfl, rfl, rfl, rfl, rfl⟩
      delivery := nofun }
  | some fingerprint =>
    rw [hfunding] at hfits
    simp only [Option.bind_some, hfunding]
    refine { h with
    referral := h.referral.same ⟨rfl, rfl, rfl, rfl, rfl⟩
    delivery := ?_
    noticed := rfl
    fingerprint := ?_
    phase := ?_ }
    · rintro _ ⟨⟩
    · rintro _ ⟨⟩
      exact validateCommitment_label hfits.2.2.1
    · have hphase := h.phase
      have hpending := hfits.2.2.2.2.1
      unfold checkPhase at hphase ⊢
      rw [hpending] at hphase
      simp only [hpending]
      exact hphase

end ReferralRecord

/-! ## Snapshots -/

namespace GrowthSnapshot

/-- What only the time of the last change tells apart is as valid. -/
theorem Valid.stamp (h : s.Valid policy) : (Write.apply policy s (.stamp now)).Valid policy :=
  { h with }

theorem conflict_iff : s.identityConflicts inboxId acolyte = false ↔
    ∀ r ∈ s.records, r.inboxId = asciiLower inboxId → r.acolyte = acolyte := by
  simp only [identityConflicts, List.any_eq_false, Bool.and_eq_true, decide_eq_true_eq, not_and,
    not_not]

theorem Valid.push (h : s.Valid policy) (hr : r.Valid policy)
    (hroom : s.records.length < maxRecords) (hapart : ∀ r' ∈ s.records, r'.Apart r) :
    (s.push r).Valid policy := by
  refine { h with
    room := ?_
    records := ?_
    apart := ?_ }
  · change (s.records ++ [r]).length ≤ maxRecords
    rw [List.length_append, List.length_singleton]
    exact hroom
  · intro r' hr'
    rcases List.mem_append.mp hr' with hr' | hr'
    · exact h.records r' hr'
    · rwa [List.mem_singleton.mp hr']
  · refine List.pairwise_append.mpr ⟨h.apart, List.pairwise_singleton _ _, fun r' hr' x hx => ?_⟩
    rw [List.mem_singleton.mp hx]
    exact hapart r' hr'

variable {f : ReferralRecord → ReferralRecord}

theorem Valid.change (h : s.Valid policy) (hr : s.records[index]? = some r)
    (hvalid : (f r).Valid policy) (hapart : ∀ r' ∈ s.records, r.Apart r' → (f r).Apart r') :
    (s.change index f).Valid policy :=
  { h with
    room := (List.length_modify f s.records index).trans_le h.room
    records := fun r' hr' => (mem_modify hr hr').elim (h.records r') fun heq => heq ▸ hvalid
    apart := pairwise_modify (fun _ _ hxy => hxy.symm) hr hapart h.apart }

/-- A change that leaves the inbox and the acolyte. -/
theorem Valid.change_same (h : s.Valid policy) (hr : s.records[index]? = some r)
    (hvalid : (f r).Valid policy) (hsame : (f r).inboxId = r.inboxId ∧ (f r).acolyte = r.acolyte) :
    (s.change index f).Valid policy :=
  h.change hr hvalid fun _ _ hapart => ⟨hsame.1 ▸ hapart.inbox, hsame.2 ▸ hapart.acolyte⟩

/-- A change that moves the record to an inbox where nobody else is. -/
theorem Valid.change_inbox (h : s.Valid policy) (hr : s.records[index]? = some r)
    (hvalid : (f r).Valid policy) (hinbox : (f r).inboxId = asciiLower inboxId)
    (hacolyte : (f r).acolyte = r.acolyte) (hfree : s.identityConflicts inboxId r.acolyte = false) :
    (s.change index f).Valid policy := by
  refine h.change hr hvalid fun r' hr' hapart => ⟨fun heq => hapart.acolyte ?_, ?_⟩
  · exact ((conflict_iff).mp hfree r' hr' (heq.symm.trans hinbox)).symm
  · rw [hacolyte]
    exact hapart.acolyte

theorem Valid.map (h : s.Valid policy) (hvalid : ∀ r ∈ s.records, (f r).Valid policy)
    (hsame : ∀ r, (f r).inboxId = r.inboxId ∧ (f r).acolyte = r.acolyte) :
    ({ s with records := s.records.map f } : GrowthSnapshot).Valid policy := by
  refine { h with
    room := (List.length_map f).trans_le h.room
    records := ?_
    apart := ?_ }
  · exact List.forall_mem_map.mpr hvalid
  · refine List.pairwise_map.mpr (h.apart.imp fun {r r'} hapart => ⟨?_, ?_⟩)
    · rw [(hsame r).1, (hsame r').1]
      exact hapart.inbox
    · rw [(hsame r).2, (hsame r').2]
      exact hapart.acolyte

theorem follow_same (referrer : Address) (inboxId : String) (now : ℕ) (r : ReferralRecord) :
    (r.follow referrer inboxId now).inboxId = r.inboxId ∧
      (r.follow referrer inboxId now).acolyte = r.acolyte := by
  unfold ReferralRecord.follow
  split_ifs <;> exact ⟨rfl, rfl⟩

/-- A new acolyte is apart from those with a record, in an inbox where nobody else is. -/
theorem apart_of_new {r' : ReferralRecord} (hfree : s.identityConflicts inboxId acolyte = false)
    (hnew : ∀ r ∈ s.records, r.acolyte ≠ acolyte) (hinbox : r'.inboxId = asciiLower inboxId)
    (hacolyte : r'.acolyte = acolyte) : ∀ r ∈ s.records, r.Apart r' := by
  intro r hr
  refine ⟨fun heq => hnew r hr ?_, ?_⟩
  · exact (conflict_iff).mp hfree r hr (heq.trans hinbox)
  · rw [hacolyte]
    exact hnew r hr

theorem nextVariant_lt (variant : ℕ) : nextVariant variant < 3 :=
  Nat.mod_lt _ (by decide)

theorem Valid.refreshPrompt (h : s.Valid policy) : (s.refreshPrompt now).Valid policy :=
  { h with
    variant := nextVariant_lt _
    prompt := nofun }

end GrowthSnapshot

end Cthuwu.Growth
