import Cthuwu.Growth.Runtime
import Cthuwu.Lib.Batch

/-!
# Valid snapshots

`validateSnapshot` read as a conjunction (`validateSnapshot_ok`) : each record and each operator is
valid for itself, and no two share an inbox or an address. A changed record keeps the snapshot
valid when it is valid itself and its inbox is nobody else's (`GrowthSnapshot.Valid.change`).
-/

namespace Cthuwu.Growth

open Council TokenEye
open Evolution (u64Max u32Max)

/-! ## Texts -/

theorem checkSome_ok {α : Type} {value : Option α} {check : α → Except String Unit} :
    checkSome value check = .ok () ↔ ∀ a, value = some a → check a = .ok () := by
  cases value <;> simp [checkSome]

variable {value label label' : String}

theorem validateInbox_ok : validateInbox value = .ok () ↔
    value.utf8ByteSize = 64 ∧ value.toList.all isHexDigit = true ∧ value = asciiLower value := by
  rw [validateInbox, failIf_ok, not_not]

theorem asciiLower_of_valid (h : validateInbox value = .ok ()) : asciiLower value = value :=
  ((validateInbox_ok).mp h).2.2.symm

theorem asciiLower_addressText (address : Address) :
    asciiLower (addressText address) = addressText address := by
  have hdigits : (addressDigits address).map Char.toLower = addressDigits address := by
    refine (List.map_congr_left fun c hc => ?_).trans (List.map_id _)
    exact of_mem_hexOf (p := fun c => c.toLower = c) (by decide) hc
  have hstart : addressStart.toList.map Char.toLower = addressStart.toList := by decide
  refine String.toList_injective ?_
  rw [asciiLower, addressText, String.toList_ofList, String.toList_append, String.toList_ofList,
    List.map_append, hdigits, hstart]

theorem parseNonzeroAddress_ok {address : Address} : parseNonzeroAddress value label = .ok address ↔
      parseAddress (asciiLower value) = some address ∧ address ≠ 0 := by
  simp only [parseNonzeroAddress, except_bind_ok, okOr_ok, failIf_ok, exists_unit, except_pure_ok]
  constructor
  · rintro ⟨_, hparse, hne, rfl⟩
    exact ⟨hparse, hne⟩
  · rintro ⟨hparse, hne⟩
    exact ⟨address, hparse, hne, rfl⟩

theorem validateDecimal_size {positive : Bool} (h : validateDecimal value label positive = .ok ()) :
    value.utf8ByteSize ≤ 78 := by
  simp only [validateDecimal, except_check_ok, failIf_ok, not_not] at h
  exact h.1.2.1

theorem validateDecimal_label {positive : Bool} (h : validateDecimal value label positive = .ok ())
    : validateDecimal value label' positive = .ok () := by
  simp only [validateDecimal, except_check_ok, failIf_ok] at h ⊢
  exact h

theorem validateHash_label (h : validateHash value label = .ok ()) :
    validateHash value label' = .ok () := by
  simp only [validateHash, failIf_ok] at h ⊢
  exact h

theorem validateCommitment_label (h : validateCommitment value label = .ok ()) :
    validateCommitment value label' = .ok () := by
  simp only [validateCommitment, failIf_ok] at h ⊢
  exact h

section Valid

variable [Hashing] {policy : Policy}

theorem validateCommitment_commitment (kind text label : String) :
    validateCommitment (commitment kind text) label = .ok () := by
  have hhex : Evolution.isHexOf 64 (commitment kind text) = true := Evolution.isHexOf_hexText _
  simp only [Evolution.isHexOf, Bool.and_eq_true, decide_eq_true_eq, List.all_eq_true] at hhex
  have hdigits : ∀ c : Char, isLowerHex c = true →
      c.utf8Size = 1 ∧ (isHexDigit c && !c.isUpper) = true := by
    intro c hc
    have hcode : 48 ≤ c.toNat ∧ c.toNat ≤ 57 ∨ 97 ≤ c.toNat ∧ c.toNat ≤ 102 := by
      simp only [isLowerHex, Char.isDigit, Bool.or_eq_true, Bool.and_eq_true, decide_eq_true_eq,
        ge_iff_le, Char.le_def, UInt32.le_iff_toNat_le] at hc
      exact hc
    constructor
    · unfold Char.utf8Size
      rw [if_pos]
      rw [UInt32.le_iff_toNat_le]
      change c.toNat ≤ 127
      omega
    · delta Char.isUpper
      simp only [isHexDigit, Char.isDigit, Bool.or_eq_true, Bool.and_eq_true,
        decide_eq_true_eq, ge_iff_le, Char.le_def, UInt32.le_iff_toNat_le, Bool.not_eq_true',
        decide_eq_false_iff_not]
      change ((48 ≤ c.toNat ∧ c.toNat ≤ 57 ∨ 97 ≤ c.toNat ∧ c.toNat ≤ 102) ∨
        65 ≤ c.toNat ∧ c.toNat ≤ 70) ∧ ¬(65 ≤ c.toNat ∧ c.toNat ≤ 90)
      omega
  rw [validateCommitment, failIf_ok, not_not]
  refine ⟨?_, List.all_eq_true.mpr fun c hc => (hdigits c (hhex.2 c hc)).2⟩
  rw [← String.ofList_toList (s := commitment kind text),
    utf8ByteSize_ofList fun c hc => (hdigits c (hhex.2 c hc)).1]
  exact hhex.1

/-! ## Records -/

/-- What a valid record says about its referrer. -/
structure ReferralRecord.ValidReferral (policy : Policy) (r : ReferralRecord) : Prop where
  referrer : ∀ referrer, r.referrer = some referrer → referrer ≠ 0 ∧ r.acolyte ≠ policy.minter ∧
    referrer ≠ r.acolyte ∧ referrer ≠ policy.minter ∧ r.attributedAtUnix ≠ none
  bound : r.referrer.isSome = r.referrerInboxId.isSome
  inbox : ∀ inboxId, r.referrerInboxId = some inboxId →
    validateInbox inboxId = .ok () ∧ inboxId ≠ r.inboxId

/-- A delivery of a record in some phase. -/
def PendingDelivery.Fits (phase : ReferralRewardPhase) (delivery : PendingDelivery) : Prop :=
  delivery.text ≠ "" ∧ delivery.text.utf8ByteSize ≤ maxDeliveryBytes ∧
    match delivery.fundingFingerprint with
    | some fingerprint => validateCommitment fingerprint "funding fingerprint" = .ok () ∧
        delivery.target = .operators ∧ phase = .rewardPending ∧
        delivery.commitment = Growth.commitment "reward-funding" delivery.text
    | none => delivery.target = .referrerInbox ∧ phase = .confirmed ∧
        delivery.commitment = Growth.commitment "reward-confirmed" delivery.text

structure ReferralRecord.Valid (policy : Policy) (r : ReferralRecord) : Prop where
  inbox : validateInbox r.inboxId = .ok ()
  acolyte : r.acolyte ≠ 0
  amount : validateDecimal r.rewardAmountBaseUnits "persisted reward" true = .ok ()
  referral : r.ValidReferral policy
  action : ∀ actionId, r.rewardActionId = some actionId → actionId = Growth.rewardActionId r.acolyte
  transaction : r.checkTransaction = .ok ()
  delivery : ∀ delivery, r.pendingDelivery = some delivery → delivery.Fits r.phase
  times : r.createdAtUnix ≤ r.updatedAtUnix
  error : ∀ error, r.lastError = some error → error.utf8ByteSize ≤ maxErrorBytes
  noticed : r.lastFundingFingerprint.isSome = r.lastFundingNoticeUnix.isSome
  fingerprint : ∀ fingerprint, r.lastFundingFingerprint = some fingerprint →
    validateCommitment fingerprint "delivered funding fingerprint" = .ok ()
  phase : r.checkPhase = .ok ()
  policy : r.phase ≠ .confirmed → r.rewardAmountBaseUnits = policy.rewardAmountBaseUnits
  branding : r.brandingState.isSome = r.brandingStateUpdatedAtUnix.isSome

/-- Two records of different acolytes in different inboxes. -/
structure ReferralRecord.Apart (r r' : ReferralRecord) : Prop where
  inbox : r.inboxId ≠ r'.inboxId
  acolyte : r.acolyte ≠ r'.acolyte

variable {r r' : ReferralRecord}

theorem ReferralRecord.Apart.symm (h : r.Apart r') : r'.Apart r :=
  ⟨h.inbox.symm, h.acolyte.symm⟩

theorem checkReferral_ok : r.checkReferral policy = .ok () ↔ r.ValidReferral policy := by
  simp only [ReferralRecord.checkReferral, requireNonzero, except_check_ok, checkSome_ok, failIf_ok,
    not_not, ne_eq]
  exact ⟨fun ⟨hreferrer, hbound, hinbox⟩ => ⟨fun referrer h => by
      obtain ⟨hne, ⟨hminter, hself, htreasury⟩, htime⟩ := hreferrer referrer h
      exact ⟨hne, hminter, hself, htreasury, htime⟩, hbound, hinbox⟩,
    fun h => ⟨fun referrer hreferrer => by
      obtain ⟨hne, hminter, hself, htreasury, htime⟩ := h.referrer referrer hreferrer
      exact ⟨hne, ⟨hminter, hself, htreasury⟩, htime⟩, h.bound, h.inbox⟩⟩

theorem checkDelivery_ok : r.checkDelivery = .ok () ↔
    ∀ delivery, r.pendingDelivery = some delivery → delivery.Fits r.phase := by
  unfold ReferralRecord.checkDelivery PendingDelivery.Fits
  rw [checkSome_ok]
  refine forall_congr' fun delivery => imp_congr_right fun _ => ?_
  rw [except_check_ok, failIf_ok, not_or, not_lt, and_assoc]
  cases delivery.fundingFingerprint with
  | none => simp only [failIf_ok, not_not]
  | some fingerprint => simp only [except_check_ok, failIf_ok, not_not]

theorem checkNotices_ok : r.checkNotices = .ok () ↔ r.createdAtUnix ≤ r.updatedAtUnix ∧
      (∀ error, r.lastError = some error → error.utf8ByteSize ≤ maxErrorBytes) ∧
      r.lastFundingFingerprint.isSome = r.lastFundingNoticeUnix.isSome ∧
      ∀ fingerprint, r.lastFundingFingerprint = some fingerprint →
        validateCommitment fingerprint "delivered funding fingerprint" = .ok () := by
  simp only [ReferralRecord.checkNotices, except_check_ok, checkSome_ok, failIf_ok, not_lt, ne_eq,
    not_not]

/-- The record is clear of what the loop has seen. -/
def Seen.Clear (seen : Seen) (r : ReferralRecord) : Prop :=
  r.inboxId ∉ seen.acolyteInboxes ∧ r.acolyte ∉ seen.acolytes ∧
    ∀ actionId, r.rewardActionId = some actionId → actionId ∉ seen.actionIds

def Seen.add (seen : Seen) (r : ReferralRecord) : Seen where
  acolyteInboxes := r.inboxId :: seen.acolyteInboxes
  acolytes := r.acolyte :: seen.acolytes
  actionIds := r.rewardActionId.toList ++ seen.actionIds

theorem checkRecord_ok {seen seen' : Seen} : checkRecord policy seen r = .ok seen' ↔
      (r.Valid policy ∧ seen.Clear r) ∧ seen' = seen.add r := by
  simp only [checkRecord, requireNonzero, except_check_ok, except_pure_ok, checkSome_ok, failIf_ok,
    checkReferral_ok, checkDelivery_ok, checkNotices_ok, ne_eq, not_not, not_and]
  constructor
  · rintro ⟨hinbox, hinboxes, hacolyte, hacolytes, hamount, hreferral, haction, htransaction,
      hdelivery, ⟨htimes, herror, hnoticed, hfingerprint⟩, hphase, hpolicy, hbranding, rfl⟩
    exact ⟨⟨⟨hinbox, hacolyte, hamount, hreferral, fun id hid => (haction id hid).1, htransaction,
      hdelivery, htimes, herror, hnoticed, hfingerprint, hphase, hpolicy, hbranding⟩,
      hinboxes, hacolytes, fun id hid => (haction id hid).2⟩, rfl⟩
  · rintro ⟨⟨h, hinboxes, hacolytes, hactions⟩, rfl⟩
    exact ⟨h.inbox, hinboxes, h.acolyte, hacolytes, h.amount, h.referral,
      fun id hid => ⟨h.action id hid, hactions id hid⟩, h.transaction, h.delivery,
      ⟨h.times, h.error, h.noticed, h.fingerprint⟩, h.phase, h.policy, h.branding, rfl⟩

/-- The actions of two records are told apart as well. -/
def ReferralRecord.Distinct (r r' : ReferralRecord) : Prop :=
  r.Apart r' ∧ ∀ actionId, r.rewardActionId = some actionId → r'.rewardActionId ≠ some actionId

theorem clear_add {seen : Seen} : (seen.add r).Clear r' ↔ seen.Clear r' ∧ r.Distinct r' := by
  simp only [Seen.Clear, Seen.add, ReferralRecord.Distinct, List.mem_cons, List.mem_append,
    Option.mem_toList, not_or]
  constructor
  · rintro ⟨⟨hinbox, hinboxes⟩, ⟨hacolyte, hacolytes⟩, hactions⟩
    exact ⟨⟨hinboxes, hacolytes, fun id hid => (hactions id hid).2⟩,
      ⟨Ne.symm hinbox, Ne.symm hacolyte⟩, fun id hid hid' => (hactions id hid').1 hid⟩
  · rintro ⟨⟨hinboxes, hacolytes, hactions⟩, ⟨hinbox, hacolyte⟩, hdistinct⟩
    exact ⟨⟨hinbox.symm, hinboxes⟩, ⟨hacolyte.symm, hacolytes⟩,
      fun id hid => ⟨fun hid' => hdistinct id hid' hid, hactions id hid⟩⟩

/-- The actions of valid records are apart when their acolytes are. -/
theorem distinct_iff (h : r.Valid policy) (h' : r'.Valid policy) : r.Distinct r' ↔ r.Apart r' := by
  refine ⟨And.left, fun hapart => ⟨hapart, fun id hid hid' => hapart.acolyte ?_⟩⟩
  exact rewardActionId_inj ((h.action id hid).symm.trans (h'.action id hid'))

/-! ## Operators -/

structure VerifiedOperator.Valid (policy : Policy) (operator : VerifiedOperator) : Prop where
  inbox : validateInbox operator.inboxId = .ok ()
  address : operator.address ≠ 0
  stranger : operator.address ≠ policy.minter

structure VerifiedOperator.Apart (o o' : VerifiedOperator) : Prop where
  address : o.address ≠ o'.address
  inbox : o.inboxId ≠ o'.inboxId

theorem checkOperator_ok {seen seen' : List Address × List String} {o : VerifiedOperator} :
    checkOperator policy seen o = .ok seen' ↔
      (o.Valid policy ∧ o.address ∉ seen.1 ∧ o.inboxId ∉ seen.2) ∧
        seen' = (o.address :: seen.1, o.inboxId :: seen.2) := by
  simp only [checkOperator, requireNonzero, except_check_ok, except_pure_ok, failIf_ok]
  constructor
  · rintro ⟨hinbox, haddress, hminter, haddresses, hinboxes, rfl⟩
    exact ⟨⟨⟨hinbox, haddress, hminter⟩, haddresses, hinboxes⟩, rfl⟩
  · rintro ⟨⟨⟨hinbox, haddress, hminter⟩, haddresses, hinboxes⟩, rfl⟩
    exact ⟨hinbox, haddress, hminter, haddresses, hinboxes, rfl⟩

def PendingDelivery.IsPrompt (delivery : PendingDelivery) : Prop :=
  delivery.target = .operators ∧ delivery.fundingFingerprint = none ∧
    delivery.commitment = Growth.commitment "operator-prompt" delivery.text

/-! ## Snapshots -/

structure GrowthSnapshot.Valid (policy : Policy) (s : GrowthSnapshot) : Prop where
  version : s.version = snapshotVersion
  room : s.records.length ≤ maxRecords
  operatorRoom : s.verifiedOperators.length ≤ maxOperators
  variant : s.operatorPromptVariant < 3
  current : ∀ operator, s.currentOperator = some operator → operator ∈ s.verifiedOperators
  prompt : ∀ delivery, s.pendingOperatorPrompt = some delivery → delivery.IsPrompt
  operators : ∀ operator ∈ s.verifiedOperators, operator.Valid policy
  operatorsApart : s.verifiedOperators.Pairwise VerifiedOperator.Apart
  records : ∀ r ∈ s.records, r.Valid policy
  apart : s.records.Pairwise ReferralRecord.Apart

theorem foldlM_checkOperator {operators : List VerifiedOperator} :
    (∃ seen, operators.foldlM (checkOperator policy) ([], []) = .ok seen) ↔
      (∀ operator ∈ operators, operator.Valid policy) ∧
        operators.Pairwise VerifiedOperator.Apart := by
  simp only [foldlM_apart
    (fun (seen : List Address × List String) o => (o.address :: seen.1, o.inboxId :: seen.2))
    (VerifiedOperator.Valid policy) (fun seen o => o.address ∉ seen.1 ∧ o.inboxId ∉ seen.2)
    VerifiedOperator.Apart (fun _ _ _ => checkOperator_ok) (fun seen o o' => by
      simp only [List.mem_cons, not_or]
      exact ⟨fun ⟨⟨ha, hs⟩, hi, ht⟩ => ⟨⟨hs, ht⟩, Ne.symm ha, Ne.symm hi⟩,
        fun ⟨⟨hs, ht⟩, ha, hi⟩ => ⟨⟨ha.symm, hs⟩, hi.symm, ht⟩⟩)]
  constructor
  · rintro ⟨seen, hvalid, hapart, -⟩
    exact ⟨fun o ho => (hvalid o ho).1, hapart⟩
  · rintro ⟨hvalid, hapart⟩
    exact ⟨_, fun o ho => ⟨hvalid o ho, List.not_mem_nil, List.not_mem_nil⟩, hapart, rfl⟩

theorem foldlM_checkRecord {records : List ReferralRecord} :
    (∃ seen, records.foldlM (checkRecord policy) ⟨[], [], []⟩ = .ok seen) ↔
      (∀ r ∈ records, r.Valid policy) ∧ records.Pairwise ReferralRecord.Apart := by
  simp only [foldlM_apart Seen.add (ReferralRecord.Valid policy) Seen.Clear
    ReferralRecord.Distinct (fun _ _ _ => checkRecord_ok)
    (fun _ _ _ => clear_add)]
  have hdistinct : (∀ r ∈ records, r.Valid policy) →
      (records.Pairwise ReferralRecord.Distinct ↔ records.Pairwise ReferralRecord.Apart) :=
    fun hvalid => List.Pairwise.iff_of_mem fun {r r'} hr hr' =>
      distinct_iff (hvalid r hr) (hvalid r' hr')
  constructor
  · rintro ⟨seen, hvalid, hapart, -⟩
    have hrecords : ∀ r ∈ records, r.Valid policy := fun r hr => (hvalid r hr).1
    exact ⟨hrecords, (hdistinct hrecords).mp hapart⟩
  · rintro ⟨hvalid, hapart⟩
    exact ⟨_, fun r hr => ⟨hvalid r hr, List.not_mem_nil, List.not_mem_nil,
      fun _ _ => List.not_mem_nil⟩, (hdistinct hvalid).mpr hapart, rfl⟩

theorem validateSnapshot_ok {s : GrowthSnapshot} :
    validateSnapshot policy s = .ok () ↔ s.Valid policy := by
  have hsplit : validateSnapshot policy s = .ok () ↔ (s.version = snapshotVersion ∧
      s.records.length ≤ maxRecords ∧ s.verifiedOperators.length ≤ maxOperators ∧
      s.operatorPromptVariant < 3 ∧
      (∀ operator, s.currentOperator = some operator → operator ∈ s.verifiedOperators) ∧
      (∀ delivery, s.pendingOperatorPrompt = some delivery → delivery.IsPrompt)) ∧
      (∃ seen, s.verifiedOperators.foldlM (checkOperator policy) ([], []) = .ok seen) ∧
      ∃ seen, s.records.foldlM (checkRecord policy) ⟨[], [], []⟩ = .ok seen := by
    simp only [validateSnapshot, checkSome_ok, failIf_ok, not_not, not_lt, not_le, ne_eq,
      except_bind_ok, exists_unit, except_pure_ok, PendingDelivery.IsPrompt]
    constructor
    · rintro ⟨hversion, hroom, hoperators, hvariant, hcurrent, hprompt, seen, hseen, seen', hseen',
        -⟩
      exact ⟨⟨hversion, hroom, hoperators, hvariant, hcurrent, hprompt⟩, ⟨seen, hseen⟩,
        ⟨seen', hseen'⟩⟩
    · rintro ⟨⟨hversion, hroom, hoperators, hvariant, hcurrent, hprompt⟩, ⟨seen, hseen⟩,
        ⟨seen', hseen'⟩⟩
      exact ⟨hversion, hroom, hoperators, hvariant, hcurrent, hprompt, seen, hseen, seen', hseen',
        trivial⟩
  rw [hsplit, foldlM_checkOperator, foldlM_checkRecord]
  constructor
  · rintro ⟨⟨hversion, hroom, hoperators, hvariant, hcurrent, hprompt⟩, ⟨hvalid, hapart⟩, hrecords,
      hapart'⟩
    exact ⟨hversion, hroom, hoperators, hvariant, hcurrent, hprompt, hvalid, hapart, hrecords,
      hapart'⟩
  · rintro ⟨hversion, hroom, hoperators, hvariant, hcurrent, hprompt, hvalid, hapart, hrecords,
      hapart'⟩
    exact ⟨⟨hversion, hroom, hoperators, hvariant, hcurrent, hprompt⟩, ⟨hvalid, hapart⟩, hrecords,
      hapart'⟩

end Valid

end Cthuwu.Growth
