import Cthuwu.Offers.Valid

/-!
# What becomes of an action

Each change of an action keeps it valid, and keeps its offer and its conversation. A terminal
action stays terminal, a retired one retired, and no change but a consent lets an action be
completed (`BrandingAction.Becomes`).
-/

namespace Cthuwu.Offers

open Council TokenEye
open BrandingPhase

/-! ## Phases -/

/-- The offer was declined, ran out or gave way to another one. -/
def BrandingPhase.retired : BrandingPhase → Bool
  | declined | expired | superseded => true
  | _ => false

/-- The executor is asked to complete the offer. -/
def BrandingPhase.mayComplete : BrandingPhase → Bool
  | consented | fundingRequired => true
  | _ => false

structure Authority where
  offerId : OfferId
  inboxId : String
  acolyte : Address
  minter : Address
  controllerAgentId : U256
  referrer : Address
  treasuryBalance : U256
  priceBasisPoints : ℕ
  initialDeclaredPrice : U256
  acolyteName : String
  inspection : Option InspectionBinding
  consent : Option ConsentBinding
  completionActionId : Option String

def BrandingAction.authority (a : BrandingAction) : Authority :=
  ⟨a.offerId, a.inboxId, a.acolyte, a.minter, a.controllerAgentId, a.referrer, a.treasuryBalance,
    a.priceBasisPoints, a.initialDeclaredPrice, a.acolyteName, a.inspection, a.consent,
    a.completionActionId⟩

/-- What a change may make of an action, short of a consent. -/
structure BrandingAction.Becomes (a b : BrandingAction) : Prop where
  offer : b.offerId = a.offerId
  conversation : b.inboxId = a.inboxId ∧ b.acolyte = a.acolyte
  created : b.createdAtUnix = a.createdAtUnix
  live : b.phase.terminal = false → a.phase.terminal = false
  retired : a.phase.retired = true → b.phase.retired = true
  authority : b.phase.mayComplete = true → a.phase.mayComplete = true ∧ b.authority = a.authority

namespace BrandingAction

theorem Becomes.refl (a : BrandingAction) : a.Becomes a :=
  ⟨rfl, ⟨rfl, rfl⟩, rfl, id, id, fun h => ⟨h, rfl⟩⟩

variable {b : BrandingAction} {inspection : InspectionBinding}

theorem Becomes.trans {a c : BrandingAction} (hab : a.Becomes b) (hbc : b.Becomes c) :
    a.Becomes c where
  offer := hbc.offer.trans hab.offer
  conversation := ⟨hbc.conversation.1.trans hab.conversation.1,
    hbc.conversation.2.trans hab.conversation.2⟩
  created := hbc.created.trans hab.created
  live h := hab.live (hbc.live h)
  retired h := hbc.retired (hab.retired h)
  authority h :=
    ⟨(hab.authority (hbc.authority h).1).1,
      (hbc.authority h).2.trans (hab.authority (hbc.authority h).1).2⟩

theorem becomes_retired {a : BrandingAction} (hoffer : b.offerId = a.offerId)
    (hconversation : b.inboxId = a.inboxId ∧ b.acolyte = a.acolyte)
    (hcreated : b.createdAtUnix = a.createdAtUnix) (h : b.phase.retired = true) : a.Becomes b := by
  refine ⟨hoffer, hconversation, hcreated, fun hlive => ?_, fun _ => h, fun hmay => ?_⟩ <;>
    cases hphase : b.phase <;> rw [hphase] at h <;> simp_all [BrandingPhase.retired,
      terminal, mayComplete]

/-- An action that keeps its phase and its authority. -/
theorem becomes_same {a : BrandingAction} (hcreated : b.createdAtUnix = a.createdAtUnix)
    (hauthority : b.authority = a.authority) (hphase : b.phase = a.phase) : a.Becomes b where
  offer := congrArg Authority.offerId hauthority
  conversation := ⟨congrArg Authority.inboxId hauthority, congrArg Authority.acolyte hauthority⟩
  created := hcreated
  live h := hphase ▸ h
  retired h := hphase ▸ h
  authority h := ⟨hphase ▸ h, hauthority⟩

/-- A live action that cannot be completed afterwards. -/
theorem becomes_live {a : BrandingAction} (hoffer : b.offerId = a.offerId)
    (hconversation : b.inboxId = a.inboxId ∧ b.acolyte = a.acolyte)
    (hcreated : b.createdAtUnix = a.createdAtUnix) (hlive : a.phase.terminal = false)
    (h : b.phase.mayComplete = false) : a.Becomes b := by
  refine ⟨hoffer, hconversation, hcreated, fun _ => hlive, fun hretired => ?_, fun hmay => ?_⟩
  · cases hphase : a.phase <;> rw [hphase] at hlive hretired <;>
      simp_all [BrandingPhase.retired, terminal]
  · rw [h] at hmay
    cases hmay

variable [Hashing] {minter : Address} {a : BrandingAction} {now : ℕ}

/-! ## Valid changes -/

theorem checkPhase_retired (h : a.phase.retired = true ∨ a.phase = .failedPermanent)
    (hpending : a.pendingDelivery = none) : a.checkPhase = .ok () ∧ a.checkPending = .ok () := by
  unfold checkPhase checkPending
  rw [hpending]
  cases hphase : a.phase <;> rw [hphase] at h <;> simp_all [BrandingPhase.retired]

theorem expire_valid (h : a.Valid minter) (hnow : a.createdAtUnix ≤ now) :
    (a.expire now).Valid minter :=
  { h with
    delivery := nofun
    times := hnow
    phase := (checkPhase_retired (.inl rfl) rfl).1
    pending := (checkPhase_retired (.inl rfl) rfl).2 }

theorem expire_becomes : a.Becomes (a.expire now) :=
  becomes_retired rfl ⟨rfl, rfl⟩ rfl rfl

theorem decline_valid (h : a.Valid minter) (hnow : a.createdAtUnix ≤ now) :
    (a.decline now).Valid minter :=
  { h with
    delivery := nofun
    times := hnow
    phase := (checkPhase_retired (.inl rfl) rfl).1
    pending := (checkPhase_retired (.inl rfl) rfl).2 }

theorem decline_becomes : a.Becomes (a.decline now) :=
  becomes_retired rfl ⟨rfl, rfl⟩ rfl rfl

theorem supersede_becomes : a.Becomes (a.supersede now) :=
  becomes_retired rfl ⟨rfl, rfl⟩ rfl rfl

theorem retire_becomes : a.Becomes (a.retire now) :=
  becomes_retired rfl ⟨rfl, rfl⟩ rfl rfl

theorem defer_valid (h : a.Valid minter) : (a.defer now).Valid minter :=
  { h with }

theorem defer_becomes : a.Becomes (a.defer now) :=
  becomes_same rfl rfl rfl

theorem retry_valid (h : a.Valid minter) (hnow : a.createdAtUnix ≤ now) :
    (a.retry now).Valid minter :=
  { h with times := hnow }

theorem retry_becomes : a.Becomes (a.retry now) :=
  becomes_same rfl rfl rfl

theorem mismatch_valid (h : a.Valid minter) (hnow : a.createdAtUnix ≤ now) :
    (a.mismatch now).Valid minter :=
  { h with
    error := by
      rintro _ ⟨⟩
      decide +kernel
    times := hnow }

theorem mismatch_becomes : a.Becomes (a.mismatch now) :=
  becomes_same rfl rfl rfl

/-- An offer that was delivered has nothing pending. -/
theorem offered_shape (h : a.Valid minter) (hphase : a.phase = .offered) :
    a.inspection ≠ none ∧ a.consent = none ∧ a.receipt = none ∧ a.completionActionId = none ∧
      a.pendingDelivery = none := by
  have hshape := h.phase
  unfold checkPhase at hshape
  rw [hphase] at hshape
  exact not_not.mp (failIf_ok.mp hshape)

theorem requested_shape (h : a.Valid minter) (hphase : a.phase = .requested) :
    a.inspection = none ∧ a.consent = none ∧ a.receipt = none ∧ a.completionActionId = none ∧
      a.pendingDelivery = none := by
  have hshape := h.phase
  unfold checkPhase at hshape
  rw [hphase] at hshape
  exact not_not.mp (failIf_ok.mp hshape)

/-- An action that may be completed has all that a completion is made of. -/
theorem mayComplete_shape (h : a.Valid minter) (hphase : a.phase.mayComplete = true) :
    a.inspection ≠ none ∧ a.consent ≠ none ∧ a.receipt = none ∧ a.completionActionId ≠ none := by
  have hshape := h.phase
  unfold checkPhase at hshape
  cases hcase : a.phase <;> rw [hcase] at hshape hphase <;>
    simp_all [mayComplete]

theorem lapse_valid (h : a.Valid minter) (hphase : a.phase = .offered)
    (hnow : a.createdAtUnix ≤ now) : (a.lapse now).Valid minter :=
  { h with
    times := hnow
    phase := (checkPhase_retired (a := a.lapse now) (.inl rfl) (offered_shape h hphase).2.2.2.2).1
    pending :=
      (checkPhase_retired (a := a.lapse now) (.inl rfl) (offered_shape h hphase).2.2.2.2).2 }

theorem lapse_becomes : a.Becomes (a.lapse now) :=
  becomes_retired rfl ⟨rfl, rfl⟩ rfl rfl

/-! ### Inspections -/

theorem offerText_congr {a : BrandingAction}
    (h : offerFields a inspection = offerFields b inspection) :
    offerText a inspection = offerText b inspection := by
  unfold offerText
  rw [h]

theorem receiptText_congr {a : BrandingAction} {receipt : ReceiptBinding}
    (h : receiptFields a inspection receipt = receiptFields b inspection receipt) :
    receiptText a inspection receipt = receiptText b inspection receipt := by
  unfold receiptText
  rw [h]

theorem fail_valid (h : a.Valid minter) (hphase : a.phase = .requested)
    (hnow : a.createdAtUnix ≤ now) (status : HelperBrandingStatus) :
    (a.fail status now).Valid minter :=
  { h with
    error := by
      rintro _ ⟨⟩
      cases status <;> decide +kernel
    times := hnow
    phase := (checkPhase_retired (a := a.fail status now) (.inr rfl)
      (requested_shape h hphase).2.2.2.2).1
    pending := (checkPhase_retired (a := a.fail status now) (.inr rfl)
      (requested_shape h hphase).2.2.2.2).2 }

theorem fail_becomes (hphase : a.phase = .requested) {status : HelperBrandingStatus} :
    a.Becomes (a.fail status now) :=
  becomes_live rfl ⟨rfl, rfl⟩ rfl (by rw [hphase]; rfl) rfl

end BrandingAction

theorem toWord_toNat {n : ℕ} {word : U256} (h : toWord n = some word) : word.toNat = n := by
  unfold toWord at h
  split_ifs at h with hn
  obtain rfl := Option.some.inj h
  rw [BitVec.toNat_ofNat, Nat.mod_eq_of_lt hn]

/-- A quote repeats what it was made for, and asks for something. -/
theorem quoteInitialBranding_ok {treasury : U256} {points : ℕ} {quote : BrandingQuote}
    (h : quoteInitialBranding treasury points = .ok quote) :
    quote.treasuryBalance = treasury ∧ quote.priceBasisPoints = points ∧
      quote.initialDeclaredPrice ≠ 0 ∧ quote.firstWeekUpkeep ≠ 0 := by
  unfold quoteInitialBranding at h
  simp only [except_bind_ok, failIf_ok, okOr_ok, exists_unit] at h
  obtain ⟨-, price, -, hprice, floorUpkeep, -, recomposed, hrecomposed, h⟩ := h
  split_ifs at h with hshort
  · simp only [except_bind_ok, okOr_ok] at h
    obtain ⟨upkeep, hupkeep, h⟩ := h
    obtain rfl := except_pure_ok.mp h
    refine ⟨rfl, rfl, hprice, fun hzero => ?_⟩
    have hone := toWord_toNat hupkeep
    change upkeep = 0 at hzero
    rw [hzero] at hone
    simp at hone
  · obtain rfl := except_pure_ok.mp h
    refine ⟨rfl, rfl, hprice, fun hzero => hprice (BitVec.eq_of_toNat_eq ?_)⟩
    change floorUpkeep = 0 at hzero
    have hnone := toWord_toNat hrecomposed
    rw [hzero] at hnone
    have hzero : (0 : U256).toNat = 0 := rfl
    omega

namespace BrandingAction

variable [Hashing] {minter : Address} {a : BrandingAction} {now : ℕ}

variable {binding inspection : InspectionBinding} {quote : BrandingQuote}
  {result : BrandingCompletionResult} {pending : PendingDelivery}

theorem requote_valid (h : a.Valid minter) (hnow : a.createdAtUnix ≤ now) {treasury : U256}
    (hquote : quoteInitialBranding treasury a.priceBasisPoints = .ok quote) :
    (a.requote quote now).Valid minter := by
  obtain ⟨rfl, -, hprice, hupkeep⟩ := quoteInitialBranding_ok hquote
  have hoffer := h.offer
  unfold checkOffer requireNonzero at hoffer
  simp only [except_bind_ok, failIf_ok, exists_unit] at hoffer
  obtain ⟨h₁, h₂, h₃, h₄, h₅, -, -, h₆, -, -, -, h₇, h₈⟩ := hoffer
  refine ⟨?_, nofun, nofun, nofun, nofun, ?_, hnow, h.noticed, ?_, rfl⟩
  · unfold checkOffer requireNonzero
    simp only [except_bind_ok, failIf_ok, exists_unit]
    exact ⟨h₁, h₂, h₃, h₄, h₅, hprice, hupkeep, h₆, quote, hquote, not_not.mpr ⟨rfl, rfl⟩, h₇, h₈⟩
  · rintro _ ⟨⟩
    decide +kernel
  · exact failIf_ok.mpr (not_not.mpr ⟨rfl, rfl, rfl, rfl, rfl⟩)

theorem requote_becomes (hphase : a.phase = .requested) : a.Becomes (a.requote quote now) :=
  becomes_live rfl ⟨rfl, rfl⟩ rfl (by rw [hphase]; rfl) rfl

theorem offerOf_valid (h : a.Valid minter) (hphase : a.phase = .requested)
    (hnow : a.createdAtUnix ≤ now) (hbinding : checkInspection binding = .ok ()) :
    (a.offerOf binding now).Valid minter := by
  obtain ⟨-, hconsent, hreceipt, hid, -⟩ := requested_shape h hphase
  obtain ⟨-, -, hpoints, hname, -⟩ := checkOffer_quote h.offer
  refine ⟨h.offer, ?_, h.receipt, h.actionId, ?_, nofun, hnow, h.noticed, ?_, rfl⟩
  · rintro _ ⟨⟩
    exact hbinding
  · rintro _ ⟨⟩
    have htext : offerText a binding = offerText (a.offerOf binding now) binding :=
      offerText_congr rfl
    exact checkDelivery_ok (a := a.offerOf binding now)
      (isDeliverable_offerText hname hpoints) (failIf_ok.mpr (not_not.mpr
        ⟨rfl, (Option.any_eq_true _ _).mpr ⟨binding, rfl, decide_eq_true htext⟩⟩))
  · exact failIf_ok.mpr (not_not.mpr ⟨Option.some_ne_none _, hconsent, hreceipt, hid, rfl⟩)

theorem offerOf_becomes (hphase : a.phase = .requested) : a.Becomes (a.offerOf binding now) :=
  becomes_live rfl ⟨rfl, rfl⟩ rfl (by rw [hphase]; rfl) rfl

/-! ### Completions -/

/-- An action that may be completed and keeps its authority. -/
theorem becomes_kept {b : BrandingAction} (hcreated : b.createdAtUnix = a.createdAtUnix)
    (hauthority : b.authority = a.authority) (hphase : a.phase.mayComplete = true) :
    a.Becomes b := by
  have ha : a.phase.terminal = false ∧ a.phase.retired = false := by
    cases hcase : a.phase <;> rw [hcase] at hphase <;>
      simp_all [mayComplete, terminal, BrandingPhase.retired]
  refine ⟨congrArg Authority.offerId hauthority, ⟨congrArg Authority.inboxId hauthority,
    congrArg Authority.acolyte hauthority⟩, hcreated, fun _ => ha.1, fun hretired => ?_,
    fun _ => ⟨hphase, hauthority⟩⟩
  rw [ha.2] at hretired
  cases hretired

theorem requireFunding_becomes (hphase : a.phase.mayComplete = true) :
    a.Becomes (a.requireFunding result now) :=
  becomes_kept rfl rfl hphase

theorem receiptOf_becomes (hphase : a.phase.mayComplete = true) :
    a.Becomes (a.receiptOf inspection result now) :=
  becomes_kept rfl rfl hphase

theorem requireFunding_valid (h : a.Valid minter) (hphase : a.phase.mayComplete = true)
    (hnow : a.createdAtUnix ≤ now) (hpending : result.pendingOperations.length ≤ 3) :
    (a.requireFunding result now).Valid minter := by
  obtain ⟨hinspection, hconsent, hreceipt, hid⟩ := mayComplete_shape h hphase
  have hpendings : (a.requireFunding result now).pendingDelivery = none ∨
      (a.requireFunding result now).pendingDelivery = some (Offers.pendingDelivery .funding
        a.offerId (fundingText result.toCommonResult)
          (some (fundingFingerprint result.toCommonResult))) := by
    unfold requireFunding
    dsimp only
    split_ifs
    · exact .inr rfl
    · exact .inl rfl
  refine ⟨h.offer, h.inspection, h.receipt, h.actionId, fun delivery hdelivery => ?_, nofun, hnow,
    h.noticed, ?_, ?_⟩
  · rcases hpendings with hnone | hsome
    · rw [hnone] at hdelivery
      cases hdelivery
    · obtain rfl := Option.some.inj (hsome.symm.trans hdelivery)
      exact checkDelivery_ok (a := a.requireFunding result now) (isDeliverable_fundingText hpending)
        (failIf_ok.mpr (Option.some_ne_none _))
  · refine failIf_ok.mpr (not_not.mpr ⟨hinspection, hconsent, hreceipt, hid, ?_⟩)
    rcases hpendings with hnone | hsome
    · exact .inl hnone
    · refine .inr ?_
      unfold awaits
      rw [hsome]
      rfl
  · unfold checkPending
    rcases hpendings with hnone | hsome
    · rw [hnone]
      rfl
    · rw [hsome]
      exact failIf_ok.mpr (not_not.mpr rfl)

theorem receiptOf_valid (h : a.Valid minter) (hphase : a.phase.mayComplete = true)
    (hnow : a.createdAtUnix ≤ now) (hinspection : a.inspection = some inspection)
    (htoken : result.tokenId = addressTokenId a.acolyte) :
    (a.receiptOf inspection result now).Valid minter := by
  obtain ⟨hne, hconsent, -, hid⟩ := mayComplete_shape h hphase
  obtain ⟨-, -, -, hname, -⟩ := checkOffer_quote h.offer
  refine ⟨h.offer, h.inspection, ?_, h.actionId, ?_, nofun, hnow, h.noticed, ?_, rfl⟩
  · rintro _ ⟨⟩
    unfold checkReceipt
    rw [except_check_ok, failIf_ok, failIf_ok]
    exact ⟨not_not.mpr htoken, not_not.mpr rfl⟩
  · rintro _ ⟨⟩
    have htext : receiptText a inspection (result.receipt a) =
        receiptText (a.receiptOf inspection result now) inspection (result.receipt a) :=
      receiptText_congr rfl
    exact checkDelivery_ok (a := a.receiptOf inspection result now)
      (isDeliverable_receiptText hname) (failIf_ok.mpr (not_not.mpr
        ⟨rfl, (Option.any_eq_true _ _).mpr ⟨inspection, hinspection, (Option.any_eq_true _ _).mpr
          ⟨_, rfl, decide_eq_true htext⟩⟩⟩))
  · exact failIf_ok.mpr (not_not.mpr ⟨hne, hconsent, Option.some_ne_none _, hid, rfl⟩)

/-- The error keeps its action when it fits, and nothing was pending. -/
theorem recordError_valid (h : a.Valid minter)
    (hphase : a.phase = .requested ∨ a.phase.mayComplete = true) (hnow : a.createdAtUnix ≤ now)
    {error : String} (herror : (boundedDiagnostic error 512).utf8ByteSize ≤ maxErrorBytes) :
    (a.recordError error now).Valid minter := by
  refine ⟨h.offer, h.inspection, h.receipt, h.actionId, nofun, ?_, hnow, h.noticed, ?_, rfl⟩
  · rintro _ ⟨⟩
    exact herror
  · by_cases hpermanent : isPermanent error = true
    · refine (checkPhase_retired (.inr ?_) rfl).1
      unfold recordError
      exact if_pos hpermanent
    · have hkept : (a.recordError error now).phase = a.phase ∧
          (a.recordError error now).consent = a.consent := by
        unfold recordError
        exact ⟨if_neg hpermanent, if_neg hpermanent⟩
      unfold checkPhase
      rw [hkept.1, hkept.2]
      rcases hphase with hphase | hphase
      · obtain ⟨h₁, h₂, h₃, h₄, -⟩ := requested_shape h hphase
        rw [hphase]
        exact failIf_ok.mpr (not_not.mpr ⟨h₁, h₂, h₃, h₄, rfl⟩)
      · obtain ⟨h₁, h₂, h₃, h₄⟩ := mayComplete_shape h hphase
        cases hcase : a.phase <;> rw [hcase] at hphase <;> try cases hphase
        · exact failIf_ok.mpr (not_not.mpr ⟨h₁, h₂, h₃, h₄, rfl⟩)
        · exact failIf_ok.mpr (not_not.mpr ⟨h₁, h₂, h₃, h₄, .inl rfl⟩)

theorem recordError_becomes (hlive : a.phase.terminal = false) {error : String} :
    a.Becomes (a.recordError error now) := by
  by_cases hpermanent : isPermanent error = true
  · refine becomes_live rfl ⟨rfl, rfl⟩ rfl hlive ?_
    unfold recordError
    dsimp only
    rw [if_pos hpermanent]
    rfl
  · refine becomes_same rfl ?_ (if_neg hpermanent)
    unfold authority recordError
    dsimp only
    rw [if_neg hpermanent]

theorem acknowledge_valid (h : a.Valid minter) (hpending : a.pendingDelivery = some pending)
    (hnow : a.createdAtUnix ≤ now) : (a.acknowledge pending now).Valid minter := by
  have hshape := h.phase
  have hkind := h.pending
  have hdelivery := h.delivery pending hpending
  unfold checkPending at hkind
  rw [hpending] at hkind
  unfold checkPhase at hshape
  unfold checkDelivery matchesDelivery at hdelivery
  simp only [except_check_ok] at hdelivery
  unfold acknowledge
  cases hcase : pending.kind with
  | offer =>
    rw [Option.map_some, hcase] at hkind
    rw [not_not.mp (failIf_ok.mp hkind)] at hshape
    obtain ⟨h₁, h₂, h₃, h₄, -⟩ := not_not.mp (failIf_ok.mp hshape)
    exact ⟨h.offer, h.inspection, h.receipt, h.actionId, by simp, h.error, hnow, h.noticed,
      failIf_ok.mpr (not_not.mpr ⟨h₁, h₂, h₃, h₄, rfl⟩), rfl⟩
  | funding =>
    rw [Option.map_some, hcase] at hkind
    rw [not_not.mp (failIf_ok.mp hkind)] at hshape
    obtain ⟨h₁, h₂, h₃, h₄, -⟩ := not_not.mp (failIf_ok.mp hshape)
    rw [hcase] at hdelivery
    have hfingerprint := failIf_ok.mp hdelivery.2.2.2
    refine ⟨h.offer, h.inspection, h.receipt, h.actionId, by simp, h.error, hnow, ?_,
      failIf_ok.mpr (not_not.mpr ⟨h₁, h₂, h₃, h₄, .inl rfl⟩), rfl⟩
    exact Option.isSome_iff_ne_none.mpr hfingerprint
  | receipt =>
    rw [Option.map_some, hcase] at hkind
    rw [not_not.mp (failIf_ok.mp hkind)] at hshape
    obtain ⟨h₁, h₂, h₃, h₄, -⟩ := not_not.mp (failIf_ok.mp hshape)
    exact ⟨h.offer, h.inspection, h.receipt, h.actionId, by simp, h.error, hnow, h.noticed,
      failIf_ok.mpr (not_not.mpr ⟨h₁, rfl, h₃, h₄, rfl⟩), rfl⟩

theorem acknowledge_becomes (h : a.Valid minter) (hpending : a.pendingDelivery = some pending) :
    a.Becomes (a.acknowledge pending now) := by
  have hkind := h.pending
  unfold checkPending at hkind
  rw [hpending] at hkind
  unfold acknowledge
  cases hcase : pending.kind with
  | offer =>
    rw [Option.map_some, hcase] at hkind
    exact becomes_live rfl ⟨rfl, rfl⟩ rfl (by rw [not_not.mp (failIf_ok.mp hkind)]; rfl) rfl
  | funding =>
    rw [Option.map_some, hcase] at hkind
    exact becomes_same rfl rfl (not_not.mp (failIf_ok.mp hkind)).symm
  | receipt =>
    rw [Option.map_some, hcase] at hkind
    exact becomes_live rfl ⟨rfl, rfl⟩ rfl (by rw [not_not.mp (failIf_ok.mp hkind)]; rfl) rfl

end BrandingAction

end Cthuwu.Offers
