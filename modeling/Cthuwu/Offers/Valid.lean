import Mathlib.Tactic.NormNum
import Cthuwu.Lib.Batch
import Cthuwu.Offers.Runtime

/-!
# Valid snapshots of the Branding actions

`BrandingSnapshot.validate` read as a conjunction (`BrandingSnapshot.validate_ok`) : each action is
valid for itself, no two share an offer, and no two that are live share a conversation. A changed
action keeps the snapshot valid when it is valid itself, keeps its offer and its conversation, and
is not brought back to life (`BrandingSnapshot.Valid.update`).
-/

namespace Cthuwu.Offers

open Council TokenEye

/-! ## Texts -/

theorem checkSome_ok {α : Type} {value : Option α} {check : α → Except String Unit} :
    checkSome value check = .ok () ↔ ∀ a, value = some a → check a = .ok () := by
  cases value <;> simp [checkSome]

theorem offerIdText_inj {offerId other : OfferId} (h : offerIdText offerId = offerIdText other) :
    offerId = other := by
  refine BitVec.eq_of_toNat_eq (hexOf_inj (n := 32) (lt_of_lt_of_eq offerId.isLt (by decide))
    (lt_of_lt_of_eq other.isLt (by decide)) ?_)
  have h := congrArg String.toList h
  rwa [offerIdText, offerIdText, String.toList_ofList, String.toList_ofList] at h

theorem completionActionId_inj {offerId other : OfferId}
    (h : completionActionId offerId = completionActionId other) : offerId = other := by
  refine offerIdText_inj (String.toList_injective ?_)
  have h := congrArg String.toList h
  unfold completionActionId at h
  rw [String.toList_append, String.toList_append] at h
  exact List.append_cancel_left h

/-- A character of an action of the helper. -/
def isActionChar (c : Char) : Bool :=
  c.isAlphanum || [':', '_', '-'].contains c

theorem isActionChar_hexOf {n value : ℕ} {c : Char} (h : c ∈ hexOf n value) :
    isActionChar c = true :=
  of_mem_hexOf (p := fun c => isActionChar c = true) (by decide) h

theorem validateActionId_of {value : String} (hne : 0 < value.utf8ByteSize)
    (hsize : value.utf8ByteSize ≤ 128) (hall : ∀ c ∈ value.toList, isActionChar c = true) :
    validateActionId value = .ok () := by
  rw [validateActionId, failIf_ok, not_not]
  refine ⟨?_, hsize, List.all_eq_true.mpr hall⟩
  rintro rfl
  exact absurd hne (by decide)

theorem offerIdText_size (offerId : OfferId) : (offerIdText offerId).utf8ByteSize = 32 :=
  utf8ByteSize_hexOf 32 _

theorem validateActionId_completion (offerId : OfferId) :
    validateActionId (completionActionId offerId) = .ok () := by
  have hsize : (completionActionId offerId).utf8ByteSize = 50 := by
    have hstart : "branding-complete:".utf8ByteSize = 18 := by decide
    unfold completionActionId
    rw [String.utf8ByteSize_append, offerIdText_size, hstart]
  refine validateActionId_of (by omega) (by omega) fun c hc => ?_
  unfold completionActionId at hc
  rw [String.toList_append] at hc
  rcases List.mem_append.mp hc with hc | hc
  · have hstart : ∀ c ∈ "branding-complete:".toList, isActionChar c = true :=
      List.all_eq_true.mp (by decide)
    exact hstart c hc
  · unfold offerIdText at hc
    rw [String.toList_ofList] at hc
    exact isActionChar_hexOf hc

theorem decimal_size (n : U256) : (decimal n).utf8ByteSize ≤ 78 := by
  have hpow : (2 : ℕ) ^ 256 ≤ 10 ^ 78 := by decide
  have hbound : n.toNat < 10 ^ 78 := n.isLt.trans_le hpow
  unfold decimal
  exact utf8ByteSize_repr_le (by omega) hbound

theorem hashText_size (hash : Hash) : (hashText hash).utf8ByteSize = 66 := by
  have hstart : "0x".utf8ByteSize = 2 := by decide
  rw [hashText, String.utf8ByteSize_append, utf8ByteSize_hexOf, hstart]

/-- Two digits for each byte. -/
theorem encodeTextHex_size (value : String) :
    (encodeTextHex value).utf8ByteSize = 2 + 2 * value.utf8ByteSize := by
  have hone : ∀ c ∈ value.toUTF8.data.toList.flatMap fun byte => hexOf 2 byte.toNat,
      c.utf8Size = 1 := by
    intro c hc
    obtain ⟨byte, -, hc⟩ := List.mem_flatMap.mp hc
    exact of_mem_hexOf (p := fun c => c.utf8Size = 1) (by decide) hc
  have hlength : (value.toUTF8.data.toList.flatMap fun byte => hexOf 2 byte.toNat).length =
      2 * value.utf8ByteSize := by
    simp only [List.length_flatMap, length_hexOf, List.map_const', List.sum_replicate_nat]
    exact Nat.mul_comm _ _
  have hstart : "0x".utf8ByteSize = 2 := by decide
  rw [encodeTextHex, String.utf8ByteSize_append, utf8ByteSize_ofList hone, hlength, hstart]

variable {fields : List (String × String)} {key : String} {inspection : InspectionBinding}

theorem markerFields_size {k n : ℕ}
    (h : ∀ field ∈ fields, field.1.utf8ByteSize ≤ k ∧ field.2.utf8ByteSize ≤ n) :
    (markerFields fields).utf8ByteSize ≤ fields.length * (k + n + 2) := by
  have hsemicolon : ";".utf8ByteSize = 1 := by decide
  have hequals : "=".utf8ByteSize = 1 := by decide
  have hsum : ((fields.map fun field => field.1 ++ "=" ++ field.2).map String.utf8ByteSize).sum ≤
      fields.length * (k + n + 1) := by
    rw [List.map_map]
    refine (List.sum_le_card_nsmul _ (k + n + 1) fun size hsize => ?_).trans_eq ?_
    · obtain ⟨field, hfield, rfl⟩ := List.mem_map.mp hsize
      obtain ⟨hkey, hvalue⟩ := h field hfield
      simp only [Function.comp_apply, String.utf8ByteSize_append, hequals]
      omega
    · rw [List.length_map]
      rfl
  have hjoined := utf8ByteSize_intercalate_le ";" (fields.map fun field => field.1 ++ "=" ++ field.2)
  rw [List.length_map, hsemicolon, Nat.mul_one] at hjoined
  unfold markerFields
  calc (";".intercalate (fields.map fun field => field.1 ++ "=" ++ field.2)).utf8ByteSize
      ≤ _ := hjoined
    _ ≤ fields.length * (k + n + 1) + fields.length := Nat.add_le_add_right hsum _
    _ = fields.length * (k + n + 2) := (Nat.mul_succ _ _).symm

/-- A text that fits a delivery. -/
def IsDeliverable (text : String) : Prop :=
  0 < text.utf8ByteSize ∧ text.utf8ByteSize ≤ maxDeliveryBytes

/-- A key of a marker with a value that fits. -/
def IsField (field : String × String) : Prop :=
  field.1.utf8ByteSize ≤ 9 ∧ field.2.utf8ByteSize ≤ 258

theorem isField_decimal (h : key.utf8ByteSize ≤ 9) (n : U256) : IsField (key, decimal n) :=
  ⟨h, (decimal_size n).trans (by omega)⟩

theorem isField_hash (h : key.utf8ByteSize ≤ 9) (hash : Hash) : IsField (key, hashText hash) :=
  ⟨h, (hashText_size hash).trans_le (by omega)⟩

theorem isField_address (h : key.utf8ByteSize ≤ 9) (address : Address) :
    IsField (key, addressText address) :=
  ⟨h, (addressText_size address).trans_le (by omega)⟩

theorem isField_offerId (h : key.utf8ByteSize ≤ 9) (offerId : OfferId) :
    IsField (key, offerIdText offerId) :=
  ⟨h, (offerIdText_size offerId).trans_le (by omega)⟩

theorem isField_points (h : key.utf8ByteSize ≤ 9) {points : ℕ} (hpoints : points ≤ 2000) :
    IsField (key, points.repr) :=
  ⟨h, (utf8ByteSize_repr_le (k := 4) (by omega) (by omega)).trans (by omega)⟩

theorem isField_contract (h : key.utf8ByteSize ≤ 9) : IsField (key, brandingContract) := by
  have hcontract : brandingContract.utf8ByteSize = 42 := by decide
  exact ⟨h, hcontract.trans_le (by omega)⟩

theorem isField_name {name : String} (h : key.utf8ByteSize ≤ 9)
    (hname : name.utf8ByteSize ≤ maxNameBytes) : IsField (key, encodeTextHex name) := by
  refine ⟨h, (encodeTextHex_size name).trans_le ?_⟩
  unfold maxNameBytes at hname
  omega

/-- A marker with few fields after an introduction. -/
theorem isDeliverable_marker {intro : String}
    (hintro : 0 < intro.utf8ByteSize ∧ intro.utf8ByteSize ≤ 1000) (hlength : fields.length ≤ 15)
    (hfields : ∀ field ∈ fields, IsField field) :
    IsDeliverable (intro ++ markerFields fields ++ "]]") := by
  have hsize := markerFields_size hfields
  have hend : "]]".utf8ByteSize = 2 := by decide
  unfold IsDeliverable maxDeliveryBytes
  rw [String.utf8ByteSize_append, String.utf8ByteSize_append, hend]
  omega

theorem isDeliverable_offerText {a : BrandingAction}
    (hname : a.acolyteName.utf8ByteSize ≤ maxNameBytes) (hbasis : a.priceBasisPoints ≤ 2000) :
    IsDeliverable (offerText a inspection) := by
  refine isDeliverable_marker (by decide +kernel) (by simp [offerFields]) ?_
  unfold offerFields
  simp only [List.forall_mem_cons, List.not_mem_nil, false_implies, implies_true, and_true]
  refine ⟨isField_offerId ?_ _, isField_contract ?_, isField_address ?_ _, isField_decimal ?_ _,
    isField_address ?_ _, isField_address ?_ _, isField_decimal ?_ _, isField_points ?_ hbasis,
    isField_decimal ?_ _, isField_decimal ?_ _, isField_decimal ?_ _, isField_decimal ?_ _,
    isField_decimal ?_ _, isField_hash ?_ _, isField_name ?_ hname⟩ <;> decide

theorem isDeliverable_receiptText {a : BrandingAction} {receipt : ReceiptBinding}
    (hname : a.acolyteName.utf8ByteSize ≤ maxNameBytes) :
    IsDeliverable (receiptText a inspection receipt) := by
  refine isDeliverable_marker (by decide +kernel) (by simp [receiptFields]) ?_
  unfold receiptFields
  simp only [List.forall_mem_cons, List.not_mem_nil, false_implies, implies_true, and_true]
  refine ⟨isField_offerId ?_ _, isField_contract ?_, isField_decimal ?_ _, isField_decimal ?_ _,
    isField_address ?_ _, isField_address ?_ _, isField_address ?_ _, isField_decimal ?_ _,
    isField_decimal ?_ _, isField_decimal ?_ _, isField_hash ?_ _, isField_name ?_ hname⟩ <;>
    decide

theorem operation_size (operation : Operation) : operation.name.utf8ByteSize ≤ 10 := by
  cases operation <;> decide

theorem isDeliverable_fundingText {result : CommonResult}
    (h : result.pendingOperations.length ≤ 3) : IsDeliverable (fundingText result) := by
  have hparts : ∀ part ∈ ["ACOLYTE BRANDING REQUIRES RESOURCES\nFUND THIS EXACT BASE ADDRESS: ",
      "\nCURRENT BASE ETH BALANCE: ", " WEI\nTARGET BASE ETH BALANCE: ",
      " WEI\nBASE ETH SHORTFALL: ", " WEI\nCURRENT UWU BALANCE: ",
      " BASE UNITS\nTARGET UWU BALANCE: ", " BASE UNITS\nUWU SHORTFALL: ",
      " BASE UNITS\nREMAINING PHASES: ",
      "\nCHAIN: BASE MAINNET\nCHAIN ID: 8453\nWARNING: DO NOT SEND FUNDS ON ANY OTHER CHAIN.\n",
      "THE DURABLE ACTION WILL RETRY WITHOUT REQUESTING A PRIVATE KEY."],
      0 < part.utf8ByteSize ∧ part.utf8ByteSize ≤ 200 := by decide
  have hphases : (", ".intercalate (result.pendingOperations.map Operation.name)).utf8ByteSize ≤
      36 := by
    have hcomma : ", ".utf8ByteSize = 2 := by decide
    have hjoined := utf8ByteSize_intercalate_le ", " (result.pendingOperations.map Operation.name)
    have hnames := List.sum_le_card_nsmul
      ((result.pendingOperations.map Operation.name).map String.utf8ByteSize) 10 (by
        intro size hsize
        obtain ⟨name, hname, rfl⟩ := List.mem_map.mp hsize
        obtain ⟨operation, -, rfl⟩ := List.mem_map.mp hname
        exact operation_size operation)
    rw [List.length_map, List.length_map] at hnames
    rw [List.length_map, hcomma] at hjoined
    change _ ≤ result.pendingOperations.length * 10 at hnames
    omega
  have hbalance := decimal_size result.ethBalanceWei
  have htarget := decimal_size result.ethTargetWei
  have hshort := decimal_size result.ethShortfallWei
  have huwu := decimal_size result.uwuBalance
  have huwuTarget := decimal_size result.uwuTarget
  have huwuShort := decimal_size result.uwuShortfallWei
  simp only [List.forall_mem_cons, List.not_mem_nil, false_implies, implies_true,
    and_true] at hparts
  unfold IsDeliverable maxDeliveryBytes fundingText
  simp only [String.utf8ByteSize_append, addressText_size]
  omega

/-! ## Actions -/

section Valid

variable [Hashing] {minter : Address}

theorem validateActionId_delivery (kind : PendingDeliveryKind) (offerId : OfferId) (text : String) :
    validateActionId (deliveryCommitment kind offerId text) = .ok () := by
  have hkind : kind.name.utf8ByteSize ≤ 7 ∧ kind.name.toList.all isActionChar = true := by
    cases kind <;> decide
  have hparts : "branding-".utf8ByteSize = 9 ∧ ":".utf8ByteSize = 1 ∧
      "branding-".toList.all isActionChar = true ∧
      ":".toList.all isActionChar = true := by decide
  have hdigest : ∀ c ∈ (hexOf 64 (Hashing.sha256 text).toNat).take 16, c.utf8Size = 1 :=
    fun c hc => of_mem_hexOf (p := fun c => c.utf8Size = 1) (by decide) (List.mem_of_mem_take hc)
  have hsize : (deliveryCommitment kind offerId text).utf8ByteSize =
      9 + kind.name.utf8ByteSize + 1 + 32 + 1 + 16 := by
    unfold deliveryCommitment
    simp only [String.utf8ByteSize_append, offerIdText_size, utf8ByteSize_ofList hdigest,
      List.length_take, length_hexOf, hparts.1, hparts.2.1]
    omega
  refine validateActionId_of (by omega) (by omega) fun c hc => ?_
  unfold deliveryCommitment at hc
  simp only [String.toList_append, List.mem_append, or_assoc] at hc
  rcases hc with hc | hc | hc | hc | hc | hc
  · exact List.all_eq_true.mp hparts.2.2.1 c hc
  · exact List.all_eq_true.mp hkind.2 c hc
  · exact List.all_eq_true.mp hparts.2.2.2 c hc
  · unfold offerIdText at hc
    rw [String.toList_ofList] at hc
    exact isActionChar_hexOf hc
  · exact List.all_eq_true.mp hparts.2.2.2 c hc
  · rw [String.toList_ofList] at hc
    exact isActionChar_hexOf (List.mem_of_mem_take hc)

/-- What a valid action says, part by part. -/
structure BrandingAction.Valid (minter : Address) (a : BrandingAction) : Prop where
  offer : a.checkOffer minter = .ok ()
  inspection : ∀ inspection, a.inspection = some inspection →
    BrandingAction.checkInspection inspection = .ok ()
  receipt : ∀ receipt, a.receipt = some receipt → a.checkReceipt receipt = .ok ()
  actionId : ∀ actionId, a.completionActionId = some actionId →
    actionId = Offers.completionActionId a.offerId
  delivery : ∀ delivery, a.pendingDelivery = some delivery → a.checkDelivery delivery = .ok ()
  error : ∀ error, a.lastError = some error → error.utf8ByteSize ≤ maxErrorBytes
  times : a.createdAtUnix ≤ a.updatedAtUnix
  noticed : a.lastFundingFingerprint.isSome = a.lastFundingNoticeUnix.isSome
  phase : a.checkPhase = .ok ()
  pending : a.checkPending = .ok ()

open BrandingAction

variable {a : BrandingAction} {s : BrandingSnapshot}

theorem BrandingAction.checkCompletionActionId_ok {actionId : String} :
    a.checkCompletionActionId actionId = .ok () ↔
      actionId = Offers.completionActionId a.offerId := by
  unfold checkCompletionActionId
  simp only [except_check_ok, failIf_ok, not_not]
  refine ⟨fun h => h.2, fun h => ⟨?_, h⟩⟩
  rw [h]
  exact validateActionId_completion a.offerId

theorem BrandingAction.validate_ok : a.validate minter = .ok () ↔ a.Valid minter := by
  unfold validate
  simp only [except_check_ok, checkSome_ok, failIf_ok, not_lt,
    checkCompletionActionId_ok, ne_eq, not_not]
  constructor
  · rintro ⟨h₁, h₂, h₃, h₄, h₅, h₆, h₇, h₈, h₉, h₁₀⟩
    exact ⟨h₁, h₂, h₃, h₄, h₅, h₆, h₇, h₈, h₉, h₁₀⟩
  · rintro ⟨h₁, h₂, h₃, h₄, h₅, h₆, h₇, h₈, h₉, h₁₀⟩
    exact ⟨h₁, h₂, h₃, h₄, h₅, h₆, h₇, h₈, h₉, h₁₀⟩

/-- A delivery with its own commitment says what it should. -/
theorem BrandingAction.checkDelivery_ok {kind : PendingDeliveryKind} {text : String}
    {fingerprint : Option Hash} (htext : IsDeliverable text)
    (h : a.matchesDelivery (Offers.pendingDelivery kind a.offerId text fingerprint) = .ok ()) :
    a.checkDelivery (Offers.pendingDelivery kind a.offerId text fingerprint) = .ok () := by
  unfold checkDelivery
  simp only [except_check_ok, failIf_ok]
  refine ⟨validateActionId_delivery _ _ _, ?_, not_not.mpr rfl, h⟩
  rintro (hempty | hlong)
  · have htext := htext.1
    rw [show text = "" from hempty] at htext
    exact absurd htext (by decide)
  · exact absurd hlong (not_lt.mpr htext.2)

theorem BrandingAction.checkOffer_quote (h : a.checkOffer minter = .ok ()) :
    a.minter = minter ∧ a.acolyte ≠ 0 ∧ a.priceBasisPoints ≤ 2000 ∧
      a.acolyteName.utf8ByteSize ≤ maxNameBytes ∧
      ∃ quote, quoteInitialBranding a.treasuryBalance a.priceBasisPoints = .ok quote ∧
        a.initialDeclaredPrice = quote.initialDeclaredPrice ∧
        a.firstWeekUpkeep = quote.firstWeekUpkeep := by
  unfold checkOffer requireNonzero validatePublicName at h
  simp only [except_bind_ok, failIf_ok, exists_unit, not_not, not_or, not_lt] at h
  obtain ⟨-, hacolyte, -, hminter, -, -, -, hpoints, quote, hquote, hsame, -, -, hname, -⟩ := h
  exact ⟨hminter, hacolyte, hpoints.2, hname, quote, hquote, hsame⟩

/-! ## Snapshots -/

/-- Two actions with different offers that are not live in one conversation. -/
structure BrandingAction.Apart (a b : BrandingAction) : Prop where
  offer : a.offerId ≠ b.offerId
  conversation : a.phase.terminal = false → b.phase.terminal = false →
    ¬(a.inboxId = b.inboxId ∧ a.acolyte = b.acolyte)

theorem BrandingAction.Apart.symm {b : BrandingAction} (h : a.Apart b) : b.Apart a :=
  ⟨h.offer.symm, fun hb ha hsame => h.conversation ha hb ⟨hsame.1.symm, hsame.2.symm⟩⟩

/-- What a valid snapshot says, part by part. -/
structure BrandingSnapshot.Valid (minter : Address) (s : BrandingSnapshot) : Prop where
  version : s.version = snapshotVersion
  bounded : s.actions.length ≤ maxActions
  cursor : s.actions = [] ∧ s.cursor = 0 ∨ s.cursor < s.actions.length
  actions : ∀ a ∈ s.actions, a.Valid minter
  apart : s.actions.Pairwise BrandingAction.Apart

/-- What the loop over the actions requires of an action, against those seen before. -/
def Seen.Clear (seen : Seen) (a : BrandingAction) : Prop :=
  a.offerId ∉ seen.offers ∧
    (a.phase.terminal = false → (a.inboxId, a.acolyte) ∉ seen.activeConversations) ∧
    ∀ actionId, a.completionActionId = some actionId → actionId ∉ seen.actionIds

def Seen.see (seen : Seen) (a : BrandingAction) : Seen :=
  ⟨a.offerId :: seen.offers,
    if a.phase.terminal then seen.activeConversations
    else (a.inboxId, a.acolyte) :: seen.activeConversations,
    a.completionActionId.toList ++ seen.actionIds⟩

theorem checkAction_ok {seen seen' : Seen} : checkAction minter seen a = .ok seen' ↔
      (a.Valid minter ∧ seen.Clear a) ∧ seen' = seen.see a := by
  unfold checkAction
  simp only [except_bind_ok, failIf_ok, exists_unit, except_pure_ok, validate_ok]
  constructor
  · rintro ⟨hvalid, hoffer, hlive, hids, rfl⟩
    refine ⟨⟨hvalid, hoffer, fun h hin => hlive ⟨h, hin⟩, fun actionId hid hin => hids ?_⟩, rfl⟩
    rw [hid]
    exact List.contains_iff_mem.mpr hin
  · rintro ⟨⟨hvalid, hoffer, hlive, hids⟩, rfl⟩
    refine ⟨hvalid, hoffer, fun h => hlive h.1 h.2, fun h => ?_, rfl⟩
    cases hid : a.completionActionId with
    | none =>
      rw [hid] at h
      cases h
    | some actionId =>
      rw [hid] at h
      exact hids actionId hid (List.contains_iff_mem.mp h)

/-- The loop over the actions keeps them apart, their action ids included. -/
structure BrandingAction.Distinct (a b : BrandingAction) : Prop extends a.Apart b where
  actionIds : ∀ actionId, a.completionActionId = some actionId →
    b.completionActionId ≠ some actionId

theorem clear_see {seen : Seen} {b : BrandingAction} :
    (seen.see a).Clear b ↔ seen.Clear b ∧ a.Distinct b := by
  unfold Seen.Clear Seen.see
  simp only [List.mem_cons, not_or, List.mem_append, Option.mem_toList]
  constructor
  · rintro ⟨⟨hoffer, hseen⟩, hlive, hids⟩
    refine ⟨⟨hseen, fun h hin => hlive h ?_, fun actionId hid => (hids actionId hid).2⟩,
      ⟨Ne.symm hoffer, fun ha hb hsame => hlive hb ?_⟩, fun actionId ha hb => (hids actionId hb).1 ha⟩
    · split_ifs
      · exact hin
      · exact List.mem_cons_of_mem _ hin
    · rw [if_neg (by rw [ha]; exact Bool.false_ne_true)]
      exact List.mem_cons.mpr (.inl (Prod.ext hsame.1.symm hsame.2.symm))
  · rintro ⟨⟨hseen, hlive, hids⟩, ⟨⟨hoffer, hconversation⟩, hdistinct⟩⟩
    refine ⟨⟨Ne.symm hoffer, hseen⟩, fun h hin => ?_,
      fun actionId hid => ⟨fun ha => hdistinct actionId ha hid, hids actionId hid⟩⟩
    split_ifs at hin with ha
    · exact hlive h hin
    · rcases List.mem_cons.mp hin with hin | hin
      · obtain ⟨hinbox, hacolyte⟩ := Prod.mk.inj hin
        exact hconversation (Bool.not_eq_true _ ▸ ha) h ⟨hinbox.symm, hacolyte.symm⟩
      · exact hlive h hin

theorem BrandingSnapshot.validate_ok : s.validate minter = .ok () ↔ s.Valid minter := by
  unfold BrandingSnapshot.validate
  simp only [except_bind_ok, failIf_ok, exists_unit, not_not, not_lt, except_pure_ok, and_true,
    foldlM_apart Seen.see (BrandingAction.Valid minter) Seen.Clear BrandingAction.Distinct
      (fun _ _ _ => checkAction_ok) (fun _ _ _ => clear_see)]
  constructor
  · rintro ⟨hversion, hbounded, hcursor, _, hactions, hapart, -⟩
    exact ⟨hversion, hbounded, hcursor, fun a ha => (hactions a ha).1,
      hapart.imp BrandingAction.Distinct.toApart⟩
  · rintro ⟨hversion, hbounded, hcursor, hactions, hapart⟩
    refine ⟨hversion, hbounded, hcursor, _, fun a ha => ⟨hactions a ha, List.not_mem_nil,
      fun _ => List.not_mem_nil, fun _ _ => List.not_mem_nil⟩, hapart.imp_of_mem fun {a b} ha hb hab =>
        ⟨hab, fun actionId hida hidb => hab.offer ?_⟩, rfl⟩
    -- the action id of a valid action names its offer
    refine completionActionId_inj ?_
    rw [← (hactions a ha).actionId actionId hida, ← (hactions b hb).actionId actionId hidb]

/-- A changed action keeps the snapshot valid when it is not brought back to life. -/
theorem BrandingSnapshot.Valid.update (h : s.Valid minter) {index : ℕ}
    (ha : s.actions[index]? = some a) {f : BrandingAction → BrandingAction}
    (hf : (f a).Valid minter) (hoffer : (f a).offerId = a.offerId)
    (hconversation : (f a).inboxId = a.inboxId ∧ (f a).acolyte = a.acolyte)
    (hlive : (f a).phase.terminal = false → a.phase.terminal = false) :
    (s.update index f).Valid minter := by
  refine ⟨h.version, ?_, ?_, fun b hb => ?_, ?_⟩
  · exact (List.length_modify _ _ _).trans_le h.bounded
  · have hempty : (s.actions.modify index f = []) ↔ s.actions = [] := by
      rw [← List.length_eq_zero_iff, ← List.length_eq_zero_iff, List.length_modify]
    unfold BrandingSnapshot.update
    rw [hempty, List.length_modify]
    exact h.cursor
  · rcases mem_modify ha hb with hb | rfl
    · exact h.actions b hb
    · exact hf
  · refine pairwise_modify (fun _ _ => BrandingAction.Apart.symm) ha (fun b _ hab => ?_) h.apart
    exact ⟨hoffer ▸ hab.offer, fun hfa hb hsame => hab.conversation (hlive hfa) hb
      ⟨hconversation.1 ▸ hsame.1, hconversation.2 ▸ hsame.2⟩⟩

/-- What `persist` writes before it saves keeps the snapshot valid. -/
theorem BrandingSnapshot.Valid.stamp (h : s.Valid minter) (now : ℕ) :
    (s.stamp now).Valid minter := by
  refine ⟨h.version, h.bounded, ?_, h.actions, h.apart⟩
  unfold BrandingSnapshot.stamp
  dsimp only
  rcases h.cursor with hempty | hcursor
  · rw [if_pos hempty.1]
    exact .inl ⟨hempty.1, rfl⟩
  · have hne : s.actions ≠ [] := fun hempty => by
      rw [hempty] at hcursor
      exact absurd hcursor (Nat.not_lt_zero _)
    rw [if_neg hne, if_neg (not_le.mpr hcursor)]
    exact .inr hcursor

end Valid

end Cthuwu.Offers
