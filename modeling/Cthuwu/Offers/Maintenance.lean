import Cthuwu.Offers.Queue

/-!
# Turns of the supervisor

A turn selects an action that is due, may ask the gateway about it, and keeps what became of it.
The snapshot in memory stays valid as long as the text of an error fits, and a result of the
gateway is saved (`ends_maintainOne`). When every save is taken, the disk has what memory has.
-/

namespace Cthuwu.Offers

open Council TokenEye Fallible
open BrandingAction

/-! ## Texts of errors -/

/-- The text fits an error of an action. -/
def IsBrief (error : String) : Prop :=
  (boundedDiagnostic error 512).utf8ByteSize ≤ maxErrorBytes

variable {error : String} {α : Type}

theorem isBrief_of_size (h : error.utf8ByteSize ≤ maxErrorBytes) : IsBrief error := by
  have hline : (Char.utf8Size ∘ fun c => if c = '\r' ∨ c = '\n' then ' ' else c) =
      Char.utf8Size := by
    funext c
    rw [Function.comp_apply]
    split_ifs with hc
    · rcases hc with rfl | rfl <;> rfl
    · rfl
  refine le_trans ?_ h
  unfold boundedDiagnostic
  rw [utf8ByteSize_eq_sum, utf8ByteSize_eq_sum, String.toList_ofList, ← List.map_take, List.map_map,
    hline]
  exact ((List.take_sublist _ _).map Char.utf8Size).sum_le_sum fun _ _ => Nat.zero_le _

def BriefErrors {α : Type} (x : Except String α) : Prop :=
  ∀ error, x = .error error → error.utf8ByteSize ≤ maxErrorBytes

theorem briefErrors_failIf {c : Prop} [Decidable c] (h : error.utf8ByteSize ≤ maxErrorBytes) :
    BriefErrors (failIf c error) := by
  intro e he
  rw [← (failIf_error.mp he).2]
  exact h

theorem briefErrors_okOr {o : Option α} (h : error.utf8ByteSize ≤ maxErrorBytes) :
    BriefErrors (okOr o error) := by
  intro e he
  rw [← (okOr_error.mp he).2]
  exact h

theorem briefErrors_pure (a : α) : BriefErrors (pure a : Except String α) :=
  nofun

theorem BriefErrors.bind {β : Type} {x : Except String α} {f : α → Except String β}
    (hx : BriefErrors x) (hf : ∀ a, BriefErrors (f a)) : BriefErrors (x >>= f) := by
  intro e he
  rcases except_bind_error.mp he with he | ⟨a, -, he⟩
  · exact hx e he
  · exact hf a e he

theorem briefErrors_checkSome {o : Option α} {check : α → Except String Unit}
    (h : ∀ a, BriefErrors (check a)) : BriefErrors (checkSome o check) := by
  cases o with
  | none => exact nofun
  | some a => exact h a

theorem briefErrors_quote (treasury : U256) (points : ℕ) :
    BriefErrors (quoteInitialBranding treasury points) := by
  unfold quoteInitialBranding
  refine .bind (briefErrors_failIf (by decide)) fun _ =>
    .bind (briefErrors_okOr (by decide)) fun price =>
      .bind (briefErrors_failIf (by decide)) fun _ =>
        .bind (briefErrors_okOr (by decide)) fun floorUpkeep =>
          .bind (briefErrors_okOr (by decide)) fun recomposed => ?_
  split_ifs
  · exact .bind (briefErrors_okOr (by decide)) fun _ => briefErrors_pure _
  · exact .bind (briefErrors_pure _) fun _ => briefErrors_pure _

theorem briefErrors_operations {label : String} (h : label.utf8ByteSize ≤ 100)
    (operations : List Operation) : BriefErrors (validateOperations label operations) := by
  have hparts : "Branding ".utf8ByteSize = 9 ∧ " operation list is unbounded".utf8ByteSize = 28 ∧
      " operation list is invalid".utf8ByteSize = 26 := by decide
  unfold validateOperations
  refine .bind (briefErrors_failIf ?_) fun _ => briefErrors_failIf ?_ <;>
    rw [String.utf8ByteSize_append, String.utf8ByteSize_append] <;> unfold maxErrorBytes <;> omega

theorem briefErrors_common (result : CommonResult) (a : BrandingAction) :
    BriefErrors (validateCommonResult result a) := by
  unfold validateCommonResult
  refine .bind (briefErrors_failIf (by decide)) fun _ =>
    .bind (briefErrors_failIf (by decide)) fun _ =>
    .bind (briefErrors_failIf (by decide)) fun _ =>
    .bind (briefErrors_failIf (by decide)) fun _ =>
    .bind (briefErrors_failIf (by decide)) fun _ =>
    .bind (briefErrors_failIf (by decide)) fun _ =>
    .bind (briefErrors_okOr (by decide)) fun _ =>
    .bind (briefErrors_failIf (by decide)) fun _ =>
    .bind (briefErrors_failIf (by decide)) fun _ =>
    .bind (briefErrors_failIf (by decide)) fun _ =>
    .bind (briefErrors_checkSome fun _ => briefErrors_failIf (by decide)) fun _ =>
    .bind (briefErrors_operations (by decide) _) fun _ =>
    .bind (briefErrors_operations (by decide) _) fun _ =>
    briefErrors_operations (by decide) _

theorem briefErrors_inspection (result : BrandingInspectionResult) (a : BrandingAction) :
    BriefErrors (validateInspectionResult result a) :=
  .bind (briefErrors_failIf (by decide)) fun _ =>
    .bind (briefErrors_common _ _) fun _ => briefErrors_failIf (by decide)

theorem briefErrors_completion (result : BrandingCompletionResult) (a : BrandingAction) :
    BriefErrors (validateCompletionResult result a) := by
  unfold validateCompletionResult
  refine .bind (briefErrors_failIf (by decide)) fun _ =>
    .bind (briefErrors_common _ _) fun _ =>
    .bind (briefErrors_okOr (by decide)) fun _ =>
    .bind (briefErrors_failIf (by decide)) fun _ =>
    .bind (briefErrors_failIf (by decide)) fun _ =>
    .bind (briefErrors_failIf (by decide)) fun _ => ?_
  cases result.disposition with
  | complete => exact .bind (briefErrors_failIf (by decide)) fun _ =>
      briefErrors_failIf (by decide)
  | fundingRequired => exact .bind (briefErrors_failIf (by decide)) fun _ =>
      briefErrors_failIf (by decide)
  | ready | repairRequired => exact briefErrors_pure _

theorem briefErrors_complete (result : BrandingCompletionResult) (inspection : InspectionBinding)
    (a : BrandingAction) : BriefErrors (checkComplete result inspection a) :=
  .bind (briefErrors_failIf (by decide)) fun _ =>
    .bind (briefErrors_failIf (by decide)) fun _ =>
    .bind (briefErrors_okOr (by decide)) fun _ => briefErrors_failIf (by decide)

/-! ## Answers of the gateway -/

/-- The error of a turn fits, and a result is saved. -/
def Reply.Fits (faults : Faults) : Reply → Prop
  | .failed error => IsBrief error
  | .inspection _ | .completion _ => faults.work = none

/-- What was asked to be completed is what the action was consented to. -/
def BrandingAction.Completes (a : BrandingAction) (actionId : String)
    (operation : CompleteOperation) : Prop :=
  a.phase.mayComplete = true ∧ a.completionActionId = some actionId ∧ ∃ inspection consent,
    a.inspection = some inspection ∧ a.consent = some consent ∧
      operation = a.completeOperation inspection consent

def Runtime.invoked (new : List Invocation) (r : Runtime) : Runtime :=
  { r with invocations := r.invocations ++ new }

/-- What an attempt leaves : a saved snapshot, or the runtime with an error to record. -/
def Asked [Hashing] (minter : Address) (new : List Invocation) (r : Runtime) {α : Type} :
    Except String α → Runtime → Prop
  | .ok _, r' => ∃ s, r' = (r.saved s).invoked new ∧ Follows minter (fun _ => False) r s
  | .error error, r' => IsBrief error ∧ r' = r.invoked new

section Turns

variable [Hashing] {minter : Address} {fault : Option String} {faults : Faults} {reply : Reply}
  {r : Runtime} {index : ℕ} {a : BrandingAction} {now : ℕ}

variable {f : BrandingAction → BrandingAction}

/-- A change after the gateway was asked, with its save. -/
theorem ends_asked {α : Type} {x : Op α} {result : α} (new : List Invocation)
    (hvalid : r.state.Valid minter) (ha : r.state.actions[index]? = some a)
    (hf : (f a).Valid minter) (hbecomes : a.Becomes (f a))
    (hx : x = do change (·.update index f); persist minter none now; return result) :
    Ends (Asked minter new r) x (r.invoked new) := by
  rw [hx, ← bind_assoc]
  refine (ends_update_persist (r := r.invoked new) hvalid ha hf hbecomes).bind ?_ ?_
  · rintro _ _ ⟨s, rfl, hfollows⟩
    exact ends_pure ⟨s, rfl, hfollows.valid, hfollows.evolves⟩
  · rintro _ _ ⟨hfault, -⟩
    exact absurd rfl hfault

theorem binding_valid {result : BrandingInspectionResult} {blockTimestamp : ℕ}
    (htime : parseU64 result.observedBlockTimestamp = some blockTimestamp)
    (hfits : blockTimestamp + offerLifetimeSeconds ≤ u64Max) :
    checkInspection (result.binding blockTimestamp) = .ok () := by
  unfold parseU64 at htime
  split_ifs at htime with hle
  have heq := Option.some.inj htime
  have hdeadline : (result.binding blockTimestamp).deadline.toNat =
      blockTimestamp + offerLifetimeSeconds := by
    change (BitVec.ofNat 256 (blockTimestamp + offerLifetimeSeconds)).toNat = _
    rw [BitVec.toNat_ofNat, Nat.mod_eq_of_lt (hfits.trans_lt (by decide))]
  have hstamp : (result.binding blockTimestamp).blockTimestamp.toNat = blockTimestamp := heq
  unfold checkInspection
  simp only [except_check_ok, failIf_ok, hstamp, hdeadline]
  exact ⟨not_lt.mpr (heq ▸ hle), not_lt.mpr hfits, not_not.mpr rfl⟩

theorem ends_inspectOffer (hvalid : r.state.Valid minter) (ha : r.state.actions[index]? = some a)
    (hphase : a.phase = .requested) (hnow : a.createdAtUnix ≤ now) (hreply : reply.Fits faults) :
    Ends (Asked minter
        [.inspect ("branding-inspect:" ++ offerIdText a.offerId) a.inspectOperation] r)
      (inspectOffer minter faults.work reply index a now) r := by
  have haction := hvalid.actions a (List.mem_of_getElem? ha)
  unfold inspectOffer
  refine ends_modify_bind ?_
  generalize [Invocation.inspect ("branding-inspect:" ++ offerIdText a.offerId)
    a.inspectOperation] = new
  change Ends _ _ (r.invoked new)
  have herror : ∀ {α : Type} {x : Except String α}, BriefErrors x → ∀ e, x = .error e →
      Asked minter new r (.error e : Except String (Option BrandingDelivery)) (r.invoked new) :=
    fun hx e he => ⟨isBrief_of_size (hx e he), rfl⟩
  cases reply with
  | failed error => exact ends_throw ⟨hreply, rfl⟩
  | completion result => exact ends_throw ⟨isBrief_of_size (by decide), rfl⟩
  | inspection result =>
    have hreply : faults.work = none := hreply
    rw [hreply]
    refine ends_lift_bind (herror (briefErrors_inspection _ _)) fun _ _ =>
      ends_lift_bind (herror (briefErrors_okOr (by decide))) fun blockTimestamp htime =>
      ends_lift_bind (herror (.bind (briefErrors_failIf (by decide)) fun _ =>
        briefErrors_failIf (by decide))) fun _ _ =>
      ends_lift_bind (herror (briefErrors_failIf (by decide))) fun _ _ => ?_
    split_ifs
    · exact ends_asked new hvalid ha (fail_valid haction hphase hnow _) (fail_becomes hphase) rfl
    · unfold refreshRequestedQuote
      simp only [bind_assoc]
      refine ends_lift_bind (herror (briefErrors_failIf (by decide))) fun _ _ =>
        ends_lift_bind (herror (briefErrors_quote _ _)) fun quote hquote => ?_
      exact ends_asked new hvalid ha (requote_valid haction hnow hquote)
        (requote_becomes hphase) rfl
    · generalize hlate : failIf (u64Max < blockTimestamp + offerLifetimeSeconds)
        "Branding offer deadline overflowed" = late
      refine ends_lift_bind (fun e he => ?_) fun _ hfits => ?_
      · rw [← hlate] at he
        exact herror (briefErrors_failIf (by decide)) e he
      rw [← hlate] at hfits
      have hbinding := binding_valid (okOr_ok.mp htime) (not_lt.mp (failIf_ok.mp hfits))
      exact ends_asked new hvalid ha (offerOf_valid haction hphase hnow hbinding)
        (offerOf_becomes hphase) rfl

/-- A result that passes its checks is about the token of the action, and its work is bounded. -/
theorem validateCommonResult_ok {result : CommonResult}
    (h : validateCommonResult result a = .ok ()) :
    result.tokenId = addressTokenId a.acolyte ∧ result.pendingOperations.length ≤ 3 := by
  unfold validateCommonResult validateOperations at h
  simp only [except_bind_ok, failIf_ok, exists_unit, not_not, not_lt] at h
  obtain ⟨-, -, -, -, -, -, -, -, -, htoken, -, -, -, -, hpending, -⟩ := h
  exact ⟨htoken, hpending⟩

theorem ends_completeBranding (hvalid : r.state.Valid minter)
    (ha : r.state.actions[index]? = some a) (hphase : a.phase.mayComplete = true)
    (hnow : a.createdAtUnix ≤ now) (hreply : reply.Fits faults) :
    ∃ actionId operation, a.Completes actionId operation ∧
      Ends (Asked minter [.complete actionId operation] r)
        (completeBranding minter faults.work reply index a now) r := by
  have haction := hvalid.actions a (List.mem_of_getElem? ha)
  obtain ⟨hinspection, hconsent, -, hid⟩ := mayComplete_shape haction hphase
  obtain ⟨inspection, hinspection⟩ := Option.ne_none_iff_exists'.mp hinspection
  obtain ⟨consent, hconsent⟩ := Option.ne_none_iff_exists'.mp hconsent
  obtain ⟨actionId, hid⟩ := Option.ne_none_iff_exists'.mp hid
  refine ⟨actionId, a.completeOperation inspection consent,
    ⟨hphase, hid, inspection, consent, hinspection, hconsent, rfl⟩, ?_⟩
  unfold completeBranding
  rw [hinspection, hconsent, hid]
  refine ends_lift_bind nofun fun _ hsome => ends_lift_bind nofun fun _ hsome' =>
    ends_lift_bind nofun fun _ hsome'' => ?_
  obtain rfl := Option.some.inj (okOr_ok.mp hsome)
  obtain rfl := Option.some.inj (okOr_ok.mp hsome')
  obtain rfl := Option.some.inj (okOr_ok.mp hsome'')
  refine ends_modify_bind ?_
  generalize [Invocation.complete actionId (a.completeOperation inspection consent)] = new
  change Ends _ _ (r.invoked new)
  have herror : ∀ {α : Type} {x : Except String α}, BriefErrors x → ∀ e, x = .error e →
      Asked minter new r (.error e : Except String (Option BrandingDelivery)) (r.invoked new) :=
    fun hx e he => ⟨isBrief_of_size (hx e he), rfl⟩
  cases reply with
  | failed error => exact ends_throw ⟨hreply, rfl⟩
  | inspection result => exact ends_throw ⟨isBrief_of_size (by decide), rfl⟩
  | completion result =>
    have hreply : faults.work = none := hreply
    rw [hreply]
    refine ends_lift_bind (herror (briefErrors_completion _ _)) fun _ hchecked => ?_
    have hcommon : validateCommonResult result.toCommonResult a = .ok () := by
      unfold validateCompletionResult at hchecked
      simp only [except_bind_ok, exists_unit] at hchecked
      exact hchecked.2.1
    obtain ⟨htoken, hpending⟩ := validateCommonResult_ok hcommon
    cases result.disposition with
    | fundingRequired =>
      exact ends_asked new hvalid ha (requireFunding_valid haction hphase hnow hpending)
        (requireFunding_becomes hphase) rfl
    | complete =>
      refine ends_lift_bind (herror (briefErrors_complete _ _ _)) fun _ _ => ?_
      exact ends_asked new hvalid ha (receiptOf_valid haction hphase hnow hinspection htoken)
        (receiptOf_becomes hphase) rfl
    | ready | repairRequired => exact ends_throw ⟨isBrief_of_size (by decide), rfl⟩

/-! ## Turns -/

/-- What a turn leaves : a valid snapshot that follows, what was asked, and on the disk the same when
every save is taken. -/
structure Turned (minter : Address) (faults : Faults) (r r' : Runtime) : Prop where
  follows : Follows minter (fun _ => False) r r'.state
  invoked : ∃ new, r'.invocations = r.invocations ++ new ∧ ∀ invocation ∈ new,
    ∀ actionId operation, invocation = .complete actionId operation →
      ∃ a ∈ r.state.actions, a.Completes actionId operation
  saved : r.disk = r.state → faults.select = none → faults.work = none → faults.record = none →
    r'.disk = r'.state

theorem Turned.refl (hvalid : r.state.Valid minter) : Turned minter faults r r :=
  ⟨⟨hvalid, .refl _⟩, ⟨[], (List.append_nil _).symm, fun _ hi => absurd hi List.not_mem_nil⟩,
    fun h _ _ _ => h⟩

/-- The turn that ends after it was asked, with its error recorded. -/
theorem ends_attempt {new : List Invocation} {ask : Op (Option BrandingDelivery)}
    (hvalid : r.state.Valid minter) (ha : r.state.actions[index]? = some a)
    (hphase : a.phase = .requested ∨ a.phase.mayComplete = true) (hnow : a.createdAtUnix ≤ now)
    (hnew : ∀ invocation ∈ new, ∀ actionId operation,
      invocation = .complete actionId operation → a.Completes actionId operation)
    (hask : Ends (Asked minter new r) ask r) :
    Ends (fun _ => Turned minter faults r) (attempt minter faults.record index now ask) r := by
  have hinvoked : ∃ new', r.invocations ++ new = r.invocations ++ new' ∧ ∀ invocation ∈ new',
      ∀ actionId operation, invocation = .complete actionId operation →
        ∃ a ∈ r.state.actions, a.Completes actionId operation :=
    ⟨new, rfl, fun i hi actionId operation heq =>
      ⟨a, List.mem_of_getElem? ha, hnew i hi actionId operation heq⟩⟩
  have haction := hvalid.actions a (List.mem_of_getElem? ha)
  refine ends_tryCatch (hask.mono ?_)
  rintro (error | delivery) r' hresult
  · obtain ⟨hbrief, rfl⟩ := hresult
    have hlive : a.phase.terminal = false := by
      rcases hphase with hphase | hphase
      · rw [hphase]
        rfl
      · exact terminal_of_mayComplete hphase
    refine (ends_update_persist (r := r.invoked new) hvalid ha
      (recordError_valid haction hphase hnow hbrief)
      (recordError_becomes hlive)).bind ?_ ?_
    · rintro _ _ ⟨s, rfl, hfollows⟩
      exact ends_pure ⟨⟨hfollows.valid, hfollows.evolves⟩, hinvoked, fun _ _ _ _ => rfl⟩
    · rintro _ _ ⟨hfault, s, rfl, hfollows⟩
      exact ⟨⟨hfollows.valid, hfollows.evolves⟩, hinvoked, fun _ _ _ h => absurd h hfault⟩
  · obtain ⟨s, rfl, hfollows⟩ := hresult
    exact ⟨⟨hfollows.valid, hfollows.evolves⟩, hinvoked, fun _ _ _ _ => rfl⟩

theorem ends_settle (hvalid : r.state.Valid minter) (ha : r.state.actions[index]? = some a)
    (hf : (f a).Valid minter) (hbecomes : a.Becomes (f a)) :
    Ends (fun _ => Turned minter faults r) (settle minter faults.work index f now) r := by
  have hnone : ∃ new : List Invocation, r.invocations = r.invocations ++ new ∧
      ∀ invocation ∈ new, ∀ actionId operation, invocation = .complete actionId operation →
        ∃ a ∈ r.state.actions, a.Completes actionId operation :=
    (Turned.refl hvalid : Turned minter faults r r).invoked
  unfold settle
  rw [← bind_assoc]
  refine (ends_update_persist hvalid ha hf hbecomes).bind ?_ ?_
  · rintro _ _ ⟨s, rfl, hfollows⟩
    exact ends_pure ⟨hfollows, hnone, fun _ _ _ _ => rfl⟩
  · rintro _ _ ⟨hfault, s, rfl, hfollows⟩
    exact ⟨hfollows, hnone, fun _ _ h _ => absurd h hfault⟩

theorem ends_work {agentId : U256} (hvalid : r.state.Valid minter)
    (ha : r.state.actions[index]? = some a) (hnow : a.createdAtUnix ≤ now)
    (hreply : reply.Fits faults) :
    Ends (fun _ => Turned minter faults r) (work minter faults reply agentId index a now) r := by
  have haction := hvalid.actions a (List.mem_of_getElem? ha)
  unfold work
  split_ifs with hagent hlate
  · exact ends_settle hvalid ha (mismatch_valid haction hnow)
      mismatch_becomes
  · exact ends_settle hvalid ha (expire_valid haction hnow) expire_becomes
  · cases a.delivery with
    | some delivery => exact ends_pure (.refl hvalid)
    | none =>
      have hcomplete : a.phase.mayComplete = true → Ends (fun _ => Turned minter faults r)
          (attempt minter faults.record index now
            (completeBranding minter faults.work reply index a now)) r := by
        intro hmay
        obtain ⟨actionId, operation, hcompletes, hask⟩ :=
          ends_completeBranding hvalid ha hmay hnow hreply
        refine ends_attempt hvalid ha (.inr hmay) hnow ?_ hask
        intro invocation hi actionId' operation' heq
        obtain ⟨rfl, rfl⟩ := Invocation.complete.inj ((List.mem_singleton.mp hi).symm.trans heq)
        exact hcompletes
      cases hphase : a.phase with
      | requested =>
        refine ends_attempt hvalid ha (.inl hphase) hnow ?_
          (ends_inspectOffer hvalid ha hphase hnow hreply)
        intro invocation hi actionId operation heq
        cases (List.mem_singleton.mp hi).symm.trans heq
      | consented | fundingRequired => exact hcomplete (by rw [hphase]; rfl)
      | offered =>
        exact ends_settle hvalid ha (lapse_valid haction hphase hnow) lapse_becomes
      | offerPendingDelivery | receiptPendingDelivery | completed | declined | expired
      | superseded | failedPermanent => exact ends_pure (.refl hvalid)

/-- The place that is selected holds a due action. -/
theorem dueFrom_eq_some {s : BrandingSnapshot} (h : s.dueFrom now = some index) :
    ∃ a, s.actions[index]? = some a ∧ a.isDue now = true := by
  have hdue := List.find?_some h
  exact (Option.any_eq_true _ _).mp hdue

theorem BrandingSnapshot.Valid.advance {s : BrandingSnapshot} (h : s.Valid minter)
    (hne : s.actions ≠ []) (place : ℕ) :
    { s with cursor := place % s.actions.length }.Valid minter :=
  { h with cursor := .inr (Nat.mod_lt _ (List.length_pos_iff.mpr hne)) }

theorem ends_maintainOne {agentId : U256} (hvalid : r.state.Valid minter)
    (hnow : ∀ a ∈ r.state.actions, a.isDue now = true → a.createdAtUnix ≤ now)
    (hreply : reply.Fits faults) :
    Ends (fun _ r' => r' = r ∨ r.state.dueFrom now ≠ none ∧ Turned minter faults r r')
      (maintainOne minter faults reply agentId now) r := by
  unfold maintainOne selectDueFairly
  rw [bind_assoc]
  refine ends_get_bind ?_
  cases hselected : r.state.dueFrom now with
  | none => exact ends_pure (.inl rfl)
  | some index =>
    obtain ⟨a, ha, hdue⟩ := dueFrom_eq_some hselected
    have hcreated := hnow a (List.mem_of_getElem? ha) hdue
    have hadvanced : ({ r.state with cursor := (index + 1) % r.state.actions.length } :
        BrandingSnapshot).Valid minter :=
      hvalid.advance (fun hempty => by rw [hempty] at ha; cases ha) _
    have hrefl : Turned minter faults r r := Turned.refl hvalid
    simp only [bind_assoc, pure_bind]
    refine ends_change (ends_persist.bind ?_ ?_)
    · rintro _ _ ⟨rfl, hstamped, -⟩
      refine ends_get_bind ?_
      -- the actions are the ones that were selected from
      split
      · next hnone => cases hnone.symm.trans ha
      · next found hfound =>
        obtain rfl : found = a := Option.some.inj (hfound.symm.trans ha)
        refine (ends_work hstamped hfound hcreated hreply).mono fun _ r' hturned => .inr
          ⟨Option.some_ne_none _, ⟨hturned.follows.valid, hturned.follows.evolves⟩,
            hturned.invoked, fun _ hselect => hturned.saved rfl hselect⟩
    · rintro _ _ ⟨rfl, hfault⟩
      exact .inr ⟨Option.some_ne_none _, ⟨hadvanced.stamp now, .refl _⟩, hrefl.invoked,
        fun _ h _ _ => absurd h (hfault (hadvanced.stamp now))⟩

end Turns

end Cthuwu.Offers
