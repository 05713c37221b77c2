import Cthuwu.Lib.Turns
import Cthuwu.Offers.Durable

/-!
# Whose turn is next

The queue is read round from its cursor (`turns`). Most calls change actions where they stand, which
changes nothing about the turns (`Steady`). An offer may take actions that have ended out of the queue,
and joins it. Then the turns of the others come in the same order (`Requeues`), if the cursor still
stands where it did : the eviction moves it along, and the pruning does not.
-/

namespace Cthuwu.Offers

open Council TokenEye Fallible

namespace BrandingSnapshot

def offerIds (s : BrandingSnapshot) : List OfferId :=
  s.actions.map (·.offerId)

/-- The offers in the order in which their turns come. -/
def turns (s : BrandingSnapshot) : List OfferId :=
  s.offerIds.rotate s.cursor

end BrandingSnapshot

theorem turns_eq (s : BrandingSnapshot) : s.turns = (s.actions.rotate s.cursor).map (·.offerId) := by
  unfold BrandingSnapshot.turns BrandingSnapshot.offerIds
  rw [List.map_rotate]

/-! ## Calls that change actions where they stand -/

/-- The same offers are queued, and their turns come in the same order. -/
structure Steady (s s' : BrandingSnapshot) : Prop where
  offerIds : s'.offerIds = s.offerIds
  turns : s'.turns = s.turns
  cursor : s.cursor ≤ s.actions.length → s'.cursor ≤ s'.actions.length

variable {s s' s'' : BrandingSnapshot} {now index : ℕ}

theorem Steady.refl (s : BrandingSnapshot) : Steady s s :=
  ⟨rfl, rfl, id⟩

theorem Steady.trans (h : Steady s s') (h' : Steady s' s'') : Steady s s'' :=
  ⟨h'.offerIds.trans h.offerIds, h'.turns.trans h.turns, fun hs => h'.cursor (h.cursor hs)⟩

theorem steady_of_offerIds (h : s'.offerIds = s.offerIds) (hcursor : s'.cursor = s.cursor) :
    Steady s s' := by
  refine ⟨h, ?_, fun hs => ?_⟩
  · unfold BrandingSnapshot.turns
    rw [h, hcursor]
  · have hlength := congrArg List.length h
    unfold BrandingSnapshot.offerIds at hlength
    rw [List.length_map, List.length_map] at hlength
    omega

variable {f : BrandingAction → BrandingAction}

theorem steady_updateWhere {p : BrandingAction → Bool} (hf : ∀ a, (f a).offerId = a.offerId) :
    Steady s (s.updateWhere p f) := by
  refine steady_of_offerIds ?_ rfl
  unfold BrandingSnapshot.offerIds BrandingSnapshot.updateWhere
  rw [List.map_map]
  refine List.map_congr_left fun a _ => ?_
  rw [Function.comp_apply]
  split_ifs
  · exact hf a
  · rfl

theorem steady_update (hf : ∀ a, (f a).offerId = a.offerId) : Steady s (s.update index f) :=
  steady_of_offerIds (map_modify hf) rfl

theorem steady_stamp : Steady s (s.stamp now) := by
  unfold BrandingSnapshot.stamp
  refine ⟨rfl, ?_, fun hs => ?_⟩
  · unfold BrandingSnapshot.turns BrandingSnapshot.offerIds
    dsimp only
    split_ifs with hempty
    · rw [hempty]
      rfl
    · rw [← List.rotate_mod, List.length_map, Nat.mod_mod, ← List.length_map (f := (·.offerId)),
        List.rotate_mod]
    · rfl
  · dsimp only
    split_ifs with hempty
    · exact Nat.zero_le _
    · exact (Nat.mod_lt _ (List.length_pos_iff.mpr hempty)).le
    · exact hs

variable [Hashing] {minter : Address} {fault : Option String} {faults : Faults} {reply : Reply}
  {a : BrandingAction}

/-- The call leaves the queue as it was. -/
abbrev KeepsQueue (s : BrandingSnapshot) {α : Type} (x : Op α) : Prop :=
  Preserves (fun r => Steady s r.state) x

theorem keepsQueue_change {f : BrandingSnapshot → BrandingSnapshot}
    (hf : ∀ t, Steady t (f t)) : KeepsQueue s (change f) :=
  preserves_modify fun r h => h.trans (hf r.state)

theorem keepsQueue_update (hf : ∀ a, (f a).offerId = a.offerId) :
    KeepsQueue s (change (·.update index f)) :=
  keepsQueue_change fun _ => steady_update hf

theorem keepsQueue_save : KeepsQueue s (save minter fault) := by
  unfold save
  refine preserves_get_bind fun r _ => (preserves_lift _).bind fun _ => ?_
  cases fault with
  | some error => exact preserves_throw error
  | none => exact preserves_modify fun _ h => h

theorem keepsQueue_persist : KeepsQueue s (persist minter fault now) :=
  (keepsQueue_change fun _ => steady_stamp).bind fun _ => keepsQueue_save

/-- An action changes where it stands before the rest. -/
theorem keepsQueue_update_bind {α : Type} {x : Unit → Op α} (hf : ∀ a, (f a).offerId = a.offerId)
    (hx : KeepsQueue s (x ())) : KeepsQueue s (change (·.update index f) >>= x) :=
  Preserves.bind (keepsQueue_update hf) fun _ => hx

/-- Putting back a snapshot whose queue is the same. -/
theorem keepsQueue_orRestore {α : Type} {x : Op α} {previous : BrandingSnapshot}
    (hx : KeepsQueue s x) (hprevious : Steady s previous) : KeepsQueue s (orRestore x previous) :=
  hx.tryCatch fun error => Preserves.bind (preserves_modify fun _ _ => hprevious) fun _ =>
    preserves_throw error

theorem keepsQueue_acceptConsent {inboxId : String} {sender : Address} {consent : ParsedConsent} :
    KeepsQueue s (acceptConsent minter fault inboxId sender consent now) := by
  unfold acceptConsent
  refine preserves_get_bind fun r hr => (preserves_lift _).bind fun found =>
    (preserves_lift _).bind fun _ => ?_
  have hwaits : KeepsQueue s (do
      let inspection ← liftM (okOr found.2.inspection "Branding offer has no inspection binding")
      let deadline ← liftM (okOr (parseU64 inspection.deadline)
        "Branding deadline exceeds local clock range")
      if deadline < now then
        change (·.update found.1 (·.expire now))
        orRestore (persist minter fault now) r.state
        throw "Branding offer expired before consent was received"
      else do
        liftM (failIf (deadline - now < minSigningWindowSeconds)
          "Branding consent arrived without the required execution window")
        change (·.update found.1 (·.bind consent.signature now))
        orRestore (persist minter fault now) r.state
        return boundConsentAnswer : Op String) := by
    refine (preserves_lift _).bind fun _ => (preserves_lift _).bind fun deadline => ?_
    split_ifs
    · refine keepsQueue_update_bind (fun _ => rfl) ?_
      exact (keepsQueue_orRestore keepsQueue_persist hr).bind fun _ => preserves_throw _
    · refine (preserves_lift _).bind fun _ => keepsQueue_update_bind (fun _ => rfl) ?_
      exact (keepsQueue_orRestore keepsQueue_persist hr).bind fun _ => preserves_pure _
  have hbound : KeepsQueue s (do
      liftM (failIf (found.2.consent ≠ some ⟨consent.signature⟩)
        "a different signature cannot replace persisted Branding consent")
      return pendingConsentAnswer : Op String) :=
    (preserves_lift _).bind fun _ => preserves_pure _
  cases found.2.phase
  all_goals first
    | exact hwaits
    | exact hbound
    | exact preserves_pure _
    | exact preserves_throw _

theorem keepsQueue_decline {inboxId : String} {sender : Address} {offerId : OfferId} :
    KeepsQueue s (decline minter fault inboxId sender offerId now) := by
  unfold decline
  refine preserves_get_bind fun _ _ => (preserves_lift _).bind fun _ => ?_
  refine keepsQueue_update_bind (fun _ => rfl) ?_
  exact (keepsQueue_persist).bind fun _ => preserves_pure _

theorem keepsQueue_deferDue : KeepsQueue s (deferDue minter fault now) := by
  unfold deferDue
  refine Preserves.bind (keepsQueue_change fun t => ?_) fun _ => keepsQueue_persist
  exact steady_updateWhere fun _ => rfl

theorem keepsQueue_acknowledge {commitment : String} {delivered : Bool} :
    KeepsQueue s (acknowledgeDelivery minter fault commitment delivered now) := by
  unfold acknowledgeDelivery
  refine (preserves_lift _).bind fun _ => preserves_get_bind fun r _ => ?_
  cases position (awaitsCommitment commitment) r.state.actions with
  | none => exact preserves_pure _
  | some found =>
    dsimp only
    split_ifs
    · exact keepsQueue_update_bind (fun _ => rfl) keepsQueue_persist
    · refine (preserves_lift _).bind fun pending =>
        keepsQueue_update_bind (fun b => ?_) keepsQueue_persist
      unfold BrandingAction.acknowledge
      cases pending.kind <;> rfl

/-! ### The work on an action -/

theorem keepsQueue_settle (hf : ∀ a, (f a).offerId = a.offerId) :
    KeepsQueue s (settle minter fault index f now) :=
  keepsQueue_update_bind hf ((keepsQueue_persist).bind fun _ => preserves_pure _)

theorem keepsQueue_conclude (hf : ∀ a, (f a).offerId = a.offerId) :
    KeepsQueue s (conclude minter fault index f a now) :=
  keepsQueue_update_bind hf ((keepsQueue_persist).bind fun _ => preserves_pure _)

theorem keepsQueue_invoke {invocation : Invocation} : KeepsQueue s (invoke invocation) :=
  preserves_modify fun _ h => h

theorem keepsQueue_inspectOffer : KeepsQueue s (inspectOffer minter fault reply index a now) := by
  unfold inspectOffer
  refine (keepsQueue_invoke).bind fun _ => ?_
  cases reply with
  | failed error => exact preserves_throw _
  | completion result => exact preserves_throw _
  | inspection result =>
    refine (preserves_lift _).bind fun _ => (preserves_lift _).bind fun blockTimestamp =>
      (preserves_lift _).bind fun _ => (preserves_lift _).bind fun _ => ?_
    split_ifs
    · exact keepsQueue_settle fun _ => rfl
    · refine Preserves.bind ?_ fun _ => preserves_pure _
      unfold refreshRequestedQuote
      refine (preserves_lift _).bind fun _ => (preserves_lift _).bind fun _ => ?_
      exact keepsQueue_update_bind (fun _ => rfl) keepsQueue_persist
    · exact (preserves_lift _).bind fun _ => keepsQueue_conclude fun _ => rfl

theorem keepsQueue_completeBranding :
    KeepsQueue s (completeBranding minter fault reply index a now) := by
  unfold completeBranding
  refine (preserves_lift _).bind fun inspection => (preserves_lift _).bind fun _ =>
    (preserves_lift _).bind fun _ => (keepsQueue_invoke).bind fun _ => ?_
  cases reply with
  | failed error => exact preserves_throw _
  | inspection result => exact preserves_throw _
  | completion result =>
    refine (preserves_lift _).bind fun _ => ?_
    cases result.disposition with
    | fundingRequired => exact keepsQueue_conclude fun _ => rfl
    | complete => exact (preserves_lift _).bind fun _ => keepsQueue_conclude fun _ => rfl
    | ready => exact preserves_throw _
    | repairRequired => exact preserves_throw _

theorem keepsQueue_attempt {ask : Op (Option BrandingDelivery)} (hask : KeepsQueue s ask) :
    KeepsQueue s (attempt minter fault index now ask) :=
  hask.tryCatch fun _ => Preserves.bind
    (keepsQueue_update_bind (fun _ => rfl) keepsQueue_persist) fun _ => preserves_pure _

theorem keepsQueue_work {agentId : U256} :
    KeepsQueue s (work minter faults reply agentId index a now) := by
  unfold work
  split_ifs
  · exact keepsQueue_settle fun _ => rfl
  · exact keepsQueue_settle fun _ => rfl
  · cases a.delivery with
    | some delivery => exact preserves_pure _
    | none =>
      cases a.phase
      all_goals first
        | exact keepsQueue_attempt keepsQueue_inspectOffer
        | exact keepsQueue_attempt keepsQueue_completeBranding
        | exact keepsQueue_settle fun _ => rfl
        | exact preserves_pure _

/-! ## Offers -/

/-- Some have left the queue, one may have joined it, and the turns of the others come in the order in
which they came. -/
structure Requeues (joined : Option OfferId) (s s' : BrandingSnapshot) : Prop where
  turns : ∃ p q, (p ++ q).Sublist s.turns ∧
    (s'.turns = p ++ q ∨ ∃ n, joined = some n ∧ s'.turns = p ++ n :: q)
  cursor : s'.cursor ≤ s'.actions.length
  nodup : s'.offerIds.Nodup

variable {joined : Option OfferId} {n m : OfferId}

theorem requeues_of_sublist (h : s'.turns.Sublist s.turns) (hcursor : s'.cursor ≤ s'.actions.length)
    (hnodup : s.offerIds.Nodup) : Requeues joined s s' := by
  refine ⟨⟨s'.turns, [], ?_, .inl (List.append_nil _).symm⟩, hcursor, ?_⟩
  · rwa [List.append_nil]
  · exact List.nodup_rotate.mp (h.nodup (List.nodup_rotate.mpr hnodup))

theorem Steady.requeues (h : Steady s s') (hcursor : s.cursor ≤ s.actions.length)
    (hnodup : s.offerIds.Nodup) : Requeues joined s s' :=
  requeues_of_sublist (by rw [h.turns]) (h.cursor hcursor) hnodup

theorem Requeues.trans_steady (h : Requeues joined s s') (h' : Steady s' s'') :
    Requeues joined s s'' := by
  refine ⟨?_, h'.cursor h.cursor, ?_⟩
  · rw [h'.turns]
    exact h.turns
  · rw [h'.offerIds]
    exact h.nodup

/-- Whoever came before another still does. -/
theorem Requeues.ahead (h : Requeues joined s s') (hnodup : s.turns.Nodup)
    (hahead : Ahead m n s.turns) (hn : joined ≠ some n) (hm : joined ≠ some m)
    (hin : m ∈ s'.turns) : Ahead m n s'.turns := by
  obtain ⟨p, q, hsub, hturns | ⟨k, rfl, hturns⟩⟩ := h.turns
  · rw [hturns] at hin ⊢
    exact hahead.sublist hnodup hsub hin
  · rw [hturns] at hin ⊢
    have hne : m ≠ k := fun heq => hm (congrArg some heq.symm)
    have hin : m ∈ p ++ q := by
      simp only [List.mem_append, List.mem_cons, hne, false_or] at hin ⊢
      exact hin
    exact (hahead.sublist hnodup hsub hin).insert fun heq => hn (congrArg some heq)

/-- All actions before the cursor are kept in the history of the queue. -/
def BrandingSnapshot.KeepsPlaces (now : ℕ) (s : BrandingSnapshot) : Prop :=
  ∀ a ∈ s.actions.take s.cursor, a.retained now = true

omit [Hashing] in
theorem retained_expire : (a.expire now).retained now = true := by
  unfold BrandingAction.retained BrandingAction.expire
  rw [Nat.sub_self]
  exact Bool.or_eq_true_iff.mpr (.inr (decide_eq_true (Nat.zero_le _)))

omit [Hashing] in
theorem keepsPlaces_expireOffers (h : s.KeepsPlaces now) : (s.expireOffers now).KeepsPlaces now := by
  intro b hb
  unfold BrandingSnapshot.expireOffers BrandingSnapshot.updateWhere at hb
  rw [← List.map_take] at hb
  obtain ⟨a, ha, rfl⟩ := List.mem_map.mp hb
  split_ifs
  · exact retained_expire
  · exact h a ha

/-- The pruning leaves the order of the turns alone when it takes nothing out before the cursor. -/
theorem turns_pruneTerminal (hcursor : s.cursor ≤ s.actions.length) (h : s.KeepsPlaces now) :
    (s.pruneTerminal now).turns.Sublist s.turns ∧
      (s.pruneTerminal now).cursor ≤ (s.pruneTerminal now).actions.length := by
  have hrotate : (s.pruneTerminal now).actions.rotate (s.pruneTerminal now).cursor =
      (s.actions.filter (·.retained now)).rotate s.cursor := by
    unfold BrandingSnapshot.pruneTerminal
    dsimp only
    split_ifs with hempty
    · rw [hempty]
      rfl
    · rw [List.rotate_mod]
  constructor
  · rw [turns_eq, turns_eq, hrotate]
    exact (rotate_filter_sublist hcursor h).map _
  · unfold BrandingSnapshot.pruneTerminal
    dsimp only
    split_ifs with hempty
    · exact Nat.zero_le _
    · exact (Nat.mod_lt _ (List.length_pos_iff.mpr hempty)).le

theorem turns_tidy (hcursor : s.cursor ≤ s.actions.length) (h : s.KeepsPlaces now) :
    (s.tidy now).turns.Sublist s.turns ∧ (s.tidy now).cursor ≤ (s.tidy now).actions.length := by
  have hsteady : Steady s (s.expireOffers now) := steady_updateWhere fun _ => rfl
  have hprune := turns_pruneTerminal (hsteady.cursor hcursor) (keepsPlaces_expireOffers h)
  rwa [hsteady.turns] at hprune

/-- The eviction leaves the order of the turns alone. -/
theorem turns_evict (hcursor : s.cursor ≤ s.actions.length) :
    s.evict.turns.Sublist s.turns ∧ s.evict.cursor ≤ s.evict.actions.length := by
  unfold BrandingSnapshot.evict
  by_cases hroom : s.actions.length < maxActions
  · rw [if_pos hroom]
    exact ⟨List.Sublist.refl _, hcursor⟩
  · rw [if_neg hroom]
    cases hindex : s.actions.findIdx? (·.phase.terminal) with
    | none => exact ⟨List.Sublist.refl _, hcursor⟩
    | some index =>
      obtain ⟨hlt, -, -⟩ := List.findIdx?_eq_some_iff_getElem.mp hindex
      have hlength : (s.actions.eraseIdx index).length = s.actions.length - 1 :=
        List.length_eraseIdx_of_lt hlt
      have hsub := rotate_eraseIdx_sublist (i := index) hcursor
      refine ⟨?_, ?_⟩
      · rw [turns_eq, turns_eq]
        refine List.Sublist.map _ ?_
        dsimp only
        split_ifs with hbefore
        · rwa [if_pos hbefore] at hsub
        · -- the last action has left, and its place was the cursor
          have hplace : s.cursor = (s.actions.eraseIdx index).length := by omega
          rw [if_neg hbefore] at hsub
          rwa [List.rotate_zero, ← List.rotate_length (s.actions.eraseIdx index), ← hplace]
        · rwa [if_neg hbefore] at hsub
      · dsimp only
        split_ifs <;> omega

theorem turns_push (hcursor : s.cursor ≤ s.actions.length) : ∃ p q, s.turns = p ++ q ∧
    (s.push a).turns = p ++ a.offerId :: q := by
  obtain ⟨p, q, hturns, hpush⟩ := rotate_concat (l := s.offerIds) (c := s.cursor)
    (by unfold BrandingSnapshot.offerIds; rwa [List.length_map]) a.offerId
  refine ⟨p, q, hturns, ?_⟩
  unfold BrandingSnapshot.turns BrandingSnapshot.offerIds BrandingSnapshot.push
  rw [List.map_append]
  exact hpush

theorem BrandingSnapshot.Valid.nodup (h : s.Valid minter) : s.offerIds.Nodup :=
  List.pairwise_map.mpr (h.apart.imp fun hapart => hapart.offer)

variable {inboxId : String} {acolyte : Address} {agentId : U256} {referrer : Address}
  {quote : BrandingQuote} {offerId : OfferId} {r : Runtime}

/-- A new offer leaves the turns of the others in their order. -/
theorem requeues_enqueueOfferInner (hcursor : r.state.cursor ≤ r.state.actions.length)
    (hnodup : r.state.offerIds.Nodup) (h : r.state.KeepsPlaces now) :
    Ends (fun result r' => ∀ queued, result = .ok queued → Requeues (some offerId) r.state r'.state)
      (enqueueOfferInner minter fault inboxId acolyte agentId referrer quote offerId now) r := by
  obtain ⟨htidy, hcursor'⟩ := turns_tidy hcursor h
  unfold enqueueOfferInner
  refine ends_lift_bind (fun _ _ => nofun) fun _ _ =>
    ends_lift_bind (fun _ _ => nofun) fun _ _ => ends_change (ends_get_bind ?_)
  split_ifs
  · exact ends_pure fun _ _ => requeues_of_sublist htidy hcursor' hnodup
  · refine ends_change (ends_get_bind (ends_lift_bind (fun _ _ => nofun) fun _ _ =>
      ends_change (ends_persist.bind ?_ fun _ _ _ => nofun)))
    rintro _ _ ⟨rfl, hvalid, -⟩
    refine ends_pure fun _ _ => ?_
    obtain ⟨hevict, hcursor''⟩ := turns_evict hcursor'
    have hsupersede : Steady (r.state.tidy now).evict
        ((r.state.tidy now).evict.supersedeLive inboxId acolyte now) :=
      steady_updateWhere fun _ => rfl
    obtain ⟨p, q, hturns, hpush⟩ := turns_push
      (a := .request minter inboxId acolyte agentId referrer quote offerId now)
      (hsupersede.cursor hcursor'')
    refine ⟨⟨p, q, ?_, .inr ⟨offerId, rfl, ?_⟩⟩, ?_, hvalid.nodup⟩
    · rw [← hturns, hsupersede.turns]
      exact hevict.trans htidy
    · exact (steady_stamp).turns.trans hpush
    · rcases hvalid.cursor with ⟨-, hzero⟩ | hlt
      · exact hzero.trans_le (Nat.zero_le _)
      · exact hlt.le

theorem requeues_enqueueOffer (hcursor : r.state.cursor ≤ r.state.actions.length)
    (hnodup : r.state.offerIds.Nodup) (h : r.state.KeepsPlaces now) :
    Requeues (some offerId) r.state
      ((enqueueOffer minter fault inboxId acolyte agentId referrer quote offerId now).after
        r).state := by
  have hrefl : Requeues (some offerId) r.state r.state := (Steady.refl _).requeues hcursor hnodup
  have hinner : Ends (fun _ r' => Requeues (some offerId) r.state r'.state)
      (enqueueOffer minter fault inboxId acolyte agentId referrer quote offerId now) r := by
    unfold enqueueOffer
    refine ends_get_bind (ends_bind (ends_orRestore
      (requeues_enqueueOfferInner hcursor hnodup h) ?_ fun _ _ _ => hrefl))
    intro queued r' hrequeues
    rw [andThen_ok]
    have hrequeues := hrequeues queued rfl
    refine ends_get_bind ?_
    split_ifs
    · refine ends_bind (ends_orRestore (Q := andThen _ _) ends_persist ?_ fun _ _ _ => hrefl)
      rintro _ _ ⟨rfl, -, -⟩
      rw [andThen_ok]
      exact ends_pure (hrequeues.trans_steady steady_stamp)
    · exact ends_pure hrequeues
  exact hinner

/-- A fresh offer leaves the turns of the others in their order. -/
theorem requeues_replaceReferrer {name : String}
    (hcursor : r.state.cursor ≤ r.state.actions.length) (hnodup : r.state.offerIds.Nodup)
    (h : ∀ index source, r.state.replaceable inboxId acolyte now = .ok (index, source) →
      (r.state.retireSource index source now).KeepsPlaces now) :
    Requeues (some offerId) r.state
      ((replaceReferrerFromRequest minter fault inboxId acolyte agentId referrer name offerId
        now).after r).state := by
  have hrefl : Requeues (some offerId) r.state r.state := (Steady.refl _).requeues hcursor hnodup
  have hends : Ends (fun _ r' => Requeues (some offerId) r.state r'.state)
      (replaceReferrerFromRequest minter fault inboxId acolyte agentId referrer name offerId now)
      r := by
    unfold replaceReferrerFromRequest
    refine ends_lift_bind (fun _ _ => hrefl) fun _ _ => ends_get_bind
      (ends_lift_bind (fun _ _ => hrefl) fun found hfound => ends_change ?_)
    have hretire : Steady r.state (r.state.retireSource found.1 found.2 now) := by
      unfold BrandingSnapshot.retireSource
      split_ifs
      · exact steady_update fun _ => rfl
      · exact .refl _
    have hqueue : Requeues (some offerId) r.state
        ((enqueueOffer minter fault inboxId acolyte agentId referrer found.2.quote offerId
          now).after (r.unsaved (r.state.retireSource found.1 found.2 now))).state := by
      have hnodup' : (r.state.retireSource found.1 found.2 now).offerIds.Nodup := by
        rwa [hretire.offerIds]
      have hqueue : Requeues (some offerId) (r.state.retireSource found.1 found.2 now)
          ((enqueueOffer minter fault inboxId acolyte agentId referrer found.2.quote offerId
            now).after (r.unsaved (r.state.retireSource found.1 found.2 now))).state :=
        requeues_enqueueOffer (r := r.unsaved (r.state.retireSource found.1 found.2 now))
          (hretire.cursor hcursor) hnodup' (h found.1 found.2 hfound)
      obtain ⟨⟨p, q, hsub, hturns⟩, hcursor, hnodup⟩ := hqueue
      exact ⟨⟨p, q, hretire.turns ▸ hsub, hturns⟩, hcursor, hnodup⟩
    refine ends_bind (ends_orRestore (P := fun _ r' => Requeues (some offerId) r.state r'.state) hqueue
      (fun queued r' hrequeues => ?_) fun _ _ _ => hrefl)
    rw [andThen_ok]
    split_ifs
    · exact ends_change (ends_pure hrefl)
    · exact ends_pure hrequeues
  exact hends

end Cthuwu.Offers
