import Cthuwu.Offers.Turns

/-!
# Fair turns

In a run that takes nothing out of the queue before the cursor uncompensated, and in which the turns can
be saved, every action that is due throughout gets a turn between two turns of another (`fair_queue`).
From the turn of one on, the turn of the other comes first (`Ahead`), and every call keeps that until
the other has had its turn. The pruning of old history breaks it (`pruning_skips_a_turn`) : the cursor
stays while the actions behind it move up.
-/

namespace Cthuwu.Offers

open Council TokenEye Fallible

section Runs

variable [Hashing]

namespace Request

/-- The call selects an action for its turn. -/
def Selects (minter : Address) (r : Runtime) (request : Request) (offerId : OfferId) : Prop :=
  ∃ faults reply agentId now index a, request = .maintainOne faults reply agentId now ∧
    ((selectDueFairly minter faults.select now).exec r).1 = .ok (some index) ∧
    r.state.actions[index]? = some a ∧ a.offerId = offerId

/-- The cursor stands where it has to after the call. Nothing is pruned before it, and a turn can be
saved. -/
def KeepsTurns (minter : Address) (r : Runtime) : Request → Prop
  | enqueueOffer _ _ _ _ _ _ _ now => r.state.KeepsPlaces now
  | replaceReferrer _ inboxId acolyte _ _ _ _ now => ∀ index source,
    r.state.replaceable inboxId acolyte now = .ok (index, source) →
      (r.state.retireSource index source now).KeepsPlaces now
  | maintainOne faults _ _ now => r.state.dueFrom now ≠ none →
    r.state.validate minter = .ok () ∧ faults.select = none
  | _ => True

/-- The offer that the call makes, if it makes one. -/
def offers : Request → Option OfferId
  | enqueueOffer _ _ _ _ _ _ offerId _ => some offerId
  | replaceReferrer _ _ _ _ _ _ offerId _ => some offerId
  | _ => none

/-- The action is live when the call is made, and due when the call selects one. -/
def Awaits (r : Runtime) (offerId : OfferId) (request : Request) : Prop :=
  ∃ a ∈ r.state.actions, a.offerId = offerId ∧ a.phase.terminal = false ∧
    ∀ faults reply agentId now, request = .maintainOne faults reply agentId now → a.isDue now = true

end Request

/-- Through all calls an action is live and due, and no new offer goes by its name or that of the
other. -/
def Throughout (minter : Address) (a b : OfferId) : Runtime → List Request → Prop
  | _, [] => True
  | r, request :: requests => (request.Awaits r b ∧ request.offers ≠ some a ∧
      request.offers ≠ some b) ∧ Throughout minter a b (request.next minter r) requests

/-- Between two turns of an action every other action that is due throughout has one. -/
def FairQueue (minter : Address) (M : Machine Runtime Request) : Prop :=
  ∀ r, M.Reachable r → ∀ first between last, M.Admits r (first :: (between ++ [last])) →
    ∀ a b, a ≠ b → first.Selects minter r a →
      last.Selects minter (between.foldl (Request.next minter) (first.next minter r)) a →
      Throughout minter a b (first.next minter r) (between ++ [last]) →
      ∃ n, ∃ request : Request, between[n]? = some request ∧
        request.Selects minter ((between.take n).foldl (Request.next minter)
          (first.next minter r)) b

variable {minter : Address} {r : Runtime} {request : Request} {a b : OfferId} {now : ℕ}
  {faults : Faults} {reply : Reply} {agentId : U256}

/-- The offers of the queue are apart, and the cursor stands in it. -/
structure Ordered (s : BrandingSnapshot) : Prop where
  cursor : s.cursor ≤ s.actions.length
  nodup : s.offerIds.Nodup

variable {s : BrandingSnapshot} {opened : Opened minter}

theorem Ordered.steady {s' : BrandingSnapshot} (h : Ordered s) (hsteady : Steady s s') :
    Ordered s' :=
  ⟨hsteady.cursor h.cursor, by rw [hsteady.offerIds]; exact h.nodup⟩

theorem BrandingSnapshot.Valid.ordered (h : s.Valid minter) : Ordered s := by
  refine ⟨?_, h.nodup⟩
  rcases h.cursor with ⟨-, hzero⟩ | hlt
  · exact hzero.trans_le (Nat.zero_le _)
  · exact hlt.le

/-! ## Turns -/

/-- The queue after a turn. -/
def BrandingSnapshot.turned (index : ℕ) (s : BrandingSnapshot) : BrandingSnapshot :=
  { s with cursor := (index + 1) % s.actions.length }

/-- A turn : the first due action is selected, and comes last from then on. -/
theorem turns_turned {index : ℕ} (h : s.dueFrom now = some index) :
    ∃ (x : List BrandingAction) (c : BrandingAction) (y : List OfferId),
      s.actions[index]? = some c ∧ c.isDue now = true ∧
      s.turns = x.map (·.offerId) ++ c.offerId :: y ∧
      (∀ d ∈ x, d ∈ s.actions ∧ d.isDue now = false) ∧
      (s.turned index).turns = y ++ (x.map (·.offerId) ++ [c.offerId]) := by
  obtain ⟨x, c, y, hget, hdue, hrotate, hx, hturned⟩ := exists_turn h
  refine ⟨x, c, y.map (·.offerId), hget, hdue, ?_, fun d hd => ⟨?_, hx d hd⟩, ?_⟩
  · rw [turns_eq, hrotate, List.map_append, List.map_cons]
  · rw [← List.mem_rotate (n := s.cursor), hrotate]
    exact List.mem_append_left _ hd
  · rw [turns_eq]
    unfold BrandingSnapshot.turned
    dsimp only
    rw [hturned, List.map_append, List.map_append, List.map_singleton]

/-- What the supervisor does in a turn, when it can save it. -/
theorem maintainOne_cases (hkeeps : (Request.maintainOne faults reply agentId now).KeepsTurns minter r) :
    (r.state.dueFrom now = none ∧
      (Request.maintainOne faults reply agentId now).next minter r = r) ∨
    ∃ index, r.state.dueFrom now = some index ∧
      ((selectDueFairly minter faults.select now).exec r).1 = .ok (some index) ∧
      Steady (r.state.turned index)
        ((Request.maintainOne faults reply agentId now).next minter r).state := by
  cases hselected : r.state.dueFrom now with
  | none =>
    refine .inl ⟨rfl, ?_⟩
    have hidle : Ends (fun _ r' => r' = r) (maintainOne minter faults reply agentId now) r := by
      unfold maintainOne selectDueFairly
      rw [bind_assoc]
      refine ends_get_bind ?_
      rw [hselected]
      exact ends_pure rfl
    exact hidle
  | some index =>
    obtain ⟨hvalid, hfault⟩ := hkeeps (by rw [hselected]; exact Option.some_ne_none _)
    have hvalid := BrandingSnapshot.validate_ok.mp hvalid
    obtain ⟨c, hc, -⟩ := dueFrom_eq_some hselected
    have hturned : (r.state.turned index).Valid minter :=
      hvalid.advance (fun hempty => by rw [hempty] at hc; cases hc) _
    have hselect : Ends (fun result r' => result = .ok (some index) ∧
        Steady (r.state.turned index) r'.state) (selectDueFairly minter faults.select now) r := by
      unfold selectDueFairly
      refine ends_get_bind ?_
      rw [hselected]
      refine ends_change (ends_persist.bind ?_ ?_)
      · rintro _ _ ⟨rfl, -, -⟩
        exact ends_pure ⟨rfl, steady_stamp⟩
      · rintro error _ ⟨-, hsaved⟩
        exact absurd hfault (hsaved (hturned.stamp now))
    refine .inr ⟨index, rfl, hselect.1, ?_⟩
    have hends : Ends (fun _ r' => Steady (r.state.turned index) r'.state)
        (maintainOne minter faults reply agentId now) r := by
      unfold maintainOne
      refine hselect.bind ?_ fun _ _ h => h.2
      rintro found r' ⟨hfound, hsteady⟩
      cases Except.ok.inj hfound
      refine ends_get_bind ?_
      cases r'.state.actions[index]? with
      | none => exact ends_pure hsteady
      | some d => exact keepsQueue_work r' hsteady
    exact hends

/-- Every call but a turn leaves the turns of the others in their order. -/
theorem requeues_next (hordered : Ordered r.state) (hkeeps : request.KeepsTurns minter r)
    (hother : ∀ faults reply agentId now, request ≠ .maintainOne faults reply agentId now) :
    Requeues request.offers r.state (request.next minter r).state := by
  cases request with
  | enqueueOffer fault inboxId acolyte agentId referrer quote offerId now =>
    exact requeues_enqueueOffer hordered.cursor hordered.nodup hkeeps
  | replaceReferrer fault inboxId acolyte agentId referrer name offerId now =>
    exact requeues_replaceReferrer hordered.cursor hordered.nodup hkeeps
  | acceptConsent fault inboxId sender consent now =>
    exact (keepsQueue_acceptConsent r (.refl _)).requeues hordered.cursor hordered.nodup
  | decline fault inboxId sender offerId now =>
    exact (keepsQueue_decline r (.refl _)).requeues hordered.cursor hordered.nodup
  | deferDue fault now =>
    exact (keepsQueue_deferDue r (.refl _)).requeues hordered.cursor hordered.nodup
  | maintainOne faults reply agentId now => exact absurd rfl (hother faults reply agentId now)
  | acknowledgeDelivery fault commitment delivered now =>
    exact (keepsQueue_acknowledge r (.refl _)).requeues hordered.cursor hordered.nodup

theorem Requeues.ordered {joined : Option OfferId} {s' : BrandingSnapshot}
    (h : Requeues joined s s') : Ordered s' :=
  ⟨h.cursor, h.nodup⟩

theorem ordered_next (hordered : Ordered r.state) (hkeeps : request.KeepsTurns minter r) :
    Ordered (request.next minter r).state := by
  by_cases hother : ∀ faults reply agentId now, request ≠ .maintainOne faults reply agentId now
  · exact (requeues_next hordered hkeeps hother).ordered
  · simp only [not_forall, not_not] at hother
    obtain ⟨faults, reply, agentId, now, rfl⟩ := hother
    rcases maintainOne_cases hkeeps with ⟨-, heq⟩ | ⟨index, hdue, -, hsteady⟩
    · rwa [heq]
    · obtain ⟨c, hc, -⟩ := dueFrom_eq_some hdue
      have hpos : 0 < r.state.actions.length :=
        Nat.zero_lt_of_lt (List.getElem?_eq_some_iff.mp hc).1
      have hturned : Ordered (r.state.turned index) :=
        ⟨(Nat.mod_lt _ hpos).le, hordered.nodup⟩
      exact hturned.steady hsteady

/-- The turn that a call gives is that of the first due action. -/
theorem selects_iff (hkeeps : (Request.maintainOne faults reply agentId now).KeepsTurns minter r) :
    (Request.maintainOne faults reply agentId now).Selects minter r a ↔
      ∃ index c, r.state.dueFrom now = some index ∧ r.state.actions[index]? = some c ∧
        c.offerId = a := by
  constructor
  · rintro ⟨_, _, _, _, index, c, heq, hselect, hc, hid⟩
    cases heq
    refine ⟨index, c, ?_, hc, hid⟩
    rcases maintainOne_cases hkeeps with ⟨hnone, -⟩ | ⟨index', hdue, hselect', -⟩
    · unfold selectDueFairly at hselect
      rw [exec_get_bind, hnone] at hselect
      cases hselect
    · cases hselect.symm.trans hselect'
      exact hdue
  · rintro ⟨index, c, hdue, hc, hid⟩
    rcases maintainOne_cases hkeeps with ⟨hnone, -⟩ | ⟨index', hdue', hselect, -⟩
    · rw [hnone] at hdue
      cases hdue
    · cases hdue.symm.trans hdue'
      exact ⟨_, _, _, _, index, c, rfl, hselect, hc, hid⟩

/-- As long as the other has had no turn, it comes first, and the first has no turn either. -/
theorem ahead_next (hordered : Ordered r.state) (hkeeps : request.KeepsTurns minter r)
    (hahead : Ahead b a r.state.turns) (hawaits : request.Awaits r b)
    (hoffers : request.offers ≠ some a ∧ request.offers ≠ some b)
    (hnot : ¬request.Selects minter r b) :
    ¬request.Selects minter r a ∧ (b ∈ (request.next minter r).state.offerIds →
      Ahead b a (request.next minter r).state.turns) := by
  have hnodup : r.state.turns.Nodup := List.nodup_rotate.mpr hordered.nodup
  by_cases hother : ∀ faults reply agentId now, request ≠ .maintainOne faults reply agentId now
  · refine ⟨?_, fun hb => ?_⟩
    · rintro ⟨faults, reply, agentId, now, -, -, heq, -⟩
      exact hother _ _ _ _ heq
    · exact (requeues_next hordered hkeeps hother).ahead hnodup hahead hoffers.1 hoffers.2
        (List.mem_rotate.mpr hb)
  · simp only [not_forall, not_not] at hother
    obtain ⟨faults, reply, agentId, now, rfl⟩ := hother
    obtain ⟨d, hd, rfl, -, hdue⟩ := hawaits
    have hdue := hdue faults reply agentId now rfl
    rw [selects_iff hkeeps] at hnot ⊢
    rcases maintainOne_cases hkeeps with ⟨hnone, heq⟩ | ⟨index, hindex, -, hsteady⟩
    · refine ⟨?_, fun _ => by rwa [heq]⟩
      rintro ⟨index, c, hindex, -⟩
      rw [hnone] at hindex
      cases hindex
    · obtain ⟨x, c, y, hc, -, hturns, hx, hturned⟩ := turns_turned hindex
      rw [hturns] at hahead
      -- who is not due comes before the turn, and `b` is due
      have hb : d.offerId ∉ x.map (·.offerId) := by
        intro hmem
        obtain ⟨d', hd', hid⟩ := List.mem_map.mp hmem
        obtain ⟨hmem, hnotdue⟩ := hx d' hd'
        rw [List.inj_on_of_nodup_map hordered.nodup hmem hd hid, hdue] at hnotdue
        cases hnotdue
      have hne : c.offerId ≠ d.offerId := fun hid => hnot ⟨index, c, hindex, hc, hid⟩
      obtain ⟨hca, hafter⟩ := hahead.next hne hb
      refine ⟨?_, fun _ => ?_⟩
      · rintro ⟨index', c', hindex', hc', hid⟩
        cases hindex.symm.trans hindex'
        cases hc.symm.trans hc'
        exact hca hid
      · rw [hsteady.turns, hturned]
        exact hafter

/-! ## Runs -/

/-- A call gives one turn at most. -/
theorem Request.Selects.eq (ha : request.Selects minter r a) (hb : request.Selects minter r b) :
    a = b := by
  obtain ⟨faults, reply, agentId, now, index, c, rfl, hselect, hc, rfl⟩ := ha
  obtain ⟨_, _, _, _, index', c', heq, hselect', hc', rfl⟩ := hb
  cases heq
  cases hselect.symm.trans hselect'
  cases hc.symm.trans hc'
  rfl

/-- Who has had a turn comes last. -/
theorem ahead_of_selects (hordered : Ordered r.state) (hkeeps : request.KeepsTurns minter r)
    (hselects : request.Selects minter r a) (hne : a ≠ b)
    (hb : b ∈ (request.next minter r).state.offerIds) :
    Ahead b a (request.next minter r).state.turns := by
  obtain ⟨faults, reply, agentId, now, -, -, rfl, -⟩ := id hselects
  obtain ⟨index, c, hindex, hc, rfl⟩ := (selects_iff hkeeps).mp hselects
  have hordered' := ordered_next hordered hkeeps
  rcases maintainOne_cases hkeeps with ⟨hnone, -⟩ | ⟨index', hindex', -, hsteady⟩
  · rw [hnone] at hindex
    cases hindex
  · cases hindex.symm.trans hindex'
    obtain ⟨x, c', y, hc', -, -, -, hturned⟩ := turns_turned hindex
    cases hc.symm.trans hc'
    have hturns := hsteady.turns.trans hturned
    rw [← List.append_assoc] at hturns
    have hnodup : ((Request.maintainOne faults reply agentId now).next minter r).state.turns.Nodup :=
      List.nodup_rotate.mpr hordered'.nodup
    have hmem : b ∈ ((Request.maintainOne faults reply agentId now).next minter r).state.turns :=
      List.mem_rotate.mpr hb
    rw [hturns] at hnodup hmem ⊢
    obtain ⟨-, -, hapart⟩ := List.nodup_append.mp hnodup
    refine ahead_concat ?_ fun hin => hapart _ hin _ (List.mem_singleton_self _) rfl
    rcases List.mem_append.mp hmem with hin | hin
    · exact hin
    · exact absurd (List.mem_singleton.mp hin).symm hne

/-- The turn of the other comes before the next turn of the first. -/
theorem turn_comes {between : List Request} {last : Request} (hordered : Ordered r.state)
    (hahead : Ahead b a r.state.turns) (hne : a ≠ b)
    (hkeeps : ((runtimeMachine minter opened).restrict fun r request =>
      request.KeepsTurns minter r).Admits r (between ++ [last]))
    (hthroughout : Throughout minter a b r (between ++ [last]))
    (hlast : last.Selects minter (between.foldl (Request.next minter) r) a) :
    ∃ n, ∃ request : Request, between[n]? = some request ∧
      request.Selects minter ((between.take n).foldl (Request.next minter) r) b := by
  induction between generalizing r with
  | nil =>
    obtain ⟨⟨hawaits, hoffers⟩, -⟩ := hthroughout
    by_cases hb : last.Selects minter r b
    · exact absurd (hlast.eq hb) hne
    · exact absurd hlast (ahead_next hordered hkeeps.1.2 hahead hawaits hoffers hb).1
  | cons request between ih =>
    obtain ⟨⟨hawaits, hoffers⟩, hrest⟩ := hthroughout
    by_cases hb : request.Selects minter r b
    · exact ⟨0, request, rfl, hb⟩
    · have hfirst : request.KeepsTurns minter r := hkeeps.1.2
      have hmem : b ∈ (request.next minter r).state.offerIds := by
        have hnext : ∃ q : Request, q.Awaits (request.next minter r) b := by
          cases between with
          | nil => exact ⟨_, hrest.1.1⟩
          | cons q between => exact ⟨_, hrest.1.1⟩
        obtain ⟨q, d, hd, hid, -⟩ := hnext
        exact List.mem_map.mpr ⟨d, hd, hid⟩
      have hahead := (ahead_next hordered hfirst hahead hawaits hoffers hb).2 hmem
      obtain ⟨n, q, hn, hq⟩ := ih (ordered_next hordered hfirst) hahead hkeeps.2 hrest hlast
      exact ⟨n + 1, q, hn, hq⟩

theorem ordered_reachable (h : ((runtimeMachine minter opened).restrict
    fun r request => request.KeepsTurns minter r).Reachable r) : Ordered r.state := by
  induction h with
  | init => exact (BrandingSnapshot.validate_ok.mp opened.valid).ordered
  | next _ hallowed ih => exact ordered_next ih hallowed.2

/-- In a run whose calls all keep the turns, the queue is fair. -/
theorem fair_queue (minter : Address) (opened : Opened minter) :
    FairQueue minter ((runtimeMachine minter opened).restrict fun r request =>
      request.KeepsTurns minter r) := by
  intro r hr first between last hadmits a b hne hfirst hlast hthroughout
  have hordered := ordered_reachable hr
  have hkeeps : first.KeepsTurns minter r := hadmits.1.2
  have hmem : b ∈ (first.next minter r).state.offerIds := by
    have hnext : ∃ request : Request, request.Awaits (first.next minter r) b := by
      cases between with
      | nil => exact ⟨_, hthroughout.1.1⟩
      | cons request between => exact ⟨_, hthroughout.1.1⟩
    obtain ⟨request, d, hd, hid, -⟩ := hnext
    exact List.mem_map.mpr ⟨d, hd, hid⟩
  exact turn_comes (ordered_next hordered hkeeps)
    (ahead_of_selects hordered hkeeps hfirst hne hmem) hne hadmits.2 hthroughout hlast

/-- The offer that a call gives its turn. -/
def Request.turn (minter : Address) (r : Runtime) : Request → Option OfferId
  | maintainOne faults _ _ now =>
    match ((selectDueFairly minter faults.select now).exec r).1 with
    | .ok (some index) => r.state.actions[index]?.map (·.offerId)
    | _ => none
  | _ => none

theorem selects_of_turn (h : request.turn minter r = some a) : request.Selects minter r a := by
  cases request with
  | maintainOne faults reply agentId now =>
    unfold Request.turn at h
    dsimp only at h
    split at h
    · next index hselect =>
      obtain ⟨c, hc, hid⟩ := Option.map_eq_some_iff.mp h
      exact ⟨faults, reply, agentId, now, index, c, rfl, hselect, hc, hid⟩
    · cases h
  | _ => cases h

theorem awaits_of_due (hnow : ∀ faults reply agentId moment,
      request = .maintainOne faults reply agentId moment → moment = now)
    (h : (r.state.actions.any fun d => d.offerId = b && d.isDue now) = true) :
    request.Awaits r b := by
  obtain ⟨d, hd, hdue⟩ := List.any_eq_true.mp h
  obtain ⟨hid, hdue⟩ := Bool.and_eq_true_iff.mp hdue
  refine ⟨d, hd, of_decide_eq_true hid, ?_, fun faults reply agentId moment heq => ?_⟩
  · unfold BrandingAction.isDue at hdue
    simpa using (Bool.and_eq_true_iff.mp hdue).1
  · rwa [hnow _ _ _ _ heq]

end Runs

/-! ## A turn that is skipped -/

section Sample

attribute [local instance] zeroHashing

theorem newSnapshot_valid : (BrandingSnapshot.new 100).validate 1 = .ok () := rfl

def sampleStore : Opened 1 :=
  ⟨BrandingSnapshot.new 100, newSnapshot_valid⟩

def sampleOffer (acolyte : Address) (agentId : U256) (offerId : OfferId) (now : ℕ) : Request :=
  .enqueueOffer none sampleInbox acolyte agentId 3 sampleQuote offerId now

/-- The first offer is superseded by the second, and another acolyte follows. -/
def sampleOffers : List Request :=
  [sampleOffer 2 7 1 100, sampleOffer 2 8 2 100, sampleOffer 4 7 3 100]

/-- A turn whose action fails, because the Tentacle has another registration. -/
def sampleFailure (now : ℕ) : Request :=
  .maintainOne ⟨none, none, none⟩ (.failed "unreachable") 9 now

def sampleLater : ℕ := 100 + terminalRetentionSeconds + 1

/-- The last offer once more, which prunes the superseded one. -/
def sampleAgain : Request :=
  sampleOffer 4 7 4 sampleLater

def sampleQueue : Runtime :=
  sampleOffers.foldl (Request.next 1) (runtimeMachine 1 sampleStore).init

def sampleTurned : Runtime :=
  (sampleFailure 100).next 1 sampleQueue

theorem sampleTurns : ((sampleFailure 100).turn 1 sampleQueue,
      (sampleFailure sampleLater).turn 1 (sampleAgain.next 1 sampleTurned)) = (some 2, some 2) ∧
    (sampleTurned.state.actions.any fun d => d.offerId = 3 && d.isDue sampleLater) = true ∧
    ((sampleAgain.next 1 sampleTurned).state.actions.any fun d =>
      d.offerId = 3 && d.isDue sampleLater) = true := by decide +kernel

/-- Two turns of one offer, with another due throughout. The cursor stood behind the first offer when
the pruning moved it up, and the turn of the other was skipped. -/
theorem pruning_skips_a_turn : ¬FairQueue 1 (runtimeMachine 1 sampleStore) := by
  intro h
  obtain ⟨hturns, hdue, hdueAgain⟩ := sampleTurns
  obtain ⟨hfirst, hlast⟩ := Prod.mk.inj hturns
  have hreachable : (runtimeMachine 1 sampleStore).Reachable sampleQueue :=
    Machine.Reachable.init.run (Machine.admits_of_forall fun _ _ => trivial)
  have hagain : sampleAgain.Awaits sampleTurned 3 := awaits_of_due (fun _ _ _ _ heq => by cases heq) hdue
  have hfailure : (sampleFailure sampleLater).Awaits (sampleAgain.next 1 sampleTurned) 3 :=
    awaits_of_due (fun _ _ _ _ heq => by cases heq; rfl) hdueAgain
  have hthroughout : Throughout 1 2 3 sampleTurned [sampleAgain, sampleFailure sampleLater] := by
    unfold Throughout Throughout Throughout
    exact ⟨⟨hagain, by decide, by decide⟩, ⟨hfailure, nofun, nofun⟩, trivial⟩
  unfold sampleTurned at hlast hthroughout
  have hfair := h sampleQueue hreachable (sampleFailure 100) [sampleAgain]
    (sampleFailure sampleLater) (Machine.admits_of_forall fun _ _ => trivial) 2 3 (by decide)
    (selects_of_turn hfirst)
  rw [List.foldl_cons, List.foldl_nil] at hfair
  obtain ⟨n, request, hn, hselects⟩ := hfair (selects_of_turn hlast) hthroughout
  obtain rfl : sampleAgain = request := by
    have hmem := List.mem_of_getElem? hn
    exact (List.mem_singleton.mp hmem).symm
  obtain ⟨_, _, _, _, _, _, heq, -⟩ := hselects
  cases heq

end Sample

end Cthuwu.Offers
