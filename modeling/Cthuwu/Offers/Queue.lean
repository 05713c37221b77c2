import Cthuwu.Lib.Outcome
import Cthuwu.Offers.Changes

/-!
# Offers, consents and deliveries

What each call of a user or of the transport leaves in memory and on the disk. Every action it
leaves has become of one that was there, or is the new one (`Evolves`). An offer leaves the runtime
as it was or saves a valid snapshot (`Enqueued`), and never takes the place of an action that may
be completed.
-/

namespace Cthuwu.Offers

open Council TokenEye Fallible
open BrandingSnapshot

/-! ## Queues -/

/-- Every action has become of one that was there, or is new. -/
def Evolves (New : BrandingAction → Prop) (l l' : List BrandingAction) : Prop :=
  ∀ b ∈ l', (∃ a ∈ l, a.Becomes b) ∨ New b

/-- No action that may be completed is lost. -/
def KeepsAuthority (l l' : List BrandingAction) : Prop :=
  ∀ a ∈ l, a.phase.mayComplete = true → a ∈ l'

variable [Hashing] {New : BrandingAction → Prop} {l l' l'' : List BrandingAction} {a : BrandingAction}
  {now : ℕ}

theorem Evolves.refl (l : List BrandingAction) : Evolves New l l :=
  fun b hb => .inl ⟨b, hb, .refl b⟩

theorem Evolves.trans (h : Evolves (fun _ => False) l l') (h' : Evolves New l' l'') :
    Evolves New l l'' := by
  intro c hc
  rcases h' c hc with ⟨b, hb, hbc⟩ | hnew
  · rcases h b hb with ⟨a, ha, hab⟩ | hfalse
    · exact .inl ⟨a, ha, hab.trans hbc⟩
    · exact absurd hfalse id
  · exact .inr hnew

theorem Evolves.mono {New' : BrandingAction → Prop} (h : Evolves New l l')
    (hnew : ∀ b, New b → New' b) : Evolves New' l l' :=
  fun b hb => (h b hb).imp_right (hnew b)

theorem evolves_of_subset (h : ∀ b ∈ l', b ∈ l) : Evolves New l l' :=
  fun b hb => .inl ⟨b, h b hb, .refl b⟩

variable {f : BrandingAction → BrandingAction} {index : ℕ} {s : BrandingSnapshot}
  {p : BrandingAction → Bool} {source : BrandingAction} {consent : ParsedConsent} {sender : Address}

theorem evolves_map (h : ∀ a ∈ l, a.Becomes (f a)) : Evolves New l (l.map f) := by
  intro b hb
  obtain ⟨a, ha, rfl⟩ := List.mem_map.mp hb
  exact .inl ⟨a, ha, h a ha⟩

theorem evolves_modify (ha : l[index]? = some a) (h : a.Becomes (f a)) :
    Evolves New l (l.modify index f) := by
  intro b hb
  rcases mem_modify ha hb with hb | rfl
  · exact .inl ⟨b, hb, .refl b⟩
  · exact .inl ⟨a, List.mem_of_getElem? ha, h⟩

theorem KeepsAuthority.trans (h : KeepsAuthority l l') (h' : KeepsAuthority l' l'') :
    KeepsAuthority l l'' :=
  fun a ha hmay => h' a (h a ha hmay) hmay

theorem terminal_of_mayComplete {phase : BrandingPhase} (h : phase.mayComplete = true) :
    phase.terminal = false := by
  cases phase <;> first | rfl | cases h

/-- A change of some actions leaves the others alone. -/
theorem keeps_updateWhere (h : ∀ a ∈ s.actions, a.phase.mayComplete = true → p a = false) :
    KeepsAuthority s.actions (s.updateWhere p f).actions := by
  intro a ha hmay
  refine List.mem_map.mpr ⟨a, ha, ?_⟩
  rw [h a ha hmay]
  rfl

theorem evolves_updateWhere (h : ∀ a : BrandingAction, a.Becomes (f a)) :
    Evolves New s.actions (s.updateWhere p f).actions := by
  refine evolves_map fun a _ => ?_
  split_ifs
  · exact h a
  · exact .refl a

theorem evolves_tidy : Evolves New s.actions (s.tidy now).actions :=
  Evolves.trans (evolves_updateWhere fun _ => BrandingAction.expire_becomes)
    (evolves_of_subset fun _ hb => List.mem_of_mem_filter hb)

theorem keeps_tidy : KeepsAuthority s.actions (s.tidy now).actions := by
  have hexpired : KeepsAuthority s.actions (s.expireOffers now).actions := by
    refine keeps_updateWhere fun a _ hmay => ?_
    unfold BrandingAction.elapsed
    cases hphase : a.phase <;> rw [hphase] at hmay <;>
      first | rfl | cases hmay
  refine hexpired.trans fun a ha hmay => ?_
  refine List.mem_filter.mpr ⟨ha, ?_⟩
  unfold BrandingAction.retained
  rw [terminal_of_mayComplete hmay]
  rfl

theorem mem_evict {b : BrandingAction} (h : b ∈ s.evict.actions) : b ∈ s.actions := by
  unfold BrandingSnapshot.evict at h
  split at h
  · exact h
  · split at h
    · exact h
    · exact List.mem_of_mem_eraseIdx h

theorem keeps_evict : KeepsAuthority s.actions s.evict.actions := by
  intro a ha hmay
  unfold BrandingSnapshot.evict
  split
  · exact ha
  · cases hindex : s.actions.findIdx? (·.phase.terminal) with
    | none => exact ha
    | some index =>
      obtain ⟨hlt, hterminal, -⟩ := List.findIdx?_eq_some_iff_getElem.mp hindex
      obtain ⟨place, hplace, rfl⟩ := List.getElem_of_mem ha
      refine List.mem_eraseIdx_iff_getElem.mpr ⟨place, hplace, ?_, rfl⟩
      rintro rfl
      rw [terminal_of_mayComplete hmay] at hterminal
      cases hterminal

/-- A conversation with an action that may be completed takes no offer. -/
theorem refuses_of_mayComplete {inboxId : String} {acolyte : Address} {agentId : U256}
    {referrer : Address} {quote : BrandingQuote} (ha : a ∈ s.actions)
    (hmay : a.phase.mayComplete = true) (hof : a.isOf inboxId acolyte = true) :
    s.refuses inboxId acolyte agentId referrer quote now = true := by
  unfold BrandingSnapshot.refuses
  refine Bool.or_eq_true_iff.mpr (.inl (List.any_eq_true.mpr ⟨a, ha, ?_⟩))
  rw [hof, Bool.and_true]
  unfold BrandingAction.holdsAuthority
  cases hphase : a.phase <;> rw [hphase] at hmay <;> first | rfl | cases hmay

/-! ## Saves -/

/-- A snapshot in memory that the disk may not have. -/
def Runtime.unsaved (s : BrandingSnapshot) (r : Runtime) : Runtime :=
  { r with state := s }

def Runtime.saved (s : BrandingSnapshot) (r : Runtime) : Runtime :=
  { r with
    state := s
    disk := s }

theorem ends_change {α : Type} {Q : Except String α → Runtime → Prop}
    {f : BrandingSnapshot → BrandingSnapshot} {x : Unit → Op α} {r : Runtime}
    (h : Ends Q (x ()) (r.unsaved (f r.state))) : Ends Q (change f >>= x) r :=
  ends_modify_bind h

/-- An operation whose failure is taken back in memory. -/
theorem ends_orRestore {α : Type} {P Q : Except String α → Runtime → Prop} {x : Op α}
    {previous : BrandingSnapshot} {r : Runtime} (h : Ends P x r)
    (hok : ∀ a r', P (.ok a) r' → Q (.ok a) r')
    (herror : ∀ error r', P (.error error) r' → Q (.error error) (r'.unsaved previous)) :
    Ends Q (orRestore x previous) r := by
  refine ends_tryCatch (h.mono fun result r' hresult => ?_)
  cases result with
  | ok a => exact hok a r' hresult
  | error error => exact ends_change (ends_throw (herror error r' hresult))

variable {minter : Address} {fault : Option String} {r : Runtime}

/-- What a save leaves : the snapshot on the disk as well, or only in memory. -/
def Persisted (minter : Address) (fault : Option String) (s : BrandingSnapshot) (r : Runtime) :
    Except String Unit → Runtime → Prop
  | .ok _, r' => r' = r.saved s ∧ s.Valid minter ∧ fault = none
  | .error _, r' => r' = r.unsaved s ∧ (s.Valid minter → fault ≠ none)

theorem ends_persist :
    Ends (Persisted minter fault (r.state.stamp now) r) (persist minter fault now) r := by
  refine ends_change (ends_get_bind (ends_lift_bind (fun error herror => ?_) fun _ hvalid => ?_))
  · refine ⟨rfl, fun hstate => ?_⟩
    rw [show (r.unsaved (r.state.stamp now)).state = r.state.stamp now from rfl,
      BrandingSnapshot.validate_ok.mpr hstate] at herror
    cases herror
  · cases fault with
    | none => exact ends_modify ⟨rfl, BrandingSnapshot.validate_ok.mp hvalid, rfl⟩
    | some error => exact ends_throw ⟨rfl, fun _ => Option.some_ne_none _⟩

/-- A valid snapshot whose actions have become of those in memory. -/
structure Follows (minter : Address) (New : BrandingAction → Prop) (r : Runtime)
    (s : BrandingSnapshot) : Prop where
  valid : s.Valid minter
  evolves : Evolves New r.state.actions s.actions

/-- What a change and its save leave : a snapshot that follows, saved or only in memory. -/
def Saves (minter : Address) (fault : Option String) (New : BrandingAction → Prop) (r : Runtime)
    {α : Type} : Except String α → Runtime → Prop
  | .ok _, r' => ∃ s, r' = r.saved s ∧ Follows minter New r s
  | .error _, r' => fault ≠ none ∧ ∃ s, r' = r.unsaved s ∧ Follows minter New r s

/-- A change that keeps the snapshot valid is saved unless the store fails. -/
theorem ends_change_persist {f : BrandingSnapshot → BrandingSnapshot}
    (hvalid : (f r.state).Valid minter) (hevolves : Evolves New r.state.actions (f r.state).actions) :
    Ends (Saves minter fault New r) (do change f; persist minter fault now) r := by
  refine ends_change ((ends_persist).mono ?_)
  have hfollows : Follows minter New r ((f r.state).stamp now) :=
    ⟨hvalid.stamp now, hevolves⟩
  rintro (error | _) _ hresult
  · obtain ⟨rfl, hfault⟩ := hresult
    exact ⟨hfault hfollows.valid, _, rfl, hfollows⟩
  · obtain ⟨rfl, -, -⟩ := hresult
    exact ⟨_, rfl, hfollows⟩

theorem ends_update_persist (hvalid : r.state.Valid minter) (ha : r.state.actions[index]? = some a)
    (hf : (f a).Valid minter) (hbecomes : a.Becomes (f a)) :
    Ends (Saves minter fault (fun _ => False) r)
      (do change (·.update index f); persist minter fault now) r :=
  ends_change_persist (hvalid.update ha hf hbecomes.offer hbecomes.conversation hbecomes.live)
    (evolves_modify ha hbecomes)

/-! ## Offers -/

section Enqueue

variable {inboxId : String} {acolyte : Address} {agentId : U256} {referrer : Address}
  {quote : BrandingQuote} {offerId : OfferId}

/-- What `enqueueOfferInner` leaves behind. -/
def InnerQueued (minter : Address) (inboxId : String) (acolyte : Address) (agentId : U256)
    (referrer : Address) (quote : BrandingQuote) (offerId : OfferId) (now : ℕ) (r : Runtime) :
    Except String Bool → Runtime → Prop
  | .ok true, r' => ∃ s, r' = r.saved s ∧ KeepsAuthority r.state.actions s.actions ∧
      Follows minter (· = .request minter inboxId acolyte agentId referrer quote offerId now) r s
  | .ok false, r' => r' = r.unsaved (r.state.tidy now) ∧
      (r.state.tidy now).refuses inboxId acolyte agentId referrer quote now = true
  | .error _, r' => ∃ s, r' = r.unsaved s

theorem ends_enqueueOfferInner :
    Ends (InnerQueued minter inboxId acolyte agentId referrer quote offerId now r)
      (enqueueOfferInner minter fault inboxId acolyte agentId referrer quote offerId now) r := by
  unfold enqueueOfferInner
  refine ends_lift_bind (fun _ _ => ⟨r.state, rfl⟩) fun _ _ =>
    ends_lift_bind (fun _ _ => ⟨r.state, rfl⟩) fun _ _ => ends_change (ends_get_bind ?_)
  split_ifs with hrefuses
  · exact ends_pure ⟨rfl, hrefuses⟩
  · refine ends_change (ends_get_bind (ends_lift_bind (fun _ _ => ⟨_, rfl⟩) fun _ _ =>
      ends_change ((ends_persist).bind ?_ fun _ _ h => ⟨_, h.1⟩)))
    rintro _ _ ⟨rfl, hvalid, -⟩
    refine ends_pure ⟨_, rfl, fun a ha hmay => ?_, hvalid, fun b hb => ?_⟩
    rotate_left
    · have hevolves : Evolves (fun _ => False) r.state.actions
          ((r.state.tidy now).evict.supersedeLive inboxId acolyte now).actions :=
        ((evolves_tidy).trans (evolves_of_subset fun _ => mem_evict)).trans
          (evolves_updateWhere fun _ => BrandingAction.supersede_becomes)
      rcases List.mem_append.mp hb with hb | hb
      · exact (hevolves b hb).imp_right False.elim
      · exact .inr (List.mem_singleton.mp hb)
    · refine List.mem_append.mpr (.inl ?_)
      refine KeepsAuthority.trans ((keeps_tidy).trans keeps_evict) (keeps_updateWhere ?_) a ha hmay
      intro b hb hmay
      -- an action of the conversation that may be completed would have refused the offer
      refine Bool.eq_false_iff.mpr fun hlive => hrefuses ?_
      exact refuses_of_mayComplete (mem_evict hb) hmay (Bool.and_eq_true_iff.mp hlive).2

/-- What `enqueueOffer` leaves behind. -/
def Queued (minter : Address) (fault : Option String) (inboxId : String) (acolyte : Address)
    (agentId : U256) (referrer : Address) (quote : BrandingQuote) (offerId : OfferId) (now : ℕ)
    (r : Runtime) : Except String Bool → Runtime → Prop
  | .ok true, r' => ∃ s, r' = r.saved s ∧ KeepsAuthority r.state.actions s.actions ∧
      Follows minter (· = .request minter inboxId acolyte agentId referrer quote offerId now) r s
  | .ok false, r' => r' = r ∨ fault = none ∧
      (r.state.tidy now).refuses inboxId acolyte agentId referrer quote now = true ∧
      r.state.tidy now ≠ r.state ∧ ∃ s, r' = r.saved s ∧
      KeepsAuthority r.state.actions s.actions ∧ Follows minter (fun _ => False) r s
  | .error _, r' => r' = r

theorem ends_enqueueOffer :
    Ends (Queued minter fault inboxId acolyte agentId referrer quote offerId now r)
      (enqueueOffer minter fault inboxId acolyte agentId referrer quote offerId now) r := by
  unfold enqueueOffer
  refine ends_get_bind (ends_bind (ends_orRestore ends_enqueueOfferInner ?_ ?_))
  · intro queued r' hresult
    rw [andThen_ok]
    refine ends_get_bind ?_
    cases queued with
    | true =>
      rw [if_neg (by simp)]
      exact ends_pure hresult
    | false =>
      obtain ⟨rfl, hrefuses⟩ := hresult
      split_ifs with hchanged
      · refine ends_bind (ends_orRestore ends_persist ?_ ?_)
        · rintro _ _ ⟨rfl, hvalid, hfault⟩
          rw [andThen_ok]
          exact ends_pure
            (.inr ⟨hfault, hrefuses, hchanged.2, _, rfl, keeps_tidy, hvalid, evolves_tidy⟩)
        · rintro error _ ⟨rfl, -⟩
          rfl
      · refine ends_pure (.inl ?_)
        have hsame : r.state.tidy now = r.state := by
          by_contra hne
          exact hchanged ⟨rfl, hne⟩
        rw [hsame]
        rfl
  · rintro error _ ⟨s, rfl⟩
    rfl

end Enqueue

/-! ### Fresh offers on request -/

/-- An action that may be completed is kept until its deadline. -/
def KeepsLive (now : ℕ) (l l' : List BrandingAction) : Prop :=
  ∀ a ∈ l, a.phase.mayComplete = true → (∀ deadline, a.deadline = some deadline → now ≤ deadline) →
    a ∈ l'

theorem KeepsAuthority.live (h : KeepsAuthority l l') : KeepsLive now l l' :=
  fun a ha hmay _ => h a ha hmay

theorem rposition_eq_some (h : s.rposition p = some (index, a)) :
    s.actions[index]? = some a ∧ p a = true := by
  unfold rposition at h
  obtain ⟨⟨place, b⟩, hposition, heq⟩ := Option.map_eq_some_iff.mp h
  obtain ⟨rfl, rfl⟩ := Prod.mk.inj heq
  obtain ⟨hget, hp⟩ := position_eq_some hposition
  have hlt : place < s.actions.length := by
    rw [← List.length_reverse]
    exact (List.getElem?_eq_some_iff.mp hget).1
  rw [List.getElem?_reverse hlt] at hget
  exact ⟨hget, hp⟩

/-- A source that may be completed is replaced after its deadline only. -/
theorem replaceable_ok {inboxId : String} {acolyte : Address}
    (h : s.replaceable inboxId acolyte now = .ok (index, source)) :
    s.actions[index]? = some source ∧ source.isOf inboxId acolyte = true ∧
      (source.phase.mayComplete = true → ∃ deadline, source.deadline = some deadline ∧
        deadline < now) := by
  unfold replaceable at h
  simp only [except_bind_ok, okOr_ok, failIf_ok, exists_unit] at h
  obtain ⟨found, hfound, -, h⟩ := h
  have hsource : found = (index, source) ∧ (found.2.hasUsedConsent = true →
      ∃ deadline, found.2.deadline = some deadline ∧ deadline < now) := by
    split_ifs at h with hused
    · simp only [except_bind_ok, okOr_ok, failIf_ok, exists_unit, not_le] at h
      obtain ⟨inspection, hinspection, deadline, hdeadline, hlt, h⟩ := h
      refine ⟨except_pure_ok.mp h, fun _ => ⟨deadline, ?_, hlt⟩⟩
      unfold BrandingAction.deadline
      rw [hinspection]
      exact hdeadline
    · exact ⟨except_pure_ok.mp h, fun h => absurd h hused⟩
  obtain ⟨rfl, hused⟩ := hsource
  obtain ⟨hget, hof⟩ := rposition_eq_some hfound
  refine ⟨hget, hof, fun hmay => hused ?_⟩
  unfold BrandingAction.hasUsedConsent
  cases hphase : source.phase <;> rw [hphase] at hmay <;> first | rfl | cases hmay

theorem evolves_retireSource (h : s.actions[index]? = some source) :
    Evolves (fun _ => False) s.actions (s.retireSource index source now).actions := by
  unfold retireSource
  split_ifs
  · exact evolves_modify h BrandingAction.retire_becomes
  · exact .refl _

theorem keeps_retireSource {inboxId : String} {acolyte : Address}
    (h : s.replaceable inboxId acolyte now = .ok (index, source)) :
    KeepsLive now s.actions (s.retireSource index source now).actions := by
  obtain ⟨hget, -, hlate⟩ := replaceable_ok h
  intro a ha hmay hlive
  unfold retireSource
  split_ifs
  · rcases modify_of_mem (f := (·.retire now)) hget ha with hmem | ⟨rfl, -⟩
    · exact hmem
    · obtain ⟨deadline, hdeadline, hlt⟩ := hlate hmay
      exact absurd (hlive deadline hdeadline) (not_le.mpr hlt)
  · exact ha

section Replace

variable {inboxId name : String} {acolyte : Address} {agentId : U256} {referrer : Address}
  {offerId : OfferId}

/-- A fresh offer is refused after the queue has been tidied on the disk. -/
def BrandingSnapshot.losesTidying (inboxId : String) (acolyte : Address) (agentId : U256)
    (referrer : Address) (name : String) (now : ℕ) (s : BrandingSnapshot) : Prop :=
  name = acolyteName acolyte ∧ ∃ index source,
    s.replaceable inboxId acolyte now = .ok (index, source) ∧
      (s.retireSource index source now).tidy now ≠ s.retireSource index source now ∧
      ((s.retireSource index source now).tidy now).refuses inboxId acolyte agentId referrer
        source.quote now = true

/-- What a request for a fresh offer leaves : the runtime as it was, a saved snapshot with the
offer, or the old snapshot in memory and the tidied one on the disk. -/
def Replaced (minter : Address) (fault : Option String) (inboxId : String) (acolyte : Address)
    (agentId : U256) (referrer : Address) (name : String) (offerId : OfferId) (now : ℕ)
    (r r' : Runtime) : Prop :=
  r' = r ∨ (∃ s quote, r' = r.saved s ∧ KeepsLive now r.state.actions s.actions ∧
      Follows minter (· = .request minter inboxId acolyte agentId referrer quote offerId now) r s) ∨
    (fault = none ∧ r.state.losesTidying inboxId acolyte agentId referrer name now ∧
      r'.state = r.state ∧ r'.invocations = r.invocations)

theorem ends_replaceReferrer :
    Ends (fun _ => Replaced minter fault inboxId acolyte agentId referrer name offerId now r)
      (replaceReferrerFromRequest minter fault inboxId acolyte agentId referrer name offerId now)
      r := by
  unfold replaceReferrerFromRequest
  refine ends_lift_bind (fun _ _ => .inl rfl) fun _ hname => ends_get_bind
    (ends_lift_bind (fun _ _ => .inl rfl) fun found hfound => ?_)
  obtain ⟨index, source⟩ := found
  have hretired : Evolves (fun _ => False) r.state.actions
      (r.state.retireSource index source now).actions :=
    evolves_retireSource (replaceable_ok hfound).1
  refine ends_change (ends_bind (ends_orRestore ends_enqueueOffer ?_ ?_))
  · intro queued r' hqueued
    rw [andThen_ok]
    cases queued with
    | true =>
      obtain ⟨s, rfl, hkeeps, hfollows⟩ := hqueued
      rw [if_neg (by simp)]
      refine ends_pure (.inr (.inl ⟨s, source.quote, rfl, fun a ha hmay hlive => ?_, hfollows.valid, ?_⟩))
      · exact hkeeps a (keeps_retireSource hfound a ha hmay hlive) hmay
      · exact hretired.trans hfollows.evolves
    | false =>
      rw [if_pos rfl]
      refine ends_change (ends_pure ?_)
      rcases hqueued with rfl | ⟨hfault, hrefuses, hchanged, s, rfl, -, -⟩
      · exact .inl rfl
      · exact .inr (.inr ⟨hfault, ⟨not_not.mp (failIf_ok.mp hname), index, source, hfound, hchanged,
          hrefuses⟩, rfl, rfl⟩)
  · rintro error _ rfl
    exact .inl rfl

end Replace

/-! ## Consents -/

/-- The consent repeats the exact tuple that was offered. -/
structure ParsedConsent.Echoes (consent : ParsedConsent) (a : BrandingAction) : Prop where
  contract : consent.contract = brandingContractAddress
  minter : consent.minter = a.minter
  acolyte : consent.acolyte = a.acolyte
  referrer : consent.referrer = a.referrer
  controllerAgentId : consent.controllerAgentId = a.controllerAgentId
  initialDeclaredPrice : consent.initialDeclaredPrice = a.initialDeclaredPrice
  acolyteName : consent.acolyteName = a.acolyteName
  inspection : ∃ inspection, a.inspection = some inspection ∧
    consent.consentNonce = inspection.consentNonce ∧ consent.deadline = inspection.deadline ∧
    consent.blockNumber = inspection.blockNumber ∧ consent.blockHash = inspection.blockHash

theorem echoes_of_ok (h : validateConsentMatchesAction consent a = .ok ()) : consent.Echoes a := by
  unfold validateConsentMatchesAction at h
  simp only [except_bind_ok, okOr_ok, failIf_ok, exists_unit, ne_eq, not_not] at h
  obtain ⟨inspection, hinspection, hcontract, hminter, hacolyte, hreferrer, hagent, hprice, hnonce,
    hdeadline, hnumber, hhash, hname⟩ := h
  exact ⟨hcontract, hminter, hacolyte, hreferrer, hagent, hprice, hname, inspection, hinspection,
    hnonce, hdeadline, hnumber, hhash⟩

/-- The consent echoes the action and came from its own conversation in time. -/
structure Grants (inboxId : String) (sender : Address) (consent : ParsedConsent) (now : ℕ)
    (b : BrandingAction) : Prop where
  offer : consent.offerId = b.offerId
  conversation : inboxId = b.inboxId ∧ sender = b.acolyte
  echo : consent.Echoes b
  signature : b.consent = some ⟨consent.signature⟩
  window : ∃ deadline, b.deadline = some deadline ∧ now + minSigningWindowSeconds ≤ deadline

theorem offer_ok {inboxId : String} {offerId : OfferId}
    (h : s.offer inboxId sender offerId = .ok (index, a)) :
    s.actions[index]? = some a ∧ a.offerId = offerId ∧ a.inboxId = inboxId ∧ a.acolyte = sender := by
  unfold BrandingSnapshot.offer at h
  simp only [except_bind_ok, okOr_ok, failIf_ok, exists_unit, not_not] at h
  obtain ⟨found, hfound, hinbox, hacolyte, h⟩ := h
  obtain rfl := except_pure_ok.mp h
  obtain ⟨hget, hoffer⟩ := position_eq_some hfound
  exact ⟨hget, of_decide_eq_true hoffer, hinbox, hacolyte⟩

/-- The consent that was just received lets an offer be completed. -/
def Granted (inboxId : String) (sender : Address) (consent : ParsedConsent) (now : ℕ)
    (l : List BrandingAction) (b : BrandingAction) : Prop :=
  Grants inboxId sender consent now b ∧ ∃ a ∈ l, a.phase.retired = false ∧
    b.offerId = a.offerId ∧ b.createdAtUnix = a.createdAtUnix

theorem ends_acceptConsent {inboxId : String} : Ends (fun _ r' => r' = r ∨ ∃ s, r' = r.saved s ∧
        Follows minter (Granted inboxId sender consent now r.state.actions) r s)
      (acceptConsent minter fault inboxId sender consent now) r := by
  unfold acceptConsent
  refine ends_get_bind (ends_lift_bind (fun _ _ => .inl rfl) fun found hfound => ?_)
  obtain ⟨index, a⟩ := found
  obtain ⟨hget, hoffer, hinbox, hacolyte⟩ := offer_ok hfound
  refine ends_lift_bind (fun _ _ => .inl rfl) fun _ hecho => ?_
  have haccept : a.phase.retired = false → Ends (fun _ r' => r' = r ∨ ∃ s, r' = r.saved s ∧
      Follows minter (Granted inboxId sender consent now r.state.actions) r s) (do
        let inspection ← liftM (okOr a.inspection "Branding offer has no inspection binding")
        let deadline ← liftM (okOr (parseU64 inspection.deadline)
          "Branding deadline exceeds local clock range")
        if deadline < now then
          change (·.update index (·.expire now))
          orRestore (persist minter fault now) r.state
          throw "Branding offer expired before consent was received"
        else do
          liftM (failIf (deadline - now < minSigningWindowSeconds)
            "Branding consent arrived without the required execution window")
          change (·.update index (·.bind consent.signature now))
          orRestore (persist minter fault now) r.state
          return boundConsentAnswer) r := by
    intro hlive
    refine ends_lift_bind (fun _ _ => .inl rfl) fun inspection hinspection =>
      ends_lift_bind (fun _ _ => .inl rfl) fun deadline hdeadline => ?_
    split_ifs with hlate
    · refine ends_change (ends_bind (ends_orRestore ends_persist ?_ ?_))
      · rintro _ _ ⟨rfl, hvalid, -⟩
        rw [andThen_ok]
        exact ends_throw (.inr ⟨_, rfl, hvalid, evolves_modify hget BrandingAction.expire_becomes⟩)
      · rintro _ _ ⟨rfl, -⟩
        exact .inl rfl
    · refine ends_lift_bind (fun _ _ => .inl rfl) fun _ hwindow =>
        ends_change (ends_bind (ends_orRestore ends_persist ?_ ?_))
      · rintro _ _ ⟨rfl, hvalid, -⟩
        rw [andThen_ok]
        refine ends_pure (.inr ⟨_, rfl, hvalid, fun b hb => ?_⟩)
        rcases mem_modify hget hb with hb | rfl
        · exact .inl ⟨b, hb, .refl b⟩
        · refine .inr ⟨⟨hoffer.symm, ⟨hinbox.symm, hacolyte.symm⟩, ?_, rfl, deadline, ?_, ?_⟩, a,
            List.mem_of_getElem? hget, hlive, rfl, rfl⟩
          · obtain ⟨h₁, h₂, h₃, h₄, h₅, h₆, h₇, h₈⟩ := echoes_of_ok hecho
            exact ⟨h₁, h₂, h₃, h₄, h₅, h₆, h₇, h₈⟩
          · unfold BrandingAction.deadline
            change (a.inspection.bind fun inspection => parseU64 inspection.deadline) = _
            rw [okOr_ok.mp hinspection]
            exact okOr_ok.mp hdeadline
          · have hroom := failIf_ok.mp hwindow
            omega
      · rintro _ _ ⟨rfl, -⟩
        exact .inl rfl
  cases hphase : a.phase with
  | completed => exact ends_pure (.inl rfl)
  | consented | fundingRequired | receiptPendingDelivery =>
    exact ends_lift_bind (fun _ _ => .inl rfl) fun _ _ => ends_pure (.inl rfl)
  | offerPendingDelivery | offered =>
    exact haccept (by rw [hphase]; rfl)
  | requested | declined | expired | superseded | failedPermanent => exact ends_throw (.inl rfl)

theorem ends_decline {inboxId : String} {offerId : OfferId} (hvalid : r.state.Valid minter)
    (hnow : ∀ index a,
      r.state.declinable inboxId sender offerId = .ok (index, a) → a.createdAtUnix ≤ now) :
    Ends (fun result r' => r' = r ∨ (∃ found,
        r.state.declinable inboxId sender offerId = .ok found) ∧
          Saves minter fault (fun _ => False) r result r')
      (decline minter fault inboxId sender offerId now) r := by
  unfold decline
  refine ends_get_bind (ends_lift_bind (fun _ _ => .inl rfl) fun found hfound => ?_)
  obtain ⟨index, a⟩ := found
  have hoffer : r.state.offer inboxId sender offerId = .ok (index, a) := by
    unfold declinable at hfound
    simp only [except_bind_ok, exists_unit] at hfound
    obtain ⟨found, hfound, -, heq⟩ := hfound
    obtain rfl := except_pure_ok.mp heq
    exact hfound
  obtain ⟨hget, -⟩ := offer_ok hoffer
  have ha := hvalid.actions a (List.mem_of_getElem? hget)
  dsimp only
  rw [← bind_assoc]
  refine (ends_update_persist hvalid hget (BrandingAction.decline_valid ha (hnow index a hfound))
    BrandingAction.decline_becomes).bind ?_ ?_
  · exact fun _ _ hsaved => ends_pure (.inr ⟨⟨_, hfound⟩, hsaved⟩)
  · exact fun _ _ hsaved => .inr ⟨⟨_, hfound⟩, hsaved⟩

/-! ## Deliveries -/

theorem ends_acknowledge {commitment : String} {delivered : Bool} (hvalid : r.state.Valid minter)
    (hnow : ∀ index a, position (awaitsCommitment commitment) r.state.actions = some (index, a) →
      a.createdAtUnix ≤ now) :
    Ends (fun result r' => r' = r ∨ (∃ found,
        position (awaitsCommitment commitment) r.state.actions = some found) ∧
          Saves minter fault (fun _ => False) r result r')
      (acknowledgeDelivery minter fault commitment delivered now) r := by
  unfold acknowledgeDelivery
  refine ends_lift_bind (fun _ _ => .inl rfl) fun _ _ => ends_get_bind ?_
  cases hfound : position (awaitsCommitment commitment) r.state.actions with
  | none => exact ends_pure (.inl rfl)
  | some found =>
    obtain ⟨index, a⟩ := found
    obtain ⟨hget, -⟩ := position_eq_some hfound
    have ha := hvalid.actions a (List.mem_of_getElem? hget)
    have hcreated := hnow index a hfound
    dsimp only
    split_ifs with hdelivered
    · refine (ends_update_persist hvalid hget (BrandingAction.retry_valid ha hcreated)
        BrandingAction.retry_becomes).mono fun _ _ hsaved => .inr ⟨⟨_, rfl⟩, hsaved⟩
    · refine ends_lift_bind (fun _ _ => .inl rfl) fun pending hpending => ?_
      have hpending := okOr_ok.mp hpending
      refine (ends_update_persist hvalid hget (BrandingAction.acknowledge_valid ha hpending hcreated)
        (BrandingAction.acknowledge_becomes ha hpending)).mono fun _ _ hsaved =>
          .inr ⟨⟨_, rfl⟩, hsaved⟩

theorem BrandingSnapshot.Valid.deferDue (h : s.Valid minter) :
    (s.updateWhere (·.isDue now) (·.defer now)).Valid minter := by
  have hsame : ∀ a : BrandingAction, (if a.isDue now = true then a.defer now else a) = a ∨
      (if a.isDue now = true then a.defer now else a) = a.defer now := by
    intro a
    split_ifs
    · exact .inr rfl
    · exact .inl rfl
  have happly : ∀ a b : BrandingAction, a.Apart b →
      (if a.isDue now = true then a.defer now else a).Apart
        (if b.isDue now = true then b.defer now else b) := by
    intro a b hab
    rcases hsame a with ha | ha <;> rcases hsame b with hb | hb <;> rw [ha, hb] <;>
      exact ⟨hab.offer, hab.conversation⟩
  refine ⟨h.version, (List.length_map _).trans_le h.bounded, ?_, fun b hb => ?_, ?_⟩
  · have hempty : (s.updateWhere (·.isDue now) (·.defer now)).actions = [] ↔ s.actions = [] :=
      List.map_eq_nil_iff
    rw [hempty]
    refine h.cursor.imp_right fun hcursor => hcursor.trans_eq (List.length_map _).symm
  · obtain ⟨a, ha, rfl⟩ := List.mem_map.mp hb
    rcases hsame a with heq | heq <;> rw [heq]
    · exact h.actions a ha
    · exact BrandingAction.defer_valid (h.actions a ha)
  · exact List.pairwise_map.mpr (h.apart.imp (happly _ _))

theorem ends_deferDue (hvalid : r.state.Valid minter) :
    Ends (Saves minter fault (fun _ => False) r) (deferDue minter fault now) r :=
  ends_change_persist hvalid.deferDue (evolves_updateWhere fun _ => BrandingAction.defer_becomes)

end Cthuwu.Offers
