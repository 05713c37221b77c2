import Cthuwu.Growth.Deliveries
import Cthuwu.Growth.Moves

/-!
# Atomic calls of the growth runtime

Only three calls put the old snapshot back when a save fails. The others leave what they wrote in
memory, and when the snapshot is not valid then, no later save succeeds. `Request.Whole` says when
that does not happen, on the snapshot before the call : the store takes what is saved, the call
does not move an acolyte to the inbox of its own referrer or of somebody else, the times do not run
backwards, and the gateway neither asks for funds after a transaction nor tells a long error. In a
run of such calls each one that fails leaves the snapshot as it was (`growth_atomic`).
-/

namespace Cthuwu.Growth

open Council TokenEye Fallible
open Evolution (u64Max u32Max)
open GrowthSnapshot

section Calls

variable [Hashing] {policy : Policy}

/-! ## Whole calls -/

/-- The store takes what the call saves. -/
def Faults.Absent (faults : Faults) : Prop :=
  faults.first = none ∧ faults.second = none

/-- What the gateway answers can be kept. -/
def Reply.Fits (policy : Policy) (r : ReferralRecord) (now : ℕ) : Reply → Prop
  | .failed error =>
    r.createdAtUnix ≤ now ∧ (bounded error 512).utf8ByteSize ≤ maxErrorBytes
  | .malformed => True
  | .result answer => validateResult policy answer r = .ok () →
      r.createdAtUnix ≤ now ∧ (answer.disposition = .fundingRequired → r.transactionHash = none)

/-- When a call cannot leave half of its work in memory. -/
def Request.Whole (policy : Policy) (faults : Faults) (s : GrowthSnapshot) : Request → Prop
  | markContact inboxId authenticatedAddress _ => faults.Absent ∧ ∀ acolyte r,
      parseAddress (asciiLower authenticatedAddress) = some acolyte → s.record acolyte = some r →
      s.identityConflicts inboxId acolyte = false → r.referrerInboxId ≠ some inboxId
  | handleControl inboxId authenticatedSender text now => faults.Absent ∧
      ∀ sender rawReferrer acolyte referrer referrerInboxId r,
        authenticatedSender = some sender → parseReferralControl text = some rawReferrer →
        parseAddress (asciiLower sender) = some acolyte →
        parseAddress (asciiLower rawReferrer) = some referrer →
        s.answerControl policy inboxId acolyte referrer = .ok (.inr referrerInboxId) →
        s.record acolyte = some r → r.createdAtUnix ≤ now
  | registerOperator _ _ _ => True
  | markOnboardingComplete inboxId authenticatedAddress now => faults.Absent ∧ ∀ acolyte r,
      parseAddress (asciiLower authenticatedAddress) = some acolyte → s.record acolyte = some r →
      s.identityConflicts inboxId acolyte = false → r.onboardingCompletedAtUnix = none →
      r.referrerInboxId ≠ some inboxId ∧ r.createdAtUnix ≤ now ∧ (r.referrer ≠ none → now ≠ u64Max)
  | noteBrandingState inboxId acolyte state observedAt => faults.Absent ∧ ∀ r,
      s.record acolyte = some r → r.outdates state observedAt = false →
      r.referrerInboxId ≠ some inboxId ∧ s.identityConflicts inboxId acolyte = false
  | reminderPreferences _ _ => True
  | deferDue now => faults.Absent ∧ ∀ r ∈ s.records, r.isDue now = true →
      r.phase = .onboardingComplete → saturatingAdd u64Max now retrySeconds ≠ u64Max
  | maintainOne reply _ now => faults.Absent ∧ ∀ index r,
      s.waitingPrompt now = none → s.waitingDelivery = none →
      position (ReferralRecord.isDue now) s.records = some (index, r) →
      if r.phase = .onboardingComplete then r.createdAtUnix ≤ now else reply.Fits policy r now
  | acknowledgeDelivery _ _ _ => faults.Absent
  | noteReferralLinkSent _ => faults.Absent
  | operatorStatus _ _ _ => faults.Absent
  | recordBrandingAttempt _ _ => True

/-! ## Keeping memory and disk together -/

/-- The snapshot in memory is valid, and is the one on the disk. -/
structure Runtime.Synced (policy : Policy) (r : Runtime) : Prop where
  valid : r.state.Valid policy
  saved : r.disk = r.state

/-- A call that returns leaves memory and disk together, and one that fails leaves them alone. -/
def Keeps {α : Type} (policy : Policy) (x : Op α) (r : Runtime) : Prop :=
  (∀ a r', x.exec r = (.ok a, r') → r'.Synced policy) ∧
    ∀ error r', x.exec r = (.error error, r') → r'.state = r.state ∧ r'.disk = r.disk

/-- The call returns, and leaves memory and disk together. -/
def Surely {α : Type} (policy : Policy) (x : Op α) (r : Runtime) : Prop :=
  ∃ a r', x.exec r = (.ok a, r') ∧ r'.Synced policy

section Rules

variable {α β : Type} {r : Runtime}

variable {x : Op α} {f : α → Op β}

theorem Surely.keeps (h : Surely policy x r) : Keeps policy x r := by
  obtain ⟨a, r', hexec, hsynced⟩ := h
  refine ⟨fun b r'' hok => ?_, fun error r'' herror => ?_⟩
  · obtain ⟨-, rfl⟩ := Prod.mk.inj (hexec.symm.trans hok)
    exact hsynced
  · cases (Prod.mk.inj (hexec.symm.trans herror)).1

theorem surely_pure (a : α) (h : r.Synced policy) : Surely policy (pure a : Op α) r :=
  ⟨a, r, rfl, h⟩

theorem keeps_pure (a : α) (h : r.Synced policy) : Keeps policy (pure a : Op α) r :=
  (surely_pure a h).keeps

theorem keeps_throw (error : String) : Keeps policy (throw error : Op α) r := by
  refine ⟨fun a r' hok => ?_, fun error r' herror => ?_⟩
  · cases hok
  · obtain ⟨-, rfl⟩ := Prod.mk.inj herror
    exact ⟨rfl, rfl⟩

theorem keeps_get_bind {f : Runtime → Op β} (h : Keeps policy (f r) r) :
    Keeps policy (get >>= f) r := by
  unfold Keeps at h ⊢
  rwa [exec_get_bind]

theorem surely_get_bind {f : Runtime → Op β} (h : Surely policy (f r) r) :
    Surely policy (get >>= f) r := by
  unfold Surely at h ⊢
  rwa [exec_get_bind]

theorem keeps_lift_bind {x : Except String α} (h : ∀ a, x = .ok a → Keeps policy (f a) r) :
    Keeps policy (liftM x >>= f) r := by
  cases x with
  | error error =>
    unfold Keeps
    rw [exec_lift_bind]
    exact keeps_throw error
  | ok a =>
    have ha := h a rfl
    unfold Keeps at ha ⊢
    rwa [exec_lift_bind]

/-- What comes after a call that surely returns has to return as well. -/
theorem Surely.bind (h : ∃ a r', x.exec r = (.ok a, r') ∧
    Surely policy (f a) r') : Surely policy (x >>= f) r := by
  obtain ⟨a, r', hexec, b, r'', hexec', hsynced⟩ := h
  exact ⟨b, r'', bind_ok.mpr ⟨a, r', hexec, hexec'⟩, hsynced⟩

theorem surely_write_bind {w : Write} {f : Unit → Op β}
    (h : Surely policy (f ()) { r with state := w.apply policy r.state }) :
    Surely policy (write policy w >>= f) r := by
  unfold Surely write at *
  rwa [exec_modify_bind]

theorem keeps_invoke_bind {invocation : Invocation} {f : Unit → Op β}
    (h : Keeps policy (f ()) { r with invocations := r.invocations ++ [invocation] }) :
    Keeps policy (invoke invocation >>= f) r := by
  unfold Keeps invoke at *
  rwa [exec_modify_bind]

/-- A call may go on after one that did nothing, or surely after one that did something. -/
theorem keeps_bind (h : (∃ error, x.exec r = (.error error, r)) ∨
    (∃ a, x.exec r = (.ok a, r) ∧ Keeps policy (f a) r) ∨
    ∃ a r', x.exec r = (.ok a, r') ∧ Surely policy (f a) r') : Keeps policy (x >>= f) r := by
  rcases h with ⟨error, hexec⟩ | ⟨a, hexec, h⟩ | h
  · unfold Keeps
    rw [exec_bind, hexec]
    exact keeps_throw error
  · unfold Keeps at h ⊢
    rwa [exec_bind, hexec]
  · exact (Surely.bind h).keeps

theorem exec_discard (x : Op α) : (discard x).exec r = match x.exec r with
    | (.ok _, r') => (.ok (), r')
    | (.error error, r') => (.error error, r') := by
  change (x >>= fun _ => pure ()).exec r = _
  rw [exec_bind]
  rcases x.exec r with ⟨error | a, r'⟩ <;> rfl

/-- What a call tells does not matter. -/
theorem keeps_bind_pure {f : α → β} (h : Keeps policy x r) :
    Keeps policy (x >>= fun a => pure (f a)) r := by
  unfold Keeps at h ⊢
  rw [exec_bind]
  rcases hx : x.exec r with ⟨error | a, r'⟩
  · refine ⟨fun _ _ hok => (by cases hok), fun e r'' herror => ?_⟩
    obtain ⟨-, rfl⟩ := Prod.mk.inj herror
    exact h.2 error r' hx
  · refine ⟨fun _ r'' hok => ?_, fun _ _ herror => (by cases herror)⟩
    obtain ⟨-, rfl⟩ := Prod.mk.inj hok
    exact h.1 a r' hx

theorem keeps_discard (h : Keeps policy x r) : Keeps policy (discard x) r :=
  keeps_bind_pure h

end Rules

/-! ## Saving -/

variable {r : Runtime} {w : Write} {now : ℕ}

theorem synced_committed (h : (w.apply policy r.state).Valid policy) :
    (r.committed policy w now).Synced policy :=
  ⟨h.stamp, rfl⟩

theorem exec_persist (h : r.state.Valid policy) :
    (persist policy none now).exec r = (.ok (), r.committed policy (.stamp now) now) := by
  rcases @exec_persist_cases _ policy now r none with ⟨hexec, -⟩ | ⟨error, -, hne⟩
  · exact hexec
  · exact absurd rfl (hne h)

theorem exec_commit {fault : Option String} (h : (w.apply policy r.state).Valid policy)
    (hfault : fault = none) : ((write policy w) >>= fun _ => persist policy fault now).exec r =
      (.ok (), r.committed policy w now) := by
  subst hfault
  unfold write
  rw [exec_modify_bind, exec_persist h]
  rfl

theorem exec_commit_return {α : Type} {fault : Option String} (a : α)
    (h : (w.apply policy r.state).Valid policy) (hfault : fault = none) :
    (do write policy w; persist policy fault now; return a : Op α).exec r =
      (.ok a, r.committed policy w now) := by
  have hbind : (do write policy w; persist policy fault now; return a : Op α) =
      ((write policy w >>= fun _ => persist policy fault now) >>= fun _ => pure a) :=
    (bind_assoc _ _ _).symm
  rw [hbind, exec_bind, exec_commit h hfault]
  rfl

theorem surely_commit {α : Type} {fault : Option String} {x : Op α}
    (h : (w.apply policy r.state).Valid policy) (hfault : fault = none)
    (hx : Surely policy x (r.committed policy w now)) :
    Surely policy (do write policy w; persist policy fault now; x) r := by
  have hbind : (do write policy w; persist policy fault now; x) =
      ((write policy w >>= fun _ => persist policy fault now) >>= fun _ => x) :=
    (bind_assoc _ _ _).symm
  rw [hbind]
  exact Surely.bind ⟨(), _, exec_commit h hfault, hx⟩

/-- A call that puts the old snapshot back keeps it, whatever the store does. -/
theorem keeps_writeOrRestore {fault : Option String} :
    Keeps policy (writeOrRestore policy w fault now) r := by
  unfold writeOrRestore write
  refine keeps_get_bind ?_
  unfold Keeps
  rw [exec_modify_bind, exec_tryCatch]
  rcases @exec_persist_cases _ policy now { r with state := w.apply policy r.state } fault
    with ⟨hexec, hvalid⟩ | ⟨error, hexec, -⟩
  · rw [hexec]
    refine ⟨fun _ r' hok => ?_, fun _ _ herror => (by cases herror)⟩
    obtain ⟨-, rfl⟩ := Prod.mk.inj hok
    exact ⟨hvalid.stamp.stamp, rfl⟩
  · rw [hexec]
    dsimp only
    rw [exec_modify_bind]
    refine ⟨fun _ _ hok => (by cases hok), fun _ r' herror => ?_⟩
    obtain ⟨-, rfl⟩ := Prod.mk.inj herror
    exact ⟨rfl, rfl⟩

/-! ## Contacts -/

section Contacts

variable {s : GrowthSnapshot} {record : ReferralRecord} {index : ℕ} {inboxId : String}
  {acolyte : Address} {fault : Option String}

theorem room_of_check (h : s.checkRoom = .ok ()) : s.records.length < maxRecords := by
  rw [checkRoom, failIf_ok, not_le] at h
  exact h

theorem valid_contact (now : ℕ) (h : s.Valid policy) (hinbox : validateInbox inboxId = .ok ())
    (hne : acolyte ≠ 0) (hfree : s.identityConflicts inboxId acolyte = false)
    (hnew : position (isOf acolyte) s.records = none) (hroom : s.checkRoom = .ok ()) :
    ((Write.contact inboxId acolyte now).apply policy s).Valid policy :=
  h.push (ReferralRecord.valid_new hinbox hne) (room_of_check hroom)
    (apart_of_new hfree (acolyte_ne_of_none hnew) rfl rfl)

theorem valid_rebind (h : s.Valid policy) (hget : s.records[index]? = some record)
    (hinbox : validateInbox inboxId = .ok ())
    (hfree : s.identityConflicts inboxId record.acolyte = false)
    (hreferrer : record.referrerInboxId ≠ some inboxId) :
    ((Write.rebind index inboxId acolyte now).apply policy s).Valid policy := by
  have hrecord := h.records record (List.mem_of_getElem? hget)
  have hvalid := ReferralRecord.valid_rebind now hrecord hinbox hreferrer
  have hchanged := h.change_inbox hget hvalid rfl rfl hfree
  exact hchanged.map (fun r hr => ReferralRecord.valid_follow (hchanged.records r hr) hinbox)
    (follow_same _ _ _)

variable {address referrerInboxId : String} {referrer : Address} {state : DurableBrandingState}

theorem keeps_markContact (h : r.Synced policy) (hfault : fault = none)
    (hmoves : ∀ acolyte record, parseAddress (asciiLower address) = some acolyte →
      r.state.record acolyte = some record → r.state.identityConflicts inboxId acolyte = false →
      record.referrerInboxId ≠ some inboxId) :
    Keeps policy (markContact policy fault inboxId address now) r := by
  unfold markContact
  refine keeps_lift_bind fun _ hinbox => keeps_lift_bind fun acolyte hparse => keeps_get_bind ?_
  obtain ⟨hparse, hne⟩ := parseNonzeroAddress_ok.mp hparse
  split_ifs with hconflict
  · exact keeps_pure _ h
  rw [Bool.not_eq_true] at hconflict
  split
  · rename_i index record hposition
    obtain ⟨hget, hof⟩ := position_eq_some hposition
    split_ifs with hsame
    · exact keeps_pure _ h
    · have hvalid :
          ((Write.rebind index inboxId acolyte now).apply policy r.state).Valid policy := by
        refine valid_rebind h.valid hget hinbox ?_
          (hmoves acolyte record hparse (find?_of_position hposition) hconflict)
        rwa [isOf_iff.mp hof]
      exact (surely_commit hvalid hfault (surely_pure _ (synced_committed hvalid))).keeps
  · rename_i hposition
    refine keeps_lift_bind fun _ hroom => ?_
    have hvalid := valid_contact now h.valid hinbox hne hconflict hposition hroom
    exact (surely_commit hvalid hfault (surely_pure _ (synced_committed hvalid))).keeps

/-! ## Referral controls -/

theorem validateInbox_referrer (h : s.Valid policy)
    (hinbox : s.verifiedReferrerInbox referrer = some referrerInboxId) :
    validateInbox referrerInboxId = .ok () := by
  unfold verifiedReferrerInbox at hinbox
  split at hinbox
  · rename_i r hr
    obtain rfl := Option.some.inj hinbox
    exact (h.records r (List.mem_of_find?_eq_some hr)).inbox
  · obtain ⟨operator, hfind, rfl⟩ := Option.map_eq_some_iff.mp hinbox
    exact (h.operators operator (List.mem_of_find?_eq_some hfind)).inbox

theorem valid_pin (h : s.Valid policy) (hget : s.records[index]? = some record)
    (hrecord : s.record record.acolyte = some record) (hinbox : validateInbox inboxId = .ok ())
    (hreferrer : referrer ≠ 0)
    (haccepts : Accepts policy s inboxId record.acolyte referrer referrerInboxId)
    (htime : record.createdAtUnix ≤ now) :
    ((Write.pin index inboxId acolyte referrer referrerInboxId now).apply policy s).Valid
      policy := by
  obtain ⟨hnone, honboarding⟩ := haccepts.unreferred record hrecord
  refine h.change_inbox hget ?_ rfl rfl haccepts.free
  exact ReferralRecord.valid_pin (h.records record (List.mem_of_getElem? hget)) hinbox
    (validateInbox_referrer h haccepts.inbox) haccepts.other hreferrer haccepts.minter haccepts.self
    haccepts.treasury hnone honboarding htime

theorem valid_pinNew (now : ℕ) (h : s.Valid policy) (hinbox : validateInbox inboxId = .ok ())
    (hne : acolyte ≠ 0) (hreferrer : referrer ≠ 0)
    (haccepts : Accepts policy s inboxId acolyte referrer referrerInboxId)
    (hnew : position (isOf acolyte) s.records = none) (hroom : s.checkRoom = .ok ()) :
    ((Write.pinNew inboxId acolyte referrer referrerInboxId now).apply policy s).Valid policy := by
  refine h.push ?_ (room_of_check hroom)
    (apart_of_new haccepts.free (acolyte_ne_of_none hnew) rfl rfl)
  exact ReferralRecord.valid_pin (ReferralRecord.valid_new hinbox hne) hinbox
    (validateInbox_referrer h haccepts.inbox) haccepts.other hreferrer haccepts.minter haccepts.self
    haccepts.treasury rfl rfl le_rfl

theorem keeps_handleControl {sender : Option String} {text : String} (h : r.Synced policy)
    (hfault : fault = none) (htime : ∀ from' rawReferrer acolyte referrer referrerInboxId record,
      sender = some from' → parseReferralControl text = some rawReferrer →
      parseAddress (asciiLower from') = some acolyte →
      parseAddress (asciiLower rawReferrer) = some referrer →
      r.state.answerControl policy inboxId acolyte referrer = .ok (.inr referrerInboxId) →
      r.state.record acolyte = some record → record.createdAtUnix ≤ now) :
    Keeps policy (handleControl policy fault inboxId sender text now) r := by
  unfold handleControl
  split
  · exact keeps_pure _ h
  · exact keeps_pure _ h
  · rename_i rawReferrer from' hraw
    refine keeps_lift_bind fun acolyte hacolyte => keeps_lift_bind fun referrer hreferrer =>
      keeps_lift_bind fun _ hinbox => keeps_get_bind (keeps_lift_bind fun answer hanswer => ?_)
    obtain ⟨hacolyte, hne⟩ := parseNonzeroAddress_ok.mp hacolyte
    obtain ⟨hreferrer, hne'⟩ := parseNonzeroAddress_ok.mp hreferrer
    cases answer with
    | inl text => exact keeps_pure _ h
    | inr referrerInboxId =>
      have haccepts := answerControl_inr hanswer
      simp only [pinReferrer, bind_assoc]
      refine keeps_get_bind ?_
      split
      · rename_i index record hposition
        obtain ⟨hget, hof⟩ := position_eq_some hposition
        have hrecord := find?_of_position hposition
        have hvalid : ((Write.pin index inboxId acolyte referrer referrerInboxId now).apply policy
            r.state).Valid policy := by
          rw [← isOf_iff.mp hof] at hrecord haccepts
          refine valid_pin h.valid hget hrecord hinbox hne' haccepts ?_
          exact htime _ _ _ _ _ record rfl hraw hacolyte hreferrer hanswer
            (find?_of_position hposition)
        exact (surely_commit hvalid hfault (surely_pure _ (synced_committed hvalid))).keeps
      · rename_i hposition
        simp only [bind_assoc]
        refine keeps_lift_bind fun _ hroom => ?_
        have hvalid := valid_pinNew now h.valid hinbox hne hne' haccepts hposition hroom
        exact (surely_commit hvalid hfault (surely_pure _ (synced_committed hvalid))).keeps

theorem keeps_registerOperator (h : r.Synced policy) :
    Keeps policy (registerOperator policy fault inboxId address now) r := by
  unfold registerOperator
  refine keeps_lift_bind fun _ _ => keeps_lift_bind fun acolyte _ => keeps_get_bind ?_
  dsimp only
  split_ifs
  · exact keeps_pure _ h
  · exact keeps_lift_bind fun _ _ => keeps_writeOrRestore

/-! ## Onboarding -/

theorem valid_complete (h : s.Valid policy) (hget : s.records[index]? = some record)
    (hinbox : validateInbox inboxId = .ok ())
    (hfree : s.identityConflicts inboxId record.acolyte = false)
    (honboarding : record.onboardingCompletedAtUnix = none)
    (hreferrer : record.referrerInboxId ≠ some inboxId) (htime : record.createdAtUnix ≤ now)
    (hnow : record.referrer ≠ none → now ≠ u64Max) :
    ((Write.complete index inboxId acolyte now).apply policy s).Valid policy := by
  have hchanged := h.change_inbox hget (ReferralRecord.valid_complete
    (h.records record (List.mem_of_getElem? hget)) hinbox hreferrer honboarding htime hnow) rfl rfl
    hfree
  change (s.complete index inboxId now).Valid policy
  unfold complete
  dsimp only
  split_ifs
  · exact hchanged.refreshPrompt
  · exact hchanged

theorem valid_prepare (now : ℕ) (h : s.Valid policy) (hget : s.records[index]? = some record)
    (hphase : record.phase = .onboardingComplete) (htime : record.createdAtUnix ≤ now) :
    ((Write.prepare index now).apply policy s).Valid policy :=
  h.change_same hget
    (ReferralRecord.valid_prepare (h.records record (List.mem_of_getElem? hget)) hphase htime)
    ⟨rfl, rfl⟩

/-- A new record is completed where it was added. -/
theorem valid_enrolled (now : ℕ) (h : s.Valid policy) (hinbox : validateInbox inboxId = .ok ())
    (hne : acolyte ≠ 0) (hfree : s.identityConflicts inboxId acolyte = false)
    (hnew : position (isOf acolyte) s.records = none) (hroom : s.checkRoom = .ok ()) :
    ((Write.complete s.records.length inboxId acolyte now).apply policy
      ((Write.enroll inboxId acolyte now).apply policy s)).Valid policy := by
  set enrolled := ReferralRecord.new policy inboxId acolyte .newContact now with henrolled
  have hvalid : (enrolled.complete inboxId now).Valid policy :=
    ReferralRecord.valid_complete (ReferralRecord.valid_new hinbox hne) hinbox nofun rfl le_rfl
      fun hreferrer => absurd rfl hreferrer
  have hpush := h.push hvalid (room_of_check hroom)
    (apart_of_new hfree (acolyte_ne_of_none hnew) rfl rfl)
  have hrecords : (s.records ++ [ReferralRecord.new policy inboxId acolyte .direct now]).modify
      s.records.length (ReferralRecord.complete inboxId now) =
        s.records ++ [enrolled.complete inboxId now] :=
    modify_append _ _ _
  have hlast : (s.records ++ [ReferralRecord.new policy inboxId acolyte .direct now])[
      s.records.length]? = some (ReferralRecord.new policy inboxId acolyte .direct now) := by
    simp
  change (complete (s.push _) s.records.length inboxId now).Valid policy
  unfold complete GrowthSnapshot.change GrowthSnapshot.push
  dsimp only
  rw [hrecords, hlast]
  exact hpush

theorem keeps_markOnboardingComplete {faults : Faults} (h : r.Synced policy)
    (hfaults : faults.Absent) (hwhole : ∀ acolyte record,
      parseAddress (asciiLower address) = some acolyte → r.state.record acolyte = some record →
      r.state.identityConflicts inboxId acolyte = false →
      record.onboardingCompletedAtUnix = none → record.referrerInboxId ≠ some inboxId ∧
        record.createdAtUnix ≤ now ∧ (record.referrer ≠ none → now ≠ u64Max)) :
    Keeps policy (markOnboardingComplete policy faults inboxId address now) r := by
  unfold markOnboardingComplete
  refine keeps_lift_bind fun _ hinbox => keeps_lift_bind fun acolyte hparse => keeps_get_bind ?_
  obtain ⟨hparse, hne⟩ := parseNonzeroAddress_ok.mp hparse
  split_ifs with hrefused
  · exact keeps_pure _ h
  rw [not_or, Bool.not_eq_true, Bool.not_eq_true] at hrefused
  obtain ⟨hfree, honboarded⟩ := hrefused
  simp only [enrolled, bind_assoc]
  refine keeps_get_bind ?_
  split
  · rename_i index record hposition
    obtain ⟨hget, hof⟩ := position_eq_some hposition
    have honboarding : record.onboardingCompletedAtUnix = none := by
      have hrecord := List.any_eq_false.mp honboarded record (List.mem_of_getElem? hget)
      rw [hof] at hrecord
      simpa using hrecord
    obtain ⟨hreferrer, htime, hnow⟩ :=
      hwhole acolyte record hparse (find?_of_position hposition) hfree honboarding
    rw [← isOf_iff.mp hof] at hfree
    have hvalid : ((Write.complete index inboxId acolyte now).apply policy r.state).Valid policy :=
      valid_complete h.valid hget hinbox hfree honboarding hreferrer htime hnow
    rw [pure_bind]
    refine keeps_get_bind (Surely.keeps (surely_commit hvalid hfaults.1 ?_))
    rw [hget]
    split_ifs with hreferred
    · have hget' := @get_complete _ policy r.state inboxId acolyte record index now hget
      have hphase : (record.complete inboxId now).phase = .onboardingComplete := by
        rw [Option.any_some] at hreferred
        exact if_pos hreferred
      have hprepared := valid_prepare now (s := (r.committed policy (.complete index inboxId acolyte
        now) now).state) hvalid.stamp hget' hphase htime
      exact surely_commit hprepared hfaults.2 (surely_pure _ (synced_committed hprepared))
    · exact surely_pure _ (synced_committed hvalid)
  · rename_i hposition
    simp only [bind_assoc]
    refine keeps_lift_bind fun _ hroom => Surely.keeps (surely_write_bind ?_)
    have hvalid := valid_enrolled now h.valid hinbox hne hfree hposition hroom
    rw [pure_bind]
    refine surely_get_bind (surely_commit hvalid hfaults.1 ?_)
    have hlast : (r.state.records ++ [ReferralRecord.new policy inboxId acolyte .direct now])[
        r.state.records.length]? =
          some (ReferralRecord.new policy inboxId acolyte .direct now) := by
      simp
    change Surely policy (if ((r.state.records ++ [_])[r.state.records.length]?).any _ = true
      then _ else _) _
    rw [hlast]
    exact surely_pure _ (synced_committed hvalid)

/-! ## Observations -/

theorem valid_observe (h : s.Valid policy) (hget : s.records[index]? = some record)
    (hinbox : validateInbox inboxId = .ok ())
    (hfree : s.identityConflicts inboxId record.acolyte = false)
    (hreferrer : record.referrerInboxId ≠ some inboxId) :
    ((Write.observe index inboxId acolyte state now).apply policy s).Valid policy :=
  h.change_inbox hget (ReferralRecord.valid_observe (h.records record (List.mem_of_getElem? hget))
    hinbox hreferrer) rfl rfl hfree

/-- A contact with a new acolyte is refused or added. -/
theorem exec_markContact_new (hvalid : r.state.Valid policy)
    (hnew : position (isOf acolyte) r.state.records = none) :
    (∃ error, (markContact policy none inboxId (addressText acolyte) now).exec r =
        (.error error, r)) ∨
      (markContact policy none inboxId (addressText acolyte) now).exec r = (.ok false, r) ∨
      validateInbox inboxId = .ok () ∧ r.state.identityConflicts inboxId acolyte = false ∧
        ((Write.contact inboxId acolyte now).apply policy r.state).Valid policy ∧
        (markContact policy none inboxId (addressText acolyte) now).exec r =
          (.ok true, r.committed policy (.contact inboxId acolyte now) now) := by
  unfold markContact
  rw [exec_lift_bind]
  cases hinbox : validateInbox inboxId with
  | error error => exact .inl ⟨error, rfl⟩
  | ok u =>
    dsimp only
    rw [exec_lift_bind]
    cases hparse : parseNonzeroAddress (addressText acolyte) "authenticated contact" with
    | error error => exact .inl ⟨error, rfl⟩
    | ok parsed =>
      obtain ⟨hparsed, hne⟩ := parseNonzeroAddress_ok.mp hparse
      rw [asciiLower_addressText, parseAddress_addressText] at hparsed
      obtain rfl := Option.some.inj hparsed
      dsimp only
      rw [exec_get_bind, hnew]
      by_cases hconflict : r.state.identityConflicts inboxId acolyte = true
      · rw [if_pos hconflict]
        exact .inr (.inl rfl)
      · rw [if_neg hconflict]
        rw [Bool.not_eq_true] at hconflict
        dsimp only
        rw [exec_lift_bind]
        cases hroom : r.state.checkRoom with
        | error error => exact .inl ⟨error, rfl⟩
        | ok u =>
          have hcontact := valid_contact now hvalid hinbox hne hconflict hnew hroom
          refine .inr (.inr ⟨rfl, hconflict, hcontact, ?_⟩)
          exact exec_commit_return true hcontact rfl

theorem keeps_noteBrandingState {faults : Faults} {observedAt : ℕ} (h : r.Synced policy)
    (hfaults : faults.Absent) (hwhole : ∀ record,
      r.state.record acolyte = some record → record.outdates state observedAt = false →
      record.referrerInboxId ≠ some inboxId ∧ r.state.identityConflicts inboxId acolyte = false) :
    Keeps policy (noteBrandingState policy faults inboxId acolyte state observedAt) r := by
  obtain ⟨hfirst, hsecond⟩ := hfaults
  unfold noteBrandingState
  refine keeps_lift_bind fun _ hinbox => keeps_get_bind ?_
  cases hposition : position (isOf acolyte) r.state.records with
  | some found =>
    obtain ⟨index, record⟩ := found
    obtain ⟨hget, hof⟩ := position_eq_some hposition
    have hrecord : r.state.record acolyte = some record := find?_of_position hposition
    rw [if_neg (by rw [hrecord]; exact Option.some_ne_none _)]
    refine keeps_get_bind ?_
    rw [hposition]
    dsimp only
    split_ifs with houtdated
    · exact keeps_pure _ h
    · obtain ⟨hreferrer, hfree⟩ := hwhole record hrecord (by rwa [Bool.not_eq_true] at houtdated)
      rw [← isOf_iff.mp hof] at hfree
      have hvalid : ((Write.observe index inboxId acolyte state observedAt).apply policy
          r.state).Valid policy :=
        valid_observe h.valid hget hinbox hfree hreferrer
      exact (surely_commit hvalid hsecond (surely_pure _ (synced_committed hvalid))).keeps
  | none =>
    have hrecord : r.state.record acolyte = none := find?_of_position_none hposition
    rw [if_pos hrecord, hfirst]
    refine keeps_bind ?_
    generalize hat : max r.state.updatedAtUnix observedAt = contactAt
    rcases @exec_markContact_new _ policy r contactAt inboxId acolyte h.valid hposition
      with ⟨error, hexec⟩ | hexec | ⟨-, hfree, hvalid, hexec⟩
    · refine .inl ⟨error, ?_⟩
      rw [exec_discard, hexec]
    · refine .inr (.inl ⟨(), ?_, keeps_get_bind ?_⟩)
      · rw [exec_discard, hexec]
      · rw [hposition]
        exact keeps_throw _
    · refine .inr (.inr ⟨(), r.committed policy (.contact inboxId acolyte contactAt) contactAt, ?_,
        surely_get_bind ?_⟩)
      · rw [exec_discard, hexec]
      set contact := ReferralRecord.new policy inboxId acolyte .newContact contactAt
      have hadded : position (isOf acolyte) (r.state.records ++ [contact]) =
          some (r.state.records.length, contact) :=
        position_append hposition (isOf_iff.mpr rfl)
      have hadded' : position (isOf acolyte) (r.committed policy
          (.contact inboxId acolyte contactAt) contactAt).state.records = _ := hadded
      rw [hadded']
      have hget : (r.state.records ++ [contact])[r.state.records.length]? = some contact := by simp
      have hfree' : (r.state.push contact).identityConflicts inboxId contact.acolyte = false := by
        refine GrowthSnapshot.conflict_iff.mpr fun record hmem hsame => ?_
        rcases List.mem_append.mp hmem with hmem | hmem
        · exact GrowthSnapshot.conflict_iff.mp hfree record hmem hsame
        · rw [List.mem_singleton.mp hmem]
      have hobserved : ((Write.observe r.state.records.length inboxId acolyte state
          observedAt).apply policy (r.committed policy
            (.contact inboxId acolyte contactAt) contactAt).state).Valid policy :=
        valid_observe (synced_committed hvalid).valid hget hinbox hfree' nofun
      exact surely_commit hobserved hsecond (surely_pure _ (synced_committed hobserved))

/-! ## Deliveries and rewards -/

theorem keeps_commit {α : Type} {a : α} (hvalid : (w.apply policy r.state).Valid policy)
    (hfault : fault = none) :
    Keeps policy (do write policy w; persist policy fault now; return a : Op α) r :=
  (surely_commit hvalid hfault (surely_pure _ (synced_committed hvalid))).keeps

theorem keeps_save (hvalid : (w.apply policy r.state).Valid policy) (hfault : fault = none) :
    Keeps policy (do write policy w; persist policy fault now : Op Unit) r :=
  Surely.keeps ⟨(), _, exec_commit hvalid hfault, synced_committed hvalid⟩

theorem keeps_deferDue (h : r.Synced policy) (hfault : fault = none)
    (hwhole : ∀ record ∈ r.state.records, record.isDue now = true →
      record.phase = .onboardingComplete → saturatingAdd u64Max now retrySeconds ≠ u64Max) :
    Keeps policy (deferDue policy fault now) r := by
  refine keeps_save (h.valid.map (fun record hmem => ?_) fun record => ?_) hfault
  · exact ReferralRecord.valid_deferDue (h.valid.records record hmem) (hwhole record hmem)
  · unfold ReferralRecord.deferDue
    split_ifs <;> exact ⟨rfl, rfl⟩

theorem keeps_promptOperator {branded : ℕ} (h : r.Synced policy) (hfault : fault = none) :
    Keeps policy (promptOperator policy fault branded now) r := by
  unfold promptOperator
  refine keeps_get_bind ?_
  split
  · exact keeps_pure _ h
  · rename_i operator hoperator
    split_ifs
    · refine keeps_lift_bind fun _ _ => keeps_commit ?_ hfault
      refine { h.valid with
        prompt := ?_ }
      rintro _ ⟨⟩
      exact ⟨rfl, rfl, rfl⟩
    · exact keeps_pure _ h

theorem keeps_reconcileReward {reply : Reply} (h : r.Synced policy) (hfault : fault = none)
    (hget : r.state.records[index]? = some record)
    (hphase : record.phase = .rewardPending ∨ record.phase = .submitted)
    (hnone : record.pendingDelivery = none) (hfits : reply.Fits policy record now) :
    Keeps policy (reconcileReward policy fault reply index record now) r := by
  have hrecord := h.valid.records record (List.mem_of_getElem? hget)
  unfold reconcileReward
  refine keeps_lift_bind fun referrer hreferrer => keeps_lift_bind fun actionId _ =>
    keeps_invoke_bind ?_
  cases reply with
  | failed error =>
    refine keeps_commit (h.valid.change_same hget ?_ ⟨rfl, rfl⟩) hfault
    exact ReferralRecord.valid_failAttempt hrecord hphase hfits.1 hfits.2
  | malformed => exact keeps_throw _
  | result result =>
    refine keeps_lift_bind fun u hresult => ?_
    obtain rfl : u = () := rfl
    obtain ⟨htime, hfunding⟩ := hfits hresult
    cases hdisposition : result.disposition with
    | fundingRequired =>
      dsimp only
      unfold reconcileFunding
      split_ifs
      · refine keeps_commit (h.valid.change_same hget ?_ ⟨rfl, rfl⟩) hfault
        refine ReferralRecord.valid_requireFunding hrecord hphase htime (hfunding hdisposition)
          hnone fun delivery heq => ?_
        obtain rfl := Option.some.inj heq
        exact fundingNotice_fits hresult
      · refine keeps_commit (h.valid.change_same hget ?_ ⟨rfl, rfl⟩) hfault
        exact ReferralRecord.valid_requireFunding hrecord hphase htime (hfunding hdisposition) hnone
          nofun
    | submitted =>
      dsimp only
      obtain ⟨hash, nonce, hhash, hnonce, hvalid, hvalid'⟩ :=
        submitted_of_validateResult hresult hdisposition
      rw [hhash, hnonce]
      refine keeps_commit (h.valid.change_same hget ?_ ⟨rfl, rfl⟩) hfault
      exact ReferralRecord.valid_submit hrecord hphase htime hnone hvalid hvalid'
    | confirmed =>
      dsimp only
      obtain ⟨hash, nonce, block, blockHash, ⟨hhash, hnonce, hblock, hblockHash⟩, hvalid,
        hvalidNonce, hvalidBlock, hvalidHash⟩ := confirmed_of_validateResult hresult hdisposition
      unfold reconcileConfirmed
      rw [hhash, hnonce, hblock, hblockHash]
      refine keeps_lift_bind fun hash' hhash' => keeps_lift_bind fun nonce' hnonce' =>
        keeps_lift_bind fun block' hblock' => keeps_lift_bind fun blockHash' hblockHash' =>
        keeps_lift_bind fun _ _ => keeps_lift_bind fun inbox hinbox => keeps_lift_bind fun _ _ => ?_
      refine keeps_commit (h.valid.change_same hget ?_ ⟨rfl, rfl⟩) hfault
      obtain rfl : hash = hash' := Option.some.inj (okOr_ok.mp hhash')
      obtain rfl : nonce = nonce' := Option.some.inj (okOr_ok.mp hnonce')
      obtain rfl : block = block' := Option.some.inj (okOr_ok.mp hblock')
      obtain rfl : blockHash = blockHash' := Option.some.inj (okOr_ok.mp hblockHash')
      exact ReferralRecord.valid_confirm hrecord hphase htime hvalid hvalidNonce hvalidBlock
        hvalidHash (confirmedDelivery_fits hrecord.amount)

theorem keeps_maintainOne {reply : Reply} {branded : ℕ} (h : r.Synced policy)
    (hfault : fault = none) (hwhole : ∀ index record, r.state.waitingPrompt now = none →
      r.state.waitingDelivery = none →
      position (ReferralRecord.isDue now) r.state.records = some (index, record) →
      if record.phase = .onboardingComplete then record.createdAtUnix ≤ now
      else reply.Fits policy record now) :
    Keeps policy (maintainOne policy fault reply branded now) r := by
  unfold maintainOne
  refine keeps_get_bind ?_
  split
  · exact keeps_pure _ h
  · rename_i record delivery _ hdelivery
    cases htarget : delivery.target with
    | referrerInbox =>
      simp only
      exact keeps_lift_bind fun inboxId _ => keeps_pure _ h
    | operators => exact keeps_pure _ h
  · rename_i index record hprompt hdelivery hposition
    obtain ⟨hget, hdue⟩ := position_eq_some hposition
    have hfits := hwhole index record hprompt hdelivery hposition
    split_ifs with hphase
    · rw [if_pos hphase] at hfits
      have hvalid := valid_prepare now h.valid hget hphase hfits
      exact keeps_lift_bind fun _ _ => keeps_commit hvalid hfault
    · rw [if_neg hphase] at hfits
      exact keeps_reconcileReward h hfault hget (phase_of_due hdue hphase)
        (waitingDelivery_none hdelivery record (List.mem_of_getElem? hget)) hfits
  · exact keeps_promptOperator h hfault

theorem keeps_acknowledgeDelivery {commitmentValue : String} {delivered : Bool}
    (h : r.Synced policy) (hfault : fault = none) :
    Keeps policy (acknowledgeDelivery policy fault commitmentValue delivered now) r := by
  unfold acknowledgeDelivery
  refine keeps_get_bind ?_
  subst hfault
  have hpersist : Keeps policy (persist policy none now) r :=
    Surely.keeps ⟨(), _, exec_persist h.valid, synced_committed (w := .stamp now) h.valid.stamp⟩
  by_cases hprompt : isCommitted commitmentValue r.state.pendingOperatorPrompt = true
  · rw [if_pos hprompt]
    cases delivered with
    | false => exact hpersist
    | true =>
      refine keeps_save ?_ rfl
      exact { h.valid with
        variant := nextVariant_lt _
        prompt := nofun }
  · rw [if_neg hprompt]
    split
    · exact keeps_pure _ h
    · rename_i index record hposition
      obtain ⟨hget, hcommitted⟩ := position_eq_some hposition
      cases delivered with
      | false => exact hpersist
      | true =>
        refine keeps_save (h.valid.change_same hget ?_ ?_) rfl
        · refine ReferralRecord.valid_delivered (h.valid.records record (List.mem_of_getElem? hget))
            fun hnone => ?_
          rw [hnone] at hcommitted
          cases hcommitted
        · unfold ReferralRecord.delivered
          split <;> exact ⟨rfl, rfl⟩

theorem keeps_noteReferralLinkSent (h : r.Synced policy) (hfault : fault = none) :
    Keeps policy (noteReferralLinkSent policy fault now) r :=
  keeps_save { h.valid with } hfault

end Contacts

/-- A whole call keeps memory and disk together, and does nothing when it fails. -/
theorem keeps_run {r : Runtime} {faults : Faults} {request : Request} (h : r.Synced policy)
    (hwhole : request.Whole policy faults r.state) :
    Keeps policy (request.run policy faults) r := by
  cases request with
  | markContact inboxId address now =>
    exact keeps_discard (keeps_markContact h hwhole.1.1 hwhole.2)
  | handleControl inboxId sender text now =>
    exact keeps_discard (keeps_handleControl h hwhole.1.1 hwhole.2)
  | registerOperator inboxId address now => exact keeps_registerOperator h
  | markOnboardingComplete inboxId address now =>
    exact keeps_discard (keeps_markOnboardingComplete h hwhole.1 hwhole.2)
  | noteBrandingState inboxId acolyte state observedAt =>
    exact keeps_discard (keeps_noteBrandingState h hwhole.1 hwhole.2)
  | reminderPreferences arguments now =>
    exact keeps_discard (keeps_lift_bind fun preference _ => keeps_bind_pure keeps_writeOrRestore)
  | deferDue now => exact keeps_deferDue h hwhole.1.1 hwhole.2
  | maintainOne reply branded now =>
    exact keeps_discard (keeps_maintainOne h hwhole.1.1 hwhole.2)
  | acknowledgeDelivery commitmentValue delivered now => exact keeps_acknowledgeDelivery h hwhole.1
  | noteReferralLinkSent now => exact keeps_noteReferralLinkSent h hwhole.1
  | operatorStatus operatorAddress branded now =>
    exact keeps_discard (keeps_get_bind (keeps_bind_pure (keeps_noteReferralLinkSent h hwhole.1)))
  | recordBrandingAttempt outcome now => exact keeps_writeOrRestore

/-! ## Runs -/

/-- The call of an event is whole. -/
def Event.Whole (w : World) : Event → Prop
  | .call request faults => request.Whole w.policy faults w.runtime.state
  | _ => True

/-- A call that keeps memory and disk together leaves them together, whether it returns or not. -/
theorem Keeps.after {x : Op Unit} {r : Runtime} (h : Keeps policy x r) (hr : r.Synced policy) :
    (x.after r).Synced policy := by
  unfold Fallible.after
  rcases hx : x.exec r with ⟨error | a, r'⟩
  · obtain ⟨hstate, hdisk⟩ := h.2 error r' hx
    exact ⟨hstate ▸ hr.valid, by rw [hstate, hdisk, hr.saved]⟩
  · exact h.1 a r' hx

variable {reopening : Reopening}

theorem valid_load {disk s : GrowthSnapshot}
    (h : load reopening.policy reopening.fault disk reopening.now = .ok s) :
    s.Valid reopening.policy := by
  unfold load at h
  simp only [except_check_ok] at h
  obtain ⟨hvalid, h⟩ := h
  split_ifs at h
  · simp only [except_check_ok] at h
    obtain ⟨hstamped, h⟩ := h
    cases hfault : reopening.fault with
    | some error =>
      rw [hfault] at h
      cases h
    | none =>
      rw [hfault] at h
      obtain rfl := except_pure_ok.mp h
      exact validateSnapshot_ok.mp hstamped
  · obtain rfl := except_pure_ok.mp h
    exact validateSnapshot_ok.mp hvalid

theorem synced_reopened {w : World} (h : w.CanReopen reopening) :
    (w.reopened reopening).runtime.Synced (w.reopened reopening).policy := by
  unfold World.CanReopen at h
  unfold World.reopened
  cases hload : load reopening.policy reopening.fault w.runtime.disk reopening.now with
  | error error =>
    rw [hload] at h
    cases h
  | ok s => exact ⟨valid_load hload, rfl⟩

theorem valid_new (policy : Policy) (now : ℕ) : (GrowthSnapshot.new now).Valid policy where
  version := rfl
  room := (Nat.zero_le maxRecords)
  operatorRoom := (Nat.zero_le maxOperators)
  variant := Nat.zero_lt_succ 2
  current := nofun
  prompt := nofun
  operators := fun _ h => absurd h List.not_mem_nil
  operatorsApart := .nil
  records := fun _ h => absurd h List.not_mem_nil
  apart := .nil

/-- In a run of whole calls, with crashes and restarts, memory and disk are together. -/
theorem synced_reachable {now : ℕ} {w : World}
    (h : ((machine policy now).restrict Event.Whole).Reachable w) : w.runtime.Synced w.policy := by
  refine h.invariant (P := fun w => w.runtime.Synced w.policy) ⟨valid_new policy now, rfl⟩ ?_
  rintro w event - hw ⟨hallowed, hwhole⟩
  cases event with
  | call request faults => exact (keeps_run hw hwhole).after hw
  | crash request faults reopening => exact synced_reopened hallowed
  | restart reopening => exact synced_reopened hallowed

end Calls

/-! ## An acolyte in the inbox of its referrer -/

def sampleText (c : Char) (n : ℕ) : String :=
  String.ofList (List.replicate n c)

@[reducible] def sampleHashing : Hashing :=
  ⟨fun _ => 0⟩

def samplePolicy : Policy where
  minter := 1
  rewardAmountBaseUnits := "1000000000000000000"
  publicOrigin := "https://cthuwu.app"
  minter_ne := by decide
  reward_valid := by decide
  origin_short := by decide

def sampleFaults : Faults :=
  ⟨none, none⟩

def sampleReferrer : Address := 2

def sampleAcolyte : Address := 3

attribute [local instance] sampleHashing

def sampleRegistration : Event :=
  .call (.registerOperator (sampleText 'a' 64) (addressText sampleReferrer) 1) sampleFaults

def sampleControl : Event :=
  .call (.handleControl (sampleText 'b' 64) (some (addressText sampleAcolyte))
    (referralControlStart ++ "referrer=" ++ addressText sampleReferrer ++ "]]") 2) sampleFaults

def sampleRegistered : World :=
  (World.open samplePolicy 0).next sampleRegistration

def sampleWorld : World :=
  sampleRegistered.next sampleControl

/-- The acolyte completes its onboarding from the inbox of the operator. -/
def sampleCompletion : Request :=
  .markOnboardingComplete (sampleText 'a' 64) (addressText sampleAcolyte) 3

theorem sampleWorld_policy : sampleWorld.policy = samplePolicy := rfl

theorem sampleCompletion_run :
    ((sampleCompletion.run samplePolicy sampleFaults).exec sampleWorld.runtime).1 =
        .error "persisted referral resolves to the acolyte inbox" ∧
      ((sampleCompletion.run samplePolicy sampleFaults).after sampleWorld.runtime).state.records.map
        (·.phase) = [.onboardingComplete] ∧
      ((sampleCompletion.run samplePolicy sampleFaults).after sampleWorld.runtime).disk =
        sampleWorld.runtime.disk ∧
      sampleWorld.runtime.state.records.map (·.phase) = [.attributed] ∧
      sampleRegistered.runtime.state.records = [] := by
  decide +kernel

theorem sampleWorld_whole :
    ((machine samplePolicy 0).restrict Event.Whole).Reachable sampleWorld := by
  have hregistered : ((machine samplePolicy 0).restrict Event.Whole).Reachable sampleRegistered :=
    Machine.Reachable.init.next (l := sampleRegistration) ⟨trivial, trivial⟩
  refine hregistered.next (l := sampleControl) ⟨trivial, ⟨rfl, rfl⟩, ?_⟩
  intro _ _ _ _ _ record _ _ _ _ _ hrecord
  have hmem : record ∈ sampleRegistered.runtime.state.records := List.mem_of_find?_eq_some hrecord
  rw [sampleCompletion_run.2.2.2.2] at hmem
  exact absurd hmem List.not_mem_nil

end Cthuwu.Growth
