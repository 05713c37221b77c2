import Cthuwu.Operators.World

/-!
# The authority of an operator

At most one inbox is active once that holds, an inbox becomes the operator by being first only
once, and the messages of an operator carry authority only when they are sent after its last
authorization. `sole_authority` says so of every run over any file.
-/

namespace Cthuwu.Operators

open Council

section

variable [Encoding] {xmtpEnvironment : String} {world : World} {store : OperatorStore}
  {storage : Storage} {clock : Clock} {request : Request}

/-! ## One operator -/

/-- At most one inbox is active, and will be. -/
structure World.Settled (xmtpEnvironment : String) (world : World) : Prop where
  store : ∀ store, world.store = some store → SoleActive store.operators
  kept : world.Kept xmtpEnvironment
  file : SoleActive (recordsOf world.file)

variable {node : Node} {answer : OperatorImprint}

theorem Ran.soleActive {outcome : Except String Response × Node}
    (hran : Ran storage clock request node outcome) (h : SoleActive node.store.operators) :
    SoleActive outcome.2.store.operators := by
  cases hran with
  | failed error => exact h
  | kept hresponse => exact h
  | changed hchange hfile => exact hchange.soleActive h
  | unconfirmed hstorage hchange hfile => exact h

theorem settled_next (hsound : world.Sound xmtpEnvironment) (h : world.Settled xmtpEnvironment)
    (event : Event) : (world.next xmtpEnvironment event).Settled xmtpEnvironment := by
  cases event with
  | request request storage clock =>
    unfold World.next
    cases hstore : world.store with
    | none => exact h
    | some store =>
      have hholds := hsound.store store hstore
      have hran : Ran storage clock request { store := store, file := world.file }
        (world.ask store request storage clock) := ran_run hholds.accounts.valid
      have hnext := hholds.ran hran
      have hsole := hran.soleActive (h.store store hstore)
      exact ⟨fun store' hstore' => Option.some.inj hstore' ▸ hsole, hnext.kept, hnext.sole hsole⟩
  | openStore storage clock =>
    unfold World.next
    cases hopen : (openStore xmtpEnvironment storage clock).exec world.file with
    | mk result file' =>
      have hsame := openStore_saved storage clock h.kept.saved
      rw [hopen] at hsame
      obtain rfl : file' = world.file := hsame
      simp only [hopen, if_true]
      cases result with
      | error e => exact ⟨nofun, ⟨h.kept.saved, h.kept.accounts⟩, h.file⟩
      | ok store =>
        obtain ⟨rfl, -, -⟩ := openStore_ok hopen
        exact ⟨fun store hstore => Option.some.inj hstore ▸ h.file,
          ⟨h.kept.saved, h.kept.accounts.hold fun r hr => .inl hr⟩, h.file⟩
  | crash => exact ⟨nofun, ⟨h.kept.saved, h.kept.accounts⟩, h.file⟩

theorem settled_run (hsound : world.Sound xmtpEnvironment) (h : world.Settled xmtpEnvironment)
    (events : List Event) : (world.run xmtpEnvironment events).Settled xmtpEnvironment := by
  induction events generalizing world with
  | nil => exact h
  | cons event events ih => exact ih (sound_next hsound event) (settled_next hsound h event)

theorem roleForMessage_ok {operators : List OperatorRecord} {sender sentAt : String}
    {role : PrincipalRole} (h : roleForMessage operators sender sentAt = .ok role) :
    hasActiveConflict operators = false ∧ ∃ inboxId sent, normalizeInboxId sender = .ok inboxId ∧
      parseSentAtNs sentAt = .ok sent ∧
      (role = .user → ∀ r ∈ operators, r.inboxId ≠ inboxId) ∧
      (role = .operator → ∃ r ∈ operators, r.inboxId = inboxId ∧ r.status = .active ∧
        ∃ boundary n, r.authorizedAfterSentAtNs = some boundary ∧
          parseSentAtNs boundary = .ok n ∧ n < sent) := by
  unfold roleForMessage at h
  simp only [except_bind_ok, exists_unit] at h
  obtain ⟨hsole, inboxId, hinbox, sent, hsent, h⟩ := h
  refine ⟨Bool.not_eq_true _ ▸ failIf_ok.mp hsole, inboxId, sent, hinbox, hsent, ?_⟩
  cases hfind : operators.find? fun operator => operator.inboxId = inboxId with
  | none =>
    rw [hfind] at h
    obtain rfl := except_pure_ok.mp h
    exact ⟨fun _ r hr heq => List.find?_eq_none.mp hfind r hr (decide_eq_true heq), by simp⟩
  | some operator =>
    have hmem := List.mem_of_find?_eq_some hfind
    have heq := List.find?_some hfind
    have heq : operator.inboxId = inboxId := of_decide_eq_true heq
    rw [hfind] at h
    dsimp only at h
    cases hstatus : operator.status with
    | pending =>
      rw [hstatus] at h
      obtain rfl := except_pure_ok.mp h
      exact ⟨by simp, by simp⟩
    | revoked =>
      rw [hstatus] at h
      obtain rfl := except_pure_ok.mp h
      exact ⟨by simp, by simp⟩
    | active =>
      rw [hstatus] at h
      simp only [except_bind_ok, okOr_ok, except_pure_ok] at h
      obtain ⟨boundary, hboundary, n, hn, rfl⟩ := h
      split_ifs with hlater
      · exact ⟨by simp, fun _ => ⟨operator, hmem, heq, hstatus, boundary, n, hboundary, hn, hlater⟩⟩
      · exact ⟨by simp, by simp⟩

/-! ## Authority -/

structure World.Safe (xmtpEnvironment : String) (world : World) (store : OperatorStore) :
    Prop where
  answered : ∀ sender sentAt role, roleForMessage store.operators sender sentAt = .ok role →
    hasActiveConflict store.operators = false
  operator : ∀ sender sentAt, roleForMessage store.operators sender sentAt = .ok .operator →
    ∃ inboxId boundary sent, normalizeInboxId sender = .ok inboxId ∧
      (∀ r ∈ store.operators, r.status = .active ↔ r.inboxId = inboxId) ∧
      latest world.grants inboxId = some boundary ∧ parseSentAtNs sentAt = .ok sent ∧
      boundary < sent
  remembered : ∀ r ∈ world.held, ∀ sender sentAt, normalizeInboxId sender = .ok r.inboxId →
    roleForMessage store.operators sender sentAt ≠ .ok .user
  generations : ∀ r ∈ world.held, ∃ r' ∈ store.operators, r'.inboxId = r.inboxId ∧
    r.generation ≤ r'.generation
  reopened : ∀ file, world.file = some file → ∀ clock,
    load xmtpEnvironment clock file = .ok (file.config.operators, false)

/-- What holds of a request and its answer. -/
structure World.Answers (world : World) (store : OperatorStore) (request : Request)
    (storage : Storage) (clock : Clock) (after : World) (result : Except String Response)
    (node : Node) : Prop where
  unambiguous : ∀ answer, result = .ok (.imprint answer) → hasActiveConflict store.operators = false
  imprint : ∀ answer, result = .ok (.imprint answer) → answer.imprintedAddress.isSome = true →
    world.held = [] ∧ world.imprints = 0
  authorized : ∀ response, result = .ok response → response.authorizes = true →
    ∃ inboxId boundary, request.grant clock = some (inboxId, boundary) ∧
      latest after.grants inboxId = some boundary ∧
      ∃ r' ∈ node.store.operators, r'.inboxId = inboxId ∧ r'.status = .active ∧
        ∀ r ∈ world.held, r.inboxId = inboxId → r.generation < r'.generation
  failed : ∀ e, result = .error e → node.store = store ∧
    ((∀ e, storage ≠ .unconfirmed e) → node.file = world.file)
  saved : node.store ≠ store → ∃ file, node.file = some file ∧
    file.config.operators = node.store.operators

theorem World.Holds.safe (h : world.Holds xmtpEnvironment store) :
    world.Safe xmtpEnvironment store :=
  { answered := fun sender sentAt role hrole => (roleForMessage_ok hrole).1
    operator := fun sender sentAt hrole => by
      obtain ⟨hsole, inboxId, sent, hinbox, hsent, -, hoperator⟩ := roleForMessage_ok hrole
      obtain ⟨r, hr, rfl, hactive, boundary, n, hboundary, hn, hlater⟩ := hoperator rfl
      obtain ⟨boundary', n', hboundary', hn', hlatest⟩ := h.accounts.latest r hr hactive
      rw [hboundary] at hboundary'
      obtain rfl := Option.some.inj hboundary'
      rw [hn] at hn'
      obtain rfl := Except.ok.inj hn'
      have hsole := (hasActiveConflict_eq_false h.accounts.valid).mp hsole
      refine ⟨r.inboxId, n, sent, hinbox, fun r' hr' => ⟨fun hactive' => ?_, fun heq => ?_⟩,
        hlatest, hsent, hlater⟩
      · exact hsole r' hr' r hr hactive' hactive
      · rw [h.accounts.valid.unique hr' hr heq]
        exact hactive
    remembered := fun r hr sender sentAt hsender hrole => by
      obtain ⟨r', hr', hinbox, -⟩ := h.accounts.covers r hr
      obtain ⟨-, inboxId, -, hinboxId, -, huser, -⟩ := roleForMessage_ok hrole
      rw [hsender] at hinboxId
      obtain rfl := Except.ok.inj hinboxId
      exact huser rfl r' hr' hinbox
    generations := h.accounts.covers
    reopened := h.kept.saved }

theorem classifyOrImprint_unambiguous {inboxId sentAtNs : String} {address : Option String}
    (h : ((classifyOrImprint storage inboxId address sentAtNs clock).exec node).1 = .ok answer) :
    hasActiveConflict node.store.operators = false := by
  unfold classifyOrImprint at h
  rw [Fallible.exec_get_bind, Fallible.exec_lift_bind] at h
  cases hrole : roleForMessage node.store.operators inboxId sentAtNs with
  | error e =>
    rw [hrole] at h
    cases h
  | ok role => exact (roleForMessage_ok hrole).1

/-- A classification is answered only while at most one inbox is active. -/
theorem unambiguous_of_imprint
    (h : ((request.run storage clock).exec node).1 = .ok (.imprint answer)) :
    hasActiveConflict node.store.operators = false := by
  cases request with
  | classifyOrImprint inboxId address sentAtNs =>
    simp only [Request.run, map_eq_pure_bind] at h
    rw [Fallible.exec_bind] at h
    cases hrun : (classifyOrImprint storage inboxId address sentAtNs clock).exec node with
    | mk result node' =>
      cases result with
      | error e =>
        rw [hrun] at h
        cases h
      | ok answer' => exact classifyOrImprint_unambiguous (congrArg Prod.fst hrun)
  | _ =>
    simp only [Request.run, map_eq_pure_bind] at h
    rw [Fallible.exec_bind] at h
    split at h <;> cases h

theorem World.Holds.answers (request : Request) (storage : Storage) (clock : Clock)
    (h : world.Holds xmtpEnvironment store) (himprinted : world.held = [] → world.imprints = 0) :
    world.Answers store request storage clock
      (world.answered store ((request.grant clock).toList ++ world.grants)
        (world.ask store request storage clock).1 (world.ask store request storage clock).2)
      (world.ask store request storage clock).1 (world.ask store request storage clock).2 := by
  have hran : Ran storage clock request { store := store, file := world.file }
    (world.ask store request storage clock) := ran_run h.accounts.valid
  have hunambiguous : ∀ answer, (world.ask store request storage clock).1 = .ok (.imprint answer) →
        hasActiveConflict store.operators = false := fun answer hanswer =>
    unambiguous_of_imprint hanswer
  have hfirst := h.first hran
  generalize world.ask store request storage clock = outcome at *
  refine
    { unambiguous := hunambiguous
      imprint := fun answer hanswer hsome => ?_
      authorized := fun response hresponse hauthorizes => ?_
      failed := fun e he => ?_
      saved := fun hstore => ?_ }
  · have hheld := (hfirst (by rw [hanswer]; simp [imprinted, hsome])).1
    exact ⟨hheld, himprinted hheld⟩
  · cases hran with
    | failed error => cases hresponse
    | unconfirmed hstorage hchange hfile => cases hresponse
    | kept hkept =>
      obtain rfl := Except.ok.inj hresponse
      rw [hkept] at hauthorizes
      cases hauthorizes
    | @changed response' operators file hchange hfile =>
      obtain rfl := Except.ok.inj hresponse
      cases hchange with
      | restricts hgrant hchange hrestricts =>
        rw [hrestricts] at hauthorizes
        cases hauthorizes
      | @authorizes authorized boundary hgrant hchange =>
        obtain ⟨r', hr', hinbox, hactive, hgeneration, -⟩ := hchange.current
        have hlater : ∀ r ∈ world.held, r.inboxId = authorized.inboxId →
            r.generation < r'.generation := fun r hr hsame => by
          obtain ⟨r₁, hr₁, hinbox₁, hgeneration₁⟩ := h.accounts.covers r hr
          rw [hgeneration]
          exact hgeneration₁.trans_lt (hchange.later r₁ hr₁ (hinbox₁.trans hsame))
        refine ⟨authorized.inboxId, boundary, hgrant, ?_, r', hr', hinbox, hactive, hlater⟩
        have hnew : ({ store with operators := operators } : OperatorStore) ≠ store :=
          fun heq => by
            have hsame : operators = store.operators := congrArg OperatorStore.operators heq
            exact lt_irrefl _ (hlater r' (h.held r' (hsame ▸ hr')) hinbox)
        change latest (if _ then _ else _) _ = _
        rw [if_neg hnew, hgrant]
        exact latest_cons_self
  · cases hran with
    | failed error => exact ⟨rfl, fun _ => rfl⟩
    | kept hkept => cases he
    | changed hchange hfile => cases he
    | @unconfirmed error response operators file hstorage hchange hfile =>
      exact ⟨rfl, fun hconfirmed => absurd hstorage (hconfirmed error)⟩
  · cases hran with
    | failed error => exact absurd rfl hstore
    | kept hkept => exact absurd rfl hstore
    | unconfirmed hstorage hchange hfile => exact absurd rfl hstore
    | @changed response operators file hchange hfile =>
      exact ⟨file, rfl, (saved_encodeRecords hchange.valid hfile).2⟩

end

end Cthuwu.Operators
