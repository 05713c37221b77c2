import Cthuwu.ChatControl.Limits

/-!
# Admission through the gate

A grant lets in at most one new enrollment (`World.Granted`) : one of the inbox and the address that
it was issued to. `liveness_admission` states this beside the limits of the queries, whatever the
senders do. A grant that runs out while its enrollment is being saved is dropped, not consumed.
-/

namespace Cthuwu.ChatControl

open TokenEye
open LivenessGate

variable {self : Tentacle} {world world' : World}

/-! ## One enrollment for a grant -/

/-- A grant has let in an enrollment of its own inbox and address, while it was live. -/
structure LetIn (tentacle : Tentacle) (issued : List Issue) (enrollment : Enrollment)
    (letInMs : ℤ) (issue : Issue) : Prop where
  issued : issue ∈ issued
  inboxId : issue.grant.senderInboxId = enrollment.inboxId
  address : issue.grant.senderAddress = enrollment.address
  agentId : issue.grant.tentacleAgentId = tentacle.agentId
  earlier : issue.atMs ≤ letInMs
  live : letInMs < issue.grant.expiresAtMs

/-- An enrollment that is being made for a grant. -/
structure Waits (tentacle : Tentacle) (world : World) (enrolling : Enrolling) (requestId : String)
    (issue : Issue) : Prop where
  is : enrolling.issue = some issue
  letIn : LetIn tentacle world.issued enrolling.enrollment enrolling.sinceMs issue
  requestId : issue.grant.livenessRequestId = requestId
  past : enrolling.sinceMs ≤ world.nowMs
  fresh : ∀ s ∈ world.spent, s.issue ≠ some issue

structure World.Granted (tentacle : Tentacle) (world : World) : Prop where
  current : ∀ key grant, world.gate.grants.get key = some grant →
    ∃ issue, world.lastIssue key = some issue ∧ issue.grant = grant
  numbers : ∀ issue ∈ world.issued, issue.number < world.issued.length
  distinct : world.issued.Pairwise fun later earlier => earlier.number < later.number
  past : ∀ issue ∈ world.issued, issue.atMs ≤ world.nowMs
  spent : ∀ s ∈ world.spent, ∃ issue, s.issue = some issue ∧
    LetIn tentacle world.issued s.enrollment s.letInMs issue ∧ s.letInMs ≤ s.savedMs
  once : (world.spent.map (·.issue)).Nodup
  gone : ∀ s ∈ world.spent, ∀ issue grant, s.issue = some issue →
    world.gate.grants.get issue.key = some grant → world.lastIssue issue.key ≠ some issue
  enrolling : ∀ enrolling requestId, world.enrolling = some enrolling →
    enrolling.consumes = some requestId → ∃ issue, Waits tentacle world enrolling requestId issue

theorem granted_start (self : Tentacle) (nowMs : ℤ) (enrollments : List Enrollment) :
    (World.start nowMs enrollments).Granted self :=
  { current := fun key grant hget => by
      unfold World.start LivenessGate.new at hget
      rw [HashMap.get_empty] at hget
      cases hget
    numbers := nofun
    distinct := .nil
    past := nofun
    spent := nofun
    once := .nil
    gone := nofun
    enrolling := nofun }

theorem LetIn.mono {issued issued' : List Issue} {enrollment : Enrollment} {letInMs : ℤ}
    {issue : Issue} (h : LetIn self issued enrollment letInMs issue)
    (hsub : ∀ issue ∈ issued, issue ∈ issued') :
    LetIn self issued' enrollment letInMs issue :=
  { h with issued := hsub issue h.issued }

theorem key_of_lastIssue {key : String} {issue : Issue} (h : world.lastIssue key = some issue) :
    issue ∈ world.issued ∧ issue.key = key := by
  have hkey := List.find?_some h
  exact ⟨List.mem_of_find?_eq_some h, of_decide_eq_true hkey⟩

/-- Without a new grant, and without an enrollment that comes or is saved, nothing changes but the
grants that are gone. -/
theorem World.Granted.keep (h : world.Granted self) (hissued : world'.issued = world.issued)
    (hspent : world'.spent = world.spent) (hnow : world.nowMs ≤ world'.nowMs)
    (hsub : world.gate.SubGrants world'.gate)
    (henrolling : ∀ enrolling, world'.enrolling = some enrolling →
      world.enrolling = some enrolling) : world'.Granted self := by
  have hlast : ∀ key, world'.lastIssue key = world.lastIssue key := fun key => by
    unfold World.lastIssue
    rw [hissued]
  exact
    { current := fun key grant hget => by
        rw [hlast]
        exact h.current key grant (hsub key grant hget)
      numbers := hissued ▸ h.numbers
      distinct := hissued ▸ h.distinct
      past := fun issue hissue => (h.past issue (hissued ▸ hissue)).trans hnow
      spent := by
        rw [hspent, hissued]
        exact h.spent
      once := hspent ▸ h.once
      gone := fun s hs issue grant his hget => by
        rw [hlast]
        exact h.gone s (hspent ▸ hs) issue grant his (hsub _ grant hget)
      enrolling := fun enrolling requestId hmade hconsumes => by
        obtain ⟨issue, hwaits⟩ := h.enrolling enrolling requestId (henrolling enrolling hmade)
          hconsumes
        exact ⟨issue, hwaits.is, hissued ▸ hwaits.letIn, hwaits.requestId,
          hwaits.past.trans hnow, hspent ▸ hwaits.fresh⟩ }

theorem granted_receive (h : world.Granted self) (localAgentId : Option String)
    (senderInboxId : String) (query : LivenessQuery) :
    (world.receive localAgentId senderInboxId query).Granted self := by
  unfold World.receive
  cases localAgentId with
  | none => exact h
  | some tentacleAgentId =>
    dsimp only
    split_ifs with htarget
    · exact h
    obtain ⟨hlet, hadmits⟩ | ⟨hlet, haway⟩ := admitQuery_cases world.nowMs
      senderInboxId query world.gate
    · rw [hlet]
      refine h.keep rfl rfl le_rfl ?_ fun _ => id
      intro key grant hget
      dsimp only at hget
      rw [hadmits.grants] at hget
      exact subGrants_prune key grant hget
    · rw [hlet]
      refine h.keep rfl rfl le_rfl ?_ fun _ => id
      intro key grant hget
      dsimp only at hget
      rcases haway.same with hsame | hsame
      · rwa [hsame.grants] at hget
      · rw [hsame.grants] at hget
        exact subGrants_prune key grant hget

theorem granted_issue (h : world.Granted self) {probe : Probe} {senderAddress : Address}
    {gate' : LivenessGate} (hissues : LivenessGate.Issues world.nowMs probe.senderInboxId
      senderAddress probe.query probe.tentacleAgentId world.gate gate')
    (answers : List (String × String)) (probes : List Probe) :
    { world with
      gate := gate'
      probes := probes
      answers := answers
      issued :=
        { number := world.issued.length
          grant := .of world.nowMs probe.senderInboxId senderAddress probe.query
            probe.tentacleAgentId
          atMs := world.nowMs } :: world.issued }.Granted self := by
  have hfresh : ∀ issue ∈ world.issued, issue.number ≠ world.issued.length :=
    fun issue hissue => (h.numbers issue hissue).ne
  have hlast : ∀ key, World.lastIssue
      { world with
        gate := gate'
        probes := probes
        answers := answers
        issued :=
          { number := world.issued.length
            grant := .of world.nowMs probe.senderInboxId senderAddress probe.query
              probe.tentacleAgentId
            atMs := world.nowMs } :: world.issued } key =
      if LivenessGate.key probe.senderInboxId probe.query.requestId = key then
        some
          { number := world.issued.length
            grant := .of world.nowMs probe.senderInboxId senderAddress probe.query
              probe.tentacleAgentId
            atMs := world.nowMs }
      else world.lastIssue key := fun key => by
    unfold World.lastIssue
    rw [List.find?_cons]
    unfold Issue.key LivenessGrant.of
    dsimp only
    split_ifs with hkey
    · rw [decide_eq_true hkey]
    · rw [decide_eq_false hkey]
  refine
    { current := fun key grant hget => ?_
      numbers := fun issue hissue => ?_
      distinct := List.pairwise_cons.mpr ⟨h.numbers, h.distinct⟩
      past := fun issue hissue => ?_
      spent := fun s hs => ?_
      once := h.once
      gone := fun s hs issue grant his hget => ?_
      enrolling := fun enrolling requestId hmade hconsumes => ?_ }
  · rw [hlast]
    dsimp only at hget
    rw [hissues.grants, HashMap.get_insert_apply] at hget
    split_ifs at hget with hkey
    · rw [if_pos hkey.symm]
      exact ⟨_, rfl, Option.some.inj hget⟩
    · rw [if_neg (Ne.symm hkey)]
      exact h.current key grant (subGrants_prune key grant hget)
  · rw [List.length_cons]
    rcases List.mem_cons.mp hissue with rfl | hissue
    · exact Nat.lt_succ_self _
    · exact (h.numbers issue hissue).trans (Nat.lt_succ_self _)
  · rcases List.mem_cons.mp hissue with rfl | hissue
    · exact le_rfl
    · exact h.past issue hissue
  · obtain ⟨issue, his, hletIn, hsaved⟩ := h.spent s hs
    exact ⟨issue, his, hletIn.mono fun _ => List.mem_cons_of_mem _, hsaved⟩
  · rw [hlast]
    obtain ⟨issue', his', hletIn, -⟩ := h.spent s hs
    obtain rfl := Option.some.inj (his.symm.trans his')
    split_ifs with hkey
    · intro hsame
      exact hfresh issue hletIn.issued (congrArg Issue.number (Option.some.inj hsame)).symm
    · dsimp only at hget
      rw [hissues.grants, HashMap.get_insert_ne (Ne.symm hkey)] at hget
      exact h.gone s hs issue grant his (subGrants_prune _ grant hget)
  · obtain ⟨issue, hwaits⟩ := h.enrolling enrolling requestId hmade hconsumes
    exact ⟨issue, hwaits.is, hwaits.letIn.mono fun _ => List.mem_cons_of_mem _,
      hwaits.requestId, hwaits.past, hwaits.fresh⟩

theorem granted_resolve (h : world.Granted self) (index : ℕ) (senderAddress : Option Address) :
    (world.resolve index senderAddress).Granted self := by
  unfold World.resolve
  cases world.probes[index]? with
  | none => exact h
  | some probe =>
    cases senderAddress with
    | none => exact h.keep rfl rfl le_rfl (fun _ _ => id) fun _ => id
    | some senderAddress =>
      dsimp only
      obtain hissue | ⟨gate', hissue, hissues⟩ := issueGrant_cases world.nowMs
        probe.senderInboxId senderAddress probe.query probe.tentacleAgentId world.gate
      · rw [hissue]
        exact h.keep rfl rfl le_rfl subGrants_prune fun _ => id
      · rw [hissue]
        exact granted_issue h hissues _ _

theorem granted_answer (h : world.Granted self) (index : ℕ) (sent : Bool) :
    (world.answer index sent).Granted self := by
  unfold World.answer
  cases world.answers[index]? with
  | none => exact h
  | some answer =>
    dsimp only
    split_ifs
    · exact h.keep rfl rfl le_rfl (fun _ _ => id) fun _ => id
    · exact h.keep rfl rfl le_rfl (fun _ _ hget => (get_erase hget).2) fun _ => id

theorem granted_join (h : world.Granted self) (join : JoinControl) (senderInboxId : String)
    (senderAddress : Address) (resolution : AssignmentResolution) :
    (world.join self join senderInboxId senderAddress resolution).Granted self := by
  unfold World.join
  split_ifs with hbusy
  · exact h
  have hidle : world.enrolling = none := by
    rw [not_or, Bool.not_eq_true, Option.isSome_eq_false_iff, Option.isNone_iff_eq_none] at hbusy
    exact hbusy.1
  cases self.assigned resolution with
  | none => exact h
  | some assigned =>
    dsimp only
    cases hletIn : self.letIn world.nowMs join senderInboxId senderAddress assigned.2
        world.enrollments (some world.gate) with
    | mk admitted gate' =>
      obtain ⟨hgate, hhas⟩ := letIn_spec hletIn
      have hsub : world.gate.SubGrants (gate'.getD world.gate) := by
        rcases hgate with rfl | rfl
        · exact fun _ _ => id
        · exact subGrants_prune
      have hnext : { world with gate := gate'.getD world.gate }.Granted self :=
        h.keep rfl rfl le_rfl hsub fun _ => id
      cases admitted with
      | none => exact hnext
      | some consumes =>
        refine { hnext with enrolling := fun enrolling requestId hmade hconsumes => ?_ }
        obtain rfl := Option.some.inj hmade
        dsimp only at hconsumes
        obtain rfl := hconsumes
        obtain ⟨grant, hget, hallows⟩ := LivenessGate.hasGrant_true.mp (hhas requestId rfl)
        obtain ⟨hlive, hinbox, haddress, hrequest, hagent⟩ := LivenessGate.allows_iff.mp hallows
        obtain ⟨issue, hlast, rfl⟩ := h.current _ grant hget
        obtain ⟨hmem, hkey⟩ := key_of_lastIssue hlast
        refine ⟨issue, hlast, ⟨hmem, hinbox, haddress, hagent, h.past issue hmem, hlive⟩,
          hrequest, le_rfl, fun s hs his => ?_⟩
        exact h.gone s hs issue issue.grant his (hkey ▸ hget) (hkey ▸ hlast)

theorem granted_enroll (h : world.Granted self) (saved : Bool) :
    (world.enroll self saved).Granted self := by
  unfold World.enroll
  cases hmade : world.enrolling with
  | none => exact h
  | some enrolling =>
    by_cases hsaved : saved = true
    · simp only [hsaved, not_true, if_false]
      cases hconsumes : enrolling.consumes with
      | none => exact h.keep rfl rfl le_rfl (fun _ _ => id) nofun
      | some requestId =>
        obtain ⟨issue, hwaits⟩ := h.enrolling enrolling requestId hmade hconsumes
        have hconsumed := consumeGrant_consumes world.nowMs
          { senderInboxId := enrolling.enrollment.inboxId
            senderAddress := enrolling.enrollment.address
            livenessRequestId := requestId
            tentacleAgentId := self.agentId } world.gate
        dsimp only
        generalize world.gate.consumeGrant world.nowMs _ = consumed at hconsumed ⊢
        have hbase : { world with gate := consumed.2, enrolling := none }.Granted self :=
          h.keep rfl rfl le_rfl hconsumed.sub nofun
        refine
          { hbase with
            spent := fun s hs => ?_
            once := ?_
            gone := fun s hs issue' grant his hget => ?_
            enrolling := nofun }
        · rcases List.mem_append.mp hs with hs | hs
          · exact h.spent s hs
          · obtain rfl := List.mem_singleton.mp hs
            exact ⟨issue, hwaits.is, hwaits.letIn, hwaits.past⟩
        · dsimp only
          rw [List.map_append, List.map_singleton, List.nodup_append]
          refine ⟨h.once, List.nodup_singleton _, ?_⟩
          rintro _ ha _ hb rfl
          obtain ⟨s, hs, his⟩ := List.mem_map.mp ha
          rw [List.mem_singleton.mp hb, hwaits.is] at his
          exact hwaits.fresh s hs his
        · rcases List.mem_append.mp hs with hs | hs
          · exact hbase.gone s hs issue' grant his hget
          · obtain rfl := List.mem_singleton.mp hs
            obtain rfl := Option.some.inj (hwaits.is.symm.trans his)
            intro hlast
            obtain ⟨last, hlast', hgrant⟩ := hbase.current _ grant hget
            obtain rfl := Option.some.inj (hlast.symm.trans hlast')
            have hkey : issue.key = LivenessGate.key enrolling.enrollment.inboxId requestId := by
              unfold Issue.key
              rw [hwaits.letIn.inboxId, hwaits.requestId]
            have hrefused := hconsumed.gone grant (hkey ▸ hget)
            rw [← hgrant, LivenessGate.allows_iff.mpr ⟨hgrant ▸ hconsumed.live _ _ hget,
              hwaits.letIn.inboxId, hwaits.letIn.address, hwaits.requestId,
              hwaits.letIn.agentId⟩] at hrefused
            cases hrefused
    · simp only [hsaved]
      exact h.keep rfl rfl le_rfl (fun _ _ => id) nofun

theorem granted_next (h : world.Granted self) (event : ℕ × Event) :
    (world.next self event).Granted self := by
  have h : { world with nowMs := world.nowMs + event.1 }.Granted self :=
    h.keep rfl rfl (by dsimp only; omega) (fun _ _ => id) fun _ => id
  obtain ⟨elapsed, event⟩ := event
  unfold World.next World.perform
  cases event with
  | query localAgentId senderInboxId query => exact granted_receive h ..
  | resolved probe senderAddress => exact granted_resolve h ..
  | answered answer sent => exact granted_answer h ..
  | join join senderInboxId senderAddress resolution => exact granted_join h ..
  | enrolled saved => exact granted_enroll h saved
  | swept enrollments =>
    dsimp only
    split_ifs
    · exact h
    · exact h.keep rfl rfl le_rfl (fun _ _ => id) fun _ => id

theorem granted_run (h : world.Granted self) (events : List (ℕ × Event)) :
    (world.run self events).Granted self := by
  induction events generalizing world with
  | nil => exact h
  | cons event events ih => exact ih (granted_next h event)

/-! ## The gate -/

structure World.Guarded (tentacle : Tentacle) (world : World) : Prop where
  all : WindowBounded livenessWindowMs livenessGlobalPerWindow (times world.admissions)
  perSender : ∀ sender, WindowBounded livenessWindowMs livenessPerSenderPerWindow
    (times (bySender sender world.admissions))
  once : world.admissions.Pairwise fun a b => a.senderInboxId = b.senderInboxId →
    a.requestId = b.requestId → (a.expiresAtNs : ℤ) ≤ b.atMs * 1000000
  letIn : ∀ s ∈ world.spent, ∃ issue, s.issue = some issue ∧
    LetIn tentacle world.issued s.enrollment s.letInMs issue ∧ s.letInMs ≤ s.savedMs
  spentOnce : (world.spent.map (·.issue)).Nodup
  gone : ∀ s ∈ world.spent, ∀ issue grant, s.issue = some issue →
    world.gate.grants.get issue.key = some grant → world.lastIssue issue.key ≠ some issue
  bounded : world.gate.Bounded

/-- In every run the gate admits few queries, each sender's under an identifier again only after
the deadline. Each new enrollment through a grant was let in by its own grant, one that was issued
to its inbox and address and was live; when the enrollment is saved that grant is gone. -/
theorem liveness_admission (tentacle : Tentacle) (nowMs : ℤ) (enrollments : List Enrollment)
    (events : List (ℕ × Event)) :
    ((World.start nowMs enrollments).run tentacle events).Guarded tentacle := by
  have hlimited : ((World.start nowMs enrollments).run tentacle events).Limited :=
    limited_run (limited_start nowMs enrollments) events
  have hgranted := granted_run (granted_start tentacle nowMs enrollments) events
  exact
    { all := hlimited.all
      perSender := hlimited.perSender
      once := hlimited.once
      letIn := hgranted.spent
      spentOnce := hgranted.once
      gone := hgranted.gone
      bounded := hlimited.bounded }

def sampleTentacle : Tentacle :=
  { inboxId := "bb"
    agentId := "7" }

def sampleSender : String :=
  "aaaaaaaaaaaaaaaaaaaaaaaaaaaaaaaaaaaaaaaaaaaaaaaaaaaaaaaaaaaaaaaa"

/-- A sender asks, is answered and joins; saving its enrollment takes a minute. -/
def sampleEvents : List (ℕ × Event) :=
  [(0, .query (some "7") sampleSender
      { requestId := "1"
        expiresAtNs := 60000000000
        targetAgentId := "7" }),
   (0, .resolved 0 (some 1)),
   (0, .answered 0 true),
   (0, .join (.livenessJoin "2" "1") sampleSender 1 (.assignedHere "0" "7" "bb" .liveness)),
   (60000, .enrolled true)]

/-- An enrollment that takes longer than its grant has left is saved and consumes no grant. -/
theorem late_enrollment_consumes_nothing :
    ¬∀ (tentacle : Tentacle) (nowMs : ℤ) (enrollments : List Enrollment)
      (events : List (ℕ × Event)),
      ∀ s ∈ ((World.start nowMs enrollments).run tentacle events).spent, s.consumed = true := by
  intro h
  have hspent : ((World.start 0 []).run sampleTentacle sampleEvents).spent.map (·.consumed) =
      [false] := by decide
  have hfalse : false ∈ ((World.start 0 []).run sampleTentacle sampleEvents).spent.map
      (·.consumed) := hspent ▸ List.mem_singleton_self false
  obtain ⟨s, hs, hconsumed⟩ := List.mem_map.mp hfalse
  rw [h sampleTentacle 0 [] sampleEvents s hs] at hconsumed
  cases hconsumed

end Cthuwu.ChatControl
