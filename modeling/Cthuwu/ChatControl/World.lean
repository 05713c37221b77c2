import Cthuwu.ChatControl.Windows

/-!
# Runs of a Tentacle that is asked whether it is alive

Queries arrive from any sender. An admitted one waits until its sender's address is known, then for
its answer to be sent. Joins are let in one at a time, each while queries come and go, and are saved
or not. Time passes as it likes between any two of these.
-/

namespace Cthuwu.ChatControl

open TokenEye

/-- An admitted query whose sender's address is looked up. -/
structure Probe where
  senderInboxId : String
  query : LivenessQuery
  tentacleAgentId : String

/-- A grant that was issued, numbered in the order of issue. -/
structure Issue where
  number : ℕ
  grant : LivenessGrant
  atMs : ℤ

def Issue.key (issue : Issue) : String :=
  LivenessGate.key issue.grant.senderInboxId issue.grant.livenessRequestId

/-- A join that was let in and is not saved yet, with the grant that let it in if one did. -/
structure Enrolling where
  enrollment : Enrollment
  consumes : Option String
  issue : Option Issue
  sinceMs : ℤ

/-- A new enrollment that a grant has let in, and whether it consumed one when it was saved. -/
structure Spent where
  enrollment : Enrollment
  issue : Option Issue
  letInMs : ℤ
  savedMs : ℤ
  consumed : Bool

structure World where
  nowMs : ℤ
  gate : LivenessGate
  probes : List Probe
  answers : List (String × String)
  enrolling : Option Enrolling
  enrollments : List Enrollment
  /-- The queries admitted, in order. -/
  admissions : List Admission
  /-- The grants issued, the last one first. -/
  issued : List Issue
  spent : List Spent

def World.start (nowMs : ℤ) (enrollments : List Enrollment) : World :=
  { nowMs := nowMs
    gate := .new
    probes := []
    answers := []
    enrolling := none
    enrollments := enrollments
    admissions := []
    issued := []
    spent := [] }

inductive Event
  | query (localAgentId : Option String) (senderInboxId : String) (query : LivenessQuery)
  /-- The address of a sender is known, or is not found. -/
  | resolved (probe : ℕ) (senderAddress : Option Address)
  /-- An answer is sent, or is not. -/
  | answered (answer : ℕ) (sent : Bool)
  | join (join : JoinControl) (senderInboxId : String) (senderAddress : Address)
    (resolution : AssignmentResolution)
  /-- The enrollment that is being made is saved, or fails. -/
  | enrolled (saved : Bool)
  /-- The enrollments are swept. -/
  | swept (enrollments : List Enrollment)

variable (self : Tentacle) (world : World)

def World.lastIssue (key : String) : Option Issue :=
  world.issued.find? (·.key = key)

def World.receive (localAgentId : Option String) (senderInboxId : String)
    (query : LivenessQuery) : World :=
  match localAgentId with
  | none => world
  | some tentacleAgentId =>
    if query.targetAgentId ≠ tentacleAgentId then world
    else
      match world.gate.admitQuery world.nowMs senderInboxId query with
      | (false, gate) => { world with gate := gate }
      | (true, gate) =>
        { world with
          gate := gate
          probes := world.probes ++ [⟨senderInboxId, query, tentacleAgentId⟩]
          admissions := world.admissions ++
            [{ senderInboxId := senderInboxId
               requestId := query.requestId
               expiresAtNs := query.expiresAtNs
               atMs := world.nowMs }] }

def World.resolve (index : ℕ) (senderAddress : Option Address) : World :=
  match world.probes[index]? with
  | none => world
  | some probe =>
    let world := { world with probes := world.probes.eraseIdx index }
    match senderAddress with
    | none => world
    | some senderAddress =>
      match world.gate.issueGrant world.nowMs probe.senderInboxId senderAddress probe.query
          probe.tentacleAgentId with
      | (false, gate) => { world with gate := gate }
      | (true, gate) =>
        { world with
          gate := gate
          answers := world.answers ++ [(probe.senderInboxId, probe.query.requestId)]
          issued :=
            { number := world.issued.length
              grant := .of world.nowMs probe.senderInboxId senderAddress probe.query
                probe.tentacleAgentId
              atMs := world.nowMs } :: world.issued }

def World.answer (index : ℕ) (sent : Bool) : World :=
  match world.answers[index]? with
  | none => world
  | some (senderInboxId, requestId) =>
    let world := { world with answers := world.answers.eraseIdx index }
    if sent = true then world
    else { world with gate := world.gate.revokeGrant senderInboxId requestId }

/-- `enroll`, up to its first change. Another enrollment that is being made is waited for. -/
def World.join (self : Tentacle) (world : World) (join : JoinControl) (senderInboxId : String)
    (senderAddress : Address) (resolution : AssignmentResolution) : World :=
  if world.enrolling.isSome = true ∨ ¬isCanonicalId senderInboxId = true then world
  else
    match self.assigned resolution with
    | none => world
    | some (revision, kind) =>
      let (admitted, gate) := self.letIn world.nowMs join senderInboxId senderAddress kind
        world.enrollments (some world.gate)
      let world := { world with gate := gate.getD world.gate }
      match admitted with
      | none => world
      | some consumes =>
        { world with
          enrolling := some
            { enrollment := ⟨senderInboxId, senderAddress, revision⟩
              consumes := consumes
              issue := consumes.bind fun requestId =>
                world.lastIssue (LivenessGate.key senderInboxId requestId)
              sinceMs := world.nowMs } }

/-- The end of `enroll`. -/
def World.enroll (saved : Bool) : World :=
  match world.enrolling with
  | none => world
  | some enrolling =>
    let world := { world with enrolling := none }
    if ¬saved = true then world
    else
      let world :=
        { world with enrollments := ChatControl.enrolled world.enrollments enrolling.enrollment }
      match enrolling.consumes with
      | none => world
      | some requestId =>
        let (consumed, gate) := world.gate.consumeGrant world.nowMs
          { senderInboxId := enrolling.enrollment.inboxId
            senderAddress := enrolling.enrollment.address
            livenessRequestId := requestId
            tentacleAgentId := self.agentId }
        { world with
          gate := gate
          spent := world.spent ++
            [{ enrollment := enrolling.enrollment
               issue := enrolling.issue
               letInMs := enrolling.sinceMs
               savedMs := world.nowMs
               consumed := consumed }] }

def World.perform : Event → World
  | .query localAgentId senderInboxId query => world.receive localAgentId senderInboxId query
  | .resolved probe senderAddress => world.resolve probe senderAddress
  | .answered answer sent => world.answer answer sent
  | .join join senderInboxId senderAddress resolution =>
    world.join self join senderInboxId senderAddress resolution
  | .enrolled saved => world.enroll self saved
  | .swept enrollments =>
    if world.enrolling.isSome = true then world else { world with enrollments := enrollments }

/-- Some milliseconds pass, then an event happens. -/
def World.next (event : ℕ × Event) : World :=
  { world with nowMs := world.nowMs + event.1 }.perform self event.2

def World.run (events : List (ℕ × Event)) : World :=
  events.foldl (World.next self) world

end Cthuwu.ChatControl
