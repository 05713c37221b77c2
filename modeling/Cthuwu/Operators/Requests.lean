import Cthuwu.Operators.Records

/-!
# Requests to the store of operators

A request is refused, leaves the records as they are, or writes changed records. `Ran` lists how a
request may end, and `ran_run` says that every one ends so. Changed records either authorize one
inbox (`Authorizes`), or only take authority away (`Restricts`).
-/

namespace Cthuwu.Operators

open Council
open Fallible

inductive Request
  | classifyOrImprint (inboxId : String) (address : Option String) (sentAtNs : String)
  | ensureSoleOperator (inboxId label : String)
  | add (inboxId label : String)
  | transfer (inboxId label : String)
  | revoke (inboxId : String)
  | retainSoleActive (inboxId : String)

inductive Response
  | imprint (result : OperatorImprint)
  | ensured (added : Bool)
  | authorized (operator : AuthorizedOperator)
  | revoked (changed : Bool)
  | retained

def Response.authorizes : Response → Bool
  | imprint result => result.imprintedAddress.isSome
  | ensured added => added
  | authorized _ => true
  | revoked _ | retained => false

/-- The inbox that a request would authorize, and the time up to which its messages stay without
authority. -/
def Request.grant (clock : Clock) : Request → Option (String × ℕ)
  | classifyOrImprint inboxId _ sentAtNs => do
    let inboxId ← (normalizeOperatorInboxId inboxId).toOption
    let boundary ← (parseSentAtNs sentAtNs).toOption
    return (inboxId, boundary)
  | ensureSoleOperator inboxId _ | add inboxId _ | transfer inboxId _ => do
    let inboxId ← (normalizeOperatorInboxId inboxId).toOption
    return (inboxId, clock.unixNanoseconds)
  | revoke _ | retainSoleActive _ => none

section

variable [Encoding]

def Request.run (storage : Storage) (clock : Clock) : Request → Fallible String Node Response
  | classifyOrImprint inboxId address sentAtNs =>
    .imprint <$> Operators.classifyOrImprint storage inboxId address sentAtNs clock
  | ensureSoleOperator inboxId label =>
    .ensured <$> Operators.ensureSoleOperator storage inboxId label clock
  | add inboxId label => .authorized <$> Operators.add storage inboxId label clock
  | transfer inboxId label => .authorized <$> Operators.transfer storage inboxId label clock
  | revoke inboxId => .revoked <$> Operators.revoke storage inboxId clock
  | retainSoleActive inboxId => do
    Operators.retainSoleActive storage inboxId clock
    return .retained

/-- Changed records that only take authority away. -/
structure Restricts (records records' : List OperatorRecord) : Prop where
  valid : Valid records'
  active : ∀ r ∈ records', r.status = .active → r ∈ records
  keeps : ∀ r ∈ records, ∃ r' ∈ records', r'.inboxId = r.inboxId ∧ r.generation ≤ r'.generation

/-- How a request changes the records. -/
inductive Changes (clock : Clock) (request : Request) (records records' : List OperatorRecord)
    (response : Response) : Prop
  | authorizes {authorized : AuthorizedOperator} {boundary : ℕ}
      (hgrant : request.grant clock = some (authorized.inboxId, boundary))
      (hchange : Authorizes records boundary records' authorized)
      (hresponse : response.authorizes = true)
      (himprint : ∀ imprint, response = .imprint imprint → records = [])
  | restricts (hgrant : request.grant clock = none) (hchange : Restricts records records')
      (hresponse : response.authorizes = false)

/-- How a request ends. -/
inductive Ran (storage : Storage) (clock : Clock) (request : Request) (node : Node) :
    Except String Response × Node → Prop
  | failed (error : String) : Ran storage clock request node (.error error, node)
  | kept {response : Response} (hresponse : response.authorizes = false) :
      Ran storage clock request node (.ok response, node)
  | changed {response : Response} {operators : List OperatorRecord} {file : OperatorFile}
      (hchange : Changes clock request node.store.operators operators response)
      (hfile : encodeRecords node.store.xmtpEnvironment operators = .ok file) :
      Ran storage clock request node
        (.ok response, ⟨{ node.store with operators := operators }, some file⟩)
  | unconfirmed {error : String} {response : Response} {operators : List OperatorRecord}
      {file : OperatorFile} (hstorage : storage = .unconfirmed error)
      (hchange : Changes clock request node.store.operators operators response)
      (hfile : encodeRecords node.store.xmtpEnvironment operators = .ok file) :
      Ran storage clock request node (.error error, { node with file := some file })

variable {storage : Storage} {clock : Clock} {request : Request} {node : Node}

variable {inboxId label sentAtNs : String} {operators records : List OperatorRecord}

theorem commit_exec : (commit storage operators).exec node =
      match encodeRecords node.store.xmtpEnvironment operators with
      | .error e => (.error e, node)
      | .ok file =>
        match storage with
        | .written => (.ok (), ⟨{ node.store with operators := operators }, some file⟩)
        | .refused e => (.error e, node)
        | .unconfirmed e => (.error e, { node with file := some file }) := by
  unfold commit
  rw [exec_get_bind, exec_bind, exec_lift]
  cases encodeRecords node.store.xmtpEnvironment operators with
  | error e => rfl
  | ok file => cases storage <;> rfl

/-- A request that ends by committing what it made of the records. -/
theorem ran_commit {response : Response}
    (hchange : Changes clock request node.store.operators operators response) :
    Ran storage clock request node ((do
      commit storage operators
      return response : Fallible String Node Response).exec node) := by
  rw [exec_bind, commit_exec]
  cases hfile : encodeRecords node.store.xmtpEnvironment operators with
  | error e => exact .failed e
  | ok file =>
    cases storage with
    | written => exact .changed hchange hfile
    | refused e => exact .failed e
    | unconfirmed e => exact .unconfirmed rfl hchange hfile

/-- The time that a request on the local clock writes. -/
theorem parseSentAtNs_clock :
    parseSentAtNs clock.unixNanoseconds.repr = .ok clock.unixNanoseconds :=
  parseSentAtNs_repr (clock.bounded.trans (by decide))

/-- A request that authorizes an inbox, from records with the same inboxes and generations. -/
theorem ran_authorize (h : Valid operators) {response : AuthorizedOperator → Response}
    (hchange : ∀ operators' authorized boundary, parseSentAtNs sentAtNs = .ok boundary →
      normalizeOperatorInboxId inboxId = .ok authorized.inboxId →
      Authorizes operators boundary operators' authorized →
      Changes clock request node.store.operators operators' (response authorized)) :
    Ran storage clock request node ((do
      let (operators, authorized) ←
        liftM (authorize operators inboxId label sentAtNs clock.unixSeconds)
      commit storage operators
      return response authorized : Fallible String Node Response).exec node) := by
  rw [exec_bind, exec_lift]
  cases hauthorize : authorize operators inboxId label sentAtNs clock.unixSeconds with
  | error e => exact .failed e
  | ok result =>
    obtain ⟨boundary, hboundary, hinbox, hauthorizes⟩ := authorize_ok h hauthorize
    exact ran_commit (hchange _ _ boundary hboundary hinbox hauthorizes)

theorem ran_addAt (h : Valid node.store.operators) (response : AuthorizedOperator → Response)
    (hgrant : ∀ normal boundary, normalizeOperatorInboxId inboxId = .ok normal →
      parseSentAtNs sentAtNs = .ok boundary → request.grant clock = some (normal, boundary))
    (hresponse : ∀ a, (response a).authorizes = true)
    (himprint : ∀ a result, response a = .imprint result → node.store.operators = []) :
    Ran storage clock request node ((do
      let authorized ← addAt storage inboxId label sentAtNs clock
      return response authorized : Fallible String Node Response).exec node) := by
  unfold addAt
  simp only [bind_assoc, pure_bind]
  rw [exec_get_bind]
  exact ran_authorize h fun operators' authorized boundary hboundary hinbox hchange =>
    .authorizes (hgrant _ _ hinbox hboundary) hchange (hresponse authorized) (himprint authorized)

/-! ## Changes that take authority away -/

/-- A change of every record that keeps inboxes and generations, and makes no record active. -/
theorem Restricts.map {f : OperatorRecord → OperatorRecord} (hvalid : Valid (records.map f))
    (hsame : ∀ r, (f r).inboxId = r.inboxId ∧ (f r).generation = r.generation)
    (hactive : ∀ r, (f r).status = .active → f r = r) : Restricts records (records.map f) :=
  { valid := hvalid
    active := fun r' hr' hactive' => by
      obtain ⟨r, hr, rfl⟩ := List.mem_map.mp hr'
      rw [hactive r hactive']
      exact hr
    keeps := fun r hr => ⟨f r, List.mem_map_of_mem hr, (hsame r).1, (hsame r).2.ge⟩ }

theorem restricts_revokeActive (h : Valid records) (now : ℕ) :
    Restricts records (revokeActive records now) := by
  refine .map (h.revokeActive now) (fun r => ?_) fun r hactive => ?_
  · split_ifs <;> exact ⟨rfl, rfl⟩
  · by_cases hr : r.status = .active
    · rw [if_pos hr] at hactive
      exact absurd hactive revoked_ne_active
    · rw [if_neg hr]

theorem restricts_retainOnly (h : Valid records) (inboxId : String) (now : ℕ) :
    Restricts records (retainOnly records inboxId now) := by
  refine .map (h.retainOnly inboxId now) (fun r => ?_) fun r hactive => ?_
  · split_ifs <;> exact ⟨rfl, rfl⟩
  · split_ifs at hactive ⊢ with hr
    · exact absurd hactive revoked_ne_active
    · rfl

theorem restricts_revoke (h : Valid records) {index : ℕ} {r : OperatorRecord}
    (hr : records[index]? = some r) (now : ℕ) :
    Restricts records (records.modify index (·.revoke now)) :=
  { valid := h.modify hr (fun _ => rfl) ((h.each r (List.mem_of_getElem? hr)).revoke now)
    active := fun r' hr' hactive => by
      rcases mem_modify hr hr' with hr' | rfl
      · exact hr'
      · exact absurd hactive revoked_ne_active
    keeps := fun r' hr' => by
      rcases modify_of_mem hr hr' with hr' | ⟨rfl, hr'⟩
      · exact ⟨r', hr', rfl, le_rfl⟩
      · exact ⟨_, hr', rfl, le_rfl⟩ }

/-- Authority may be taken away before it is given. -/
theorem Authorizes.after {records' : List OperatorRecord} {boundary : ℕ}
    {authorized : AuthorizedOperator} (h : Authorizes operators boundary records' authorized)
    (hrestricts : Restricts records operators) : Authorizes records boundary records' authorized :=
  { valid := h.valid
    time := h.time
    sole := h.sole
    current := h.current
    keeps := fun r hr => by
      obtain ⟨r₁, hr₁, hinbox₁, hgeneration₁⟩ := hrestricts.keeps r hr
      obtain ⟨r₂, hr₂, hinbox₂, hgeneration₂⟩ := h.keeps r₁ hr₁
      exact ⟨r₂, hr₂, hinbox₂.trans hinbox₁, hgeneration₁.trans hgeneration₂⟩
    later := fun r hr hinbox => by
      obtain ⟨r₁, hr₁, hinbox₁, hgeneration₁⟩ := hrestricts.keeps r hr
      exact hgeneration₁.trans_lt (h.later r₁ hr₁ (hinbox₁.trans hinbox)) }

/-! ## Every request -/

theorem grant_clock {request : Request} {normal : String} {boundary : ℕ}
    (hrequest : request.grant clock = (do
      let inboxId ← (normalizeOperatorInboxId inboxId).toOption
      return (inboxId, clock.unixNanoseconds)))
    (hinbox : normalizeOperatorInboxId inboxId = .ok normal)
    (hboundary : parseSentAtNs clock.unixNanoseconds.repr = .ok boundary) :
    request.grant clock = some (normal, boundary) := by
  rw [parseSentAtNs_clock] at hboundary
  obtain rfl := Except.ok.inj hboundary
  rw [hrequest, hinbox]
  rfl

theorem ran_add (h : Valid node.store.operators) : Ran storage clock (.add inboxId label) node
      (((Request.add inboxId label).run storage clock).exec node) := by
  simp only [Request.run, add, map_eq_pure_bind]
  exact ran_addAt h .authorized (fun _ _ => grant_clock rfl) (fun _ => rfl) nofun

theorem ran_transfer (h : Valid node.store.operators) :
    Ran storage clock (.transfer inboxId label) node
      (((Request.transfer inboxId label).run storage clock).exec node) := by
  simp only [Request.run, transfer, map_eq_pure_bind, bind_assoc, pure_bind]
  rw [exec_get_bind]
  exact ran_authorize (h.revokeActive clock.unixSeconds)
    fun operators' authorized boundary hboundary hinbox hchange =>
      .authorizes (grant_clock rfl hinbox hboundary)
        (hchange.after (restricts_revokeActive h clock.unixSeconds)) rfl nofun

theorem ran_ensureSoleOperator (h : Valid node.store.operators) :
    Ran storage clock (.ensureSoleOperator inboxId label) node
      (((Request.ensureSoleOperator inboxId label).run storage clock).exec node) := by
  simp only [Request.run, ensureSoleOperator, add, map_eq_pure_bind, bind_assoc]
  rw [exec_get_bind, exec_bind, exec_lift]
  cases ensureUnambiguous node.store.operators with
  | error e => exact .failed e
  | ok _ =>
    dsimp only
    rw [exec_bind, exec_lift]
    cases hinbox : normalizeOperatorInboxId inboxId with
    | error e => exact .failed e
    | ok normal =>
      dsimp only
      cases node.store.operators.find? fun operator => operator.status = .active with
      | some active =>
        dsimp only
        split_ifs
        · exact .kept rfl
        · exact .failed _
      | none =>
        simp only [bind_assoc, pure_bind]
        refine ran_addAt h (fun _ => .ensured true) (fun _ _ hnormal => ?_) (fun _ => rfl) nofun
        rw [normalizeOperatorInboxId_self hinbox] at hnormal
        obtain rfl := Except.ok.inj hnormal
        exact grant_clock rfl hinbox

theorem ran_classifyOrImprint (h : Valid node.store.operators) {address : Option String} :
    Ran storage clock (.classifyOrImprint inboxId address sentAtNs) node
      (((Request.classifyOrImprint inboxId address sentAtNs).run storage clock).exec node) := by
  simp only [Request.run, classifyOrImprint, map_eq_pure_bind, bind_assoc]
  rw [exec_get_bind, exec_bind, exec_lift]
  cases roleForMessage node.store.operators inboxId sentAtNs with
  | error e => exact .failed e
  | ok role =>
    dsimp only
    split_ifs with hknown
    · exact .kept rfl
    · cases address with
      | none => exact .kept rfl
      | some address =>
        dsimp only
        simp only [bind_assoc, pure_bind]
        rw [exec_bind, exec_lift]
        cases normalizeOperatorAddress address with
        | error e => exact .failed e
        | ok address =>
          refine ran_addAt h (fun _ => .imprint ⟨.user, some address⟩)
            (fun normal boundary hnormal hboundary => ?_) (fun _ => rfl) fun _ _ _ =>
              not_not.mp fun hne => hknown (.inr hne)
          simp only [Request.grant, hnormal, hboundary]
          rfl

theorem ran_revoke (h : Valid node.store.operators) : Ran storage clock (.revoke inboxId) node
      (((Request.revoke inboxId).run storage clock).exec node) := by
  simp only [Request.run, revoke, map_eq_pure_bind, bind_assoc]
  rw [exec_bind, exec_lift]
  cases normalizeOperatorInboxId inboxId with
  | error e => exact .failed e
  | ok normal =>
    dsimp only
    rw [exec_get_bind]
    cases hposition : position (fun operator : OperatorRecord => operator.inboxId = normal)
        node.store.operators with
    | none => exact .kept rfl
    | some found =>
      obtain ⟨index, operator⟩ := found
      obtain ⟨hget, -⟩ := position_eq_some hposition
      dsimp only
      split_ifs
      · exact .kept rfl
      · simp only [bind_assoc, pure_bind]
        exact ran_commit (.restricts rfl (restricts_revoke h hget clock.unixSeconds) rfl)

theorem ran_retainSoleActive (h : Valid node.store.operators) :
    Ran storage clock (.retainSoleActive inboxId) node
      (((Request.retainSoleActive inboxId).run storage clock).exec node) := by
  simp only [Request.run, retainSoleActive, bind_assoc]
  rw [exec_bind, exec_lift]
  cases normalizeOperatorInboxId inboxId with
  | error e => exact .failed e
  | ok normal =>
    dsimp only
    rw [exec_get_bind, exec_lift_bind, exec_lift_bind]
    split
    · split
      · exact ran_commit (.restricts rfl (restricts_retainOnly h normal clock.unixSeconds) rfl)
      · exact .failed _
    · exact .failed _

theorem ran_run (h : Valid node.store.operators) :
    Ran storage clock request node ((request.run storage clock).exec node) := by
  cases request with
  | classifyOrImprint inboxId address sentAtNs => exact ran_classifyOrImprint h
  | ensureSoleOperator inboxId label => exact ran_ensureSoleOperator h
  | add inboxId label => exact ran_add h
  | transfer inboxId label => exact ran_transfer h
  | revoke inboxId => exact ran_revoke h
  | retainSoleActive inboxId => exact ran_retainSoleActive h

end

end Cthuwu.Operators
