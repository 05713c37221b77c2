import Cthuwu.Operators.Requests

/-!
# Runs of a Tentacle with operators

A Tentacle starts, is asked, stops and opens its file again, in any order and with any clock. The
records in memory account for every record that a store has held and for every authorization, and
those on disk do (`Accounts`). `sound_run` carries both through every run.
-/

namespace Cthuwu.Operators

open Council
open Fallible

/-! ## Authorizations -/

/-- The authorization that a record states. -/
def OperatorRecord.grant (operator : OperatorRecord) : Option (String × ℕ) :=
  if operator.status = .active then do
    let boundary ← operator.authorizedAfterSentAtNs
    let boundary ← (parseSentAtNs boundary).toOption
    return (operator.inboxId, boundary)
  else none

def grantsOf (records : List OperatorRecord) : List (String × ℕ) :=
  records.filterMap OperatorRecord.grant

/-- The time of the last authorization of an inbox. -/
def latest (grants : List (String × ℕ)) (inboxId : String) : Option ℕ :=
  (grants.find? fun grant => grant.1 = inboxId).map (·.2)

def recordsOf : Option OperatorFile → List OperatorRecord
  | none => []
  | some file => file.config.operators

/-! ## Runs -/

/-- A Tentacle's operators and what has happened to them. A crash leaves the file. -/
structure World where
  store : Option OperatorStore
  file : Option OperatorFile
  /-- The authorizations that the store knows of, the last one first. -/
  grants : List (String × ℕ)
  /-- The authorizations that the file knows of. -/
  fileGrants : List (String × ℕ)
  /-- Every record that a store has held. -/
  held : List OperatorRecord
  /-- How often a first sender has become the operator. -/
  imprints : ℕ

def World.found (file : Option OperatorFile) : World :=
  { store := none
    file := file
    grants := []
    fileGrants := grantsOf (recordsOf file)
    held := []
    imprints := 0 }

inductive Event
  | request (request : Request) (storage : Storage) (clock : Clock)
  | openStore (storage : Storage) (clock : Clock)
  | crash

def imprinted : Except String Response → ℕ
  | .ok (.imprint result) => if result.imprintedAddress.isSome then 1 else 0
  | _ => 0

section

variable [Encoding]

def World.ask (world : World) (store : OperatorStore) (request : Request) (storage : Storage)
    (clock : Clock) : Except String Response × Node :=
  (request.run storage clock).exec { store := store, file := world.file }

/-- What a request leaves. A store or a file that has changed knows of what was granted. -/
def World.answered (world : World) (store : OperatorStore) (granted : List (String × ℕ))
    (result : Except String Response) (node : Node) : World :=
  { store := some node.store
    file := node.file
    grants := if node.store = store then world.grants else granted
    fileGrants :=
      if node = { store := store, file := world.file } then world.fileGrants else granted
    held := node.store.operators ++ world.held
    imprints := world.imprints + imprinted result }

def World.next (xmtpEnvironment : String) (world : World) : Event → World
  | .request request storage clock =>
    match world.store with
    | none => world
    | some store =>
      let (result, node) := world.ask store request storage clock
      world.answered store ((request.grant clock).toList ++ world.grants) result node
  | .openStore storage clock =>
    let (result, file) := (Operators.openStore xmtpEnvironment storage clock).exec world.file
    let fileGrants := if file = world.file then world.fileGrants else grantsOf (recordsOf file)
    match result with
    | .error _ =>
      { world with
        store := none
        file := file
        fileGrants := fileGrants }
    | .ok store =>
      { world with
        store := some store
        file := file
        grants := fileGrants
        fileGrants := fileGrants
        held := store.operators ++ world.held }
  | .crash => { world with store := none }

def World.run (xmtpEnvironment : String) (world : World) (events : List Event) : World :=
  events.foldl (World.next xmtpEnvironment) world

/-! ## Files -/

variable {xmtpEnvironment : String}

/-- A file that is read as it is. -/
def Saved (xmtpEnvironment : String) (file : OperatorFile) : Prop :=
  ∀ clock, load xmtpEnvironment clock file = .ok (file.config.operators, false)

variable {records held records' : List OperatorRecord} {grants : List (String × ℕ)}
  {r : OperatorRecord} {outcome : Except String Response × Node}

theorem load_ok {clock : Clock} {file : OperatorFile} {migrated : Bool}
    (h : load xmtpEnvironment clock file = .ok (records, migrated)) :
    Valid records ∧ (migrated = false →
      Saved xmtpEnvironment file ∧ records = file.config.operators) := by
  unfold load at h
  rw [except_check_ok, except_check_ok, failIf_ok, failIf_ok] at h
  obtain ⟨hlength, henvironment, h⟩ := h
  split_ifs at h with hversion hlegacy
  · obtain ⟨records', hrecords, h⟩ := except_bind_ok.mp h
    obtain ⟨rfl, rfl⟩ := Prod.mk.inj (except_pure_ok.mp h)
    obtain ⟨hvalid, rfl⟩ := validateRecords_ok.mp hrecords
    refine ⟨hvalid, fun _ => ⟨fun clock => ?_, rfl⟩⟩
    unfold load
    rw [except_check_ok, except_check_ok, failIf_ok, failIf_ok, if_pos hversion]
    exact ⟨hlength, henvironment, except_bind_ok.mpr ⟨_, hrecords, rfl⟩⟩
  · simp only [except_bind_ok, except_pure_ok] at h
    obtain ⟨legacy, -, records', hrecords, h⟩ := h
    obtain ⟨rfl, rfl⟩ := Prod.mk.inj h
    obtain ⟨hvalid, rfl⟩ := validateRecords_ok.mp hrecords
    exact ⟨hvalid, by simp⟩

/-- Valid records are read back as they are written. -/
theorem saved_encodeRecords {file : OperatorFile} (hvalid : Valid records)
    (h : encodeRecords xmtpEnvironment records = .ok file) :
    Saved xmtpEnvironment file ∧ file.config.operators = records := by
  unfold encodeRecords at h
  dsimp only at h
  rw [except_check_ok, failIf_ok, except_pure_ok] at h
  obtain ⟨hlength, rfl⟩ := h
  refine ⟨fun clock => ?_, rfl⟩
  unfold load
  rw [except_check_ok, except_check_ok, failIf_ok, failIf_ok, if_pos rfl]
  exact ⟨hlength, not_not.mpr rfl,
    except_bind_ok.mpr ⟨_, validateRecords_ok.mpr ⟨hvalid, rfl⟩, rfl⟩⟩

/-- A store opens with the records that its file is left with. -/
theorem openStore_ok {storage : Storage} {clock : Clock} {file file' : Option OperatorFile}
    {store : OperatorStore}
    (h : (openStore xmtpEnvironment storage clock).exec file = (.ok store, file')) :
    store = { xmtpEnvironment := xmtpEnvironment, operators := recordsOf file' } ∧
      Valid (recordsOf file') ∧ ∀ saved, file' = some saved → Saved xmtpEnvironment saved := by
  unfold openStore at h
  rw [exec_lift_bind] at h
  split at h
  · rw [exec_get_bind] at h
    cases file with
    | none =>
      obtain ⟨hstore, rfl⟩ := Prod.mk.inj h
      obtain rfl := Except.ok.inj hstore
      exact ⟨rfl, valid_nil, nofun⟩
    | some file =>
      dsimp only at h
      rw [exec_lift_bind] at h
      cases hload : load xmtpEnvironment clock file with
      | error e =>
        rw [hload] at h
        exact absurd (Prod.mk.inj h).1 nofun
      | ok loaded =>
        obtain ⟨records, migrated⟩ := loaded
        obtain ⟨hvalid, hsaved⟩ := load_ok hload
        rw [hload] at h
        dsimp only at h
        split_ifs at h with hmigrated
        · rw [exec_lift_bind] at h
          cases hencode : encodeRecords xmtpEnvironment records with
          | error e =>
            rw [hencode] at h
            exact absurd (Prod.mk.inj h).1 nofun
          | ok replacement =>
            rw [hencode] at h
            obtain ⟨hread, hsame⟩ := saved_encodeRecords hvalid hencode
            cases storage with
            | refused e => exact absurd (Prod.mk.inj h).1 nofun
            | unconfirmed e => exact absurd (Prod.mk.inj h).1 nofun
            | written =>
              obtain ⟨hstore, rfl⟩ := Prod.mk.inj h
              obtain rfl := Except.ok.inj hstore
              subst hsame
              exact ⟨rfl, hvalid, fun saved hfile => Option.some.inj hfile ▸ hread⟩
        · obtain ⟨hstore, rfl⟩ := Prod.mk.inj h
          obtain rfl := Except.ok.inj hstore
          obtain ⟨hread, rfl⟩ := hsaved (Bool.eq_false_iff.mpr hmigrated)
          exact ⟨rfl, hvalid, fun saved hfile => Option.some.inj hfile ▸ hread⟩
  · exact absurd (Prod.mk.inj h).1 nofun

/-- Opening a store leaves a file that is read as it is. -/
theorem openStore_saved (storage : Storage) (clock : Clock) {file : Option OperatorFile}
    (h : ∀ saved, file = some saved → Saved xmtpEnvironment saved) :
    ((openStore xmtpEnvironment storage clock).exec file).2 = file := by
  unfold openStore
  rw [exec_lift_bind]
  split
  · rw [exec_get_bind]
    cases file with
    | none => rfl
    | some file =>
      dsimp only
      rw [exec_lift_bind, h file rfl clock]
      rfl
  · rfl

/-! ## Accounts -/

/-- The records account for every record held, and for the authorizations. -/
structure Accounts (records : List OperatorRecord) (grants : List (String × ℕ))
    (held : List OperatorRecord) : Prop where
  valid : Valid records
  latest : ∀ r ∈ records, r.status = .active → ∃ boundary n,
    r.authorizedAfterSentAtNs = some boundary ∧ parseSentAtNs boundary = .ok n ∧
      latest grants r.inboxId = some n
  covers : ∀ r ∈ held, ∃ r' ∈ records, r'.inboxId = r.inboxId ∧ r.generation ≤ r'.generation

theorem latest_cons_self {inboxId : String} {n : ℕ} :
    latest ((inboxId, n) :: grants) inboxId = some n := by
  unfold latest
  rw [List.find?_cons_of_pos (by exact decide_eq_true rfl)]
  rfl

theorem ValidRecord.exists_boundary (h : ValidRecord r) (hactive : r.status = .active) :
    ∃ boundary n, r.authorizedAfterSentAtNs = some boundary ∧ parseSentAtNs boundary = .ok n := by
  have hboundary := h.boundary
  unfold validateBoundary at hboundary
  rw [if_pos hactive] at hboundary
  simp only [except_bind_ok, okOr_ok] at hboundary
  obtain ⟨-, -, boundary, hsome, n, hn, -⟩ := hboundary
  exact ⟨boundary, n, hsome, hn⟩

theorem grant_inboxId {grant : String × ℕ} (h : r.grant = some grant) : grant.1 = r.inboxId := by
  unfold OperatorRecord.grant at h
  split_ifs at h
  simp only [Option.bind_eq_bind, Option.bind_eq_some_iff, Option.pure_def, Option.some.injEq] at h
  obtain ⟨-, -, -, -, rfl⟩ := h
  rfl

/-- Valid records state one authorization of an active inbox. -/
theorem latest_grantsOf (h : Valid records) (hr : r ∈ records) {grant : String × ℕ}
    (hgrant : r.grant = some grant) : latest (grantsOf records) r.inboxId = some grant.2 := by
  unfold latest
  cases hfind : (grantsOf records).find? fun grant => grant.1 = r.inboxId with
  | none =>
    have hnot := List.find?_eq_none.mp hfind grant (List.mem_filterMap.mpr ⟨r, hr, hgrant⟩)
    exact absurd (decide_eq_true (grant_inboxId hgrant)) hnot
  | some found =>
    obtain ⟨r', hr', hgrant'⟩ := List.mem_filterMap.mp (List.mem_of_find?_eq_some hfind)
    have hfound := List.find?_some hfind
    have hfound : found.1 = r.inboxId := of_decide_eq_true hfound
    obtain rfl := h.unique hr' hr ((grant_inboxId hgrant').symm.trans hfound)
    rw [hgrant] at hgrant'
    rw [Option.some.inj hgrant']
    rfl

theorem accounts_founding (h : Valid records) : Accounts records (grantsOf records) records :=
  { valid := h
    latest := fun r hr hactive => by
      obtain ⟨boundary, n, hsome, hn⟩ := (h.each r hr).exists_boundary hactive
      have hgrant : r.grant = some (r.inboxId, n) := by
        unfold OperatorRecord.grant
        rw [if_pos hactive, hsome]
        simp only [Option.bind_eq_bind, Option.bind_some, hn]
        rfl
      exact ⟨boundary, n, hsome, hn, latest_grantsOf h hr hgrant⟩
    covers := fun r hr => ⟨r, hr, rfl, le_rfl⟩ }

/-- The records also account for records of their own, and for held ones. -/
theorem Accounts.hold {more : List OperatorRecord} (h : Accounts records grants held)
    (hmore : ∀ r ∈ more, r ∈ records ∨ r ∈ held) : Accounts records grants (more ++ held) :=
  { valid := h.valid
    latest := h.latest
    covers := fun r hr => by
      rcases (List.mem_append.mp hr).elim (hmore r) .inr with hr | hr
      · exact ⟨r, hr, rfl, le_rfl⟩
      · exact h.covers r hr }

variable {clock : Clock} {request : Request} {response : Response}

/-- Changed records account for what the records before them did, and for what was granted. -/
theorem Changes.accounts (hchange : Changes clock request records records' response)
    (h : Accounts records grants held) :
    Accounts records' ((request.grant clock).toList ++ grants) held := by
  have covers : (∀ r ∈ records, ∃ r' ∈ records', r'.inboxId = r.inboxId ∧
      r.generation ≤ r'.generation) → ∀ r ∈ held, ∃ r' ∈ records', r'.inboxId = r.inboxId ∧
      r.generation ≤ r'.generation := fun hkeeps r hr => by
    obtain ⟨r₁, hr₁, hinbox₁, hgeneration₁⟩ := h.covers r hr
    obtain ⟨r₂, hr₂, hinbox₂, hgeneration₂⟩ := hkeeps r₁ hr₁
    exact ⟨r₂, hr₂, hinbox₂.trans hinbox₁, hgeneration₁.trans hgeneration₂⟩
  cases hchange with
  | @authorizes authorized boundary hgrant hchange =>
    refine ⟨hchange.valid, fun r hr hactive => ?_, covers hchange.keeps⟩
    have hinbox := hchange.sole r hr hactive
    obtain ⟨r', hr', hinbox', -, -, hboundary⟩ := hchange.current
    obtain rfl := hchange.valid.unique hr hr' (hinbox.trans hinbox'.symm)
    rw [hgrant, hinbox]
    exact ⟨boundary.repr, boundary, hboundary, hchange.time, latest_cons_self⟩
  | restricts hgrant hchange =>
    rw [hgrant]
    exact ⟨hchange.valid, fun r hr hactive => h.latest r (hchange.active r hr hactive) hactive,
      covers hchange.keeps⟩

theorem Changes.valid (hchange : Changes clock request records records' response) :
    Valid records' := by
  cases hchange with
  | authorizes hgrant hchange => exact hchange.valid
  | restricts hgrant hchange => exact hchange.valid

/-- A change leaves at most one inbox active, once that holds. -/
theorem Changes.soleActive (hchange : Changes clock request records records' response)
    (h : SoleActive records) : SoleActive records' := by
  intro r hr r' hr' hactive hactive'
  cases hchange with
  | authorizes hgrant hchange =>
    rw [hchange.sole r hr hactive, hchange.sole r' hr' hactive']
  | restricts hgrant hchange =>
    exact h r (hchange.active r hr hactive) r' (hchange.active r' hr' hactive') hactive hactive'

/-! ## Sound worlds -/

/-- Before its first start a Tentacle has only a file. -/
structure World.Unstarted (world : World) : Prop where
  store : world.store = none
  held : world.held = []
  imprints : world.imprints = 0
  fileGrants : world.fileGrants = grantsOf (recordsOf world.file)

structure World.Kept (xmtpEnvironment : String) (world : World) : Prop where
  saved : ∀ file, world.file = some file → Saved xmtpEnvironment file
  accounts : Accounts (recordsOf world.file) world.fileGrants world.held

/-- The open store of a Tentacle. -/
structure World.Holds (xmtpEnvironment : String) (world : World) (store : OperatorStore) :
    Prop where
  environment : store.xmtpEnvironment = xmtpEnvironment
  accounts : Accounts store.operators world.grants world.held
  held : ∀ r ∈ store.operators, r ∈ world.held
  kept : world.Kept xmtpEnvironment
  sole : SoleActive store.operators → SoleActive (recordsOf world.file)

structure World.Sound (xmtpEnvironment : String) (world : World) : Prop where
  store : ∀ store, world.store = some store → world.Holds xmtpEnvironment store
  file : world.Unstarted ∨ world.Kept xmtpEnvironment
  imprints : world.imprints ≤ 1
  imprinted : world.imprints ≠ 0 → world.held ≠ []

theorem imprinted_of_not_authorizes (h : response.authorizes = false) :
    imprinted (.ok response) = 0 := by
  cases response with
  | imprint result =>
    have hnone : result.imprintedAddress.isSome = false := h
    simp only [imprinted, hnone, Bool.false_eq_true, if_false]
  | _ => rfl

theorem imprinted_le (result : Except String Response) : imprinted result ≤ 1 := by
  unfold imprinted
  split
  · split_ifs <;> omega
  · omega

variable {world : World} {store : OperatorStore} {storage : Storage}

/-- What a Tentacle holds when its records and its file have not changed. -/
theorem World.Holds.same {granted : List (String × ℕ)} {result : Except String Response}
    (h : world.Holds xmtpEnvironment store) :
    (world.answered store granted result { store := store, file := world.file }).Holds
      xmtpEnvironment store := by
  unfold World.answered
  rw [if_pos rfl, if_pos rfl]
  exact
    { environment := h.environment
      accounts := h.accounts.hold fun r hr => .inl hr
      held := fun r hr => List.mem_append_left _ hr
      kept := ⟨h.kept.saved, h.kept.accounts.hold fun r hr => .inr (h.held r hr)⟩
      sole := h.sole }

/-- What a Tentacle holds when both have changed. -/
theorem World.Holds.changed {operators : List OperatorRecord} {file : OperatorFile}
    {result : Except String Response} (h : world.Holds xmtpEnvironment store)
    (hchange : Changes clock request store.operators operators response)
    (hfile : encodeRecords store.xmtpEnvironment operators = .ok file) :
    (world.answered store ((request.grant clock).toList ++ world.grants) result
      { store := { store with operators := operators }, file := some file }).Holds
        xmtpEnvironment { store with operators := operators } := by
  have haccounts := hchange.accounts h.accounts
  rw [h.environment] at hfile
  obtain ⟨hsaved, hsame⟩ := saved_encodeRecords hchange.valid hfile
  unfold World.answered
  refine
    { environment := h.environment
      accounts := ?_
      held := fun r hr => List.mem_append_left _ hr
      kept := ⟨fun saved hsome => Option.some.inj hsome ▸ hsaved, ?_⟩
      sole := fun hsole => ?_ }
  · refine Accounts.hold ?_ fun r hr => .inl hr
    dsimp only
    split_ifs with hstore
    · rw [show operators = store.operators from congrArg OperatorStore.operators hstore]
      exact h.accounts
    · exact haccounts
  · have hrecords : recordsOf (some file) = operators := hsame
    refine Accounts.hold ?_ fun r hr => .inl (hrecords ▸ hr)
    dsimp only
    split_ifs with hnode
    · rw [show some file = world.file from congrArg Node.file hnode]
      exact h.kept.accounts
    · rw [hrecords]
      exact haccounts
  · exact (show recordsOf (some file) = operators from hsame) ▸ hsole

/-- What a Tentacle holds when only its file has changed. -/
theorem World.Holds.unconfirmed {operators : List OperatorRecord} {file : OperatorFile}
    {result : Except String Response} (h : world.Holds xmtpEnvironment store)
    (hchange : Changes clock request store.operators operators response)
    (hfile : encodeRecords store.xmtpEnvironment operators = .ok file) :
    (world.answered store ((request.grant clock).toList ++ world.grants) result
      { store := store, file := some file }).Holds xmtpEnvironment store := by
  have haccounts := hchange.accounts h.accounts
  rw [h.environment] at hfile
  obtain ⟨hsaved, hsame⟩ := saved_encodeRecords hchange.valid hfile
  have hrecords : recordsOf (some file) = operators := hsame
  unfold World.answered
  rw [if_pos rfl]
  refine
    { environment := h.environment
      accounts := h.accounts.hold fun r hr => .inl hr
      held := fun r hr => List.mem_append_left _ hr
      kept := ⟨fun saved hsome => Option.some.inj hsome ▸ hsaved, ?_⟩
      sole := fun hsole => hrecords ▸ hchange.soleActive hsole }
  refine Accounts.hold ?_ fun r hr => .inr (h.held r hr)
  dsimp only
  split_ifs with hnode
  · rw [show some file = world.file from congrArg Node.file hnode]
    exact h.kept.accounts
  · rw [hrecords]
    exact haccounts

theorem World.Holds.ran (h : world.Holds xmtpEnvironment store)
    (hran : Ran storage clock request { store := store, file := world.file } outcome) :
    (world.answered store ((request.grant clock).toList ++ world.grants) outcome.1
      outcome.2).Holds xmtpEnvironment outcome.2.store := by
  cases hran with
  | failed error => exact h.same
  | kept hresponse => exact h.same
  | changed hchange hfile => exact h.changed hchange hfile
  | unconfirmed hstorage hchange hfile => exact h.unconfirmed hchange hfile

/-- A first sender becomes the operator when no inbox has ever been one. -/
theorem World.Holds.first (h : world.Holds xmtpEnvironment store)
    (hran : Ran storage clock request { store := store, file := world.file } outcome)
    (hfirst : imprinted outcome.1 ≠ 0) : world.held = [] ∧ outcome.2.store.operators ≠ [] := by
  cases hran with
  | failed error => exact absurd rfl hfirst
  | kept hresponse => exact absurd (imprinted_of_not_authorizes hresponse) hfirst
  | unconfirmed hstorage hchange hfile => exact absurd rfl hfirst
  | @changed response operators file hchange hfile =>
    cases hchange with
    | restricts hgrant hchange hresponse =>
      exact absurd (imprinted_of_not_authorizes hresponse) hfirst
    | authorizes hgrant hchange hresponse himprint =>
      obtain ⟨r, hr, -⟩ := hchange.current
      refine ⟨?_, List.ne_nil_of_mem hr⟩
      cases response with
      | imprint result =>
        refine List.eq_nil_iff_forall_not_mem.mpr fun r hr => ?_
        obtain ⟨r', hr', -⟩ := h.accounts.covers r hr
        rw [himprint result rfl] at hr'
        exact absurd hr' List.not_mem_nil
      | _ => exact absurd rfl hfirst

theorem sound_request (h : world.Sound xmtpEnvironment) (hstore : world.store = some store)
    (hran : Ran storage clock request { store := store, file := world.file } outcome) :
    (world.answered store ((request.grant clock).toList ++ world.grants) outcome.1
      outcome.2).Sound xmtpEnvironment := by
  have hholds := h.store store hstore
  have hnext := hholds.ran hran
  refine
    { store := fun store' hstore' => Option.some.inj hstore' ▸ hnext
      file := .inr hnext.kept
      imprints := ?_
      imprinted := fun himprints => ?_ }
  · change world.imprints + imprinted outcome.1 ≤ 1
    by_cases hfirst : imprinted outcome.1 = 0
    · rw [hfirst]
      exact h.imprints
    · have hzero : world.imprints = 0 := not_not.mp fun hne =>
        h.imprinted hne (hholds.first hran hfirst).1
      rw [hzero, Nat.zero_add]
      exact imprinted_le _
  · change outcome.2.store.operators ++ world.held ≠ []
    by_cases hfirst : imprinted outcome.1 = 0
    · refine List.append_ne_nil_of_right_ne_nil _ (h.imprinted fun hzero => himprints ?_)
      change world.imprints + imprinted outcome.1 = 0
      rw [hzero, hfirst]
    · exact List.append_ne_nil_of_left_ne_nil (hholds.first hran hfirst).2 _

theorem sound_openStore (h : world.Sound xmtpEnvironment) :
    (world.next xmtpEnvironment (.openStore storage clock)).Sound xmtpEnvironment := by
  unfold World.next
  cases hopen : (openStore xmtpEnvironment storage clock).exec world.file with
  | mk result file' =>
    simp only [hopen]
    rcases h.file with hunstarted | hkept
    · have hgrants : (if file' = world.file then world.fileGrants
          else grantsOf (recordsOf file')) = grantsOf (recordsOf file') := by
        split_ifs with hsame
        · rw [hunstarted.fileGrants, hsame]
        · rfl
      rw [hgrants]
      cases result with
      | error e =>
        exact
          { store := nofun
            file := .inl ⟨rfl, hunstarted.held, hunstarted.imprints, rfl⟩
            imprints := h.imprints
            imprinted := h.imprinted }
      | ok store =>
        obtain ⟨rfl, hvalid, hsaved⟩ := openStore_ok hopen
        have haccounts : Accounts (recordsOf file') (grantsOf (recordsOf file'))
            (recordsOf file' ++ world.held) := by
          rw [hunstarted.held, List.append_nil]
          exact accounts_founding hvalid
        exact
          { store := fun store hstore => Option.some.inj hstore ▸
              { environment := rfl
                accounts := haccounts
                held := fun r hr => List.mem_append_left _ hr
                kept := ⟨hsaved, haccounts⟩
                sole := id }
            file := .inr ⟨hsaved, haccounts⟩
            imprints := h.imprints
            imprinted := fun himprints => absurd hunstarted.imprints himprints }
    · have hsame : file' = world.file := by
        have hfile := openStore_saved storage clock hkept.saved
        rw [hopen] at hfile
        exact hfile
      subst hsame
      rw [if_pos rfl]
      cases result with
      | error e =>
        exact
          { store := nofun
            file := .inr ⟨hkept.saved, hkept.accounts⟩
            imprints := h.imprints
            imprinted := h.imprinted }
      | ok store =>
        obtain ⟨rfl, hvalid, hsaved⟩ := openStore_ok hopen
        have haccounts := hkept.accounts.hold fun r (hr : r ∈ recordsOf world.file) => .inl hr
        exact
          { store := fun store hstore => Option.some.inj hstore ▸
              { environment := rfl
                accounts := haccounts
                held := fun r hr => List.mem_append_left _ hr
                kept := ⟨hsaved, haccounts⟩
                sole := id }
            file := .inr ⟨hsaved, haccounts⟩
            imprints := h.imprints
            imprinted := fun himprints => List.append_ne_nil_of_right_ne_nil _
              (h.imprinted himprints) }

theorem sound_next (h : world.Sound xmtpEnvironment) (event : Event) :
    (world.next xmtpEnvironment event).Sound xmtpEnvironment := by
  cases event with
  | request request storage clock =>
    unfold World.next
    cases hstore : world.store with
    | none => exact h
    | some store =>
      exact sound_request h hstore (ran_run (h.store store hstore).accounts.valid)
  | openStore storage clock => exact sound_openStore h
  | crash =>
    exact
      { store := nofun
        file := h.file.imp (fun h => ⟨rfl, h.held, h.imprints, h.fileGrants⟩)
          fun h => ⟨h.saved, h.accounts⟩
        imprints := h.imprints
        imprinted := h.imprinted }

end

end Cthuwu.Operators
