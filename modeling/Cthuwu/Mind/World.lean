import Cthuwu.Mind.Notes
import Cthuwu.Lib.Runs

/-!
# Runs of a Tentacle with a mind

A Tentacle reflects on one scope at a time : it chooses the scope whose note is the oldest among
those with new evidence, asks its model about the evidence and the note before, and stores the
answer as the new note. For an operator the model is also shown what the Tentacle recalls of
everyone. To forget a person removes what was said and every note that the person took part in.
What a reflection began with before is not stored afterwards.

Messages are recorded, reflections go on step by step and people are forgotten in any order, and a
Tentacle may stop between any two steps. Beside the files the runs keep what each reflection has
read of whom : the inboxes of the entries it was shown, and those that the notes it was shown were
derived from.
-/

namespace Cthuwu.Mind

open Council (isWhiteSpace jsonList)

structure Rhythm where
  lastAttempt : ℕ
  lastNotice : ℕ
  noticeKey : String
  status : String
  memoryRevision : ℕ

/-- The files of a Tentacle, and the number of times it has forgotten. -/
structure Store where
  journal : List Entry
  memory : Memory
  rhythm : Rhythm
  epoch : ℕ

def noticeInterval : ℕ := 6 * 3600

def Rhythm.trying (now : ℕ) (rhythm : Rhythm) : Rhythm :=
  { rhythm with
    lastAttempt := now
    status := "Reflection in progress; interrupted work is retried after the next interval." }

def Rhythm.idle (rhythm : Rhythm) : Rhythm :=
  { rhythm with status := "No new conversation evidence; existing intentions retained." }

def Rhythm.failed (rhythm : Rhythm) : Rhythm :=
  { rhythm with
    status := "Reflection inference failed; conversations and intentions are retained. " ++
      "Operator: restore the selected provider, then verify a normal reply succeeds." }

def Rhythm.reflected (scope : String) (now : ℕ) (rhythm : Rhythm) : Rhythm :=
  { rhythm with
    status := "Reflected on " ++ scope ++ " at " ++ now.repr ++ "; next intention retained." }

def Rhythm.noticed (key : String) (now : ℕ) (rhythm : Rhythm) : Rhythm :=
  { rhythm with
    lastNotice := now
    noticeKey := key }

def Rhythm.forgot (revision : ℕ) (rhythm : Rhythm) : Rhythm :=
  { rhythm with
    memoryRevision := revision
    status := "Forgetting applied; derived recall and operator session caches invalidated." }

def saturatingAdd (time seconds : ℕ) : ℕ :=
  min (time + seconds) (2 ^ 64 - 1)

variable (platform : Platform)

def writeRhythm (storage : Storage) (rhythm : Rhythm) : Fallible String Store Unit := do
  let store ← get
  let (result, rhythm) := storage.write store.rhythm rhythm
  set { store with rhythm := rhythm }
  liftM result

def onJournal {α : Type} (x : Fallible String (List Entry) α) : Fallible String Store α :=
  Fallible.onPart id Store.journal (fun journal store => { store with journal := journal }) x

/-! ## Recall -/

/-- `Mind::context`. -/
def context (listing : Listing) (now : ℕ) (query : String) (audience : Audience) (store : Store) :
    Except String String := do
  let files ← notes listing store.memory
  let entries ← readJournal now store.journal
  return recallText platform query audience store.rhythm.status files entries

/-! ## The scope of a reflection -/

structure Candidate where
  prior : Option (String × Note)
  scope : String
  entries : List Entry
  revision : String

def revisionOf (entries : List Entry) : String :=
  platform.digest (jsonList (entries.map Entry.json))

def candidate (files : List (String × Note)) (entries : List Entry) (scope : String) : Candidate :=
  let entries := entries.filter fun entry => entry.scope = scope
  { prior := files.find? fun file => file.2.scope = scope
    scope := scope
    entries := entries
    revision := revisionOf platform entries }

def Candidate.time (candidate : Candidate) : ℕ :=
  (candidate.prior.map fun file => file.2.updated).getD 0

def Candidate.due (now : ℕ) (candidate : Candidate) : Bool :=
  match candidate.prior with
  | none => true
  | some (_, note) => note.revision ≠ candidate.revision || note.updated + 86400 < now

/-- The scopes of the entries, in their order. -/
def scopes (entries : List Entry) : List String :=
  (entries.map Entry.scope).dedup.insertionSort (· ≤ ·)

def select (now : ℕ) (files : List (String × Note)) (entries : List Entry) : Option Candidate :=
  (((scopes entries).map (candidate platform files entries)).insertionSort
    fun candidate other => candidate.time ≤ other.time).find? (Candidate.due now)

/-- What a reflection has chosen, and when. -/
structure Selection where
  epoch : ℕ
  candidate : Candidate

structure BeginFaults where
  rhythm : Storage
  reading : Except String Unit
  idle : Storage

def beginReflection (faults : BeginFaults) (interval : Option ℕ) (listing : Listing) (now : ℕ) :
    Fallible String Store (Option Selection) := do
  let store ← get
  match interval with
  | none => return none
  | some interval =>
    if now < saturatingAdd store.rhythm.lastAttempt interval then return none
    else do
      let rhythm := store.rhythm.trying now
      writeRhythm faults.rhythm rhythm
      liftM faults.reading
      let files ← liftM (notes listing store.memory)
      let entries ← liftM (readJournal now store.journal)
      match select platform now files entries with
      | none => do
        writeRhythm faults.idle rhythm.idle
        return none
      | some candidate => return some { epoch := store.epoch, candidate := candidate }

/-! ## The evidence -/

def shownEntries (entries : List Entry) : List Entry :=
  entries.drop (entries.length - 16)

def isOperatorScope (scope : String) : Bool :=
  "operator-".toList.isPrefixOf scope.toList

def operatorQuery : String := "goals open loops operator needs"

def crossRecall (listing : Listing) (now : ℕ) (scope : String) (store : Store) :
    Except String String :=
  if isOperatorScope scope = true then
    context platform listing now operatorQuery .operator store
  else .ok ""

/-- Everyone that this may have been derived from. -/
def crossParticipants (listing : Listing) (now : ℕ) (scope : String) (store : Store) :
    Except String (List String) :=
  if isOperatorScope scope = true then do
    let entries ← readJournal now store.journal
    let files ← notes listing store.memory
    return entries.map Entry.inbox ++ files.flatMap fun file => file.2.participants
  else .ok []

/-! ## The answer -/

structure Response where
  runtimeFallback : Bool
  toolCalls : ℕ
  content : Option String

def readReflection (response : Except String Response) : Except String Reflection := do
  let response ← response
  failIf (response.runtimeFallback = true ∨ response.toolCalls ≠ 0)
    "reflection inference unavailable"
  let text ← okOr response.content "empty reflection"
  failIf (10000 < text.utf8ByteSize) "oversized reflection"
  let reflection ← platform.parseReflection (String.ofList (trimBy isWhiteSpace text.toList))
  failIf (5 < reflection.goals.length ∨ 5 < reflection.openLoops.length)
    "oversized reflection lists"
  return reflection

def sortedOnce (values : List String) : List String :=
  (values.insertionSort (· ≤ ·)).dedup

def Selection.note (participants : List String) (reflection : Reflection) (now : ℕ)
    (selection : Selection) : Note :=
  { scope := selection.candidate.scope
    participants := sortedOnce (selection.candidate.entries.map Entry.inbox ++ participants)
    addresses := sortedOnce (selection.candidate.entries.filterMap Entry.address)
    revision := selection.candidate.revision
    updated := now
    reflection := reflection }

/-- The notice to the operator, which is sent now and then. -/
def notice (storage : Storage) (rhythm : Rhythm) (text : String) (now : ℕ) :
    Fallible String Store (Option String) :=
  if now < saturatingAdd rhythm.lastNotice noticeInterval then return none
  else do
    writeRhythm storage (rhythm.noticed (platform.digest text) now)
    return some (limit text 1600)

def Note.needText (scope : String) (need : Need) : String :=
  "OPERATOR, I NEED: " ++ need.request ++ "\nWHY: " ++ need.reason ++ "\nDONE WHEN: " ++
    need.doneWhen ++ "\nSource: " ++ scope ++ " (my interpretation; verify before acting)."

def restoreNotice : String :=
  "Restore the selected inference provider. Conversation capture still works; reflection is " ++
  "paused. Done when a normal conversational reply succeeds."

structure FinishFaults where
  note : Storage
  rhythm : Storage
  index : Except String Unit
  notice : Storage

/-- What a reflection is about to store. A note is stored only when nothing was forgotten since the
reflection has begun. -/
def Selection.drafted (participants : List String) (response : Except String Response) (now : ℕ)
    (store : Store) (selection : Selection) : Option Note :=
  if selection.epoch ≠ store.epoch then none
  else match readReflection platform response with
    | .error _ => none
    | .ok reflection =>
      let note := selection.note participants reflection now
      if maxNote < note.document.text.utf8ByteSize then none else some note

def writeNote (storage : Storage) (note : Note) : Fallible String Store Unit := do
  let store ← get
  let (result, memory) := storage.write store.memory
    (store.memory.put (platform.digest note.scope) note.document)
  set { store with memory := memory }
  liftM result

def finishReflection (faults : FinishFaults) (selection : Selection) (participants : List String)
    (response : Except String Response) (now : ℕ) : Fallible String Store (Option String) := do
  let store ← get
  if selection.epoch ≠ store.epoch then return none
  else match readReflection platform response with
    | .error _ => do
      let rhythm := store.rhythm.failed
      writeRhythm faults.rhythm rhythm
      notice platform faults.notice rhythm restoreNotice now
    | .ok _ =>
      match selection.drafted platform participants response now store with
      | none => throw "memory exceeds document bound"
      | some note => do
        writeNote platform faults.note note
        let rhythm := store.rhythm.reflected note.scope now
        writeRhythm faults.rhythm rhythm
        liftM faults.index
        match note.reflection.operatorNeed with
        | none => return none
        | some need => notice platform faults.notice rhythm (Note.needText note.scope need) now

/-! ## Forgetting -/

/-- What may go wrong while a person is forgotten. The files in `left` are not reached, when the
removal of one before them fails. -/
structure ForgetFaults where
  reading : Except String Unit
  rhythm : Storage
  history : Storage
  sessions : Except String Unit
  left : String → Bool
  index : Except String Unit

/-- The files of the notes that someone took part in. -/
def filesOf (inbox : String) (files : List (String × Note)) : List String :=
  (files.filter fun file => decide (inbox ∈ file.2.participants)).map Prod.fst

def removeFiles (left : String → Bool) (names : List String) : Fallible String Store Unit := do
  modify fun store => { store with
    memory := store.memory.filter fun file => !decide (file.1 ∈ names) || left file.1 }
  liftM (failIf (∃ name ∈ names, left name = true) "memory file cannot be removed")

def forget (faults : ForgetFaults) (listing : Listing) (inbox : String) (now : ℕ) :
    Fallible String Store Unit := do
  modify fun store => { store with epoch := store.epoch + 1 }
  let store ← get
  liftM faults.reading
  writeRhythm faults.rhythm (store.rhythm.forgot store.epoch)
  onJournal (forgetEntries faults.history inbox now)
  liftM faults.sessions
  let files ← liftM (notes listing store.memory)
  removeFiles faults.left (filesOf inbox files)
  liftM faults.index

end Cthuwu.Mind

/-! ## Runs of a Tentacle with a mind -/

namespace Cthuwu.Mind

inductive Stage
  | begun (selection : Selection)
  | recalled (selection : Selection) (crossRecall : String)
  | gathered (selection : Selection) (crossRecall : String) (participants : List String)
  | ended

def Stage.selection : Stage → Option Selection
  | .begun selection | .recalled selection _ | .gathered selection _ _ => some selection
  | .ended => none

structure Flight where
  stage : Stage
  runtime : String
  /-- Whose messages it has read, or notes derived from them. -/
  read : List String

structure World where
  store : Store
  /-- The reflections, in the order in which they began. -/
  flights : List Flight
  /-- Whom the note in a file is derived from. -/
  origins : String → List String

def Rhythm.empty : Rhythm :=
  { lastAttempt := 0
    lastNotice := 0
    noticeKey := ""
    status := ""
    memoryRevision := 0 }

def Store.empty : Store :=
  { journal := []
    memory := []
    rhythm := .empty
    epoch := 0 }

def World.empty : World :=
  { store := .empty
    flights := []
    origins := fun _ => [] }

inductive Event
  | record (storage : Storage) (chat : Chat) (message : Message) (now : ℕ)
  | prune (storage : Storage) (now : ℕ)
  | begin (faults : BeginFaults) (interval : Option ℕ) (listing : Listing) (runtime : String)
    (now : ℕ)
  | recall (index : ℕ) (listing : Listing) (now : ℕ)
  | gather (index : ℕ) (listing : Listing) (now : ℕ)
  | finish (index : ℕ) (faults : FinishFaults) (identity : String)
    (response : Except String Response) (now : ℕ)
  /-- A reflection fails, or is given up. -/
  | abandon (index : ℕ)
  | forget (faults : ForgetFaults) (listing : Listing) (inbox : String) (now : ℕ)
  | restart

variable (platform : Platform)

/-- Whom the notes are derived from. -/
def originsOf (origins : String → List String) (files : List (String × Note)) : List String :=
  files.flatMap fun file => origins file.1

/-- Whose messages a reflection has read once it has chosen a scope. -/
def Candidate.reads (origins : String → List String) (candidate : Candidate) : List String :=
  originsOf origins candidate.prior.toList ++ (shownEntries candidate.entries).map Entry.inbox

/-- Whose messages a recall for an operator shows. -/
def recallReads (origins : String → List String) (listing : Listing) (now : ℕ) (store : Store) :
    List String :=
  let words := queryWords platform operatorQuery
  match notes listing store.memory, readJournal now store.journal with
  | .ok files, .ok entries =>
    originsOf origins (recalledNotes platform words .operator files) ++
      (recalledEntries platform words .operator entries).map Entry.inbox
  | _, _ => []

def Flight.at (stage : Stage) (flight : Flight) : Flight :=
  { flight with stage := stage }

def World.moved (index : ℕ) (stage : Stage) (world : World) : World :=
  { world with flights := world.flights.modify index (Flight.at stage) }

def World.after (store : Store) (world : World) : World :=
  { world with store := store }

def World.stageOf (world : World) (index : ℕ) : Stage :=
  (world.flights[index]?.map Flight.stage).getD .ended

def World.readOf (world : World) (index : ℕ) : List String :=
  (world.flights[index]?.map Flight.read).getD []

def World.launch (selection : Selection) (runtime : String) (world : World) : World :=
  { world with
    flights := world.flights ++
      [{ stage := .begun selection
         runtime := runtime
         read := selection.candidate.reads world.origins }] }

def World.next (world : World) : Event → World
  | .record storage chat message now =>
    world.after ((onJournal (recordIn storage chat message now)).exec world.store).2
  | .prune storage now => world.after ((onJournal (Mind.prune storage now)).exec world.store).2
  | .begin faults interval listing runtime now =>
    let (result, store) := (beginReflection platform faults interval listing now).exec world.store
    let world := world.after store
    match result with
    | .ok (some selection) => world.launch selection runtime
    | _ => world
  | .recall index listing now =>
    match world.stageOf index with
    | .begun selection =>
      let scope := selection.candidate.scope
      match crossRecall platform listing now scope world.store with
      | .ok text =>
        let read := if isOperatorScope scope = true then
          recallReads platform world.origins listing now world.store else []
        { world with
          flights := world.flights.modify index fun flight =>
            { flight with
              stage := .recalled selection text
              read := flight.read ++ read } }
      | .error _ => world.moved index .ended
    | _ => world
  | .gather index listing now =>
    match world.stageOf index with
    | .recalled selection text =>
      match crossParticipants listing now selection.candidate.scope world.store with
      | .ok participants => world.moved index (.gathered selection text participants)
      | .error _ => world.moved index .ended
    | _ => world
  | .finish index faults _ response now =>
    match world.stageOf index with
    | .gathered selection _ participants =>
      let (_, store) := (finishReflection platform faults selection participants response
        now).exec world.store
      let origins :=
        match selection.drafted platform participants response now world.store with
        | some note =>
          if faults.note.replaces = true then
            Function.update world.origins (platform.digest note.scope) (world.readOf index)
          else world.origins
        | none => world.origins
      { (world.moved index .ended).after store with origins := origins }
    | _ => world
  | .abandon index => world.moved index .ended
  | .forget faults listing inbox now =>
    world.after ((Mind.forget faults listing inbox now).exec world.store).2
  | .restart =>
    { world with
      store := { world.store with epoch := world.store.rhythm.memoryRevision }
      flights := world.flights.map (Flight.at .ended) }

/-- A person is forgotten by the inbox that its messages are kept under. -/
def Event.Allowed : Event → Prop
  | .forget _ _ inbox _ => Operators.normalizeInboxId inbox = .ok inbox
  | _ => True

def machine : Machine World Event :=
  { init := .empty
    Allowed := fun _ event => event.Allowed
    next := World.next platform }

end Cthuwu.Mind
