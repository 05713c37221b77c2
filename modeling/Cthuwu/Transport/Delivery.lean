import Cthuwu.Lib.Storage
import Cthuwu.Protocol.ReplayGuard
import Cthuwu.Lib.Runs

/-!
# Delivery

A bounded log of published envelopes. `publish` checks the authenticated sender, the envelope, its
signature where one is required, the room left, the rate of the sender and the replay guard, and
only then writes : the guard, the rate, the next order and the log, one after another. A reader
takes a page of one council after a cursor.

Calls reach the transport in any order and with any clock, and one reader pages through a council
from the beginning. The transport and its replay guard agree on what was accepted
(`Delivers`, kept by `delivers_next`) : so no message is accepted twice, every sender counts up,
orders have no gap, and what the reader has is a prefix of what there is for it.
-/

namespace Cthuwu.Transport

open Council Protocol

def maxSubscriptionBatch : ℕ := 256

def senderRateWindowSeconds : ℤ := 60

def maxMessagesPerSenderPerWindow : ℕ := 128

def i64Max : ℕ := 9223372036854775807

def u64Max : ℕ := 18446744073709551615

/-- `isize::MAX` : no vector grows past it. -/
def vecCapacity : ℕ := 9223372036854775807

structure AuthenticatedSender where
  cthulhuId : CthulhuId
  tentacleId : TentacleId

structure PublishedCouncilMessage where
  order : ℕ
  messageId : Id .message
  envelope : CouncilEnvelope

inductive TransportError
  | invalid (error : ValidationError)
  | senderMismatch
  | signatureRejected
  | retentionLimit
  | invalidBatchSize
  | rateLimited
  | clockMovedBackwards

structure SenderRateWindow where
  startedAt : Timestamp
  messages : ℕ

structure TransportState where
  nextOrder : ℕ
  replayGuard : ReplayGuard
  retained : List PublishedCouncilMessage
  senderRates : HashMap (CthulhuId × TentacleId) SenderRateWindow

structure InMemoryCouncilTransport where
  maxRetained : ℕ
  requiredVerifier : Option CouncilVerifier
  state : TransportState

def newLocal (maxRetained maxSenders : ℕ) : Except TransportError InMemoryCouncilTransport := do
  failIf (maxRetained = 0) .retentionLimit
  let guard ← (ReplayGuard.new maxRetained maxSenders).mapError .invalid
  return ⟨maxRetained, none, ⟨1, guard, [], .empty⟩⟩

def InMemoryCouncilTransport.withRequiredSignatures (transport : InMemoryCouncilTransport)
    (verifier : CouncilVerifier) : InMemoryCouncilTransport :=
  { transport with requiredVerifier := some verifier }

/-- The clock counts in `u64`. -/
def transportNow (clock : ℕ) : Timestamp :=
  (min clock i64Max : ℕ)

abbrev Op (α : Type) := Fallible TransportError InMemoryCouncilTransport α

/-! ## Publishing -/

def AuthenticatedSender.key (sender : AuthenticatedSender) : CthulhuId × TentacleId :=
  (sender.cthulhuId, sender.tentacleId)

/-- The rate of a sender leaves room for a message. -/
def TransportState.checkRate (state : TransportState) (sender : AuthenticatedSender)
    (now : Timestamp) : Except TransportError Unit :=
  (state.senderRates.get sender.key).toList.forM fun rate => do
    failIf (now < rate.startedAt) .clockMovedBackwards
    failIf (now - rate.startedAt < senderRateWindowSeconds ∧
      maxMessagesPerSenderPerWindow ≤ rate.messages) .rateLimited

/-- Count a message in the window of its sender, or in a new one. -/
def countMessage (sender : AuthenticatedSender) (now : Timestamp) (state : TransportState) :
    TransportState :=
  let rate := (state.senderRates.get sender.key).getD ⟨now, 0⟩
  let rate := if senderRateWindowSeconds ≤ now - rate.startedAt then ⟨now, 0⟩ else rate
  { state with
    senderRates := state.senderRates.insert sender.key { rate with messages := rate.messages + 1 } }

def onState (f : TransportState → TransportState) (transport : InMemoryCouncilTransport) :
    InMemoryCouncilTransport :=
  { transport with state := f transport.state }

/-- Run an operation on the replay guard where it stands. -/
def onGuard (op : GuardOp Unit) : Op Unit :=
  Fallible.onPart TransportError.invalid (fun transport => transport.state.replayGuard)
    (fun guard => onState fun state => { state with replayGuard := guard }) op

/-- `checked_add(1)`. -/
def nextAfter (order : ℕ) : Except TransportError ℕ :=
  if order + 1 ≤ u64Max then .ok (order + 1) else .error .retentionLimit

/-- Take the next order and keep the message. -/
def retain (envelope : CouncilEnvelope) : Op PublishedCouncilMessage := do
  let transport ← get
  let published := ⟨transport.state.nextOrder, envelope.messageId, envelope⟩
  let next ← liftM (nextAfter transport.state.nextOrder)
  modify (onState fun state => { state with nextOrder := next })
  modify (onState fun state => { state with retained := state.retained ++ [published] })
  return published

variable [Hashing] [Wire]

def publish (clock : ℕ) (sender : AuthenticatedSender) (envelope : CouncilEnvelope) :
    Op PublishedCouncilMessage := do
  liftM (failIf (sender.cthulhuId ≠ envelope.senderCthulhuId ∨
    sender.tentacleId ≠ envelope.senderTentacleId) TransportError.senderMismatch)
  let now := transportNow clock
  liftM ((envelope.validateAt now).mapError TransportError.invalid)
  let transport ← get
  liftM (transport.requiredVerifier.toList.forM fun verifier =>
    (envelope.verifySignature verifier).mapError fun _ => TransportError.signatureRejected)
  liftM (failIf (transport.maxRetained ≤ transport.state.retained.length)
    TransportError.retentionLimit)
  liftM (transport.state.checkRate sender now)
  onGuard (checkAndRecord envelope now)
  modify (onState (countMessage sender now))
  retain envelope

def PublishedCouncilMessage.isOf (councilId : CouncilId) (message : PublishedCouncilMessage) :
    Bool :=
  message.envelope.councilId = councilId

def subscribe (councilId : CouncilId) (after limit : ℕ) : Op (List PublishedCouncilMessage) := do
  liftM (failIf (limit = 0 ∨ maxSubscriptionBatch < limit) TransportError.invalidBatchSize)
  let transport ← get
  return page PublishedCouncilMessage.order (·.isOf councilId) after limit transport.state.retained

/-! ## What a call does -/

variable {clock : ℕ} {sender : AuthenticatedSender} {envelope : CouncilEnvelope}
  {transport transport' : InMemoryCouncilTransport} {published : PublishedCouncilMessage}

theorem retain_ok (h : (retain envelope).exec transport = (.ok published, transport')) :
    published = ⟨transport.state.nextOrder, envelope.messageId, envelope⟩ ∧
      transport' = onState (fun state => { state with
        nextOrder := state.nextOrder + 1
        retained := state.retained ++ [published] }) transport := by
  unfold retain at h
  simp only [Fallible.exec_get_bind, Fallible.lift_bind_ok, Fallible.exec_modify_bind,
    Fallible.exec_pure, Prod.mk.injEq, Except.ok.injEq] at h
  obtain ⟨next, hnext, rfl, rfl⟩ := h
  unfold nextAfter at hnext
  split_ifs at hnext
  cases hnext
  exact ⟨rfl, rfl⟩

/-- Where an order is left, a message is kept. -/
theorem retain_succeeds (h : transport.state.nextOrder < u64Max) :
    ∃ published transport', (retain envelope).exec transport = (.ok published, transport') := by
  unfold retain
  have hnext : nextAfter transport.state.nextOrder = .ok (transport.state.nextOrder + 1) :=
    if_pos h
  rw [Fallible.exec_get_bind, Fallible.exec_lift_bind, hnext]
  exact ⟨_, _, rfl⟩

theorem onGuard_ok {op : GuardOp Unit} (h : (onGuard op).exec transport = (.ok (), transport')) :
    ∃ guard', op.exec transport.state.replayGuard = (.ok (), guard') ∧
      transport' = onState (fun state => { state with replayGuard := guard' }) transport := by
  unfold onGuard at h
  rw [Fallible.exec_onPart, Prod.mk.injEq, except_mapError_ok] at h
  exact ⟨_, Prod.ext h.1 rfl, h.2.symm⟩

/-- A published message is new to the guard, counts up, and is kept under the next order. -/
theorem publish_ok
    (h : (publish clock sender envelope).exec transport = (.ok published, transport')) :
    envelope.messageId ∉ transport.state.replayGuard.seenMessageIds ∧
      (∀ highest, transport.state.replayGuard.highestSequence.get envelope.sequenceKey =
        some highest → highest < envelope.sequence) ∧
      published = ⟨transport.state.nextOrder, envelope.messageId, envelope⟩ ∧
      transport'.state.nextOrder = transport.state.nextOrder + 1 ∧
      transport'.state.replayGuard = transport.state.replayGuard.record envelope ∧
      transport'.state.retained = transport.state.retained ++ [published] := by
  unfold publish at h
  simp only [Fallible.lift_bind_ok, exists_unit, Fallible.exec_get_bind] at h
  obtain ⟨-, -, -, -, -, h⟩ := h
  obtain ⟨_, guarded, hguarded, hretained⟩ := Fallible.bind_ok.mp h
  rw [Fallible.exec_modify_bind] at hretained
  obtain ⟨guard', hrecorded, rfl⟩ := onGuard_ok hguarded
  obtain ⟨hfresh, hcounts, rfl⟩ := checkAndRecord_ok hrecorded
  obtain ⟨rfl, rfl⟩ := retain_ok hretained
  exact ⟨hfresh, hcounts, rfl, rfl, rfl, rfl⟩

/-- Where an order is left, a publish that fails leaves the transport as it was. -/
theorem atomicAt_publish (h : transport.state.nextOrder < u64Max) :
    Fallible.AtomicAt (publish clock sender envelope) transport := by
  refine Fallible.atomicAt_lift_bind fun _ _ => Fallible.atomicAt_lift_bind fun _ _ => ?_
  refine Fallible.atomicAt_get_bind (Fallible.atomicAt_lift_bind fun _ _ => ?_)
  refine Fallible.atomicAt_lift_bind fun _ _ => Fallible.atomicAt_lift_bind fun _ _ => ?_
  refine Fallible.AtomicAt.bind_ok (Fallible.atomicAt_onPart (atomic_checkAndRecord.at _) rfl) ?_
  intro _ guarded hguarded
  obtain ⟨guard', -, rfl⟩ := onGuard_ok hguarded
  simp only [Fallible.exec_modify_bind]
  exact retain_succeeds h

end Cthuwu.Transport

/-! ## Delivery through the council transport -/

namespace Cthuwu.Transport

open Council Protocol

inductive Request
  | publish (clock : ℕ) (sender : AuthenticatedSender) (envelope : CouncilEnvelope)
  | subscribe (councilId : CouncilId) (after limit : ℕ)
  | poll (limit : ℕ)

/-- The transport, what `publish` has returned for which envelopes, and what the reader has. -/
structure World where
  transport : InMemoryCouncilTransport
  accepted : List (CouncilEnvelope × PublishedCouncilMessage)
  received : List PublishedCouncilMessage

/-- What there is for the readers of a council. -/
def World.messagesOf (w : World) (council : CouncilId) : List PublishedCouncilMessage :=
  (w.accepted.map (·.2)).filter (·.isOf council)

section

variable [Hashing] [Wire]

/-- The reader passes the order of the last message it has, and keeps what it gets. -/
def World.next (council : CouncilId) (w : World) : Request → World
  | .publish clock sender envelope =>
    match (publish clock sender envelope).exec w.transport with
    | (.ok published, transport) =>
      { w with transport, accepted := w.accepted ++ [(envelope, published)] }
    | (.error _, transport) => { w with transport }
  | .subscribe councilId after limit =>
    { w with transport := (subscribe councilId after limit).after w.transport }
  | .poll limit =>
    match (subscribe council (cursor PublishedCouncilMessage.order w.received) limit).exec
      w.transport with
    | (.ok messages, transport) => { w with transport, received := w.received ++ messages }
    | (.error _, transport) => { w with transport }

/-- The log is a vector : the program does not outlive a push onto a full one. -/
def World.Allowed (w : World) : Request → Prop
  | .publish .. => w.transport.state.retained.length < vecCapacity
  | _ => True

instance (w : World) (request : Request) : Decidable (w.Allowed request) := by
  unfold World.Allowed
  split <;> infer_instance

/-- A transport with its only reader of `council`. -/
def machine (transport : InMemoryCouncilTransport) (council : CouncilId) : Machine World Request where
  init := ⟨transport, [], []⟩
  Allowed := World.Allowed
  next := World.next council

end

/-- A transport as deployed, with required signatures or without. -/
def InMemoryCouncilTransport.requiring (transport : InMemoryCouncilTransport) :
    Option CouncilVerifier → InMemoryCouncilTransport
  | some verifier => transport.withRequiredSignatures verifier
  | none => transport

/-! ## The invariant -/

/-- The transport and its guard agree on what was accepted, and the reader is on its way. -/
structure Delivers (council : CouncilId) (w : World) : Prop where
  retained : w.transport.state.retained = w.accepted.map (·.2)
  returned : ∀ x ∈ w.accepted, x.2.messageId = x.1.messageId ∧ x.2.envelope = x.1
  nextOrder : w.transport.state.nextOrder = w.transport.state.retained.length + 1
  numbered : NumberedFromOne PublishedCouncilMessage.order w.transport.state.retained
  guards : w.transport.state.replayGuard.Guards (w.accepted.map (·.1))
  received : w.received <+: w.transport.state.retained.filter (·.isOf council)

section

variable [Hashing] [Wire] {council : CouncilId} {w : World} {clock limit : ℕ}
  {sender : AuthenticatedSender} {envelope : CouncilEnvelope}

theorem Delivers.messagesOf (h : Delivers council w) :
    w.transport.state.retained.filter (·.isOf council) = w.messagesOf council := by
  rw [h.retained]
  rfl

theorem Delivers.order_left (h : Delivers council w)
    (hfits : w.transport.state.retained.length < vecCapacity) :
    w.transport.state.nextOrder < u64Max := by
  rw [h.nextOrder]
  unfold vecCapacity at hfits
  unfold u64Max
  omega

theorem delivers_publish (h : Delivers council w)
    (hfits : w.transport.state.retained.length < vecCapacity) :
    Delivers council (w.next council (.publish clock sender envelope)) := by
  rcases hexec : (publish clock sender envelope).exec w.transport with ⟨result, transport⟩
  simp only [World.next, hexec]
  cases result with
  | error e =>
    have hafter : transport = w.transport := by
      have hatomic := atomicAt_publish (h.order_left hfits) e (congrArg Prod.fst hexec)
      unfold Fallible.after at hatomic
      rwa [hexec] at hatomic
    rw [hafter]
    exact ⟨h.retained, h.returned, h.nextOrder, h.numbered, h.guards, h.received⟩
  | ok published =>
    obtain ⟨hfresh, hcounts, rfl, hnext, hguard, hretained⟩ := publish_ok hexec
    refine ⟨?_, ?_, ?_, ?_, ?_, ?_⟩
    · rw [hretained, h.retained, List.map_append]
      rfl
    · intro x hx
      rcases List.mem_append.mp hx with hx | hx
      · exact h.returned x hx
      · rw [List.mem_singleton.mp hx]
        exact ⟨rfl, rfl⟩
    · rw [hnext, hretained, h.nextOrder, List.length_append, List.length_singleton]
    · rw [hretained]
      exact h.numbered.concat h.nextOrder
    · rw [hguard, List.map_append]
      exact h.guards.record hfresh hcounts
    · rw [hretained, List.filter_append]
      exact h.received.trans (List.prefix_append _ _)

theorem subscribe_after (councilId : CouncilId) (after limit : ℕ)
    (transport : InMemoryCouncilTransport) :
    (subscribe councilId after limit).after transport = transport := by
  refine Fallible.ReadOnly.bind (Fallible.readOnly_lift _) (fun _ => ?_) transport
  exact Fallible.readOnly_get.bind fun _ _ => rfl

variable {rest : List PublishedCouncilMessage}

/-- A poll of a batch size that is allowed gives the next messages. -/
theorem poll_received (h : Delivers council w) (hpositive : 1 ≤ limit)
    (hbatch : limit ≤ maxSubscriptionBatch) (hrest : w.messagesOf council = w.received ++ rest) :
    w.next council (.poll limit) = { w with received := w.received ++ rest.take limit } := by
  have hlimit : failIf (limit = 0 ∨ maxSubscriptionBatch < limit)
      TransportError.invalidBatchSize = .ok () := by
    refine if_neg ?_
    rintro (hzero | hlarge)
    · omega
    · omega
  have hpage := page_next limit h.numbered (h.messagesOf.trans hrest)
  unfold World.next subscribe
  simp only [Fallible.exec_lift_bind, hlimit, Fallible.exec_get_bind, Fallible.exec_pure, hpage]

theorem delivers_poll (limit : ℕ) (h : Delivers council w) :
    Delivers council (w.next council (.poll limit)) := by
  by_cases hlimit : limit = 0 ∨ maxSubscriptionBatch < limit
  · have hsame : w.next council (.poll limit) = w := by
      unfold World.next subscribe
      simp only [Fallible.exec_lift_bind, failIf, if_pos hlimit]
    rwa [hsame]
  · have hreceived := h.received
    rw [h.messagesOf] at hreceived
    obtain ⟨rest, hrest⟩ := hreceived
    rw [poll_received h (by omega) (by omega) hrest.symm]
    refine ⟨h.retained, h.returned, h.nextOrder, h.numbered, h.guards, ?_⟩
    rw [h.messagesOf, ← hrest]
    exact (List.prefix_append_right_inj _).mpr (List.take_prefix _ _)

theorem delivers_next (h : Delivers council w) {request : Request} (hallowed : w.Allowed request) :
    Delivers council (w.next council request) := by
  cases request with
  | publish clock sender envelope => exact delivers_publish h hallowed
  | subscribe councilId after limit =>
    have hsame : w.next council (.subscribe councilId after limit) = w := by
      simp only [World.next, subscribe_after]
    rwa [hsame]
  | poll limit => exact delivers_poll limit h

theorem delivers_polls (h : Delivers council w) {limits : List ℕ}
    (hlimits : ∀ limit ∈ limits, 1 ≤ limit ∧ limit ≤ maxSubscriptionBatch)
    (hrest : w.messagesOf council = w.received ++ rest) :
    ((limits.map Request.poll).foldl (World.next council) w).received =
      w.received ++ rest.take limits.sum := by
  induction limits generalizing w rest with
  | nil => rw [List.sum_nil, List.take_zero, List.append_nil]; rfl
  | cons limit limits ih =>
    obtain ⟨⟨hpositive, hbatch⟩, hlimits⟩ := List.forall_mem_cons.mp hlimits
    have hpoll := poll_received h hpositive hbatch hrest
    have hdelivers := delivers_poll limit h
    rw [List.map_cons, List.foldl_cons]
    rw [hpoll] at hdelivers ⊢
    have hsplit : w.messagesOf council = (w.received ++ rest.take limit) ++ rest.drop limit := by
      rw [List.append_assoc, List.take_append_drop, hrest]
    rw [ih hdelivers hlimits hsplit, List.sum_cons, List.append_assoc, List.take_add]

variable {initial : InMemoryCouncilTransport} {maxRetained maxSenders : ℕ}

theorem delivers_init (hnew : newLocal maxRetained maxSenders = .ok initial)
    (verifier : Option CouncilVerifier) :
    Delivers council (machine (initial.requiring verifier) council).init := by
  unfold newLocal ReplayGuard.new at hnew
  simp only [except_bind_ok, exists_unit, except_mapError_ok, failIf_ok, except_pure_ok] at hnew
  obtain ⟨-, guard, ⟨-, rfl⟩, rfl⟩ := hnew
  have hstate : ((InMemoryCouncilTransport.mk maxRetained none
      ⟨1, ⟨maxRetained, maxSenders, ∅, .empty⟩, [], .empty⟩).requiring verifier).state =
        ⟨1, ⟨maxRetained, maxSenders, ∅, .empty⟩, [], .empty⟩ := by
    cases verifier <;> rfl
  unfold machine
  refine ⟨?_, ?_, ?_, ?_, guards_nil, List.nil_prefix⟩
  · rw [hstate]
    rfl
  · exact fun x hx => absurd hx List.not_mem_nil
  · rw [hstate]
    rfl
  · rw [hstate]
    rfl

/-- Every reachable transport has accepted each message once, every sender in a council counted up,
and the orders have no gap. A publish that fails changes nothing. The reader has a prefix of the
messages of its council, and further pages of any sizes continue it. -/
theorem exactly_once_delivery (hnew : newLocal maxRetained maxSenders = .ok initial)
    (verifier : Option CouncilVerifier)
    (hw : (machine (initial.requiring verifier) council).Reachable w) :
    (w.accepted.map (·.1.messageId)).Nodup ∧ CountsUp (w.accepted.map (·.1)) ∧
    w.accepted.map (·.2.order) = List.range' 1 w.accepted.length ∧
    (∀ x ∈ w.accepted, x.2.messageId = x.1.messageId ∧ x.2.envelope = x.1) ∧
    (∀ clock sender envelope e, w.Allowed (.publish clock sender envelope) →
      ((publish clock sender envelope).exec w.transport).1 = .error e →
        (publish clock sender envelope).after w.transport = w.transport) ∧
    w.received <+: w.messagesOf council ∧
    ∀ limits : List ℕ, (∀ limit ∈ limits, 1 ≤ limit ∧ limit ≤ maxSubscriptionBatch) →
      ((limits.map Request.poll).foldl (World.next council) w).received =
        (w.messagesOf council).take (w.received.length + limits.sum) := by
  have h : Delivers council w :=
    hw.invariant (delivers_init hnew verifier) fun s l _ hs hl => delivers_next hs hl
  have hreceived := h.received
  rw [h.messagesOf] at hreceived
  refine ⟨?_, h.guards.countsUp, ?_, h.returned, ?_, hreceived, ?_⟩
  · have hnodup := h.guards.nodup
    rwa [List.map_map] at hnodup
  · have hnumbered := h.numbered
    unfold NumberedFromOne at hnumbered
    rwa [h.retained, List.map_map, List.length_map] at hnumbered
  · exact fun clock sender envelope e hfits he => atomicAt_publish (h.order_left hfits) e he
  · intro limits hlimits
    obtain ⟨rest, hrest⟩ := hreceived
    rw [delivers_polls h hlimits hrest.symm, ← hrest, List.take_length_add_append]

end

/-! ## A sample run -/

section

@[reducible] def sampleLength : Wire where
  encodedLen _ := .ok 337
  canonicalSigningBytes _ := .error ()

attribute [local instance] sampleHashing sampleLength

def sampleCouncil : CouncilId :=
  ⟨"council_local", by decide⟩

def sampleSender : AuthenticatedSender where
  cthulhuId := ⟨"cthulhu_archivist", by decide⟩
  tentacleId := ⟨"tentacle_archivist", by decide⟩

def sampleEnvelope (messageId : Id .message) (sequence : ℕ) : CouncilEnvelope where
  protocol := councilProtocolName
  version := .first
  messageId := messageId
  councilId := sampleCouncil
  senderCthulhuId := sampleSender.cthulhuId
  senderTentacleId := sampleSender.tentacleId
  sentAt := 100
  expiresAt := 200
  sequence := sequence
  payload := .councilMemberWithdraw sampleSender.cthulhuId (some "fixture")
  signature := none

/-- Two messages are published, one of them twice, and the reader asks for them one by one. -/
def sampleRequests : List Request :=
  [.publish 110 sampleSender (sampleEnvelope ⟨"msg_first", by decide⟩ 1), .poll 1,
    .publish 110 sampleSender (sampleEnvelope ⟨"msg_first", by decide⟩ 2),
    .publish 110 sampleSender (sampleEnvelope ⟨"msg_other", by decide⟩ 2), .poll 0, .poll 1]

def sampleTransport : InMemoryCouncilTransport :=
  ⟨8, none, ⟨1, ⟨8, 4, ∅, .empty⟩, [], .empty⟩⟩

def sampleWorld : World :=
  sampleRequests.foldl (World.next sampleCouncil) (machine sampleTransport sampleCouncil).init

example : sampleWorld.received.map (·.order) = [1, 2] := by
  decide

theorem exactly_once_delivery_sample : newLocal 8 4 = .ok sampleTransport ∧
    (machine (sampleTransport.requiring none) sampleCouncil).Reachable sampleWorld ∧
    (sampleWorld.accepted.map (·.1.messageId)).Nodup := by
  have hnew : newLocal 8 4 = .ok sampleTransport := rfl
  have hadmits : (machine sampleTransport sampleCouncil).Admits
      (machine sampleTransport sampleCouncil).init sampleRequests := by
    unfold machine
    decide
  have hreachable : (machine (sampleTransport.requiring none) sampleCouncil).Reachable sampleWorld :=
    Machine.Reachable.run .init hadmits
  exact ⟨hnew, hreachable, (exactly_once_delivery hnew none hreachable).1⟩

end

end Cthuwu.Transport
