import Cthuwu.Hermes.Convergence

/-!
# Two nodes that exchange what they know

`exchange` runs two nodes side by side. Each answers the calls of anybody else, offers batches
and summaries to the other, and gets what the other has sent : late, again, in any order or not
at all. `Truthful` says that neither is known to have more than it has admitted, so that nothing
the other lacks is held back (`exchange_settled`) and nothing it is known to have gets lost.
-/

namespace Cthuwu.Hermes

open Council HermesNode Fallible

/-! ## The exchange -/

inductive Side
  | left
  | right
  deriving DecidableEq

def Side.other : Side → Side
  | left => right
  | right => left

theorem Side.other_ne (side : Side) : side.other ≠ side := by
  cases side <;> decide

@[simp] theorem Side.other_other (side : Side) : side.other.other = side := by
  cases side <;> rfl

theorem Side.eq_or_other (side side' : Side) : side' = side ∨ side' = side.other := by
  cases side <;> cases side' <;> decide

/-- The peer that a request comes from. -/
def Request.sender : Request → Option String
  | applySummary peerId _ _ => some peerId
  | acknowledge peerId _ _ => some peerId
  | receive peerId _ _ => some peerId
  | _ => none

/-- A step of a node : a call of anybody else, an offer to the other node, or a message of the
other node. -/
inductive Exchange
  | call (request : Request)
  | offer (requestedLimit : ℕ)
  | summarize
  | deliver (envelope : KnowledgeEnvelope) (receivedAtMs : ℕ)
  | reconcile (summary : AntiEntropySummary) (receivedAtMs : ℕ)
  | acknowledge (acknowledgements : List KnowledgeDigest) (receivedAtMs : ℕ)

section

variable [Hashing]

/-- A node with what it has sent to the other and what it has received from it. -/
structure Party where
  world : World
  sent : List KnowledgeEnvelope
  summaries : List AntiEntropySummary
  receipts : List KnowledgeDigest

abbrev Pair := Side → Party

def Pair.init (foundings : Side → Founding) : Pair := fun side =>
  { world := .init (foundings side), sent := [], summaries := [], receipts := [] }

/-- The receipt of an envelope that was accepted. -/
def World.receipt (w : World) (request : Request) (envelope : KnowledgeEnvelope) :
    List KnowledgeDigest :=
  if (request.run.exec w.node).1.isOk then
    [⟨envelope.authored.item.id, envelope.authored.digest⟩]
  else []

/-- The party after a step, with the name of the other one. -/
def Party.step (otherId : String) (party : Party) : Exchange → Party
  | .call request => { party with world := party.world.step request }
  | .offer requestedLimit => { party with
      sent := party.sent ++
        (party.world.node.outboundBatch otherId requestedLimit).toOption.getD [] }
  | .summarize => { party with
      summaries := party.summaries ++ party.world.node.outboundSummary.toList }
  | .deliver envelope receivedAtMs => { party with
      world := party.world.step (.receive otherId envelope receivedAtMs)
      receipts := party.receipts ++
        party.world.receipt (.receive otherId envelope receivedAtMs) envelope }
  | .reconcile summary receivedAtMs => { party with
      world := party.world.step (.applySummary otherId summary receivedAtMs) }
  | .acknowledge acknowledgements receivedAtMs => { party with
      world := party.world.step (.acknowledge otherId acknowledgements receivedAtMs) }

/-- The messages come from what the other has sent and received, and nobody else calls in its
name. -/
def Exchange.Honest (otherId : String) (other : Party) : Exchange → Prop
  | call request => request.sender ≠ some otherId
  | deliver envelope _ => envelope ∈ other.sent
  | reconcile summary _ => summary ∈ other.summaries
  | acknowledge acknowledgements _ => ∀ entry ∈ acknowledgements, entry ∈ other.receipts
  | _ => True

/-- Two nodes, each of which takes any steps in any order. -/
def exchange (foundings : Side → Founding) : Machine Pair (Side × Exchange) where
  init := .init foundings
  Allowed p step := step.2.Honest (foundings step.1.other).localPeerId (p step.1.other)
  next p step := Function.update p step.1
    ((p step.1).step (foundings step.1.other).localPeerId step.2)

/-! ## What the nodes know of each other -/

/-- A record with the digest is among those admitted. -/
def World.Holds (w : World) (id digest : String) : Prop :=
  ∃ a ∈ w.admitted, a.item.id = id ∧ a.digest = digest

/-- Neither node is known to have, nor claims to have, what it has not admitted. -/
structure Truthful (foundings : Side → Founding) (p : Pair) : Prop where
  reachable : ∀ side, (machine (foundings side)).Reachable (p side).world
  known : ∀ side id digest,
    (p side).world.node.knownDigest (foundings side.other).localPeerId id = some digest →
      (p side.other).world.Holds id digest
  sent : ∀ side, ∀ envelope ∈ (p side).sent, envelope.authored ∈ (p side).world.admitted
  summaries : ∀ side, ∀ summary ∈ (p side).summaries, ∀ entry ∈ summary.entries,
    (p side).world.Holds entry.knowledgeId entry.digest
  receipts : ∀ side, ∀ entry ∈ (p side).receipts,
    (p side).world.Holds entry.knowledgeId entry.digest

/-- What a request says that a peer has. -/
def Request.Tells (peerId id digest : String) : Request → Prop
  | applySummary sender summary _ => sender = peerId ∧ ⟨id, digest⟩ ∈ summary.entries
  | acknowledge sender acknowledgements _ => sender = peerId ∧ ⟨id, digest⟩ ∈ acknowledgements
  | receive sender envelope _ =>
    sender = peerId ∧ envelope.authored.item.id = id ∧ envelope.authored.digest = digest
  | _ => False

variable {founding : Founding} {foundings : Side → Founding} {p : Pair} {w : World}
  {request : Request} {node : HermesNode} {record : StoredKnowledge} {note : Note}
  {peerId otherId id digest : String} {receivedAtMs : ℕ} {party other : Party} {step : Exchange}

theorem noteOf_tells (h : node.noteOf request = some (peerId, receivedAtMs, note))
    (hshows : note.Shows id digest) : request.Tells peerId id digest := by
  cases request with
  | applySummary =>
    rw [noteOf, Option.map_eq_some_iff] at h
    obtain ⟨peer, -, heq⟩ := h
    cases heq
    exact ⟨rfl, hshows⟩
  | acknowledge =>
    rw [noteOf, Option.map_eq_some_iff] at h
    obtain ⟨⟨peer, accepted⟩, hcheck, heq⟩ := h
    cases heq
    exact ⟨rfl, ((checkAcknowledgements_ok (toOption_eq_some.mp hcheck)).2 id digest hshows).2⟩
  | receive =>
    rw [noteOf, Option.map_eq_some_iff] at h
    obtain ⟨found, -, heq⟩ := h
    cases heq
    exact ⟨rfl, hshows⟩
  | setSacredBan => cases h
  | connectPeer => cases h
  | publish => cases h

/-- A node learns of a peer only what a request tells. -/
theorem knownDigest_tells (h : (w.step request).node.knownDigest peerId id = some digest) :
    w.node.knownDigest peerId id = some digest ∨ request.Tells peerId id digest := by
  rw [knownDigest_step] at h
  cases hnote : w.node.noteOf request with
  | none =>
    unfold noted at h
    rw [hnote] at h
    exact .inl h
  | some noted =>
    obtain ⟨sender, receivedAtMs, note⟩ := noted
    rcases knownDigest_noted hnote h with hknown | ⟨rfl, hshows⟩
    · exact .inl hknown
    · exact .inr (noteOf_tells hnote hshows)

theorem admitted_subset_step (w : World) (request : Request) :
    w.admitted ⊆ (w.step request).admitted := by
  unfold World.step
  split
  · exact List.subset_append_left _ _
  · exact List.Subset.refl _

theorem World.Holds.mono {w' : World} (h : w.Holds id digest) (hsubset : w.admitted ⊆ w'.admitted) :
    w'.Holds id digest := by
  obtain ⟨a, ha, heq⟩ := h
  exact ⟨a, hsubset ha, heq⟩

theorem reachable_holds (h : (machine founding).Reachable w)
    (hget : w.node.state.knowledge.get id = some record) :
    record.authored ∈ w.admitted ∧ record.authored.item.id = id ∧
      record.authored.digest = record.digest := by
  have hitems : w.node.items id = some record.authored := congrArg (Option.map _) hget
  obtain ⟨hmem, hid⟩ := (reachable_selects h).sound id _ hitems
  exact ⟨hmem, hid, ((reachable_stored h).record id record hget).2.digest⟩

/-! ## Steps -/

theorem party_step_admitted (otherId : String) (party : Party) (step : Exchange) :
    party.world.admitted ⊆ (party.step otherId step).world.admitted := by
  cases step with
  | call => exact admitted_subset_step _ _
  | offer => exact List.Subset.refl _
  | summarize => exact List.Subset.refl _
  | deliver => exact admitted_subset_step _ _
  | reconcile => exact admitted_subset_step _ _
  | acknowledge => exact admitted_subset_step _ _

theorem party_step_reachable (h : (machine founding).Reachable party.world) (step : Exchange) :
    (machine founding).Reachable (party.step otherId step).world := by
  cases step with
  | call => exact h.next trivial
  | offer => exact h
  | summarize => exact h
  | deliver => exact h.next trivial
  | reconcile => exact h.next trivial
  | acknowledge => exact h.next trivial

/-- A party learns of the other only what the other has. -/
theorem party_step_known (hhonest : step.Honest otherId other)
    (hsent : ∀ envelope ∈ other.sent, envelope.authored ∈ other.world.admitted)
    (hsummaries : ∀ summary ∈ other.summaries, ∀ entry ∈ summary.entries,
      other.world.Holds entry.knowledgeId entry.digest)
    (hreceipts : ∀ entry ∈ other.receipts, other.world.Holds entry.knowledgeId entry.digest)
    (h : (party.step otherId step).world.node.knownDigest otherId id = some digest) :
    party.world.node.knownDigest otherId id = some digest ∨ other.world.Holds id digest := by
  cases step with
  | call request =>
    refine (knownDigest_tells h).imp_right fun htells => absurd ?_ hhonest
    cases request with
    | applySummary | acknowledge | receive => exact congrArg some htells.1
    | setSacredBan | connectPeer | publish => exact htells.elim
  | offer => exact .inl h
  | summarize => exact .inl h
  | deliver envelope receivedAtMs =>
    exact (knownDigest_tells h).imp_right fun htells => ⟨_, hsent envelope hhonest, htells.2⟩
  | reconcile summary receivedAtMs =>
    exact (knownDigest_tells h).imp_right fun htells => hsummaries summary hhonest _ htells.2
  | acknowledge acknowledgements receivedAtMs =>
    exact (knownDigest_tells h).imp_right fun htells => hreceipts _ (hhonest _ htells.2)

theorem party_step_sent (hreachable : (machine founding).Reachable party.world)
    (h : ∀ envelope ∈ party.sent, envelope.authored ∈ party.world.admitted) :
    ∀ envelope ∈ (party.step otherId step).sent,
      envelope.authored ∈ (party.step otherId step).world.admitted := by
  have hkept := party_step_admitted otherId party step
  cases step with
  | offer requestedLimit =>
    intro envelope hmem
    rcases List.mem_append.mp hmem with hmem | hmem
    · exact h envelope hmem
    · cases hbatch : party.world.node.outboundBatch otherId requestedLimit with
      | error err =>
        rw [hbatch] at hmem
        exact absurd hmem List.not_mem_nil
      | ok batch =>
        rw [hbatch] at hmem
        obtain ⟨id, record, hget, hauthored⟩ := outboundBatch_stored hbatch hmem
        rw [hauthored]
        exact (reachable_holds hreachable hget).1
  | call | summarize | deliver | reconcile | acknowledge =>
    exact fun envelope hmem => hkept (h envelope hmem)

theorem party_step_summaries (hreachable : (machine founding).Reachable party.world)
    (h : ∀ summary ∈ party.summaries, ∀ entry ∈ summary.entries,
      party.world.Holds entry.knowledgeId entry.digest) :
    ∀ summary ∈ (party.step otherId step).summaries, ∀ entry ∈ summary.entries,
      (party.step otherId step).world.Holds entry.knowledgeId entry.digest := by
  have hkept := party_step_admitted otherId party step
  cases step with
  | summarize =>
    intro summary hmem entry hentry
    rcases List.mem_append.mp hmem with hmem | hmem
    · exact h summary hmem entry hentry
    · have hsummary := Option.mem_toList.mp hmem
      unfold outboundSummary at hsummary
      split_ifs at hsummary
      · cases hsummary
        obtain ⟨record, hget, hdigest⟩ := mem_digests.mp hentry
        obtain ⟨hadmitted, hid, heq⟩ := reachable_holds hreachable hget
        exact ⟨_, hadmitted, hid, heq.trans hdigest⟩
  | call | offer | deliver | reconcile | acknowledge =>
    exact fun summary hmem entry hentry => (h summary hmem entry hentry).mono hkept

theorem party_step_receipts
    (h : ∀ entry ∈ party.receipts, party.world.Holds entry.knowledgeId entry.digest) :
    ∀ entry ∈ (party.step otherId step).receipts,
      (party.step otherId step).world.Holds entry.knowledgeId entry.digest := by
  have hkept := party_step_admitted otherId party step
  cases step with
  | deliver envelope receivedAtMs =>
    intro entry hmem
    rcases List.mem_append.mp hmem with hmem | hmem
    · exact (h entry hmem).mono hkept
    · unfold World.receipt at hmem
      split_ifs at hmem with hok
      · rw [List.mem_singleton.mp hmem]
        refine ⟨envelope.authored, ?_, rfl, rfl⟩
        change _ ∈ (party.world.step (.receive otherId envelope receivedAtMs)).admitted
        unfold World.step
        rcases hrun : (Request.receive otherId envelope receivedAtMs).run.exec
          party.world.node with ⟨err | reply, node⟩
        · rw [hrun] at hok
          exact absurd hok Bool.false_ne_true
        · exact List.mem_append_right _ List.mem_cons_self
      · exact absurd hmem List.not_mem_nil
  | call | offer | summarize | reconcile | acknowledge =>
    exact fun entry hmem => (h entry hmem).mono hkept

/-! ## Runs -/

theorem truthful_init (foundings : Side → Founding) : Truthful foundings (.init foundings) where
  reachable := fun _ => .init
  known := by
    intro side id digest hknown
    obtain ⟨-, -, hnode⟩ := new_ok.mp (foundings side).founded
    change (foundings side).node.knownDigest _ id = some digest at hknown
    unfold knownDigest at hknown
    rw [hnode, HashMap.get_empty] at hknown
    exact absurd hknown (Option.some_ne_none _).symm
  sent := fun _ _ hmem => absurd hmem List.not_mem_nil
  summaries := fun _ _ hmem => absurd hmem List.not_mem_nil
  receipts := fun _ _ hmem => absurd hmem List.not_mem_nil

theorem truthful_step (h : Truthful foundings p) (side : Side)
    (hhonest : step.Honest (foundings side.other).localPeerId (p side.other)) :
    Truthful foundings ((exchange foundings).next p (side, step)) := by
  set party := (p side).step (foundings side.other).localPeerId step with hparty
  have hself : (exchange foundings).next p (side, step) side = party := Function.update_self ..
  have hother : (exchange foundings).next p (side, step) side.other = p side.other :=
    Function.update_of_ne side.other_ne ..
  have hkept : (p side).world.admitted ⊆ party.world.admitted := party_step_admitted _ _ _
  have hknown {id digest : String}
      (h' : party.world.node.knownDigest (foundings side.other).localPeerId id = some digest) :
      (p side.other).world.Holds id digest :=
    (party_step_known hhonest (h.sent side.other) (h.summaries side.other)
      (h.receipts side.other) h').elim (h.known side id digest) fun hholds => hholds
  refine ⟨fun side' => ?_, fun side' => ?_, fun side' => ?_, fun side' => ?_, fun side' => ?_⟩
  all_goals obtain rfl | rfl := side.eq_or_other side'
  · rw [hself]
    exact party_step_reachable (h.reachable side') step
  · rw [hother]
    exact h.reachable side.other
  · rw [hself, hother]
    exact fun id digest => hknown
  · rw [hother, Side.other_other, hself]
    intro id digest hknown
    have hholds := h.known side.other id digest (by rwa [Side.other_other])
    rw [Side.other_other] at hholds
    exact hholds.mono hkept
  · rw [hself]
    exact party_step_sent (h.reachable side') (h.sent side')
  · rw [hother]
    exact h.sent side.other
  · rw [hself]
    exact party_step_summaries (h.reachable side') (h.summaries side')
  · rw [hother]
    exact h.summaries side.other
  · rw [hself]
    exact party_step_receipts (h.receipts side')
  · rw [hother]
    exact h.receipts side.other

theorem reachable_truthful (h : (exchange foundings).Reachable p) : Truthful foundings p :=
  h.invariant (truthful_init foundings) fun _ ⟨side, _⟩ _ hp hhonest =>
    truthful_step hp side hhonest

/-- What one keeps of an item, the other has admitted, once nothing is due to it. -/
theorem settled_subset (h : Truthful foundings p)
    (hfree : CollisionFree {a | ∃ side, a ∈ (p side).world.admitted}) {side : Side}
    {requestedLimit : ℕ} (hsend : (p side).world.node.canSend = true) (hlimit : requestedLimit ≠ 0)
    (hbatch : (p side).world.node.outboundBatch (foundings side.other).localPeerId requestedLimit =
      .ok []) {a : AuthoredKnowledge} (ha : (p side).world.node.items id = some a) :
    a ∈ (p side.other).world.admitted := by
  obtain ⟨record, hget, rfl⟩ := Option.map_eq_some_iff.mp ha
  obtain ⟨hmem, hid, hdigest⟩ := reachable_holds (h.reachable side) hget
  cases hpeer : (p side).world.node.state.peers.get (foundings side.other).localPeerId with
  | none =>
    unfold outboundBatch requirePeer at hbatch
    rw [hpeer] at hbatch
    cases hbatch
  | some peer =>
    have hknown := outboundBatch_nil hpeer hsend hlimit hbatch hget
    obtain ⟨b, hb, -, hsame⟩ := h.known side id record.digest hknown
    obtain rfl := hfree.eq ⟨side, hmem⟩ ⟨side.other, hb⟩ (hdigest.trans hsame.symm)
    exact hb

/-- Two nodes that have nothing to send to each other hold the same item map. -/
theorem exchange_settled (h : (exchange foundings).Reachable p)
    (hkeyring : (foundings .left).node.keyring = (foundings .right).node.keyring)
    (hfree : CollisionFree {a | ∃ side, a ∈ (p side).world.admitted})
    (hsend : ∀ side, (p side).world.node.canSend = true) {limits : Side → ℕ}
    (hlimits : ∀ side, limits side ≠ 0)
    (hsettled : ∀ side, (p side).world.node.outboundBatch (foundings side.other).localPeerId
      (limits side) = .ok []) :
    (p .left).world.node.items = (p .right).world.node.items := by
  have htruthful := reachable_truthful h
  have hleft := reachable_selects (htruthful.reachable .left)
  have hright := reachable_selects (htruthful.reachable .right)
  rw [← hkeyring] at hright
  refine hleft.agree hright (fun a ha b hb => ?_) (fun k a ha => ?_) fun k a ha => ?_
  · exact hfree.standing_inj ⟨.left, ha⟩ ⟨.right, hb⟩
  · exact settled_subset htruthful hfree (hsend .left) (hlimits .left) (hsettled .left) ha
  · exact settled_subset htruthful hfree (hsend .right) (hlimits .right) (hsettled .right) ha

/-- Nodes select the maximum of the authentic records they have been given, whatever the order
and however often, and two that have nothing more to send to each other hold the same map. -/
theorem exchange_converges : (∀ {founding : Founding} {w : World}, (machine founding).Reachable w →
      CollisionFree {a | a ∈ w.admitted} →
        (∀ id a, w.node.items id = some a ↔ a ∈ w.admitted ∧ a.item.id = id ∧
          ∀ b ∈ w.admitted, b.item.id = id →
            b.standing founding.node.keyring ≤ a.standing founding.node.keyring) ∧
        (∀ request record, w.node.Authentic request → w.node.recordOf request = some record →
          (w.node.state.knowledge.get record.authored.item.id = none →
            w.node.state.knowledge.len < maxKnowledgeItems) →
          (w.step request).admitted = w.admitted ++ [record.authored] ∧
            (w.step request).node.items =
              merging founding.node.keyring w.node.items record.authored)) ∧
    (∀ {founding founding' : Founding} {w w' : World}, (machine founding).Reachable w →
      (machine founding').Reachable w' → founding.node.keyring = founding'.node.keyring →
        CollisionFree {a | a ∈ w.admitted} → (∀ a, a ∈ w.admitted ↔ a ∈ w'.admitted) →
          w.node.items = w'.node.items) ∧
    (∀ (keyring : TrustedKeyring) (items : String → Option AuthoredKnowledge)
      (a b : AuthoredKnowledge), CollisionFree {a, b} →
        merging keyring (merging keyring items a) b = merging keyring (merging keyring items b) a ∧
        (a.item.id = b.item.id → merging keyring (merging keyring items a) b =
          merging keyring items (greater (AuthoredKnowledge.standing keyring) (some a) b)) ∧
        merging keyring (merging keyring items a) a = merging keyring items a) ∧
    (∀ {foundings : Side → Founding} {p : Pair}, (exchange foundings).Reachable p →
      (foundings .left).node.keyring = (foundings .right).node.keyring →
        CollisionFree {a | ∃ side, a ∈ (p side).world.admitted} →
          (∀ side, (p side).world.node.canSend = true) → ∀ limits : Side → ℕ,
            (∀ side, limits side ≠ 0) →
              (∀ side, (p side).world.node.outboundBatch (foundings side.other).localPeerId
                (limits side) = .ok []) →
                (p .left).world.node.items = (p .right).world.node.items) := by
  refine ⟨fun h hfree => ⟨fun id a => items_eq_some_iff h hfree, ?_⟩, ?_, ?_, ?_⟩
  · intro request record hauthentic hrecord hroom
    have hadmitted := step_admitted (reachable_stored h) hauthentic hrecord hroom
    exact ⟨hadmitted, step_items h hadmitted⟩
  · intro founding founding' w w' h h' hkeyring hfree hsame
    exact items_eq_of_same_records h h' hkeyring hfree hsame
  · intro keyring items a b hfree
    refine ⟨hearing_comm fun heq => ?_, fun hkey => ?_, hearing_idem⟩
    · exact hfree.standing_inj (Set.mem_insert a {b}) (Set.mem_insert_of_mem a rfl) heq
    · have hsame : (fun authored : AuthoredKnowledge => authored.item.id) a =
        (fun authored => authored.item.id) b := hkey
      exact hearing_assoc hsame
  · intro foundings p h hkeyring hfree hsend limits hlimits hsettled
    exact exchange_settled h hkeyring hfree hsend hlimits hsettled

/-! ## Sample -/

def sampleStored (path : List String) : StoredKnowledge where
  authored := sampleAuthored
  digest := sampleAuthored.digest
  bestPath := path

/-- A node of the sample that is connected to the other. -/
def sampleLinked (founding : Founding) (peerId : String) (relayIdentity : SigningIdentity)
    (lastSyncMs : Option ℕ) (knownDigests : HashMap String String) : HermesNode :=
  founding.node.setPeer peerId ⟨peerId, relayIdentity.keyId, lastSyncMs, knownDigests⟩

def sampleKnown : HashMap String String :=
  HashMap.empty.insert sampleItem.id sampleAuthored.digest

/-- A with the record, before and after it is acknowledged. -/
def sampleSender (lastSyncMs : Option ℕ) (knownDigests : HashMap String String)
    (pending : List PendingOutbound) : HermesNode :=
  ((sampleLinked sampleFoundingA "peer-b" sampleB lastSyncMs knownDigests).setKnowledge sampleItem.id
    (sampleStored ["peer-a"])).setPending pending

def sampleQueued : List PendingOutbound :=
  [⟨"peer-b", sampleItem.id, sampleAuthored.digest⟩]

def sampleReceiver : HermesNode :=
  (sampleLinked sampleFoundingB "peer-a" sampleA (some 11) sampleKnown).setKnowledge sampleItem.id
    (sampleStored ["peer-a"])

theorem sampleA_published : (World.mk (sampleLinked sampleFoundingA "peer-b" sampleB none .empty)
    []).step (.publish sampleItem 10 sampleA) =
      ⟨sampleSender none .empty sampleQueued, [sampleAuthored]⟩ := by
  have htrusted : sampleKeyring.trusted sampleA = true := by decide
  have hcheck : (sampleLinked sampleFoundingA "peer-b" sampleB none .empty).checkPublication
      sampleItem sampleA = .ok .peer :=
    checkPublication_ok.mpr ⟨sampleItem_valid, htrusted, rfl, fun h => absurd h Bool.false_ne_true⟩
  unfold World.step Request.run HermesNode.publish
  rw [exec_bind, exec_get_bind, exec_lift_bind, hcheck]
  rfl

theorem sampleA_offers : (sampleSender none .empty sampleQueued).outboundBatch "peer-b" 64 =
    .ok [sampleEnvelope ["peer-a"]] := by
  set sender := sampleSender none .empty sampleQueued with hsender
  have hget : sender.state.knowledge.get sampleItem.id = some (sampleStored ["peer-a"]) :=
    HashMap.get_insert
  have hpending : sender.pendingFor "peer-b" = [(sampleItem.id, sampleStored ["peer-a"])] := by
    change List.filterMap _ [PendingOutbound.mk "peer-b" sampleItem.id sampleAuthored.digest] = _
    simp [hget, sampleStored]
  have hdue : sender.due "peer-b" = [(sampleItem.id, sampleStored ["peer-a"])] := by
    have hpairs : sender.state.knowledge.sortedPairs =
      [(sampleItem.id, sampleStored ["peer-a"])] := rfl
    unfold due unknownTo
    rw [hpending, hpairs]
    simp
  have hfits : (sampleEnvelope ["peer-a"]).toJson.utf8ByteSize ≤ maxEnvelopeBytes := by
    have hsize := sampleEnvelope_size ["peer-a"]
    have hpath : (jsonStrings ["peer-a"]).utf8ByteSize ≤ 2000 := by decide
    unfold maxEnvelopeBytes
    omega
  have hrelay : sender.relayTo "peer-b" (sampleItem.id, sampleStored ["peer-a"]) =
      .ok (sampleEnvelope ["peer-a"]) :=
    relayEnvelope_ok.mpr ⟨["peer-a"], rfl, hfits, rfl⟩
  have hpeer : sender.state.peers.get "peer-b" = some ⟨"peer-b", sampleB.keyId, none, .empty⟩ := rfl
  rw [outboundBatch_eq hpeer rfl, hdue]
  exact mapM_ok.mpr (.cons hrelay .nil)

theorem sampleB_received : (Request.receive "peer-a" (sampleEnvelope ["peer-a"]) 11).run.exec
    (sampleLinked sampleFoundingB "peer-a" sampleA none .empty) =
      (.ok (.merged .inserted), sampleReceiver) := by
  have hcheck : (sampleLinked sampleFoundingB "peer-a" sampleA none .empty).checkEnvelope "peer-a"
      (sampleEnvelope ["peer-a"]) = .ok (⟨"peer-a", sampleA.keyId, none, .empty⟩, .peer) := by
    have hloop : "peer-b" ∉ ["peer-a"] := by decide
    exact sampleEnvelope_accepted rfl rfl rfl (by decide) rfl hloop (by decide)
  have hanswer : answer "peer-a" sampleReceiver = sampleReceiver := by
    have hget : sampleReceiver.state.knowledge.get sampleItem.id = some (sampleStored ["peer-a"]) :=
      HashMap.get_insert
    have hpeer : sampleReceiver.state.peers.get "peer-a" =
        some ⟨"peer-a", sampleA.keyId, some 11, sampleKnown⟩ := rfl
    have hpairs : sampleKnown.sortedPairs = [(sampleItem.id, sampleAuthored.digest)] := rfl
    have hnone : sampleReceiver.divergence "peer-a" = none := by
      unfold divergence
      rw [hpeer]
      simp [hpairs, hget, sampleStored]
    unfold answer
    rw [hnone]
    rfl
  have hmerge : (mergeReceived "peer-a" (sampleEnvelope ["peer-a"]) .peer).exec
      (sampleLinked sampleFoundingB "peer-a" sampleA (some 11) sampleKnown) =
        (.ok .inserted, sampleReceiver) := by
    have hselected : (mergeRecord ⟨(sampleEnvelope ["peer-a"]).authored,
        (sampleEnvelope ["peer-a"]).authored.digest, (sampleEnvelope ["peer-a"]).path⟩ .peer
          (some "peer-a")).exec (sampleLinked sampleFoundingB "peer-a" sampleA (some 11) sampleKnown) =
        (.ok .inserted, sampleReceiver) := rfl
    unfold mergeReceived
    rw [exec_bind, hselected]
    dsimp only
    rw [exec_modify_bind, hanswer]
    rfl
  have hnoted : (sampleLinked sampleFoundingB "peer-a" sampleA none .empty).noted
      (.receive "peer-a" (sampleEnvelope ["peer-a"]) 11) =
        sampleLinked sampleFoundingB "peer-a" sampleA (some 11) sampleKnown := by
    rw [noted_eq (noteOf_receive hcheck) rfl]
    rfl
  unfold Request.run
  rw [exec_bind, exec_receive hcheck, hnoted]
  rw [hmerge]
  rfl

theorem sampleB_delivered : (Party.mk ⟨sampleLinked sampleFoundingB "peer-a" sampleA none .empty, []⟩
    [] [] []).step "peer-a" (.deliver (sampleEnvelope ["peer-a"]) 11) =
      ⟨⟨sampleReceiver, [sampleAuthored]⟩, [], [], [⟨sampleItem.id, sampleAuthored.digest⟩]⟩ := by
  unfold Party.step World.step World.receipt
  dsimp only
  rw [sampleB_received]
  rfl

theorem sampleA_acknowledged : (World.mk (sampleSender none .empty sampleQueued)
    [sampleAuthored]).step (.acknowledge "peer-b" [⟨sampleItem.id, sampleAuthored.digest⟩] 12) =
      ⟨sampleSender (some 12) sampleKnown [], [sampleAuthored]⟩ := by
  have hget : (sampleSender none .empty sampleQueued).state.knowledge.get sampleItem.id =
      some (sampleStored ["peer-a"]) :=
    HashMap.get_insert
  have haccept : (sampleSender none .empty sampleQueued).acceptAcknowledgement .empty
      ⟨sampleItem.id, sampleAuthored.digest⟩ = .ok sampleKnown := by
    unfold acceptAcknowledgement
    simp only [except_bind_ok, exists_unit, validateKnowledgeDigest_ok, okOr_ok, failIf_ok,
      except_pure_ok]
    exact ⟨⟨isHexDigest_knowledgeId _, isHexDigest_digest _⟩, _, hget, not_not_intro rfl, rfl⟩
  have hcheck : (sampleSender none .empty sampleQueued).checkAcknowledgements "peer-b"
      [⟨sampleItem.id, sampleAuthored.digest⟩] =
        .ok (⟨"peer-b", sampleB.keyId, none, .empty⟩, sampleKnown) := by
    unfold checkAcknowledgements
    simp only [except_bind_ok, exists_unit, failIf_ok, requirePeer_ok, except_pure_ok,
      List.foldlM_cons, List.foldlM_nil]
    exact ⟨_, rfl, not_lt.mpr (by simp [maxOutboundBatch]), _, ⟨_, haccept, rfl⟩, rfl⟩
  have hextend : extendDigests .empty sampleKnown = sampleKnown := rfl
  have hdrop : (sampleQueued.filter fun pending =>
    pending.peerId ≠ "peer-b" || sampleKnown.get pending.knowledgeId ≠ some pending.digest) = [] := by
    simp [sampleQueued, sampleKnown]
  unfold World.step Request.run HermesNode.acknowledge
  rw [exec_bind, exec_get_bind, exec_lift_bind, hcheck]
  dsimp only
  rw [exec_modify_bind, exec_modify]
  exact congrArg (fun pending => World.mk (setPending pending _) [sampleAuthored]) hdrop
def sampleFoundings : Side → Founding
  | .left => sampleFoundingA
  | .right => sampleFoundingB

def pairOf (left right : Party) : Pair
  | .left => left
  | .right => right

theorem reachable_left {left right : Party}
    (h : (exchange sampleFoundings).Reachable (pairOf left right))
    (hhonest : step.Honest "peer-b" right) :
    (exchange sampleFoundings).Reachable (pairOf (left.step "peer-b" step) right) := by
  have hnext := h.next (l := (Side.left, step)) hhonest
  have heq : (exchange sampleFoundings).next (pairOf left right) (.left, step) =
      pairOf (left.step "peer-b" step) right := by
    funext side
    cases side <;> rfl
  rwa [heq] at hnext

theorem reachable_right {left right : Party}
    (h : (exchange sampleFoundings).Reachable (pairOf left right))
    (hhonest : step.Honest "peer-a" left) :
    (exchange sampleFoundings).Reachable (pairOf left (right.step "peer-a" step)) := by
  have hnext := h.next (l := (Side.right, step)) hhonest
  have heq : (exchange sampleFoundings).next (pairOf left right) (.right, step) =
      pairOf left (right.step "peer-a" step) := by
    funext side
    cases side <;> rfl
  rwa [heq] at hnext

/-- A has sent its record, and B has acknowledged it. -/
def samplePair : Pair :=
  pairOf ⟨⟨sampleSender (some 12) sampleKnown [], [sampleAuthored]⟩, [sampleEnvelope ["peer-a"]],
    [], []⟩
  ⟨⟨sampleReceiver, [sampleAuthored]⟩, [], [], [⟨sampleItem.id, sampleAuthored.digest⟩]⟩

theorem samplePair_reachable : (exchange sampleFoundings).Reachable samplePair := by
  set linkedA := sampleLinked sampleFoundingA "peer-b" sampleB none .empty
  set linkedB := sampleLinked sampleFoundingB "peer-a" sampleA none .empty
  have hnobody (peerId : String) : (none : Option String) ≠ some peerId :=
    (Option.some_ne_none peerId).symm
  have hconnected : (exchange sampleFoundings).Reachable
      (pairOf ⟨⟨linkedA, []⟩, [], [], []⟩ ⟨⟨linkedB, []⟩, [], [], []⟩) := by
    have hinit : (exchange sampleFoundings).init =
        pairOf ⟨.init sampleFoundingA, [], [], []⟩ ⟨.init sampleFoundingB, [], [], []⟩ := by
      funext side
      cases side <;> rfl
    have hstart := Machine.Reachable.init (M := exchange sampleFoundings)
    rw [hinit] at hstart
    have hleft := reachable_left hstart
      (show Exchange.Honest _ _ (.call (.connectPeer "peer-b" sampleB.keyId)) from hnobody _)
    exact reachable_right hleft
      (show Exchange.Honest _ _ (.call (.connectPeer "peer-a" sampleA.keyId)) from hnobody _)
  have hpublished : (exchange sampleFoundings).Reachable
      (pairOf ⟨⟨sampleSender none .empty sampleQueued, [sampleAuthored]⟩, [], [], []⟩
        ⟨⟨linkedB, []⟩, [], [], []⟩) := by
    have hnext := reachable_left hconnected
      (show Exchange.Honest _ _ (.call (.publish sampleItem 10 sampleA)) from hnobody _)
    unfold Party.step at hnext
    dsimp only at hnext
    rwa [sampleA_published] at hnext
  have hoffered : (exchange sampleFoundings).Reachable
      (pairOf ⟨⟨sampleSender none .empty sampleQueued, [sampleAuthored]⟩,
        [sampleEnvelope ["peer-a"]], [], []⟩ ⟨⟨linkedB, []⟩, [], [], []⟩) := by
    have hnext := reachable_left hpublished (show Exchange.Honest _ _ (.offer 64) from trivial)
    unfold Party.step at hnext
    dsimp only at hnext
    rwa [sampleA_offers] at hnext
  have hdelivered : (exchange sampleFoundings).Reachable
      (pairOf ⟨⟨sampleSender none .empty sampleQueued, [sampleAuthored]⟩,
        [sampleEnvelope ["peer-a"]], [], []⟩
        ⟨⟨sampleReceiver, [sampleAuthored]⟩, [], [], [⟨sampleItem.id, sampleAuthored.digest⟩]⟩) := by
    have hnext := reachable_right hoffered
      (show Exchange.Honest _ _ (.deliver (sampleEnvelope ["peer-a"]) 11) from List.mem_cons_self)
    rwa [sampleB_delivered] at hnext
  have hnext := reachable_left hdelivered
    (show Exchange.Honest _ _ (.acknowledge [⟨sampleItem.id, sampleAuthored.digest⟩] 12) from
      fun entry hentry => hentry)
  unfold Party.step at hnext
  dsimp only at hnext
  rwa [sampleA_acknowledged] at hnext

/-- Nothing is left to send once each node knows that the other has the record. -/
theorem samplePair_settled (side : Side) : (samplePair side).world.node.outboundBatch
    (sampleFoundings side.other).localPeerId 64 = .ok [] := by
  have hunknown {node : HermesNode} {peerId : String} {path : List String}
      (hpairs : node.state.knowledge.sortedPairs = [(sampleItem.id, sampleStored path)])
      (hknown : node.knownDigest peerId sampleItem.id = some sampleAuthored.digest)
      (hpending : node.pendingFor peerId = []) : node.due peerId = [] := by
    unfold due unknownTo
    rw [hpending, hpairs]
    simp [hknown, sampleStored]
  cases side with
  | left =>
    have hdue : (sampleSender (some 12) sampleKnown []).due "peer-b" = [] :=
      hunknown rfl HashMap.get_insert rfl
    change (sampleSender (some 12) sampleKnown []).outboundBatch "peer-b" 64 = _
    have hpeer : (sampleSender (some 12) sampleKnown []).state.peers.get "peer-b" =
        some ⟨"peer-b", sampleB.keyId, some 12, sampleKnown⟩ := rfl
    rw [outboundBatch_eq hpeer rfl, hdue]
    rfl
  | right =>
    have hdue : sampleReceiver.due "peer-a" = [] := hunknown rfl HashMap.get_insert rfl
    change sampleReceiver.outboundBatch "peer-a" 64 = _
    have hpeer : sampleReceiver.state.peers.get "peer-a" =
        some ⟨"peer-a", sampleA.keyId, some 11, sampleKnown⟩ := rfl
    rw [outboundBatch_eq hpeer rfl, hdue]
    rfl

theorem samplePair_canSend (side : Side) : (samplePair side).world.node.canSend = true := by
  cases side <;> rfl

theorem samplePair_collisionFree :
    CollisionFree {a | ∃ side, a ∈ (samplePair side).world.admitted} := by
  have hone : ∀ a ∈ {a | ∃ side, a ∈ (samplePair side).world.admitted}, a = sampleAuthored := by
    rintro a ⟨side, ha⟩
    cases side <;> exact List.mem_singleton.mp ha
  intro a ha b hb _
  rw [hone a ha, hone b hb]

theorem samplePair_items :
    (samplePair .right).world.node.items sampleItem.id = some sampleAuthored :=
  congrArg (Option.map _) HashMap.get_insert

theorem sampleFoundings_keyring (side : Side) :
    (sampleFoundings side).node.keyring = sampleKeyring := by
  cases side <;> rfl

/-! ## What a node is known to have -/

theorem pair_step_admitted (foundings : Side → Founding) (p : Pair) (taken : Side × Exchange)
    (side : Side) : (p side).world.admitted ⊆
      ((exchange foundings).next p taken side).world.admitted := by
  unfold exchange
  dsimp only
  obtain rfl | rfl := taken.1.eq_or_other side
  · rw [Function.update_self]
    exact party_step_admitted _ _ _
  · rw [Function.update_of_ne taken.1.other_ne]
    exact List.Subset.refl _

theorem pair_run_admitted (foundings : Side → Founding) (p : Pair) (steps : List (Side × Exchange))
    (side : Side) : (p side).world.admitted ⊆
      (steps.foldl (exchange foundings).next p side).world.admitted := by
  induction steps generalizing p with
  | nil => exact List.Subset.refl _
  | cons taken steps ih => exact List.Subset.trans (pair_step_admitted _ _ _ _) (ih _)

/-- A record that a node takes the other to have is not lost there : the other holds one of no
lesser standing, whatever steps the two take after. -/
theorem known_kept (h : (exchange foundings).Reachable p) (side : Side) {a : AuthoredKnowledge}
    (hfree : CollisionFree {a | ∃ side, a ∈ (p side).world.admitted})
    (ha : (p side).world.node.items id = some a)
    (hknown : (p side).world.node.knownDigest (foundings side.other).localPeerId id =
      some a.digest) {steps : List (Side × Exchange)} (hsteps : (exchange foundings).Admits p steps) :
    ∃ b, (steps.foldl (exchange foundings).next p side.other).world.node.items id = some b ∧
      a.standing (foundings side.other).node.keyring ≤
        b.standing (foundings side.other).node.keyring := by
  have htruthful := reachable_truthful h
  obtain ⟨hmem, rfl⟩ := (reachable_selects (htruthful.reachable side)).sound id a ha
  obtain ⟨b, hb, -, hdigest⟩ := htruthful.known side _ _ hknown
  obtain rfl := hfree.eq ⟨side, hmem⟩ ⟨side.other, hb⟩ hdigest.symm
  have hlater := reachable_truthful (h.run hsteps)
  exact (reachable_selects (hlater.reachable side.other)).complete a
    (pair_run_admitted foundings p steps side.other hb)

end

section

attribute [local instance] sampleHashing

/-- A still has what B knows it to have after A has published the item again. -/
theorem known_kept_sample : ∃ b, ([(Side.left, Exchange.call (.publish sampleItem 12 sampleA))].foldl
    (exchange sampleFoundings).next samplePair Side.left).world.node.items sampleItem.id = some b ∧
      sampleAuthored.standing sampleKeyring ≤ b.standing sampleKeyring :=
  known_kept samplePair_reachable .right samplePair_collisionFree samplePair_items
    (show sampleKnown.get sampleItem.id = _ from HashMap.get_insert)
    (Machine.admits_cons (Option.some_ne_none _).symm rfl trivial)

/-- A and B hold the same map, with the record that A has published. -/
theorem exchange_converges_sample :
    (samplePair .left).world.node.items = (samplePair .right).world.node.items ∧
      (samplePair .right).world.node.items sampleItem.id = some sampleAuthored :=
  ⟨exchange_converges.2.2.2 samplePair_reachable
    ((sampleFoundings_keyring .left).trans (sampleFoundings_keyring .right).symm)
    samplePair_collisionFree
    samplePair_canSend (fun _ => 64) (fun _ => Nat.succ_ne_zero 63) samplePair_settled,
    samplePair_items⟩

end

end Cthuwu.Hermes
