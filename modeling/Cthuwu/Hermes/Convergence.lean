import Cthuwu.Lib.Batch
import Cthuwu.Hermes.Records
import Cthuwu.Lib.Selection

/-!
# What a node relays and selects

`due` lists what a node has to relay to a peer : what is queued for it, and then what it is not
known to have. A batch relays the first records that are due (`outboundBatch_eq`), it relays
only stored records, and an empty one means that nothing is due.

The item map of a node is a selection among the records it has admitted, in the order of
authority, time and digest : a merge is one more record heard (`items_select`), and the map is
what merging all of them leaves (`reachable_items`). So it is the maximum of what was admitted,
in whatever order and however often (`items_eq_some_iff`), and an authentic record is admitted
wherever there is room for it (`step_admitted`).
-/

namespace Cthuwu.Hermes

open Council HermesNode

namespace HermesNode

/-- What a peer is not known to have, apart from what is queued for it. -/
def unknownTo (node : HermesNode) (peerId : String) : List (String × StoredKnowledge) :=
  node.state.knowledge.sortedPairs.filter fun entry =>
    entry.1 ∉ (node.pendingFor peerId).map (·.1) ∧
      node.knownDigest peerId entry.1 ≠ some entry.2.digest

/-- What the node has to relay to a peer. -/
def due (node : HermesNode) (peerId : String) : List (String × StoredKnowledge) :=
  node.pendingFor peerId ++ node.unknownTo peerId

end HermesNode

section

variable [Hashing] {node : HermesNode} {peerId id : String} {peer : PeerState}
  {record : StoredKnowledge} {entry : String × StoredKnowledge} {envelope : KnowledgeEnvelope}
  {batch : List KnowledgeEnvelope} {requestedLimit : ℕ}

namespace HermesNode

/-- The signed envelope of a record on a path. -/
def relayed (node : HermesNode) (record : StoredKnowledge) (path : List String) :
    KnowledgeEnvelope :=
  let envelope : KnowledgeEnvelope :=
    { envelopeVersion := 1
      authored := record.authored
      path
      relayPeerId := node.state.localPeerId
      relayKeyId := node.relayIdentity.keyId
      relaySignature := "" }
  { envelope with relaySignature := signRelay envelope node.relayIdentity }

/-- Relay a record to a peer, on a new path when the peer is on the one it took. -/
def relayTo (node : HermesNode) (peerId : String) (entry : String × StoredKnowledge) :
    Except HermesError KnowledgeEnvelope :=
  node.relayEnvelope entry.2 (entry.2.bestPath.contains peerId)

end HermesNode

theorem offer_eq {limit : ℕ} {skip : Finset String → String × StoredKnowledge → Bool} :
    node.offer peerId limit skip = fill limit (·.1) skip (node.relayTo peerId) :=
  rfl

theorem pairwise_skip (node : HermesNode) (known : String × StoredKnowledge → Bool) :
    node.state.knowledge.sortedPairs.Pairwise fun x y => ∀ made : Finset String,
      (decide (y.1 ∈ insert x.1 made) || known y) = (decide (y.1 ∈ made) || known y) := by
  have hnodup : (node.state.knowledge.sortedPairs.map (·.1)).Nodup :=
    (node.state.knowledge.sortedPairs_perm.map _).nodup_iff.mpr node.state.knowledge.nodup_keys
  refine (List.pairwise_map.mp hnodup).imp fun {x y} hne made => ?_
  simp [Finset.mem_insert, Ne.symm hne]

theorem offer_pending (node : HermesNode) (peerId : String) (limit : ℕ) :
    (node.pendingFor peerId).foldlM (node.offer peerId limit fun _ _ => false) ([], ∅) = (do
      let batch ← ((node.pendingFor peerId).take limit).mapM (node.relayTo peerId)
      return (batch, (((node.pendingFor peerId).take limit).map (·.1)).toFinset)) := by
  have hskip : (node.pendingFor peerId).Pairwise fun x y => ∀ made : Finset String,
      (fun _ _ => false : Finset String → String × StoredKnowledge → Bool) (insert x.1 made) y =
        (fun _ _ => false : Finset String → String × StoredKnowledge → Bool) made y :=
    List.pairwise_of_forall fun _ _ _ => rfl
  rw [offer_eq, foldlM_fill limit _ _ (node.relayTo peerId) hskip (Nat.zero_le _)]
  simp only [Bool.not_false, List.filter_true, List.length_nil, Nat.sub_zero, List.nil_append,
    Finset.union_empty]

/-- The second loop makes what the peer is not known to have. -/
theorem offer_unknown (hpeer : node.state.peers.get peerId = some peer) {limit : ℕ}
    (hroom : batch.length ≤ limit) :
    node.state.knowledge.sortedPairs.foldlM (node.offer peerId limit fun included entry =>
        entry.1 ∈ included || peer.knownDigests.get entry.1 = some entry.2.digest)
      (batch, ((node.pendingFor peerId).map (·.1)).toFinset) = (do
        let rest ← ((node.unknownTo peerId).take (limit - batch.length)).mapM (node.relayTo peerId)
        return (batch ++ rest, (((node.unknownTo peerId).take (limit - batch.length)).map
          (·.1)).toFinset ∪ ((node.pendingFor peerId).map (·.1)).toFinset)) := by
  have hunknown : (node.state.knowledge.sortedPairs.filter fun entry =>
      !(decide (entry.1 ∈ ((node.pendingFor peerId).map (·.1)).toFinset) ||
        decide (peer.knownDigests.get entry.1 = some entry.2.digest))) =
      node.unknownTo peerId := by
    refine List.filter_congr fun entry _ => ?_
    have hmem : decide (entry.1 ∈ ((node.pendingFor peerId).map (·.1)).toFinset) =
        decide (entry.1 ∈ (node.pendingFor peerId).map (·.1)) :=
      decide_eq_decide.mpr List.mem_toFinset
    unfold knownDigest
    rw [hpeer, hmem]
    simp
  rw [offer_eq, foldlM_fill limit _ _ (node.relayTo peerId) (pairwise_skip node _) hroom, hunknown]

/-- A batch relays the first records that are due. -/
theorem outboundBatch_eq (hpeer : node.state.peers.get peerId = some peer)
    (hsend : node.canSend = true) : node.outboundBatch peerId requestedLimit =
      ((node.due peerId).take (min requestedLimit maxOutboundBatch)).mapM (node.relayTo peerId) := by
  unfold outboundBatch requirePeer
  rw [hpeer, hsend]
  change (if _ then _ else _) = _
  split_ifs with hnone
  · obtain rfl : requestedLimit = 0 := hnone.resolve_left Bool.false_ne_true
    rw [Nat.zero_min, List.take_zero]
    rfl
  · set limit := min requestedLimit maxOutboundBatch
    rw [offer_pending, due, List.take_append, List.mapM_append]
    cases hpending : ((node.pendingFor peerId).take limit).mapM (node.relayTo peerId) with
    | error err => rfl
    | ok queued =>
      have hlength : queued.length = min limit (node.pendingFor peerId).length := by
        rw [← (mapM_ok.mp hpending).length_eq, List.length_take]
      change (if queued.length < limit then _ else _) = _
      split_ifs with hroom
      · have hall : (node.pendingFor peerId).take limit = node.pendingFor peerId :=
          List.take_of_length_le (by omega)
        have hqueued : (node.pendingFor peerId).length = queued.length := by omega
        rw [hall, offer_unknown hpeer hroom.le, hqueued]
        cases ((node.unknownTo peerId).take (limit - queued.length)).mapM (node.relayTo peerId) <;> rfl
      · have hnone : limit - (node.pendingFor peerId).length = 0 := by omega
        rw [hnone, List.take_zero]
        change _ = Except.ok (queued ++ [])
        rw [List.append_nil]
        rfl

/-! ## What is due -/

theorem mem_due (h : entry ∈ node.due peerId) :
    node.state.knowledge.get entry.1 = some entry.2 := by
  rcases List.mem_append.mp h with hpending | hunknown
  · obtain ⟨pending, -, hentry⟩ := List.mem_filterMap.mp hpending
    obtain ⟨record, hrecord, rfl⟩ := Option.map_eq_some_iff.mp hentry
    exact (Option.filter_eq_some_iff.mp hrecord).1
  · have hpair := node.state.knowledge.sortedPairs_perm.mem_iff.mp (List.mem_of_mem_filter hunknown)
    exact HashMap.mem_pairs.mp hpair

theorem relayEnvelope_ok {resetPath : Bool} : node.relayEnvelope record resetPath = .ok envelope ↔
    ∃ path, node.relayPath record resetPath = .ok path ∧
      (node.relayed record path).toJson.utf8ByteSize ≤ maxEnvelopeBytes ∧
        node.relayed record path = envelope := by
  unfold relayEnvelope validateEnvelopeSize
  simp only [except_bind_ok, exists_unit, failIf_ok, except_pure_ok, not_lt]
  rfl

theorem relayTo_authored (h : node.relayTo peerId entry = .ok envelope) :
    envelope.authored = entry.2.authored := by
  obtain ⟨path, -, -, rfl⟩ := (relayEnvelope_ok).mp h
  rfl

/-- Every envelope of a batch carries a stored record. -/
theorem outboundBatch_stored (h : node.outboundBatch peerId requestedLimit = .ok batch)
    (hmem : envelope ∈ batch) :
    ∃ id record, node.state.knowledge.get id = some record ∧ envelope.authored = record.authored := by
  cases hpeer : node.state.peers.get peerId with
  | none =>
    unfold outboundBatch requirePeer at h
    rw [hpeer] at h
    cases h
  | some peer =>
    cases hsend : node.canSend with
    | false =>
      unfold outboundBatch requirePeer at h
      rw [hpeer, hsend] at h
      obtain rfl : [] = batch := Except.ok.inj h
      exact absurd hmem List.not_mem_nil
    | true =>
      rw [outboundBatch_eq hpeer hsend] at h
      obtain ⟨entry, hentry, hrelay⟩ := exists_of_mem_mapM h hmem
      exact ⟨entry.1, entry.2, mem_due (List.mem_of_mem_take hentry), relayTo_authored hrelay⟩

/-- When nothing is relayed, the peer is known to have everything. -/
theorem outboundBatch_nil (hpeer : node.state.peers.get peerId = some peer)
    (hsend : node.canSend = true) (hlimit : requestedLimit ≠ 0)
    (h : node.outboundBatch peerId requestedLimit = .ok [])
    (hget : node.state.knowledge.get id = some record) :
    node.knownDigest peerId id = some record.digest := by
  have hpos : 0 < min requestedLimit maxOutboundBatch :=
    lt_min (Nat.pos_of_ne_zero hlimit) (by decide)
  rw [outboundBatch_eq hpeer hsend, mapM_ok, List.forall₂_nil_right_iff, List.take_eq_nil_iff] at h
  have hdue : node.due peerId = [] := h.resolve_left hpos.ne'
  obtain ⟨hpending, hunknown⟩ := List.append_eq_nil_iff.mp hdue
  have hmem : (id, record) ∈ node.state.knowledge.sortedPairs :=
    node.state.knowledge.sortedPairs_perm.mem_iff.mpr (HashMap.mem_pairs.mpr hget)
  have hskipped := List.filter_eq_nil_iff.mp hunknown (id, record) hmem
  rw [hpending] at hskipped
  simpa using hskipped

end

end Cthuwu.Hermes

/-! ## What a node selects -/

namespace Cthuwu.Hermes

open Council HermesNode Fallible

section

variable [Hashing]

/-- The order (authority, created_at_ms, digest). -/
def AuthoredKnowledge.standing (keyring : TrustedKeyring) (authored : AuthoredKnowledge) :
    ℕ ×ₗ ℕ ×ₗ String :=
  toLex (((keyring.authority authored.authorKeyId).map (·.rank)).getD 0,
    toLex (authored.createdAtMs, authored.digest))

def HermesNode.items (node : HermesNode) (id : String) : Option AuthoredKnowledge :=
  (node.state.knowledge.get id).map (·.authored)

/-- What an item map becomes when a record is merged. -/
abbrev merging (keyring : TrustedKeyring) (items : String → Option AuthoredKnowledge)
    (authored : AuthoredKnowledge) : String → Option AuthoredKnowledge :=
  hearing (·.item.id) (AuthoredKnowledge.standing keyring) items authored

variable {founding founding' : Founding} {w w' : World} {request : Request} {node : HermesNode}
  {record : StoredKnowledge} {move : Move} {id : String} {a b : AuthoredKnowledge}
  {keyring : TrustedKeyring} {peerId : String} {envelope : KnowledgeEnvelope}

theorem standing_eq (h : record.authored.digest = record.digest) :
    node.standing record = record.authored.standing node.keyring := by
  unfold HermesNode.standing AuthoredKnowledge.standing
  rw [h]

/-- A merge is one more record heard. -/
theorem items_select (h : Stored node) (hdigest : record.authored.digest = record.digest) :
    (node.select record).items = merging node.keyring node.items record.authored := by
  obtain ⟨pending, hkeep⟩ := keep_eq record node
  have hkept (k : String) : (node.keep record).items k =
      if k = record.authored.item.id then some record.authored else node.items k := by
    unfold items
    rw [hkeep]
    change ((node.state.knowledge.insert _ _).get k).map _ = _
    rw [HashMap.get_insert_apply]
    split_ifs <;> rfl
  funext k
  unfold merging hearing
  cases hget : node.state.knowledge.get record.authored.item.id with
  | none =>
    have hselect : node.select record = node.keep record := by
      unfold select
      rw [hget]
    rw [hselect, hkept]
    split_ifs with hk
    · have hnone : node.items k = none := by
        unfold items
        rw [hk, hget]
        rfl
      rw [hnone]
      rfl
    · rfl
  | some current =>
    have hcurrent : node.standing current = current.authored.standing node.keyring :=
      standing_eq (h.record _ _ hget).2.digest
    have hitems : node.items record.authored.item.id = some current.authored := by
      unfold items
      rw [hget]
      rfl
    unfold select
    rw [hget]
    dsimp only
    rw [hcurrent, standing_eq hdigest]
    split_ifs with hlt hk hpath hk hk
    · rw [hkept, if_pos hk, hk, hitems]
      exact congrArg some (if_pos hlt).symm
    · rw [hkept, if_neg hk]
    · rw [hk, hitems]
      change ((node.state.knowledge.insert _ _).get _).map _ = _
      rw [HashMap.get_insert]
      exact congrArg some (if_neg hlt).symm
    · change ((node.state.knowledge.insert _ _).get k).map _ = _
      rw [HashMap.get_insert_ne hk]
      rfl
    · rw [hk, hitems]
      exact congrArg some (if_neg hlt).symm
    · rfl

theorem items_move (h : Stored node) (hmove : Justified node move) : (move.apply node).items =
    match move.record with
    | some record => merging node.keyring node.items record.authored
    | none => node.items := by
  cases hrecord : move.record with
  | none =>
    funext k
    unfold items
    rw [move_knowledge node hrecord]
  | some record =>
    cases hmove with
    | merged admissible room =>
      cases hrecord
      exact items_select h admissible.digest
    | noted => cases hrecord
    | connected => cases hrecord
    | dropped => cases hrecord
    | scheduled => cases hrecord
    | banned => cases hrecord

/-- The item map is what merging the records admitted, one after another, leaves. -/
theorem reachable_items (h : (machine founding).Reachable w) : w.node.items =
    w.admitted.foldl (merging founding.node.keyring) fun _ => none := by
  have hinit : founding.node.items = fun _ => none := by
    obtain ⟨-, -, hnode⟩ := new_ok.mp founding.founded
    funext k
    unfold items
    rw [hnode, HashMap.get_empty]
    rfl
  refine (invariant (P := fun w => (Stored w.node ∧ w.node.keyring = founding.node.keyring) ∧
    w.node.items = w.admitted.foldl (merging founding.node.keyring) fun _ => none)
    ⟨⟨stored_init founding, rfl⟩, hinit⟩ ?_ h).2
  rintro w move ⟨⟨hstored, hkeyring⟩, hitems⟩ hmove
  refine ⟨⟨stored_move hstored hmove, (sameNode_move w.node move).keyring.trans hkeyring⟩, ?_⟩
  have hmoved := items_move hstored hmove
  unfold World.move
  dsimp only
  rw [hmoved, hkeyring, hitems, List.foldl_append]
  cases move.record <;> rfl

theorem reachable_selects (h : (machine founding).Reachable w) : Selects (·.item.id)
    (AuthoredKnowledge.standing founding.node.keyring) {a | a ∈ w.admitted} w.node.items := by
  rw [reachable_items h]
  exact selects_foldl _ _ w.admitted

/-- Without a collision the order tells records apart. -/
theorem CollisionFree.standing_inj {records : Set AuthoredKnowledge} (h : CollisionFree records)
    (ha : a ∈ records) (hb : b ∈ records) (heq : a.standing keyring = b.standing keyring) :
    a = b := by
  have hdigest : a.digest = b.digest :=
    (Prod.mk.inj (toLex_inj.mp (Prod.mk.inj (toLex_inj.mp heq)).2)).2
  exact h.eq ha hb hdigest

/-- The item map is the maximum of the records admitted. -/
theorem items_eq_some_iff (h : (machine founding).Reachable w)
    (hfree : CollisionFree {a | a ∈ w.admitted}) : w.node.items id = some a ↔
      a ∈ w.admitted ∧ a.item.id = id ∧ ∀ b ∈ w.admitted, b.item.id = id →
        b.standing founding.node.keyring ≤ a.standing founding.node.keyring :=
  (reachable_selects h).eq_some_iff fun _ ha _ hb => hfree.standing_inj ha hb

/-- Nodes with one keyring that have admitted the same records hold the same item map. -/
theorem items_eq_of_same_records (h : (machine founding).Reachable w)
    (h' : (machine founding').Reachable w')
    (hkeyring : founding.node.keyring = founding'.node.keyring)
    (hfree : CollisionFree {a | a ∈ w.admitted}) (hsame : ∀ a, a ∈ w.admitted ↔ a ∈ w'.admitted) :
    w.node.items = w'.node.items := by
  have hselected := reachable_selects h
  have hselected' := reachable_selects h'
  rw [← hkeyring] at hselected'
  refine hselected.agree hselected' (fun a ha b hb => ?_) (fun k a ha => ?_) fun k a ha => ?_
  · exact hfree.standing_inj ha ((hsame b).mpr hb)
  · exact (hsame a).mp (hselected.sound k a ha).1
  · exact (hsame a).mpr (hselected'.sound k a ha).1

/-! ## Admission -/

/-- The request is about a record and passes its checks. -/
def HermesNode.Authentic (node : HermesNode) : Request → Prop
  | .publish item _ author => ∃ authority, node.checkPublication item author = .ok authority
  | .receive peerId envelope _ => ∃ found, node.checkEnvelope peerId envelope = .ok found
  | _ => False

theorem mergeReceived_isOk {authority : SignatureAuthority} (h : Stored node) :
    ((mergeReceived peerId envelope authority).exec node).1.isOk ↔
      (node.state.knowledge.get envelope.authored.item.id = none →
        node.state.knowledge.len < maxKnowledgeItems) := by
  have hmerge : ((mergeRecord ⟨envelope.authored, envelope.authored.digest, envelope.path⟩
      authority (some peerId)).exec node).1.isOk ↔ _ := mergeRecord_isOk h (some peerId)
  refine Iff.trans ?_ hmerge
  unfold mergeReceived
  rw [exec_bind]
  rcases (mergeRecord _ authority (some peerId)).exec node with ⟨err | outcome, middle⟩ <;> rfl

/-- What a request notes leaves the records as they are. -/
theorem noted_knowledge (node : HermesNode) (request : Request) :
    (node.noted request).state.knowledge = node.state.knowledge := by
  unfold noted
  cases node.noteOf request with
  | none => rfl
  | some noted =>
    have hsilent : (Move.noted noted.1 noted.2.1 noted.2.2).record = none := rfl
    exact move_knowledge node hsilent

theorem stored_noted (h : Stored node) (request : Request) : Stored (node.noted request) := by
  unfold noted
  cases hnote : node.noteOf request with
  | none => exact h
  | some noted => exact stored_move h (justified_noteOf hnote)

/-- An authentic record is accepted, unless it is of a new item and the store is full. -/
theorem authentic_isOk (h : Stored node) (hauthentic : node.Authentic request)
    (hrecord : node.recordOf request = some record)
    (hroom : node.state.knowledge.get record.authored.item.id = none →
      node.state.knowledge.len < maxKnowledgeItems) : (request.run.exec node).1.isOk := by
  cases request with
  | publish item createdAtMs author =>
    obtain ⟨authority, hcheck⟩ := hauthentic
    cases hrecord
    have hmerge : ((mergeRecord _ authority none).exec node).1.isOk :=
      (mergeRecord_isOk h none).mpr hroom
    unfold Request.run HermesNode.publish
    rw [exec_bind, exec_get_bind, exec_lift_bind, hcheck]
    dsimp only
    rcases hrun : (mergeRecord _ authority none).exec node with ⟨err | outcome, middle⟩
    · rw [hrun] at hmerge
      exact absurd hmerge Bool.false_ne_true
    · rfl
  | receive peerId envelope receivedAtMs =>
    obtain ⟨⟨peer, authority⟩, hcheck⟩ := hauthentic
    cases hrecord
    have hmerge : ((mergeReceived peerId envelope authority).exec
        (node.noted (.receive peerId envelope receivedAtMs))).1.isOk := by
      refine (mergeReceived_isOk (stored_noted h _)).mpr ?_
      rw [noted_knowledge]
      exact hroom
    unfold Request.run
    rw [exec_bind, exec_receive hcheck]
    rcases hrun : (mergeReceived peerId envelope authority).exec
      (node.noted (.receive peerId envelope receivedAtMs)) with ⟨err | outcome, middle⟩
    · rw [hrun] at hmerge
      exact absurd hmerge Bool.false_ne_true
    · rfl
  | setSacredBan | connectPeer | applySummary | acknowledge => exact absurd hauthentic id

/-- An authentic record is admitted, unless it is of a new item and the store is full. -/
theorem step_admitted (h : Stored w.node) (hauthentic : w.node.Authentic request)
    (hrecord : w.node.recordOf request = some record)
    (hroom : w.node.state.knowledge.get record.authored.item.id = none →
      w.node.state.knowledge.len < maxKnowledgeItems) :
    (w.step request).admitted = w.admitted ++ [record.authored] := by
  have hok := authentic_isOk h hauthentic hrecord hroom
  unfold World.step
  rcases hrun : request.run.exec w.node with ⟨err | reply, node⟩
  · rw [hrun] at hok
    exact absurd hok Bool.false_ne_true
  · dsimp only
    rw [hrecord]
    rfl

/-- A record that is admitted is merged into the item map. -/
theorem step_items (h : (machine founding).Reachable w)
    (hadmitted : (w.step request).admitted = w.admitted ++ [a]) :
    (w.step request).node.items = merging founding.node.keyring w.node.items a := by
  have hnext : (machine founding).Reachable (w.step request) := h.next trivial
  rw [reachable_items hnext, reachable_items h, hadmitted, List.foldl_append]
  rfl

end

end Cthuwu.Hermes
