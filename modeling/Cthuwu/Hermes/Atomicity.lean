import Cthuwu.Hermes.Convergence

/-!
# What a refused request leaves

A request that fails leaves the node as it was, with one exception : a verified record for
which the full store has no room, because `receive` notes that the peer has the record, and
when, before it merges it. `refusal_agrees_iff` says that this is the only exception, in every
state that a run reaches.
-/

namespace Cthuwu.Hermes

open Council HermesNode Fallible

/-! ## Nodes that agree -/

/-- What a node holds of a peer beside its view. -/
def PeerState.link (peer : PeerState) : String × String × Option ℕ :=
  (peer.peerId, peer.relayKeyId, peer.lastSyncMs)

/-- The nodes hold the same records, peers, views and queues under the same ban. -/
structure Agrees (node node' : HermesNode) : Prop where
  same : SameNode node node'
  knowledge : ∀ id, node'.state.knowledge.get id = node.state.knowledge.get id
  links : ∀ peerId, (node'.state.peers.get peerId).map PeerState.link =
    (node.state.peers.get peerId).map PeerState.link
  known : ∀ peerId id, node'.knownDigest peerId id = node.knownDigest peerId id
  pending : node'.state.pendingOutbound = node.state.pendingOutbound
  banned : node'.memorySharingBanned = node.memorySharingBanned

theorem Agrees.refl (node : HermesNode) : Agrees node node :=
  ⟨⟨rfl, rfl, rfl, rfl, rfl⟩, fun _ => rfl, fun _ => rfl, fun _ _ => rfl, rfl, rfl⟩

section

variable [Hashing] {founding : Founding} {w : World} {request : Request} {node node' : HermesNode}
  {peerId id digest : String} {peer : PeerState} {envelope : KnowledgeEnvelope}
  {authority : SignatureAuthority} {receivedAtMs : ℕ} {err : HermesError}

/-- A verified record for which a full store has no room, and of which the receipt is news. -/
def HermesNode.Suppresses (node : HermesNode) : Request → Prop
  | .receive peerId envelope receivedAtMs => ∃ found,
      node.checkEnvelope peerId envelope = .ok found ∧
      node.state.knowledge.get envelope.authored.item.id = none ∧
      maxKnowledgeItems ≤ node.state.knowledge.len ∧
      ¬(node.knownDigest peerId envelope.authored.item.id = some envelope.authored.digest ∧
        found.1.lastSyncMs = some receivedAtMs)
  | _ => False

/-! ## What a refused request has noted -/

theorem atomic_publish {item : KnowledgeItem} {createdAtMs : ℕ} {author : SigningIdentity} :
    Atomic (HermesNode.publish item createdAtMs author) :=
  readOnly_get.bind_atomic fun _ => (readOnly_lift _).bind_atomic fun _ => atomic_mergeRecord

/-- A request that fails has noted nothing, unless it is a receipt that passed its checks. -/
theorem refused_noted (h : request.run.exec node = (.error err, node')) :
    node' = node.noted request ∧ (node.noteOf request = none ∨
      ∃ peerId envelope receivedAtMs found, request = .receive peerId envelope receivedAtMs ∧
        node.checkEnvelope peerId envelope = .ok found) := by
  have hsilent (hnote : node.noteOf request = none) (hsame : node' = node) :
      node' = node.noted request ∧ (node.noteOf request = none ∨
        ∃ peerId envelope receivedAtMs found, request = .receive peerId envelope receivedAtMs ∧
          node.checkEnvelope peerId envelope = .ok found) := by
    refine ⟨?_, .inl hnote⟩
    rw [noted, hnote]
    exact hsame
  have hatomic (hrun : Atomic request.run) : node' = node := by
    have hsame := hrun node err (congrArg Prod.fst h)
    rwa [Fallible.after, h] at hsame
  cases request with
  | setSacredBan sacredBan =>
    have hrun : Infallible (Request.setSacredBan sacredBan).run :=
      (infallible_modify _).bind fun _ => infallible_pure _
    exact hsilent rfl (hatomic hrun.atomic)
  | connectPeer =>
    exact hsilent rfl (hatomic (atomic_connectPeer.bind_infallible fun _ => infallible_pure _))
  | publish =>
    exact hsilent rfl (hatomic ((atomic_publish).bind_infallible fun _ => infallible_pure _))
  | applySummary peerId summary receivedAtMs =>
    unfold Request.run HermesNode.applySummary at h
    rw [exec_bind, exec_get_bind, exec_lift_bind] at h
    cases hcheck : node.checkSummary peerId summary with
    | error err =>
      rw [hcheck] at h
      refine hsilent ?_ (Prod.mk.inj h).2.symm
      rw [noteOf, hcheck]
      rfl
    | ok peer =>
      rw [hcheck] at h
      dsimp only at h
      rw [exec_modify_bind] at h
      cases hsend : node.canSend <;> rw [hsend] at h <;> cases (Prod.mk.inj h).1
  | acknowledge peerId acknowledgements receivedAtMs =>
    unfold Request.run HermesNode.acknowledge at h
    rw [exec_bind, exec_get_bind, exec_lift_bind] at h
    cases hcheck : node.checkAcknowledgements peerId acknowledgements with
    | error err =>
      rw [hcheck] at h
      refine hsilent ?_ (Prod.mk.inj h).2.symm
      rw [noteOf, hcheck]
      rfl
    | ok found =>
      rw [hcheck] at h
      cases (Prod.mk.inj h).1
  | receive peerId envelope receivedAtMs =>
    unfold Request.run at h
    cases hcheck : node.checkEnvelope peerId envelope with
    | error err =>
      unfold HermesNode.receive at h
      rw [exec_bind, exec_get_bind, exec_lift_bind, hcheck] at h
      refine hsilent ?_ (Prod.mk.inj h).2.symm
      rw [noteOf, hcheck]
      rfl
    | ok found =>
      rw [exec_bind, exec_receive hcheck] at h
      rcases hrun : (mergeReceived peerId envelope found.2).exec
        (node.noted (.receive peerId envelope receivedAtMs)) with ⟨cause | outcome, middle⟩
      · have hsame := atomic_mergeReceived _ cause (congrArg Prod.fst hrun)
        rw [Fallible.after, hrun] at hsame
        rw [hrun] at h
        exact ⟨(Prod.mk.inj h).2.symm.trans hsame, .inr ⟨_, _, _, found, rfl, hcheck⟩⟩
      · rw [hrun] at h
        cases (Prod.mk.inj h).1

/-- A receipt fails after its checks only where the store is full. -/
theorem receive_refused (hstored : Stored node)
    (hcheck : node.checkEnvelope peerId envelope = .ok (peer, authority))
    (h : (Request.receive peerId envelope receivedAtMs).run.exec node = (.error err, node')) :
    node.state.knowledge.get envelope.authored.item.id = none ∧
      maxKnowledgeItems ≤ node.state.knowledge.len := by
  have hmerge : ((mergeReceived peerId envelope authority).exec
      (node.noted (.receive peerId envelope receivedAtMs))).1.isOk ↔ _ :=
    mergeReceived_isOk (stored_noted hstored _)
  rw [noted_knowledge] at hmerge
  unfold Request.run at h
  rw [exec_bind, exec_receive hcheck] at h
  by_contra hroom
  have hok := hmerge.mpr fun hnone => by
    by_contra hfull
    exact hroom ⟨hnone, not_lt.mp hfull⟩
  rcases hrun : (mergeReceived peerId envelope authority).exec
    (node.noted (.receive peerId envelope receivedAtMs)) with ⟨cause | outcome, middle⟩
  · rw [hrun] at hok
    exact Bool.false_ne_true hok
  · rw [hrun] at h
    cases (Prod.mk.inj h).1

/-- Noting a receipt changes nothing exactly where it is no news. -/
theorem agrees_received_iff (hcheck : node.checkEnvelope peerId envelope = .ok (peer, authority)) :
    Agrees node (node.noted (.receive peerId envelope receivedAtMs)) ↔
      node.knownDigest peerId envelope.authored.item.id = some envelope.authored.digest ∧
        peer.lastSyncMs = some receivedAtMs := by
  have hfound := (checkEnvelope_ok hcheck).1
  rw [noted_eq (noteOf_receive hcheck) hfound]
  constructor
  · intro h
    have hknown := h.known peerId envelope.authored.item.id
    have hlink := h.links peerId
    unfold knownDigest setPeer at hknown
    unfold setPeer at hlink
    dsimp only at hknown hlink
    rw [HashMap.get_insert, hfound] at hknown hlink
    unfold knownDigest
    rw [hfound]
    refine ⟨hknown.symm.trans HashMap.get_insert, ?_⟩
    exact (congrArg (·.2.2) (Option.some.inj hlink)).symm
  · rintro ⟨hknown, hsync⟩
    have hpeers (other : String) : (node.setPeer peerId { peer with
        lastSyncMs := some receivedAtMs
        knownDigests := (Note.received envelope.authored.item.id envelope.authored.digest).extend
          peer.knownDigests }).state.peers.get other = if other = peerId then some { peer with
        lastSyncMs := some receivedAtMs
        knownDigests := peer.knownDigests.insert envelope.authored.item.id
          envelope.authored.digest } else node.state.peers.get other :=
      HashMap.get_insert_apply
    refine ⟨⟨rfl, rfl, rfl, rfl, rfl⟩, fun _ => rfl, fun other => ?_, fun other id => ?_, rfl, rfl⟩
    · rw [hpeers]
      split_ifs with hother
      · rw [hother, hfound, ← hsync]
        rfl
      · rfl
    · unfold knownDigest at hknown ⊢
      rw [hpeers]
      split_ifs with hother
      · rw [hfound] at hknown
        rw [hother, hfound]
        change (peer.knownDigests.insert _ _).get id = peer.knownDigests.get id
        rw [HashMap.get_insert_apply]
        split_ifs with hid
        · rw [hid]
          exact hknown.symm
        · rfl
      · rfl

/-- In every reached state, a request that fails leaves the node as it was unless it is a
receipt that a full store suppresses. -/
theorem refusal_agrees_iff (hreachable : (machine founding).Reachable w)
    (h : (request.run.exec w.node).1 = .error err) :
    Agrees w.node (w.step request).node ↔ ¬w.node.Suppresses request := by
  rcases hrun : request.run.exec w.node with ⟨result, node'⟩
  rw [hrun] at h
  obtain rfl : result = .error err := h
  have hstep : (w.step request).node = node' := by
    unfold World.step
    rw [hrun]
  obtain ⟨hnoted, hnote | ⟨peerId, envelope, receivedAtMs, ⟨peer, authority⟩, rfl, hcheck⟩⟩ :=
    refused_noted hrun
  · refine iff_of_true ?_ fun hsuppressed => ?_
    · rw [hstep, hnoted, noted, hnote]
      exact .refl w.node
    · cases request with
      | receive =>
        obtain ⟨found, hfound, -⟩ := hsuppressed
        rw [noteOf, hfound] at hnote
        cases hnote
      | setSacredBan | connectPeer | publish | applySummary | acknowledge => exact hsuppressed
  · obtain ⟨hnone, hfull⟩ := receive_refused (reachable_stored hreachable) hcheck hrun
    rw [hstep, hnoted, agrees_received_iff hcheck]
    constructor
    · rintro hnews ⟨found, hfound, -, -, hold⟩
      cases hcheck.symm.trans hfound
      exact hold hnews
    · intro hkept
      by_contra hnews
      exact hkept ⟨_, hcheck, hnone, hfull, hnews⟩

/-! ## A full store -/

/-- The eleven bits of a number, as letters. -/
def toolName (n : ℕ) : String :=
  String.ofList ((List.range 11).map fun i => if n.testBit i then 'b' else 'a')

def toolPayload (n : ℕ) : KnowledgePayload :=
  .toolUsagePattern ⟨toolName n, .read, 1, 1⟩

def toolItem (n : ℕ) : KnowledgeItem where
  id := knowledgeId (toolPayload n).logicalKey
  payload := toolPayload n

/-- B connects A, and publishes as many tools as its store holds. -/
def fillingRequests : List Request :=
  .connectPeer "peer-a" sampleA.keyId ::
    (List.range maxKnowledgeItems).map fun n => .publish (toolItem n) 10 sampleB

def fullWorld : World :=
  fillingRequests.foldl World.step (.init sampleFoundingB)

/-- The items of the sample lie under identifiers of their own. -/
structure Distinct : Prop where
  tools : ∀ m < maxKnowledgeItems, ∀ n < maxKnowledgeItems,
    (toolItem m).id = (toolItem n).id → m = n
  sample : ∀ n < maxKnowledgeItems, (toolItem n).id ≠ sampleItem.id

/-- B holds the first tools and nothing else. -/
structure Holding (n : ℕ) (node : HermesNode) : Prop where
  keyring : node.keyring = sampleKeyring
  localPeerId : node.state.localPeerId = "peer-b"
  peer : node.state.peers.get "peer-a" = some ⟨"peer-a", sampleA.keyId, none, .empty⟩
  len : node.state.knowledge.len = n
  tool : ∀ id record, node.state.knowledge.get id = some record → ∃ m < n, id = (toolItem m).id

theorem toolName_toList (n : ℕ) : (toolName n).toList =
    (List.range 11).map fun i => if n.testBit i then 'b' else 'a' :=
  String.toList_ofList

theorem toolName_letter {n : ℕ} {c : Char} (h : c ∈ (toolName n).toList) : c = 'a' ∨ c = 'b' := by
  rw [toolName_toList, List.mem_map] at h
  obtain ⟨i, -, rfl⟩ := h
  split_ifs
  · exact .inr rfl
  · exact .inl rfl

theorem toolName_size (n : ℕ) : (toolName n).utf8ByteSize = 11 := by
  rw [utf8ByteSize_eq, toolName_toList, utf8Length, List.map_map]
  have hone : ∀ i ∈ List.range 11,
      (Char.utf8Size ∘ fun i => if n.testBit i then 'b' else 'a') i = 1 := by
    intro i _
    dsimp only [Function.comp]
    split_ifs <;> rfl
  rw [List.map_congr_left hone]
  rfl

theorem isSlug_toolName (n : ℕ) : isSlug (toolName n) maxToolNameBytes = true := by
  have hsize := toolName_size n
  have hnonempty : toolName n ≠ "" := by
    intro hempty
    rw [hempty] at hsize
    cases hsize
  have hletters : (toolName n).toList.all (fun c => c.isLower || c.isDigit || c = '-') = true := by
    rw [List.all_eq_true]
    intro c hc
    rcases toolName_letter hc with rfl | rfl <;> rfl
  have hhead : (toolName n).toList.head? ≠ some '-' := fun h => by
    rcases toolName_letter (List.mem_of_head? h) with h | h <;> cases h
  have hlast : (toolName n).toList.getLast? ≠ some '-' := fun h => by
    rcases toolName_letter (List.mem_of_getLast? h) with h | h <;> cases h
  unfold isSlug
  rw [hletters, hsize]
  simp [hnonempty, hhead, hlast, maxToolNameBytes]

theorem toolItem_valid (n : ℕ) : (toolItem n).validate = .ok () := by
  unfold KnowledgeItem.validate
  rw [except_check_ok, failIf_ok]
  refine ⟨?_, not_not_intro rfl⟩
  change (toolPayload n).validate = _
  unfold toolPayload KnowledgePayload.validate validateSlug
  rw [except_check_ok, failIf_ok, isSlug_toolName]
  exact ⟨Bool.false_ne_true, (show validateCounts 1 1 "tool pattern" = .ok () by decide)⟩

theorem Holding.publish {n : ℕ} (hdistinct : Distinct) (h : Holding n w.node)
    (hroom : n < maxKnowledgeItems) (hstored : Stored w.node) :
    Holding (n + 1) (w.step (.publish (toolItem n) 10 sampleB)).node := by
  have hfresh : w.node.state.knowledge.get (toolItem n).id = none := by
    rw [Option.eq_none_iff_forall_ne_some]
    intro record hget
    obtain ⟨m, hm, heq⟩ := h.tool _ record hget
    exact absurd (hdistinct.tools n hroom m (hm.trans hroom) heq) hm.ne'
  have hcheck : w.node.checkPublication (toolItem n) sampleB = .ok .peer := by
    refine checkPublication_ok.mpr ⟨toolItem_valid n, ?_, ?_, fun hskill => absurd hskill ?_⟩
    · rw [h.keyring]
      decide
    · rw [h.keyring]
      rfl
    · exact Bool.false_ne_true
  set record : StoredKnowledge := ⟨HermesNode.author (toolItem n) 10 sampleB,
    (HermesNode.author (toolItem n) 10 sampleB).digest, [w.node.state.localPeerId]⟩ with hrecord
  have hok : ((mergeRecord record .peer none).exec w.node).1.isOk :=
    (mergeRecord_isOk hstored none).mpr fun _ => h.len ▸ hroom
  rcases hrun : (mergeRecord record .peer none).exec w.node with ⟨err | outcome, node'⟩
  · rw [hrun] at hok
    exact absurd hok Bool.false_ne_true
  have hstep : (w.step (.publish (toolItem n) 10 sampleB)).node = node' := by
    unfold World.step Request.run HermesNode.publish
    rw [exec_bind, exec_get_bind, exec_lift_bind, hcheck]
    dsimp only
    rw [← hrecord, hrun]
    rfl
  have hauthority : w.node.keyring.authority record.authored.authorKeyId = some .peer := by
    rw [h.keyring]
    rfl
  obtain ⟨-, entries, -, hnode⟩ := mergeRecord_ok hauthority hrun
  obtain ⟨pending, hschedule⟩ := scheduleEach_eq entries (w.node.select record)
  obtain ⟨pending', hkeep⟩ := keep_eq record w.node
  have hselect : w.node.select record = w.node.keep record := by
    have hnone : w.node.state.knowledge.get record.authored.item.id = none := hfresh
    unfold select
    rw [hnone]
  rw [hstep, hnode, hschedule, hselect, hkeep]
  refine ⟨h.keyring, h.localPeerId, h.peer, ?_, fun id other hget => ?_⟩
  · exact (HashMap.len_insert_fresh hfresh).trans (congrArg (· + 1) h.len)
  · change (w.node.state.knowledge.insert (toolItem n).id _).get id = _ at hget
    rw [HashMap.get_insert_apply] at hget
    split_ifs at hget with hid
    · exact ⟨n, Nat.lt_succ_self n, hid⟩
    · obtain ⟨m, hm, heq⟩ := h.tool id other hget
      exact ⟨m, hm.trans (Nat.lt_succ_self n), heq⟩

theorem holding_publishes (hdistinct : Distinct) {n : ℕ} (hn : n ≤ maxKnowledgeItems) :
    ∃ w, (machine sampleFoundingB).Reachable w ∧ Holding n w.node ∧
      ((List.range n).map fun n => Request.publish (toolItem n) 10 sampleB).foldl World.step
        ((World.init sampleFoundingB).step (.connectPeer "peer-a" sampleA.keyId)) = w := by
  induction n with
  | zero =>
    have hinit := Machine.Reachable.init (M := machine sampleFoundingB)
    refine ⟨_, hinit.next (l := .connectPeer "peer-a" sampleA.keyId) trivial, ?_, rfl⟩
    refine ⟨rfl, rfl, rfl, rfl, fun id record hget => ?_⟩
    exact absurd ((HashMap.get_empty id).symm.trans hget) (Option.some_ne_none record).symm
  | succ n ih =>
    obtain ⟨w, hreachable, hholding, hrun⟩ := ih (Nat.le_of_succ_le hn)
    refine ⟨_, hreachable.next trivial,
      hholding.publish hdistinct hn (reachable_stored hreachable), ?_⟩
    rw [List.range_succ, List.map_append, List.foldl_append, hrun]
    rfl

theorem fullWorld_holding (hdistinct : Distinct) :
    (machine sampleFoundingB).Reachable fullWorld ∧ Holding maxKnowledgeItems fullWorld.node := by
  obtain ⟨w, hreachable, hholding, hrun⟩ := holding_publishes hdistinct le_rfl
  unfold fullWorld fillingRequests
  rw [List.foldl_cons, hrun]
  exact ⟨hreachable, hholding⟩

/-- A full store refuses a record of another item, after it has noted it. -/
theorem receive_full (hcheck : node.checkEnvelope peerId envelope = .ok (peer, authority))
    (hnone : node.state.knowledge.get envelope.authored.item.id = none)
    (hfull : maxKnowledgeItems ≤ node.state.knowledge.len) :
    (Request.receive peerId envelope receivedAtMs).run.exec node =
      (.error (.limit "knowledge item count"),
        node.noted (.receive peerId envelope receivedAtMs)) := by
  rw [← noted_knowledge node (.receive peerId envelope receivedAtMs)] at hnone hfull
  have hselect : (selectRecord ⟨envelope.authored, envelope.authored.digest, envelope.path⟩
      authority).exec (node.noted (.receive peerId envelope receivedAtMs)) =
        (.error (.limit "knowledge item count"),
          node.noted (.receive peerId envelope receivedAtMs)) := by
    unfold selectRecord
    rw [exec_get_bind]
    simp only [hnone]
    rw [exec_lift_bind]
    unfold rejectIf failIf
    rw [if_pos hfull]
  unfold Request.run
  rw [exec_bind, exec_receive hcheck]
  unfold mergeReceived mergeRecord
  rw [exec_bind, exec_bind, hselect]

/-- B refuses the record of A, and notes that A has it. -/
theorem fullWorld_suppresses (hdistinct : Distinct) :
    (machine sampleFoundingB).Reachable fullWorld ∧
      ((Request.receive "peer-a" (sampleEnvelope ["peer-a"]) 11).run.exec fullWorld.node).1 =
        .error (.limit "knowledge item count") ∧
      fullWorld.node.knownDigest "peer-a" sampleItem.id = none ∧
      (fullWorld.step (.receive "peer-a" (sampleEnvelope ["peer-a"]) 11)).node.knownDigest "peer-a"
        sampleItem.id = some sampleAuthored.digest := by
  obtain ⟨hreachable, hholding⟩ := fullWorld_holding hdistinct
  have hloop : fullWorld.node.state.localPeerId ∉ ["peer-a"] := by
    rw [hholding.localPeerId]
    decide
  have hcheck := sampleEnvelope_accepted hholding.peer rfl hholding.keyring
    (show validatePath ["peer-a"] = .ok () by decide) rfl hloop (by decide)
  have hnone : fullWorld.node.state.knowledge.get sampleItem.id = none := by
    rw [Option.eq_none_iff_forall_ne_some]
    intro record hget
    obtain ⟨m, hm, heq⟩ := hholding.tool _ record hget
    exact hdistinct.sample m hm heq.symm
  have hrun : (Request.receive "peer-a" (sampleEnvelope ["peer-a"]) 11).run.exec _ = _ :=
    receive_full hcheck hnone hholding.len.ge
  refine ⟨hreachable, congrArg Prod.fst hrun, ?_, ?_⟩
  · unfold knownDigest
    rw [hholding.peer]
    rfl
  · unfold World.step
    rw [hrun]
    dsimp only
    rw [noted_eq (noteOf_receive hcheck) hholding.peer]
    unfold knownDigest setPeer
    dsimp only
    rw [HashMap.get_insert]
    exact HashMap.get_insert

end

/-! ## A hash for the sample -/

/-- The last bytes of a text stand for its hash. -/
@[reducible] def endHashing : Hashing where
  sha256 bytes := (bytes.reverse ++ List.replicate 32 0).take 32
  sha256_length bytes := by simp

theorem utf8_append (a b : String) : utf8 (a ++ b) = utf8 a ++ utf8 b := by
  unfold utf8
  rw [show (a ++ b).toUTF8 = a.toUTF8 ++ b.toUTF8 from String.toByteArray_append,
    ByteArray.data_append, Array.toList_append]

theorem length_utf8 (value : String) : (utf8 value).length = value.utf8ByteSize :=
  rfl

section

attribute [local instance] endHashing

/-- Hashes that are equal end in the same bytes. -/
theorem endHashing_take {bytes bytes' : List UInt8} {n : ℕ} (hn : n ≤ 32)
    (hlength : n ≤ bytes.length) (hlength' : n ≤ bytes'.length)
    (h : Hashing.sha256 bytes = Hashing.sha256 bytes') :
    bytes.reverse.take n = bytes'.reverse.take n := by
  have htake := congrArg (List.take n) h
  change ((bytes.reverse ++ _).take 32).take n = ((bytes'.reverse ++ _).take 32).take n at htake
  rw [List.take_take, List.take_take, min_eq_left hn] at htake
  rwa [List.take_append_of_le_length (by rwa [List.length_reverse]),
    List.take_append_of_le_length (by rwa [List.length_reverse])] at htake

theorem knowledgeId_inj {key key' : String} (h : knowledgeId key = knowledgeId key') {n : ℕ}
    (hn : n ≤ 32) (hlength : n ≤ key.utf8ByteSize) (hlength' : n ≤ key'.utf8ByteSize) :
    (utf8 key).reverse.take n = (utf8 key').reverse.take n := by
  have hhash := encodeHex_inj (Hashing.sha256_length _) (Hashing.sha256_length _) h
  rw [← length_utf8] at hlength hlength'
  have htake := endHashing_take hn (by rw [List.length_append]; omega)
    (by rw [List.length_append]; omega) hhash
  rw [List.reverse_append, List.reverse_append] at htake
  rwa [List.take_append_of_le_length (by rwa [List.length_reverse]),
    List.take_append_of_le_length (by rwa [List.length_reverse])] at htake

theorem toolKey_size (n : ℕ) : (toolPayload n).logicalKey.utf8ByteSize = 21 := by
  change ("tool:" ++ toolName n ++ ":" ++ "read").utf8ByteSize = 21
  rw [String.utf8ByteSize_append, String.utf8ByteSize_append, String.utf8ByteSize_append,
    toolName_size]
  rfl

theorem toolKey_take (n : ℕ) : (utf8 (toolPayload n).logicalKey).reverse.take 16 =
    (utf8 ":read").reverse ++ (utf8 (toolName n)).reverse := by
  change (utf8 ("tool:" ++ toolName n ++ ":" ++ "read")).reverse.take 16 = _
  rw [String.append_assoc, String.append_assoc, utf8_append, utf8_append, List.reverse_append,
    List.reverse_append]
  refine List.take_left' ?_
  rw [List.length_append, List.length_reverse, List.length_reverse, length_utf8 (toolName n),
    toolName_size]
  rfl

theorem toolName_inj {m n : ℕ} (hm : m < maxKnowledgeItems) (hn : n < maxKnowledgeItems)
    (h : toolName m = toolName n) : m = n := by
  have hlist := congrArg String.toList h
  rw [toolName_toList, toolName_toList] at hlist
  refine Nat.eq_of_testBit_eq fun i => ?_
  by_cases hi : i < 11
  · have hletter := (List.map_inj_left.mp hlist) i (List.mem_range.mpr hi)
    split_ifs at hletter with hbit hbit' hbit'
    · rw [hbit, hbit']
    · cases hletter
    · cases hletter
    · rw [Bool.eq_false_of_not_eq_true hbit, Bool.eq_false_of_not_eq_true hbit']
  · have hbound : maxKnowledgeItems ≤ 2 ^ i := Nat.pow_le_pow_right (Nat.succ_pos 1) (not_lt.mp hi)
    rw [Nat.testBit_lt_two_pow (hm.trans_le hbound), Nat.testBit_lt_two_pow (hn.trans_le hbound)]

theorem distinct_endHashing : Distinct where
  tools m hm n hn h := by
    have htake := knowledgeId_inj (n := 16) h (by decide) (by rw [toolKey_size]; decide)
      (by rw [toolKey_size]; decide)
    rw [toolKey_take, toolKey_take] at htake
    have hname := List.reverse_injective (List.append_cancel_left htake)
    exact toolName_inj hm hn (utf8_inj hname)
  sample n hn h := by
    have htake := knowledgeId_inj (n := 16) h (by decide) (by rw [toolKey_size]; decide)
      (by decide)
    rw [toolKey_take] at htake
    have hread : (utf8 ":read").getLast? = some 100 := by decide
    have hfirst : ((utf8 samplePayload.logicalKey).reverse.take 16).head? = some 116 := by
      decide
    have hhead := congrArg List.head? htake
    rw [List.head?_append, List.head?_reverse, hread, Option.some_or] at hhead
    cases hhead.trans hfirst

/-- A full store refuses a record that it then takes as known to the peer. -/
theorem refused_receipt_noted : (machine sampleFoundingB).Reachable fullWorld ∧
    ((Request.receive "peer-a" (sampleEnvelope ["peer-a"]) 11).run.exec fullWorld.node).1 =
      .error (.limit "knowledge item count") ∧
    fullWorld.node.knownDigest "peer-a" sampleItem.id = none ∧
    (fullWorld.step (.receive "peer-a" (sampleEnvelope ["peer-a"]) 11)).node.knownDigest "peer-a"
      sampleItem.id = some sampleAuthored.digest :=
  fullWorld_suppresses distinct_endHashing

/-- A receipt from a peer that is not connected leaves the node as it was. -/
theorem refusal_agrees_sample : Agrees sampleFoundingB.node ((World.init sampleFoundingB).step
    (.receive "peer-a" (sampleEnvelope ["peer-a"]) 11)).node :=
  (refusal_agrees_iff (Machine.Reachable.init (M := machine sampleFoundingB)) rfl).mpr
    fun ⟨_, hcheck, _⟩ => by cases hcheck

end

end Cthuwu.Hermes
