import Cthuwu.Hermes.Moves

/-!
# From requests to moves

What each check of a request guarantees, and the moves of each operation.
-/

namespace Cthuwu.Hermes

open Council HermesNode Fallible

variable [Hashing] {node node' : HermesNode} {record current incoming : StoredKnowledge}
  {authority : SignatureAuthority} {peerId : String} {peer : PeerState} {path : List String}
  {envelope : KnowledgeEnvelope}

/-! ## Checks -/

variable {description relayKeyId : String} {createdAtMs receivedAtMs : ℕ} {entry : KnowledgeDigest}
  {item : KnowledgeItem} {keyring : TrustedKeyring} {author : SigningIdentity}
  {summary : AntiEntropySummary} {acknowledgements : List KnowledgeDigest}
  {accepted : HashMap String String} {outcome : MergeOutcome} {sourcePeer : Option String}
  {request : Request}

theorem validateId_ok {value : String} :
    validateId value description = .ok () ↔ isId value = true := by
  unfold validateId
  rw [failIf_ok]
  simp

theorem validateHexDigest_ok {value : String} :
    validateHexDigest value description = .ok () ↔ isHexDigest value = true := by
  unfold validateHexDigest
  rw [failIf_ok]
  simp

theorem validateKnowledgeDigest_ok : validateKnowledgeDigest entry = .ok () ↔
      isHexDigest entry.knowledgeId = true ∧ isHexDigest entry.digest = true := by
  unfold validateKnowledgeDigest
  rw [except_check_ok, validateHexDigest_ok, validateHexDigest_ok]

theorem validatePath_ok : validatePath path = .ok () ↔
    (path ≠ [] ∧ path.length ≤ maxPathHops) ∧ (∀ peer ∈ path, isId peer = true) ∧ path.Nodup := by
  unfold validatePath
  simp only [except_bind_ok, failIf_ok, insertAll_empty_ok, exists_unit,
    except_pure_ok, validateId_ok, not_or, not_lt, ne_eq, List.map_id, and_true]
  constructor
  · rintro ⟨hlength, _, hids, hnodup, -⟩
    exact ⟨hlength, hids, hnodup⟩
  · rintro ⟨hlength, hids, hnodup⟩
    exact ⟨hlength, _, hids, hnodup, rfl⟩

theorem knowledgeItem_validate_id (h : item.validate = .ok ()) : isHexDigest item.id = true := by
  unfold KnowledgeItem.validate at h
  rw [except_check_ok, failIf_ok, not_not] at h
  rw [h.2]
  exact isHexDigest_knowledgeId _

theorem verifyAuthored_item {authored : AuthoredKnowledge}
    (h : verifyAuthored authored keyring = .ok ()) : authored.item.validate = .ok () := by
  unfold verifyAuthored at h
  rw [except_check_ok] at h
  exact h.1

theorem verifyAuthored_author (hitem : item.validate = .ok ())
    (htrusted : keyring.trusted author = true) :
    verifyAuthored (HermesNode.author item createdAtMs author) keyring = .ok () := by
  unfold verifyAuthored
  simp only [except_check_ok, validateId_ok, validateHexDigest_ok, failIf_ok]
  refine ⟨hitem, author.keyIdValid, isHexDigest_encodeHex (hmacSha256_length _ _), ?_, ?_⟩
  · exact not_not_intro rfl
  · have hsigned := verify_signed htrusted (HermesNode.author item createdAtMs author).signingBytes
    change ¬(!keyring.verify author.keyId _ _) = true
    rw [Bool.not_eq_true, Bool.not_eq_false']
    exact hsigned

theorem requirePeer_ok : node.requirePeer peerId = .ok peer ↔
    node.state.peers.get peerId = some peer :=
  okOr_ok

theorem checkPublication_ok :
    node.checkPublication item author = .ok authority ↔ item.validate = .ok () ∧
      node.keyring.trusted author = true ∧ node.keyring.authority author.keyId = some authority ∧
        (item.payload.isSkill = true → authority = .operator) := by
  unfold checkPublication
  simp only [except_bind_ok, failIf_ok, okOr_ok, exists_unit, except_pure_ok,
    not_and, ne_eq, not_not, Bool.not_eq_true', Bool.not_eq_false]
  constructor
  · rintro ⟨hitem, htrusted, _, hauthority, hskill, rfl⟩
    exact ⟨hitem, htrusted, hauthority, hskill⟩
  · rintro ⟨hitem, htrusted, hauthority, hskill⟩
    exact ⟨hitem, htrusted, authority, hauthority, hskill, rfl⟩

theorem checkSummary_ok (h : node.checkSummary peerId summary = .ok peer) :
    node.state.peers.get peerId = some peer ∧ (Note.summary summary.entries).WellFormed ∧
      (summary.entries.map (·.knowledgeId)).Nodup := by
  unfold checkSummary validateSummary at h
  simp only [except_bind_ok, failIf_ok, exists_unit, requirePeer_ok,
    insertAll_empty_ok, validateKnowledgeDigest_ok, except_pure_ok, not_lt, and_true] at h
  obtain ⟨_, hfound, ⟨-, -, hlength, _, hentries, hnodup, -⟩, -, rfl⟩ := h
  exact ⟨hfound, ⟨hlength, hentries⟩, hnodup⟩

/-- What an acknowledgement accepts is what the node holds. -/
theorem acceptAcknowledgements_ok {accepted' : HashMap String String}
    (h : acknowledgements.foldlM node.acceptAcknowledgement accepted = .ok accepted') :
    ∀ id digest, accepted'.get id = some digest → accepted.get id = some digest ∨
      (isHexDigest id = true ∧ isHexDigest digest = true) ∧ ⟨id, digest⟩ ∈ acknowledgements := by
  induction acknowledgements generalizing accepted with
  | nil =>
    rw [List.foldlM_nil, except_pure_ok] at h
    subst h
    exact fun id digest hget => .inl hget
  | cons entry acknowledgements ih =>
    rw [List.foldlM_cons, except_bind_ok] at h
    obtain ⟨middle, hentry, hrest⟩ := h
    unfold acceptAcknowledgement at hentry
    simp only [except_bind_ok, exists_unit, okOr_ok, failIf_ok, except_pure_ok,
      validateKnowledgeDigest_ok] at hentry
    obtain ⟨hhex, _, -, -, rfl⟩ := hentry
    intro id digest hget
    rcases ih hrest id digest hget with hbefore | ⟨hvalid, hmem⟩
    · rw [HashMap.get_insert_apply] at hbefore
      split_ifs at hbefore with heq
      · obtain rfl : entry.digest = digest := Option.some.inj hbefore
        subst heq
        exact .inr ⟨hhex, List.mem_cons_self⟩
      · exact .inl hbefore
    · exact .inr ⟨hvalid, List.mem_cons_of_mem _ hmem⟩

theorem checkAcknowledgements_ok
    (h : node.checkAcknowledgements peerId acknowledgements = .ok (peer, accepted)) :
    node.state.peers.get peerId = some peer ∧ ∀ id digest, accepted.get id = some digest →
      (isHexDigest id = true ∧ isHexDigest digest = true) ∧ ⟨id, digest⟩ ∈ acknowledgements := by
  unfold checkAcknowledgements at h
  simp only [except_bind_ok, exists_unit, failIf_ok, requirePeer_ok, except_pure_ok,
    Prod.mk.injEq] at h
  obtain ⟨_, hfound, -, _, haccepted, rfl, rfl⟩ := h
  refine ⟨hfound, fun id digest hget => ?_⟩
  refine (acceptAcknowledgements_ok haccepted id digest hget).resolve_left fun hnone => ?_
  cases (HashMap.get_empty id).symm.trans hnone

theorem checkEnvelope_ok (h : node.checkEnvelope peerId envelope = .ok (peer, authority)) :
    node.state.peers.get peerId = some peer ∧
      Admissible node ⟨envelope.authored, envelope.authored.digest, envelope.path⟩ ∧
      node.keyring.authority envelope.authored.authorKeyId = some authority := by
  unfold checkEnvelope validateEnvelopeShape at h
  simp only [except_bind_ok, failIf_ok, okOr_ok, requirePeer_ok, except_pure_ok,
    exists_unit, Prod.mk.injEq, not_and, ne_eq, not_not] at h
  obtain ⟨_, hfound, ⟨-, -, -, -, -, hpath, -⟩, -, -, hloop, hverified, -, _, hauthority, hskill,
    rfl, rfl⟩ := h
  refine ⟨hfound, ⟨hverified, rfl, .inr ⟨hpath, hloop⟩, fun hisSkill => ?_⟩, hauthority⟩
  rw [hauthority, hskill hisSkill]

/-! ## Merging -/

theorem compareRecords_lt {currentAuthority : SignatureAuthority}
    (hcurrent : node.keyring.authority current.authored.authorKeyId = some currentAuthority)
    (hincoming : node.keyring.authority incoming.authored.authorKeyId = some authority) :
    compareRecords current currentAuthority incoming authority = .lt ↔
      node.standing current < node.standing incoming := by
  unfold compareRecords standing
  rw [hcurrent, hincoming, Prod.Lex.toLex_lt_toLex, Prod.Lex.toLex_lt_toLex]
  simp only [Ordering.then_eq_lt, Ordering.then_eq_eq, compare_lt_iff_lt, compare_eq_iff_eq,
    Option.map_some, Option.getD_some]
  tauto

/-- What a merge writes, before it queues anything. -/
theorem selectRecord_ok
    (hincoming : node.keyring.authority incoming.authored.authorKeyId = some authority)
    (h : (selectRecord incoming authority).exec node = (.ok outcome, node')) :
    (node.state.knowledge.get incoming.authored.item.id = none →
      node.state.knowledge.len < maxKnowledgeItems) ∧
    ((outcome ≠ .unchanged ∧ node' = node.setKnowledge incoming.authored.item.id incoming ∧
        node.select incoming = node.keep incoming) ∨
      outcome = .unchanged ∧ node' = node.select incoming) := by
  unfold selectRecord at h
  unfold select
  rw [exec_get_bind] at h
  cases hget : node.state.knowledge.get incoming.authored.item.id with
  | none =>
    simp only [hget, lift_bind_ok, failIf_ok, exists_unit, exec_modify_bind, exec_pure,
      Prod.mk.injEq, Except.ok.injEq, not_le] at h
    obtain ⟨hroom, rfl, rfl⟩ := h
    exact ⟨fun _ => hroom, .inl ⟨by decide, rfl, rfl⟩⟩
  | some current =>
    simp only [hget, lift_bind_ok, okOr_ok] at h
    obtain ⟨currentAuthority, hcurrent, h⟩ := h
    have hlt := compareRecords_lt hcurrent hincoming
    refine ⟨fun hnone => absurd hnone (Option.some_ne_none _), ?_⟩
    split at h
    · rename_i horder
      simp only [exec_modify_bind, exec_pure, Prod.mk.injEq, Except.ok.injEq] at h
      obtain ⟨rfl, rfl⟩ := h
      exact .inl ⟨by decide, rfl, if_pos (hlt.mp horder)⟩
    · rename_i horder
      simp only [exec_modify_bind, exec_pure, Prod.mk.injEq, Except.ok.injEq] at h
      obtain ⟨rfl, rfl⟩ := h
      exact .inr ⟨rfl, (if_neg fun hbelow => horder (hlt.mpr hbelow)).symm⟩

/-- The peers that a selected record is queued for. -/
def recipients (node : HermesNode) (selected : StoredKnowledge) (sourcePeer : Option String) :
    List String :=
  (node.state.peers.sortedPairs.map (·.1)).filter fun peerId =>
    ¬(sourcePeer = some peerId ∨ peerId ∈ selected.bestPath)

/-- The entries of the queue for a record and some peers. -/
def entriesFor (selected : StoredKnowledge) (peers : List String) : List PendingOutbound :=
  peers.map fun peerId => ⟨peerId, selected.authored.item.id, selected.digest⟩

def scheduleEach (entries : List PendingOutbound) (node : HermesNode) : HermesNode :=
  entries.foldl (fun node entry => node.schedule entry.peerId entry.knowledgeId entry.digest) node

theorem announce_eq (sourcePeer : Option String) :
    (node.setKnowledge incoming.authored.item.id incoming).announce incoming sourcePeer =
      scheduleEach (if node.canSend then entriesFor incoming (recipients node incoming sourcePeer)
        else []) (node.keep incoming) := by
  have hsend : (node.setKnowledge incoming.authored.item.id incoming).canSend = node.canSend := rfl
  unfold announce keep
  rw [hsend]
  cases node.canSend with
  | false => rfl
  | true =>
    unfold scheduleEach entriesFor recipients
    rw [if_pos rfl, if_pos rfl, List.foldl_map, List.foldl_filter]
    refine congrArg (fun step => List.foldl step _ _) ?_
    funext node peerId
    by_cases hskip : sourcePeer = some peerId ∨ peerId ∈ incoming.bestPath
    · rw [if_pos hskip, if_neg]
      rw [decide_eq_true_iff]
      exact not_not_intro hskip
    · rw [if_neg hskip, if_pos (decide_eq_true hskip)]

theorem mem_sortedKeys {K V : Type} [LinearOrder K] {m : HashMap K V} {k : K} :
    k ∈ m.sortedPairs.map (·.1) ↔ ∃ v, m.get k = some v :=
  (m.sortedPairs_perm.map _).mem_iff.trans HashMap.mem_keys

theorem keep_get : (node.keep incoming).state.knowledge.get incoming.authored.item.id =
    some incoming := by
  unfold keep
  split_ifs <;> exact HashMap.get_insert

theorem keep_peers : (node.keep incoming).state.peers = node.state.peers := by
  unfold keep
  split_ifs <;> rfl

theorem mergeRecord_ok
    (hincoming : node.keyring.authority incoming.authored.authorKeyId = some authority)
    (h : (mergeRecord incoming authority sourcePeer).exec node = (.ok outcome, node')) :
    (node.state.knowledge.get incoming.authored.item.id = none →
      node.state.knowledge.len < maxKnowledgeItems) ∧
    ∃ entries, (∀ entry ∈ entries, Schedulable (node.select incoming) entry) ∧
      node' = scheduleEach entries (node.select incoming) := by
  unfold mergeRecord at h
  rw [Fallible.bind_ok] at h
  obtain ⟨_, middle, hselect, h⟩ := h
  rw [exec_modify_bind, exec_pure, Prod.mk.injEq] at h
  obtain ⟨-, rfl⟩ := h
  obtain ⟨hroom, ⟨hchanged, rfl, hkeep⟩ | ⟨hunchanged, rfl⟩⟩ := selectRecord_ok hincoming hselect
  · refine ⟨hroom, if node.canSend then entriesFor incoming (recipients node incoming sourcePeer)
      else [], ?_, ?_⟩
    · rw [hkeep]
      intro entry hentry
      split_ifs at hentry
      · obtain ⟨peerId, hpeer, rfl⟩ := List.mem_map.mp hentry
        refine ⟨?_, incoming, keep_get, rfl⟩
        rw [keep_peers]
        exact (mem_sortedKeys).mp (List.mem_of_mem_filter hpeer)
      · exact absurd hentry List.not_mem_nil
    · rw [if_neg hchanged, announce_eq, hkeep]
  · refine ⟨hroom, [], fun entry hentry => absurd hentry List.not_mem_nil, ?_⟩
    rw [if_pos hunchanged]
    rfl

theorem atomic_selectRecord : Atomic (selectRecord incoming authority) := by
  refine readOnly_get.bind_atomic fun node => ?_
  dsimp only
  cases node.state.knowledge.get incoming.authored.item.id with
  | none =>
    refine (readOnly_lift _).bind_atomic fun _ => ?_
    exact ((infallible_modify _).bind fun _ => infallible_pure _).atomic
  | some current =>
    refine (readOnly_lift _).bind_atomic fun currentAuthority => ?_
    cases compareRecords current currentAuthority incoming authority with
    | lt | eq | gt => exact ((infallible_modify _).bind fun _ => infallible_pure _).atomic

theorem atomic_mergeRecord : Atomic (mergeRecord incoming authority sourcePeer) :=
  (atomic_selectRecord).bind_infallible fun _ =>
    (infallible_modify _).bind fun _ => infallible_pure _

/-! ## Requests -/

def Request.run : Request → Op Reply
  | setSacredBan sacredBan => do
    HermesNode.setSacredBan sacredBan
    return .done
  | connectPeer peerId relayKeyId => do
    HermesNode.connectPeer peerId relayKeyId
    return .done
  | publish item createdAtMs author => do
    let outcome ← HermesNode.publish item createdAtMs author
    return .merged outcome
  | applySummary peerId summary receivedAtMs => do
    let plan ← HermesNode.applySummary peerId summary receivedAtMs
    return .planned plan
  | acknowledge peerId acknowledgements receivedAtMs => do
    HermesNode.acknowledge peerId acknowledgements receivedAtMs
    return .done
  | receive peerId envelope receivedAtMs => do
    let outcome ← HermesNode.receive peerId envelope receivedAtMs
    return .merged outcome

namespace HermesNode

/-- What a request notes once its checks have passed. -/
def noteOf (node : HermesNode) : Request → Option (String × ℕ × Note)
  | .applySummary peerId summary receivedAtMs =>
    (node.checkSummary peerId summary).toOption.map fun _ =>
      (peerId, receivedAtMs, .summary summary.entries)
  | .acknowledge peerId acknowledgements receivedAtMs =>
    (node.checkAcknowledgements peerId acknowledgements).toOption.map fun found =>
      (peerId, receivedAtMs, .acknowledged found.2)
  | .receive peerId envelope receivedAtMs =>
    (node.checkEnvelope peerId envelope).toOption.map fun _ =>
      (peerId, receivedAtMs, .received envelope.authored.item.id envelope.authored.digest)
  | _ => none

/-- The node once the request has noted what it shows. -/
def noted (request : Request) (node : HermesNode) : HermesNode :=
  match node.noteOf request with
  | some note => node.noting note.1 note.2.1 note.2.2
  | none => node

def recordOf (node : HermesNode) : Request → Option StoredKnowledge
  | .publish item createdAtMs author =>
    let authored := HermesNode.author item createdAtMs author
    some ⟨authored, authored.digest, [node.state.localPeerId]⟩
  | .receive _ envelope _ => some ⟨envelope.authored, envelope.authored.digest, envelope.path⟩
  | _ => none

end HermesNode

/-- A request notes what it shows, and then does moves that note nothing. It merges its record
when it succeeds. -/
structure Performed (node : HermesNode) (request : Request) (result : Except HermesError Reply)
    (node' : HermesNode) (ms : List Move) : Prop where
  performs : moves.Performs (node.noted request) ms node'
  silent : ∀ move ∈ ms, move.note = none
  records : ms.filterMap Move.record = if result.isOk then (node.recordOf request).toList else []

theorem justified_noteOf {note : Note} (h : node.noteOf request = some (peerId, receivedAtMs, note))
    : Justified node (.noted peerId receivedAtMs note) := by
  cases request with
  | applySummary =>
    rw [noteOf, Option.map_eq_some_iff] at h
    obtain ⟨peer, hcheck, heq⟩ := h
    cases heq
    obtain ⟨hfound, hwellFormed, -⟩ := checkSummary_ok (toOption_eq_some.mp hcheck)
    exact .noted hfound hwellFormed
  | acknowledge =>
    rw [noteOf, Option.map_eq_some_iff] at h
    obtain ⟨⟨peer, accepted⟩, hcheck, heq⟩ := h
    cases heq
    obtain ⟨hfound, haccepted⟩ := checkAcknowledgements_ok (toOption_eq_some.mp hcheck)
    exact .noted hfound fun id digest hget => (haccepted id digest hget).1
  | receive =>
    rw [noteOf, Option.map_eq_some_iff] at h
    obtain ⟨⟨peer, authority⟩, hcheck, heq⟩ := h
    cases heq
    obtain ⟨hfound, hadmissible, -⟩ := checkEnvelope_ok (toOption_eq_some.mp hcheck)
    have hid := knowledgeItem_validate_id (verifyAuthored_item hadmissible.verified)
    exact .noted hfound ⟨hid, isHexDigest_digest _⟩
  | setSacredBan => cases h
  | connectPeer => cases h
  | publish => cases h

/-! ## The moves of a request -/

variable {result : Except HermesError Reply}

/-- A request that fails before it notes anything. -/
theorem performed_refused {err : HermesError} (hnote : node.noteOf request = none) :
    Performed node request (.error err) node [] := by
  refine ⟨?_, fun move hmem => absurd hmem List.not_mem_nil, rfl⟩
  rw [noted, hnote]
  exact Moves.performs_nil

theorem noted_eq {note : Note} (hnote : node.noteOf request = some (peerId, receivedAtMs, note))
    (hfound : node.state.peers.get peerId = some peer) :
    node.noted request = node.setPeer peerId { peer with
      lastSyncMs := some receivedAtMs
      knownDigests := note.extend peer.knownDigests } := by
  rw [noted, hnote]
  dsimp only
  rw [noting, hfound]

theorem noted_keyring (node : HermesNode) (request : Request) :
    (node.noted request).keyring = node.keyring := by
  unfold noted noting
  split
  · split <;> rfl
  · rfl

theorem noted_localPeerId (node : HermesNode) (request : Request) :
    (node.noted request).state.localPeerId = node.state.localPeerId := by
  unfold noted noting
  split
  · split <;> rfl
  · rfl

theorem scheduleEach_eq (entries : List PendingOutbound) (node : HermesNode) :
    ∃ pending, scheduleEach entries node = node.setPending pending := by
  induction entries generalizing node with
  | nil => exact ⟨node.state.pendingOutbound, rfl⟩
  | cons entry entries ih =>
    obtain ⟨first, hfirst⟩ := schedule_eq entry.peerId entry.knowledgeId entry.digest node
    obtain ⟨pending, hrest⟩ := ih (node.setPending first)
    refine ⟨pending, ?_⟩
    change scheduleEach entries (node.schedule entry.peerId entry.knowledgeId entry.digest) = _
    rw [hfirst, hrest]
    rfl

theorem silent_schedules (entries : List PendingOutbound) :
    ∀ move ∈ entries.map Move.scheduled, move.note = none := by
  intro move hmove
  obtain ⟨entry, -, rfl⟩ := List.mem_map.mp hmove
  rfl

theorem records_schedules (entries : List PendingOutbound) :
    (entries.map Move.scheduled).filterMap Move.record = [] := by
  rw [List.filterMap_eq_nil_iff]
  intro move hmove
  obtain ⟨entry, -, rfl⟩ := List.mem_map.mp hmove
  rfl

/-- The entries that queue everything for a peer. -/
def entriesOf (node : HermesNode) (peerId : String) : List PendingOutbound :=
  node.digests.map fun entry => ⟨peerId, entry.knowledgeId, entry.digest⟩

theorem mem_digests : entry ∈ node.digests ↔
    ∃ record, node.state.knowledge.get entry.knowledgeId = some record ∧
      record.digest = entry.digest := by
  unfold digests
  rw [List.mem_map]
  constructor
  · rintro ⟨⟨id, record⟩, hmem, rfl⟩
    exact ⟨record, HashMap.mem_pairs.mp (node.state.knowledge.sortedPairs_perm.mem_iff.mp hmem), rfl⟩
  · rintro ⟨record, hget, hdigest⟩
    refine ⟨(entry.knowledgeId, record), ?_, by rw [hdigest]⟩
    exact node.state.knowledge.sortedPairs_perm.mem_iff.mpr (HashMap.mem_pairs.mpr hget)

theorem schedulable_entriesOf (hpeer : ∃ peer, node.state.peers.get peerId = some peer) :
    ∀ entry ∈ entriesOf node peerId, Schedulable node entry := by
  intro entry hentry
  obtain ⟨digest, hdigest, rfl⟩ := List.mem_map.mp hentry
  exact ⟨hpeer, (mem_digests).mp hdigest⟩

theorem scheduleAll_eq : node.scheduleAll peerId = scheduleEach (entriesOf node peerId) node := by
  unfold scheduleAll scheduleEach entriesOf
  rw [List.foldl_map]

theorem scheduleAllPeers_eq (peers : List String) (node : HermesNode) :
    peers.foldl (fun node peerId => node.scheduleAll peerId) node =
      scheduleEach (peers.flatMap (entriesOf node)) node := by
  induction peers generalizing node with
  | nil => rfl
  | cons peerId peers ih =>
    obtain ⟨pending, heq⟩ := scheduleEach_eq (entriesOf node peerId) node
    have hsame : ∀ other, entriesOf (node.setPending pending) other = entriesOf node other :=
      fun _ => rfl
    rw [List.foldl_cons, scheduleAll_eq, List.flatMap_cons, scheduleEach, scheduleEach,
      List.foldl_append]
    change List.foldl _ (scheduleEach (entriesOf node peerId) node) peers = _
    rw [heq, ih]
    change _ = scheduleEach _ (scheduleEach (entriesOf node peerId) node)
    rw [heq, funext hsame]

theorem schedulable_everything (node : HermesNode) :
    ∀ entry ∈ (node.state.peers.sortedPairs.map (·.1)).flatMap (entriesOf node),
      Schedulable node entry := by
  intro entry hentry
  obtain ⟨peerId, hpeer, hentry⟩ := List.mem_flatMap.mp hentry
  exact schedulable_entriesOf ((mem_sortedKeys).mp hpeer) entry hentry

theorem setSacredBan_performed {sacredBan : SacredBan}
    (h : (Request.setSacredBan sacredBan).run.exec node = (result, node')) :
    ∃ ms, Performed node (.setSacredBan sacredBan) result node' ms := by
  unfold Request.run HermesNode.setSacredBan at h
  rw [exec_modify_bind, exec_pure, Prod.mk.injEq] at h
  obtain ⟨rfl, rfl⟩ := h
  have hban : Justified node (.banned (decide (sacredBan = .memorySharing))) := .banned
  by_cases hmemory : sacredBan = .memorySharing
  · rw [decide_eq_true hmemory] at hban ⊢
    exact ⟨[_], ⟨⟨hban, rfl⟩, List.forall_mem_singleton.mpr rfl, rfl⟩⟩
  · rw [decide_eq_false hmemory] at hban ⊢
    have hall := performs_schedule (schedulable_everything { node with memorySharingBanned := false })
    rw [← scheduleEach, ← scheduleAllPeers_eq] at hall
    exact ⟨.banned false :: List.map Move.scheduled _, ⟨⟨hban, hall⟩,
      List.forall_mem_cons.mpr ⟨rfl, silent_schedules _⟩, records_schedules _⟩⟩

theorem atomic_connectPeer : Atomic (HermesNode.connectPeer peerId relayKeyId) := by
  refine readOnly_get.bind_atomic fun node => (readOnly_lift _).bind_atomic fun _ => ?_
  refine (readOnly_lift _).bind_atomic fun _ => (readOnly_lift _).bind_atomic fun _ => ?_
  refine (readOnly_lift _).bind_atomic fun _ => ?_
  cases node.state.peers.get peerId with
  | some existing => exact (readOnly_lift _).atomic
  | none =>
    refine (readOnly_lift _).bind_atomic fun _ => ?_
    exact ((infallible_modify _).bind fun _ => infallible_modify _).atomic

theorem connectPeer_performed
    (h : (Request.connectPeer peerId relayKeyId).run.exec node = (result, node')) :
    ∃ ms, Performed node (.connectPeer peerId relayKeyId) result node' ms := by
  cases result with
  | error err =>
    have hatomic : Atomic (Request.connectPeer peerId relayKeyId).run :=
      (atomic_connectPeer).bind_infallible fun _ => infallible_pure _
    have hsame := hatomic node err (congrArg Prod.fst h)
    rw [Fallible.after, h] at hsame
    obtain rfl : node' = node := hsame
    exact ⟨[], performed_refused rfl⟩
  | ok reply =>
    unfold Request.run HermesNode.connectPeer at h
    rw [Fallible.bind_ok] at h
    obtain ⟨_, middle, h, hreply⟩ := h
    rw [exec_pure, Prod.mk.injEq] at hreply
    obtain ⟨-, rfl⟩ := hreply
    simp only [exec_get_bind, lift_bind_ok, exists_unit, validateId_ok, failIf_ok] at h
    obtain ⟨hpeerId, hrelayKeyId, hremote, htrusted, h⟩ := h
    cases hget : node.state.peers.get peerId with
    | some existing =>
      simp only [hget, exec_lift, Prod.mk.injEq] at h
      obtain ⟨-, rfl⟩ := h
      exact ⟨[], rfl, fun move hmem => absurd hmem List.not_mem_nil, rfl⟩
    | none =>
      simp only [hget, lift_bind_ok, failIf_ok, exists_unit, exec_modify_bind, exec_modify,
        Prod.mk.injEq, not_le] at h
      obtain ⟨hroom, -, rfl⟩ := h
      have hconnected : Justified node (.connected peerId relayKeyId) := by
        refine .connected ⟨hpeerId, hrelayKeyId, hremote, ?_, hget, hroom⟩
        rw [Option.isNone_iff_eq_none, ← ne_eq, Option.ne_none_iff_isSome] at htrusted
        exact htrusted
      have hpeer : ∃ peer, (Move.apply node (.connected peerId relayKeyId)).state.peers.get peerId =
          some peer := ⟨_, HashMap.get_insert⟩
      have hall := performs_schedule (schedulable_entriesOf hpeer)
      rw [← scheduleEach, ← scheduleAll_eq] at hall
      split_ifs
      · exact ⟨.connected peerId relayKeyId :: List.map Move.scheduled _, ⟨⟨hconnected, hall⟩,
          List.forall_mem_cons.mpr ⟨rfl, silent_schedules _⟩, records_schedules _⟩⟩
      · exact ⟨[.connected peerId relayKeyId], ⟨⟨hconnected, rfl⟩, List.forall_mem_singleton.mpr rfl,
          rfl⟩⟩

/-- A record on which nothing but the queue depends. -/
theorem performs_merge {entries : List PendingOutbound} (hadmissible : Admissible node incoming)
    (hroom : node.state.knowledge.get incoming.authored.item.id = none →
      node.state.knowledge.len < maxKnowledgeItems)
    (h : ∀ entry ∈ entries, Schedulable (node.select incoming) entry) :
    moves.Performs node (.merged incoming :: entries.map Move.scheduled)
      (scheduleEach entries (node.select incoming)) :=
  ⟨.merged hadmissible hroom, performs_schedule h⟩

theorem publish_performed
    (h : (Request.publish item createdAtMs author).run.exec node = (result, node')) :
    ∃ ms, Performed node (.publish item createdAtMs author) result node' ms := by
  cases result with
  | error err =>
    have hatomic : Atomic (Request.publish item createdAtMs author).run := by
      refine Atomic.bind_infallible ?_ fun _ => infallible_pure _
      refine readOnly_get.bind_atomic fun node => (readOnly_lift _).bind_atomic fun _ => ?_
      exact atomic_mergeRecord
    have hsame := hatomic node err (congrArg Prod.fst h)
    rw [Fallible.after, h] at hsame
    obtain rfl : node' = node := hsame
    exact ⟨[], performed_refused rfl⟩
  | ok reply =>
    unfold Request.run HermesNode.publish at h
    rw [Fallible.bind_ok] at h
    obtain ⟨outcome, middle, h, hreply⟩ := h
    rw [exec_pure, Prod.mk.injEq] at hreply
    obtain ⟨-, rfl⟩ := hreply
    simp only [exec_get_bind, lift_bind_ok, checkPublication_ok] at h
    obtain ⟨authority, ⟨hitem, htrusted, hauthority, hskill⟩, h⟩ := h
    obtain ⟨hroom, entries, hentries, rfl⟩ := mergeRecord_ok hauthority h
    have hadmissible : Admissible node ⟨HermesNode.author item createdAtMs author,
        (HermesNode.author item createdAtMs author).digest, [node.state.localPeerId]⟩ := by
      refine ⟨verifyAuthored_author hitem htrusted, rfl, .inl rfl, fun hisSkill => ?_⟩
      exact hauthority.trans (congrArg some (hskill hisSkill))
    exact ⟨_, ⟨performs_merge hadmissible hroom hentries,
      List.forall_mem_cons.mpr ⟨rfl, silent_schedules _⟩,
      congrArg (List.cons _) (records_schedules entries)⟩⟩

def offersFor (node : HermesNode) (peerId : String) (remote : HashMap String String) :
    List PendingOutbound :=
  (node.digests.filter fun entry => remote.get entry.knowledgeId ≠ some entry.digest).map
    fun entry => ⟨peerId, entry.knowledgeId, entry.digest⟩

theorem applySummary_performed
    (h : (Request.applySummary peerId summary receivedAtMs).run.exec node = (result, node')) :
    ∃ ms, Performed node (.applySummary peerId summary receivedAtMs) result node' ms := by
  unfold Request.run HermesNode.applySummary at h
  rw [exec_bind, exec_get_bind, exec_lift_bind] at h
  cases hcheck : node.checkSummary peerId summary with
  | error err =>
    rw [hcheck] at h
    obtain ⟨rfl, rfl⟩ := Prod.mk.inj h
    refine ⟨[], performed_refused ?_⟩
    rw [noteOf, hcheck]
    rfl
  | ok peer =>
    have hnote : node.noteOf (.applySummary peerId summary receivedAtMs) =
        some (peerId, receivedAtMs, .summary summary.entries) := by
      rw [noteOf, hcheck]
      rfl
    have hnoted := noted_eq hnote (checkSummary_ok hcheck).1
    rw [hcheck] at h
    dsimp only at h
    rw [exec_modify_bind] at h
    cases hsend : node.canSend with
    | false =>
      rw [hsend, Bool.not_false, if_pos rfl, exec_pure] at h
      obtain ⟨rfl, rfl⟩ := Prod.mk.inj h
      exact ⟨[], hnoted.symm, fun move hmem => absurd hmem List.not_mem_nil, rfl⟩
    | true =>
      rw [hsend, Bool.not_true, if_neg Bool.false_ne_true, exec_modify_bind, exec_pure] at h
      obtain ⟨rfl, rfl⟩ := Prod.mk.inj h
      have hoffers : ∀ entry ∈ offersFor node peerId (remoteDigests summary.entries),
          Schedulable (node.noted (.applySummary peerId summary receivedAtMs)) entry := by
        intro entry hentry
        obtain ⟨digest, hdigest, rfl⟩ := List.mem_map.mp hentry
        rw [hnoted]
        exact ⟨⟨_, HashMap.get_insert⟩, (mem_digests).mp (List.mem_of_mem_filter hdigest)⟩
      refine ⟨(offersFor node peerId (remoteDigests summary.entries)).map Move.scheduled, ?_,
        silent_schedules _, records_schedules _⟩
      have hall := performs_schedule hoffers
      rw [offersFor, List.foldl_map, ← offersFor] at hall
      rw [hnoted] at hall ⊢
      exact hall

theorem acknowledge_performed
    (h : (Request.acknowledge peerId acknowledgements receivedAtMs).run.exec node =
      (result, node')) :
    ∃ ms, Performed node (.acknowledge peerId acknowledgements receivedAtMs) result node' ms := by
  unfold Request.run HermesNode.acknowledge at h
  rw [exec_bind, exec_get_bind, exec_lift_bind] at h
  cases hcheck : node.checkAcknowledgements peerId acknowledgements with
  | error err =>
    rw [hcheck] at h
    obtain ⟨rfl, rfl⟩ := Prod.mk.inj h
    refine ⟨[], performed_refused ?_⟩
    rw [noteOf, hcheck]
    rfl
  | ok found =>
    obtain ⟨peer, accepted⟩ := found
    have hnote : node.noteOf (.acknowledge peerId acknowledgements receivedAtMs) =
        some (peerId, receivedAtMs, .acknowledged accepted) := by
      rw [noteOf, hcheck]
      rfl
    have hnoted := noted_eq hnote (checkAcknowledgements_ok hcheck).1
    rw [hcheck] at h
    dsimp only at h
    rw [exec_modify_bind, exec_modify] at h
    obtain ⟨rfl, rfl⟩ := Prod.mk.inj h
    refine ⟨[.dropped fun pending => pending.peerId ≠ peerId ||
      accepted.get pending.knowledgeId ≠ some pending.digest], ?_,
      List.forall_mem_singleton.mpr rfl, rfl⟩
    rw [hnoted]
    exact ⟨.dropped, rfl⟩

theorem Admissible.congr (h : Admissible node record) (hkeyring : node'.keyring = node.keyring)
    (hlocal : node'.state.localPeerId = node.state.localPeerId) : Admissible node' record := by
  refine ⟨hkeyring ▸ h.verified, h.digest, hlocal ▸ h.path, fun hskill => ?_⟩
  rw [hkeyring]
  exact h.authority hskill

theorem divergence_ok (h : node.divergence peerId = some entry) :
    Schedulable node ⟨peerId, entry.knowledgeId, entry.digest⟩ := by
  unfold divergence at h
  rw [Option.bind_eq_some_iff] at h
  obtain ⟨peer, hpeer, h⟩ := h
  obtain ⟨known, -, hknown⟩ := List.exists_of_findSome?_eq_some h
  rw [Option.map_eq_some_iff] at hknown
  obtain ⟨record, hrecord, rfl⟩ := hknown
  exact ⟨⟨peer, hpeer⟩, record, (Option.filter_eq_some_iff.mp hrecord).1, rfl⟩

/-- Send back what the node has of an item of which the peer has something else. -/
def answer (peerId : String) (node : HermesNode) : HermesNode :=
  if node.canSend then
    match node.divergence peerId with
    | some entry => node.schedule peerId entry.knowledgeId entry.digest
    | none => node
  else node

/-- What `receive` does once it has noted the record. -/
def mergeReceived (peerId : String) (envelope : KnowledgeEnvelope)
    (authority : SignatureAuthority) : Op MergeOutcome := do
  let outcome ← mergeRecord ⟨envelope.authored, envelope.authored.digest, envelope.path⟩
    authority (some peerId)
  modify (answer peerId)
  return outcome

theorem noteOf_receive (hcheck : node.checkEnvelope peerId envelope = .ok (peer, authority)) :
    node.noteOf (.receive peerId envelope receivedAtMs) = some (peerId, receivedAtMs,
      .received envelope.authored.item.id envelope.authored.digest) := by
  rw [noteOf, hcheck]
  rfl

theorem exec_receive (hcheck : node.checkEnvelope peerId envelope = .ok (peer, authority)) :
    (HermesNode.receive peerId envelope receivedAtMs).exec node =
      (mergeReceived peerId envelope authority).exec
        (node.noted (.receive peerId envelope receivedAtMs)) := by
  unfold HermesNode.receive
  rw [exec_get_bind, exec_lift_bind, hcheck]
  dsimp only
  rw [exec_modify_bind, noted_eq (noteOf_receive hcheck) (checkEnvelope_ok hcheck).1]
  rfl

theorem atomic_mergeReceived : Atomic (mergeReceived peerId envelope authority) :=
  (atomic_mergeRecord).bind_infallible fun _ =>
    (infallible_modify _).bind fun _ => infallible_pure _

theorem answer_eq (entries : List PendingOutbound)
    (hentries : ∀ entry ∈ entries, Schedulable node entry) :
    ∃ entries', (∀ entry ∈ entries', Schedulable node entry) ∧
      answer peerId (scheduleEach entries node) = scheduleEach entries' node := by
  unfold answer
  split_ifs
  · cases hdivergence : (scheduleEach entries node).divergence peerId with
    | none => exact ⟨entries, hentries, rfl⟩
    | some entry =>
      have hschedulable := divergence_ok hdivergence
      obtain ⟨pending, heq⟩ := scheduleEach_eq entries node
      rw [heq] at hschedulable
      refine ⟨entries ++ [⟨peerId, entry.knowledgeId, entry.digest⟩], fun other hother => ?_, ?_⟩
      · rcases List.mem_append.mp hother with hother | hother
        · exact hentries other hother
        · rw [List.mem_singleton.mp hother]
          exact ⟨hschedulable.peer, hschedulable.record⟩
      · unfold scheduleEach
        rw [List.foldl_append]
        rfl
  · exact ⟨entries, hentries, rfl⟩

theorem mergeReceived_ok
    (hauthority : node.keyring.authority envelope.authored.authorKeyId = some authority)
    (hadmissible : Admissible node ⟨envelope.authored, envelope.authored.digest, envelope.path⟩)
    (h : (mergeReceived peerId envelope authority).exec node = (.ok outcome, node')) :
    ∃ entries : List PendingOutbound, moves.Performs node
      (.merged ⟨envelope.authored, envelope.authored.digest, envelope.path⟩ ::
        entries.map Move.scheduled) node' := by
  unfold mergeReceived at h
  rw [Fallible.bind_ok] at h
  obtain ⟨_, middle, hmerge, h⟩ := h
  rw [exec_modify_bind, exec_pure] at h
  obtain ⟨-, rfl⟩ := Prod.mk.inj h
  obtain ⟨hroom, entries, hentries, rfl⟩ := mergeRecord_ok hauthority hmerge
  obtain ⟨entries', hentries', heq⟩ := answer_eq entries hentries
  rw [heq]
  exact ⟨entries', performs_merge hadmissible hroom hentries'⟩

/-- A received record is noted even when it no longer fits. -/
theorem receive_performed
    (h : (Request.receive peerId envelope receivedAtMs).run.exec node = (result, node')) :
    ∃ ms, Performed node (.receive peerId envelope receivedAtMs) result node' ms := by
  unfold Request.run at h
  cases hcheck : node.checkEnvelope peerId envelope with
  | error err =>
    unfold HermesNode.receive at h
    rw [exec_bind, exec_get_bind, exec_lift_bind, hcheck] at h
    obtain ⟨rfl, rfl⟩ := Prod.mk.inj h
    refine ⟨[], performed_refused ?_⟩
    rw [noteOf, hcheck]
    rfl
  | ok found =>
    obtain ⟨peer, authority⟩ := found
    obtain ⟨hfound, hadmissible, hauthority⟩ := checkEnvelope_ok hcheck
    have hkeyring := noted_keyring node (.receive peerId envelope receivedAtMs)
    have hlocal := noted_localPeerId node (.receive peerId envelope receivedAtMs)
    rw [exec_bind, exec_receive hcheck] at h
    rcases hrun : (mergeReceived peerId envelope authority).exec
      (node.noted (.receive peerId envelope receivedAtMs)) with ⟨err | outcome, middle⟩
    · have hsame := atomic_mergeReceived _ err (congrArg Prod.fst hrun)
      rw [Fallible.after, hrun] at hsame
      rw [hrun] at h
      obtain ⟨rfl, rfl⟩ := Prod.mk.inj h
      exact ⟨[], hsame, fun move hmem => absurd hmem List.not_mem_nil, rfl⟩
    · obtain ⟨entries, hperforms⟩ := mergeReceived_ok (hkeyring ▸ hauthority)
        (hadmissible.congr hkeyring hlocal) hrun
      rw [hrun] at h
      obtain ⟨rfl, rfl⟩ := Prod.mk.inj h
      exact ⟨_, hperforms, List.forall_mem_cons.mpr ⟨rfl, silent_schedules _⟩,
        congrArg (List.cons _) (records_schedules entries)⟩

/-- Every request notes what it shows and does its moves. -/
theorem request_moves (h : request.run.exec node = (result, node')) :
    ∃ ms, Performed node request result node' ms := by
  cases request with
  | setSacredBan => exact setSacredBan_performed h
  | connectPeer => exact connectPeer_performed h
  | publish => exact publish_performed h
  | applySummary => exact applySummary_performed h
  | acknowledge => exact acknowledge_performed h
  | receive => exact receive_performed h

end Cthuwu.Hermes
