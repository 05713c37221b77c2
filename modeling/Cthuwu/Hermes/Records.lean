import Cthuwu.Hermes.World

/-!
# Stored records and views of peers

Only a merge changes the records of a node, and only a note changes what a peer is known to
have. Every stored record is signed, lies under its own identifier and could be admitted again
(`reachable_stored`), so that a merge fails only where the store is full (`mergeRecord_isOk`).
-/

namespace Cthuwu.Hermes

open Council HermesNode Fallible

section

variable [Hashing] {founding : Founding} {w : World} {request : Request} {node : HermesNode}
  {record incoming : StoredKnowledge} {move : Move} {peerId id digest : String}
  {peer : PeerState} {note : Note} {receivedAtMs : ℕ} {authority : SignatureAuthority}

/-! ## Frames -/

theorem move_knowledge (node : HermesNode) (h : move.record = none) :
    (move.apply node).state.knowledge = node.state.knowledge := by
  cases move with
  | noted peerId receivedAtMs note =>
    change (node.noting peerId receivedAtMs note).state.knowledge = _
    unfold noting
    cases node.state.peers.get peerId <;> rfl
  | connected => rfl
  | merged record => exact absurd h (Option.some_ne_none record)
  | dropped => rfl
  | scheduled entry =>
    obtain ⟨pending, heq⟩ := schedule_eq entry.peerId entry.knowledgeId entry.digest node
    change (node.schedule entry.peerId entry.knowledgeId entry.digest).state.knowledge = _
    rw [heq]
    rfl
  | banned memorySharingBanned => cases memorySharingBanned <;> rfl

theorem select_peers : (node.select record).state.peers = node.state.peers := by
  obtain ⟨knowledge, pending, heq⟩ := select_eq record node
  rw [heq]

/-- A move that notes nothing shows nothing of a peer. -/
theorem knownDigest_move (h : Justified node move) (hsilent : move.note = none) :
    (move.apply node).knownDigest peerId id = node.knownDigest peerId id := by
  cases h with
  | noted => exact absurd hsilent (Option.some_ne_none _)
  | connected connectable =>
    rename_i connectedId relayKeyId
    change ((node.state.peers.insert connectedId _).get peerId).bind _ = _
    rw [HashMap.get_insert_apply]
    split_ifs with heq
    · unfold knownDigest
      rw [heq, connectable.fresh]
      exact HashMap.get_empty id
    · rfl
  | merged =>
    change ((node.select _).state.peers.get peerId).bind _ = _
    rw [select_peers]
    rfl
  | dropped => rfl
  | scheduled =>
    rename_i entry _
    obtain ⟨pending, heq⟩ := schedule_eq entry.peerId entry.knowledgeId entry.digest node
    change (node.schedule entry.peerId entry.knowledgeId entry.digest).knownDigest peerId id = _
    rw [heq]
    rfl
  | banned =>
    rename_i memorySharingBanned
    cases memorySharingBanned <;> rfl

def Note.Shows (id digest : String) : Note → Prop
  | summary entries => ⟨id, digest⟩ ∈ entries
  | acknowledged accepted => accepted.get id = some digest
  | received receivedId receivedDigest => receivedId = id ∧ receivedDigest = digest

variable {known : HashMap String String}

theorem get_foldl_insert {α : Type} {key value : α → String} {l : List α}
    (h : (l.foldl (fun known x => known.insert (key x) (value x)) known).get id = some digest) :
    known.get id = some digest ∨ ∃ x ∈ l, key x = id ∧ value x = digest := by
  induction l generalizing known with
  | nil => exact .inl h
  | cons x l ih =>
    rcases ih h with hget | ⟨y, hy, heq⟩
    · rw [HashMap.get_insert_apply] at hget
      split_ifs at hget with hid
      · exact .inr ⟨x, List.mem_cons_self, hid.symm, Option.some.inj hget⟩
      · exact .inl hget
    · exact .inr ⟨y, List.mem_cons_of_mem _ hy, heq⟩

/-- A view tells what it told before, or what the note shows. -/
theorem Note.get_extend (h : (note.extend known).get id = some digest) :
    known.get id = some digest ∨ note.Shows id digest := by
  cases note with
  | summary entries =>
    rcases get_foldl_insert h with hnone | ⟨⟨knowledgeId, entryDigest⟩, hentry, rfl, rfl⟩
    · exact absurd ((HashMap.get_empty id).symm.trans hnone) (Option.some_ne_none _).symm
    · exact .inr hentry
  | acknowledged accepted =>
    rcases get_foldl_insert h with hknown | ⟨entry, hentry, rfl, rfl⟩
    · exact .inl hknown
    · exact .inr (HashMap.mem_pairs.mp (accepted.sortedPairs_perm.mem_iff.mp hentry))
  | received receivedId receivedDigest =>
    unfold Note.extend at h
    rw [HashMap.get_insert_apply] at h
    split_ifs at h with heq
    · exact .inr ⟨heq.symm, Option.some.inj h⟩
    · exact .inl h

/-- A request changes the view of a peer only by what it notes. -/
theorem knownDigest_step (w : World) (request : Request) :
    (w.step request).node.knownDigest peerId id = (w.node.noted request).knownDigest peerId id := by
  obtain ⟨ms, hstepped⟩ := step_moves w request
  obtain ⟨node, hperforms⟩ := hstepped.performs
  refine hstepped.invariant
    (P := fun w' => w'.node.knownDigest peerId id = (w.node.noted request).knownDigest peerId id)
    rfl fun w' move hmem hw' hjustified => ?_
  exact (knownDigest_move hjustified (hstepped.silent move hmem)).trans hw'

theorem knownDigest_noted (hnote : node.noteOf request = some (peerId, receivedAtMs, note))
    {other : String} (h : (node.noted request).knownDigest other id = some digest) :
    node.knownDigest other id = some digest ∨ other = peerId ∧ note.Shows id digest := by
  have hjustified := justified_noteOf hnote
  cases hjustified with
  | noted found wellFormed =>
    rename_i peer
    rw [noted_eq hnote found] at h
    unfold knownDigest setPeer at h
    dsimp only at h
    rw [HashMap.get_insert_apply] at h
    split_ifs at h with heq
    · rcases Note.get_extend h with hknown | hshows
      · left
        unfold knownDigest
        rw [heq, found]
        exact hknown
      · exact .inr ⟨heq, hshows⟩
    · exact .inl h

/-! ## Stored records -/

theorem verifyAuthored_authority {authored : AuthoredKnowledge} {keyring : TrustedKeyring}
    (h : verifyAuthored authored keyring = .ok ()) :
    ∃ authority, keyring.authority authored.authorKeyId = some authority := by
  unfold verifyAuthored at h
  simp only [except_check_ok, failIf_ok] at h
  obtain ⟨-, -, -, -, hverify⟩ := h
  unfold TrustedKeyring.verify at hverify
  rw [Bool.not_eq_true, Bool.not_eq_false', Option.any_eq_true] at hverify
  obtain ⟨key, hkey, -⟩ := hverify
  unfold TrustedKeyring.authority
  rw [hkey]
  exact ⟨key.authority, rfl⟩

/-- Every record could be admitted under its own identifier. -/
structure Stored (node : HermesNode) : Prop where
  record : ∀ id record, node.state.knowledge.get id = some record →
    record.authored.item.id = id ∧ Admissible node record
  len : node.state.knowledge.len ≤ maxKnowledgeItems

/-- A selection writes the record, or its path, or nothing. -/
theorem select_get (h : (node.select incoming).state.knowledge.get id = some record) :
    node.state.knowledge.get id = some record ∨ id = incoming.authored.item.id ∧
      (record = incoming ∨ ∃ current, node.state.knowledge.get id = some current ∧
        current.digest = incoming.digest ∧
        record = { current with bestPath := incoming.bestPath }) := by
  obtain ⟨pending, hkeep⟩ := keep_eq incoming node
  have hkept : (node.keep incoming).state.knowledge.get id = some record →
      node.state.knowledge.get id = some record ∨ id = incoming.authored.item.id ∧
        record = incoming := by
    intro hget
    rw [hkeep] at hget
    change (node.state.knowledge.insert _ _).get id = _ at hget
    rw [HashMap.get_insert_apply] at hget
    split_ifs at hget with heq
    · exact .inr ⟨heq, (Option.some.inj hget).symm⟩
    · exact .inl hget
  unfold select at h
  cases hcurrent : node.state.knowledge.get incoming.authored.item.id with
  | none =>
    rw [hcurrent] at h
    exact (hkept h).imp_right fun heq => ⟨heq.1, .inl heq.2⟩
  | some current =>
    rw [hcurrent] at h
    dsimp only at h
    split_ifs at h with _ hsame
    · exact (hkept h).imp_right fun heq => ⟨heq.1, .inl heq.2⟩
    · change (node.state.knowledge.insert _ _).get id = _ at h
      rw [HashMap.get_insert_apply] at h
      split_ifs at h with heq
      · refine .inr ⟨heq, .inr ⟨current, ?_, hsame.1, (Option.some.inj h).symm⟩⟩
        rw [heq, hcurrent]
      · exact .inl h
    · exact .inl h

theorem select_len (hroom : node.state.knowledge.get incoming.authored.item.id = none →
      node.state.knowledge.len < maxKnowledgeItems)
    (h : node.state.knowledge.len ≤ maxKnowledgeItems) :
    (node.select incoming).state.knowledge.len ≤ maxKnowledgeItems := by
  obtain ⟨pending, hkeep⟩ := keep_eq incoming node
  have hkept : (node.keep incoming).state.knowledge.len ≤ maxKnowledgeItems := by
    rw [hkeep]
    change (node.state.knowledge.insert _ _).len ≤ _
    cases hcurrent : node.state.knowledge.get incoming.authored.item.id with
    | none =>
      rw [HashMap.len_insert_fresh hcurrent]
      exact hroom hcurrent
    | some current =>
      rw [HashMap.len_insert_present hcurrent]
      exact h
  unfold select
  cases hcurrent : node.state.knowledge.get incoming.authored.item.id with
  | none => exact hkept
  | some current =>
    dsimp only
    split_ifs
    · exact hkept
    · change (node.state.knowledge.insert _ _).len ≤ _
      rw [HashMap.len_insert_present hcurrent]
      exact h
    · exact h

theorem stored_move (h : Stored node) (hmove : Justified node move) : Stored (move.apply node) := by
  have hsame := sameNode_move node move
  have hadmissible : ∀ {record}, Admissible node record → Admissible (move.apply node) record :=
    fun hrecord => hrecord.congr hsame.keyring hsame.localPeerId
  cases hmerges : move.record with
  | none =>
    have hknowledge := move_knowledge node hmerges
    refine ⟨fun id record hget => ?_, hknowledge ▸ h.len⟩
    rw [hknowledge] at hget
    obtain ⟨hid, hrecord⟩ := h.record id record hget
    exact ⟨hid, hadmissible hrecord⟩
  | some incoming =>
    cases hmove with
    | merged admissible room =>
      cases hmerges
      refine ⟨fun id record hget => ?_, select_len room h.len⟩
      rcases select_get hget with hget | ⟨hid, rfl | ⟨current, hcurrent, -, rfl⟩⟩
      · obtain ⟨hid, hrecord⟩ := h.record id record hget
        exact ⟨hid, hadmissible hrecord⟩
      · exact ⟨hid.symm, hadmissible admissible⟩
      · obtain ⟨hkey, hrecord⟩ := h.record id current hcurrent
        refine ⟨hkey, hadmissible ⟨hrecord.verified, hrecord.digest, admissible.path, ?_⟩⟩
        exact hrecord.authority
    | noted => cases hmerges
    | connected => cases hmerges
    | dropped => cases hmerges
    | scheduled => cases hmerges
    | banned => cases hmerges

theorem stored_init (founding : Founding) : Stored founding.node := by
  obtain ⟨-, -, hnode⟩ := new_ok.mp founding.founded
  rw [hnode]
  refine ⟨fun id record hget => ?_, Nat.zero_le _⟩
  exact absurd ((HashMap.get_empty id).symm.trans hget) (Option.some_ne_none _).symm

theorem reachable_stored (h : (machine founding).Reachable w) : Stored w.node :=
  invariant (P := fun w => Stored w.node) (stored_init founding)
    (fun _ _ hw hmove => stored_move hw hmove) h

/-- A node that merges a signed record refuses it only where its store is full. -/
theorem mergeRecord_isOk (h : Stored node)
    (sourcePeer : Option String) : ((mergeRecord incoming authority sourcePeer).exec node).1.isOk ↔
      (node.state.knowledge.get incoming.authored.item.id = none →
        node.state.knowledge.len < maxKnowledgeItems) := by
  unfold mergeRecord selectRecord
  rw [exec_bind, exec_get_bind]
  cases hget : node.state.knowledge.get incoming.authored.item.id with
  | none =>
    simp only [hget]
    rw [exec_lift_bind]
    unfold rejectIf failIf
    split_ifs with hfull
    · exact iff_of_false Bool.false_ne_true fun hroom => absurd (hroom trivial) (not_lt.mpr hfull)
    · exact iff_of_true rfl fun _ => not_le.mp hfull
  | some current =>
    obtain ⟨authority', hauthority⟩ := verifyAuthored_authority (h.record _ _ hget).2.verified
    refine iff_of_true ?_ fun hnone => absurd hnone (Option.some_ne_none _)
    simp only [hget]
    rw [exec_lift_bind, hauthority]
    unfold orReject okOr
    dsimp only
    cases compareRecords current authority' incoming authority <;> rfl

end

end Cthuwu.Hermes
