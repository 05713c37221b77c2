import Cthuwu.Hermes.Effects
import Cthuwu.Hermes.Json
import Cthuwu.Lib.Runs

/-!
# Runs of a node

`machine` runs any requests of any callers in any order on a node that `new` has made. A
`World` records beside the node the signed records that a publication or a receipt was accepted
for. `step_moves` reduces a step to a note and justified moves, and `invariant` is the rule by
which the later modules prove a property of every run.
-/

namespace Cthuwu.Hermes

open Council HermesNode Fallible

section

variable [Hashing]

/-- A node as it was made. -/
structure Founding where
  localPeerId : String
  relayIdentity : SigningIdentity
  keyring : TrustedKeyring
  sacredBan : SacredBan
  node : HermesNode
  founded : HermesNode.new localPeerId relayIdentity keyring sacredBan = .ok node

structure World where
  node : HermesNode
  admitted : List AuthoredKnowledge

def World.init (founding : Founding) : World where
  node := founding.node
  admitted := []

def World.step (w : World) (request : Request) : World :=
  match request.run.exec w.node with
  | (.ok _, node) => ⟨node, w.admitted ++ ((w.node.recordOf request).map (·.authored)).toList⟩
  | (.error _, node) => ⟨node, w.admitted⟩

def machine (founding : Founding) : Machine World Request where
  init := .init founding
  Allowed _ _ := True
  next := World.step

def World.move (w : World) (move : Move) : World where
  node := move.apply w.node
  admitted := w.admitted ++ (move.record.map (·.authored)).toList

def World.noted (w : World) (request : Request) : World where
  node := w.node.noted request
  admitted := w.admitted

variable {founding : Founding} {w : World} {request : Request} {node : HermesNode} {move : Move}

theorem new_ok {localPeerId : String} {relayIdentity : SigningIdentity} {keyring : TrustedKeyring}
    {sacredBan : SacredBan} : HermesNode.new localPeerId relayIdentity keyring sacredBan = .ok node ↔
      isId localPeerId = true ∧ keyring.trusted relayIdentity = true ∧
        node = ⟨⟨1, localPeerId, relayIdentity.keyId, .empty, .empty, []⟩, relayIdentity, keyring,
          decide (sacredBan = .memorySharing)⟩ := by
  unfold HermesNode.new
  simp only [except_check_ok, validateId_ok, failIf_ok, except_pure_ok, Bool.not_eq_true',
    Bool.not_eq_false]
  exact and_congr_right fun _ => and_congr_right fun _ => eq_comm

theorem move_eq (w : World) (ms : List Move) : ms.foldl World.move w = ⟨ms.foldl Move.apply w.node,
      w.admitted ++ (ms.filterMap Move.record).map (·.authored)⟩ := by
  induction ms generalizing w with
  | nil => rw [List.foldl_nil, List.foldl_nil, List.filterMap_nil, List.map_nil, List.append_nil]
  | cons move ms ih =>
    rw [List.foldl_cons, List.foldl_cons, ih, World.move, List.append_assoc, List.filterMap_cons]
    cases move.record <;> rfl

/-- The moves of a step, after what it notes. -/
structure Stepped (w : World) (request : Request) (ms : List Move) : Prop where
  performs : ∃ node, moves.Performs (w.node.noted request) ms node
  silent : ∀ move ∈ ms, move.note = none
  records : ∀ move ∈ ms, ∀ record, move.record = some record → w.node.recordOf request = some record
  step : w.step request = ms.foldl World.move (w.noted request)

theorem step_moves (w : World) (request : Request) : ∃ ms, Stepped w request ms := by
  rcases h : request.run.exec w.node with ⟨result, node⟩
  obtain ⟨ms, hperforms, hsilent, hrecords⟩ := request_moves h
  refine ⟨ms, ⟨node, hperforms⟩, hsilent, fun move hmem record hrecord => ?_, ?_⟩
  · have hin : record ∈ ms.filterMap Move.record := List.mem_filterMap.mpr ⟨move, hmem, hrecord⟩
    rw [hrecords] at hin
    split_ifs at hin
    · exact Option.mem_toList.mp hin
    · exact absurd hin List.not_mem_nil
  · have hnode := hperforms.eq
    rw [move_eq, hrecords]
    unfold World.step
    rw [h]
    cases result with
    | error err =>
      dsimp only [World.noted, Except.isOk]
      rw [hnode]
      exact congrArg (World.mk _) (List.append_nil _).symm
    | ok reply =>
      dsimp only [World.noted, Except.isOk]
      rw [hnode]
      refine congrArg (World.mk _) (congrArg _ ?_)
      cases w.node.recordOf request <;> rfl

/-- What the moves of a step keep is kept by all of them. -/
theorem Stepped.invariant {P : World → Prop} {ms : List Move} (h : Stepped w request ms)
    (hnoted : P (w.noted request))
    (hmove : ∀ w, ∀ move ∈ ms, P w → Justified w.node move → P (w.move move)) :
    P (w.step request) := by
  obtain ⟨node, hperforms⟩ := h.performs
  rw [h.step]
  exact Moves.Performs.recorded (M := moves) (fun _ _ => rfl) hperforms hnoted hmove

/-- What is noted is a justified move, or nothing. -/
theorem noted_move (w : World) (request : Request) :
    w.noted request = w ∨ ∃ move, Justified w.node move ∧ move.record = none ∧
      w.noted request = w.move move := by
  cases hnote : w.node.noteOf request with
  | none =>
    left
    unfold World.noted HermesNode.noted
    rw [hnote]
  | some noted =>
    right
    refine ⟨.noted noted.1 noted.2.1 noted.2.2, justified_noteOf hnote, rfl, ?_⟩
    unfold World.noted HermesNode.noted
    rw [hnote]
    exact congrArg (World.mk _) (List.append_nil _).symm

/-- What holds of a new node and is kept by every justified move holds after every run. -/
theorem invariant {P : World → Prop} (hinit : P (.init founding))
    (hmove : ∀ w move, P w → Justified w.node move → P (w.move move))
    (h : (machine founding).Reachable w) : P w := by
  refine h.invariant hinit fun w request _ hw _ => ?_
  obtain ⟨ms, hstepped⟩ := step_moves w request
  refine hstepped.invariant ?_ fun w move _ => hmove w move
  rcases noted_move w request with heq | ⟨move, hjustified, -, heq⟩
  · rw [heq]
    exact hw
  · rw [heq]
    exact hmove w move hw hjustified

/-! ## What no move changes -/

/-- The keys and the names of the node are the same. -/
structure SameNode (node node' : HermesNode) : Prop where
  localPeerId : node'.state.localPeerId = node.state.localPeerId
  localRelayKeyId : node'.state.localRelayKeyId = node.state.localRelayKeyId
  schemaVersion : node'.state.schemaVersion = node.state.schemaVersion
  relayIdentity : node'.relayIdentity = node.relayIdentity
  keyring : node'.keyring = node.keyring

theorem SameNode.trans {node' node'' : HermesNode} (h : SameNode node node')
    (h' : SameNode node' node'') : SameNode node node'' where
  localPeerId := h'.localPeerId.trans h.localPeerId
  localRelayKeyId := h'.localRelayKeyId.trans h.localRelayKeyId
  schemaVersion := h'.schemaVersion.trans h.schemaVersion
  relayIdentity := h'.relayIdentity.trans h.relayIdentity
  keyring := h'.keyring.trans h.keyring

theorem keep_eq (record : StoredKnowledge) (node : HermesNode) : ∃ pending,
    node.keep record = (node.setKnowledge record.authored.item.id record).setPending pending := by
  unfold keep
  split_ifs
  · exact ⟨_, rfl⟩
  · exact ⟨node.state.pendingOutbound, rfl⟩

theorem select_eq (record : StoredKnowledge) (node : HermesNode) : ∃ knowledge pending,
    node.select record = { node with state := { node.state with
      knowledge, pendingOutbound := pending } } := by
  obtain ⟨pending, hkeep⟩ := keep_eq record node
  unfold select
  split
  · exact ⟨_, pending, hkeep⟩
  · split_ifs
    · exact ⟨_, pending, hkeep⟩
    · exact ⟨_, node.state.pendingOutbound, rfl⟩
    · exact ⟨node.state.knowledge, node.state.pendingOutbound, rfl⟩

theorem sameNode_move (node : HermesNode) (move : Move) : SameNode node (move.apply node) := by
  cases move with
  | noted peerId receivedAtMs note =>
    change SameNode node (node.noting peerId receivedAtMs note)
    unfold noting
    cases node.state.peers.get peerId with
    | none => exact ⟨rfl, rfl, rfl, rfl, rfl⟩
    | some peer => exact ⟨rfl, rfl, rfl, rfl, rfl⟩
  | connected => exact ⟨rfl, rfl, rfl, rfl, rfl⟩
  | merged record =>
    obtain ⟨knowledge, pending, heq⟩ := select_eq record node
    change SameNode node (node.select record)
    rw [heq]
    exact ⟨rfl, rfl, rfl, rfl, rfl⟩
  | dropped => exact ⟨rfl, rfl, rfl, rfl, rfl⟩
  | scheduled entry =>
    obtain ⟨pending, heq⟩ := schedule_eq entry.peerId entry.knowledgeId entry.digest node
    change SameNode node (node.schedule entry.peerId entry.knowledgeId entry.digest)
    rw [heq]
    exact ⟨rfl, rfl, rfl, rfl, rfl⟩
  | banned memorySharingBanned =>
    change SameNode node (if memorySharingBanned then _ else _)
    split_ifs
    · exact ⟨rfl, rfl, rfl, rfl, rfl⟩
    · exact ⟨rfl, rfl, rfl, rfl, rfl⟩

def sampleA : SigningIdentity where
  keyId := "key-a"
  secret := List.replicate 32 1
  keyIdValid := by decide
  secretValid := by decide

def sampleB : SigningIdentity where
  keyId := "key-b"
  secret := List.replicate 32 2
  keyIdValid := by decide
  secretValid := by decide

def sampleKeyring : TrustedKeyring where
  keys := (HashMap.empty.insert sampleA.keyId ⟨sampleA.secret, .peer⟩).insert sampleB.keyId
    ⟨sampleB.secret, .peer⟩

def sampleFounding (localPeerId : String) (relayIdentity : SigningIdentity)
    (hid : isId localPeerId = true) (htrusted : sampleKeyring.trusted relayIdentity = true) :
    Founding where
  localPeerId
  relayIdentity
  keyring := sampleKeyring
  sacredBan := .profit
  node := ⟨⟨1, localPeerId, relayIdentity.keyId, .empty, .empty, []⟩, relayIdentity, sampleKeyring,
    false⟩
  founded := (new_ok).mpr ⟨hid, htrusted, rfl⟩

def sampleFoundingA : Founding :=
  sampleFounding "peer-a" sampleA (by decide) (by decide)

def sampleFoundingB : Founding :=
  sampleFounding "peer-b" sampleB (by decide) (by decide)

def samplePayload : KnowledgePayload :=
  .conversationStrategy ⟨.answerFirst, 5, 4⟩

def sampleItem : KnowledgeItem where
  id := knowledgeId samplePayload.logicalKey
  payload := samplePayload

def sampleAuthored : AuthoredKnowledge :=
  author sampleItem 10 sampleA

def sampleEnvelope (path : List String) : KnowledgeEnvelope :=
  let envelope : KnowledgeEnvelope :=
    { envelopeVersion := 1
      authored := sampleAuthored
      path
      relayPeerId := "peer-a"
      relayKeyId := sampleA.keyId
      relaySignature := "" }
  { envelope with relaySignature := signRelay envelope sampleA }

theorem sampleItem_valid : sampleItem.validate = .ok () := by
  have hpayload : samplePayload.validate = .ok () := by decide
  unfold KnowledgeItem.validate
  rw [except_check_ok, failIf_ok]
  exact ⟨hpayload, not_not_intro rfl⟩

theorem sampleAuthored_verified : verifyAuthored sampleAuthored sampleKeyring = .ok () :=
  verifyAuthored_author sampleItem_valid (by decide)

theorem sampleAuthored_size : sampleAuthored.toJson.utf8ByteSize ≤ 1000 := by
  have hid : (jsonString sampleItem.id).utf8ByteSize = 66 :=
    jsonString_hex (isHexDigest_knowledgeId _)
  have hsignature : (jsonString sampleAuthored.authorSignature).utf8ByteSize = 66 :=
    jsonString_hex (isHexDigest_encodeHex (hmacSha256_length _ _))
  have hitem := knowledgeItem_size sampleItem
  have hrest : (jsonNumber 1).utf8ByteSize + (jsonNumber 10).utf8ByteSize +
      (jsonString "key-a").utf8ByteSize + samplePayload.toJson.utf8ByteSize ≤ 200 := by
    decide
  rw [authoredKnowledge_size, hsignature]
  change 83 + (jsonNumber 1).utf8ByteSize + sampleItem.toJson.utf8ByteSize +
    (jsonNumber 10).utf8ByteSize + (jsonString "key-a").utf8ByteSize + 66 ≤ 1000
  change _ = 18 + _ + samplePayload.toJson.utf8ByteSize at hitem
  omega

theorem sampleEnvelope_size (path : List String) :
    (sampleEnvelope path).toJson.utf8ByteSize ≤ 2000 + (jsonStrings path).utf8ByteSize := by
  have hsignature : (jsonString (sampleEnvelope path).relaySignature).utf8ByteSize = 66 :=
    jsonString_hex (isHexDigest_encodeHex (hmacSha256_length _ _))
  have hrest : (jsonNumber 1).utf8ByteSize + (jsonString "peer-a").utf8ByteSize +
      (jsonString "key-a").utf8ByteSize ≤ 100 := by
    decide
  have hauthored := sampleAuthored_size
  rw [envelope_size, hsignature]
  change 93 + (jsonNumber 1).utf8ByteSize + sampleAuthored.toJson.utf8ByteSize +
    (jsonStrings path).utf8ByteSize + (jsonString "peer-a").utf8ByteSize +
      (jsonString "key-a").utf8ByteSize + 66 ≤ _
  omega

theorem sampleEnvelope_accepted {peer : PeerState} {path : List String}
    (hpeer : node.state.peers.get "peer-a" = some peer) (hkey : peer.relayKeyId = sampleA.keyId)
    (hkeyring : node.keyring = sampleKeyring) (hpath : validatePath path = .ok ())
    (hlast : path.getLast? = some "peer-a") (hloop : node.state.localPeerId ∉ path)
    (hsize : (jsonStrings path).utf8ByteSize ≤ 2000) :
    node.checkEnvelope "peer-a" (sampleEnvelope path) = .ok (peer, .peer) := by
  have henvelope := sampleEnvelope_size path
  have hrelay : verifyRelay (sampleEnvelope path) sampleKeyring = .ok () := by
    have htrusted : sampleKeyring.trusted sampleA = true := by decide
    unfold verifyRelay
    rw [failIf_ok, Bool.not_eq_true, Bool.not_eq_false']
    exact verify_signed htrusted (sampleEnvelope path).signingBytes
  have hsignature : isHexDigest (sampleEnvelope path).relaySignature = true :=
    isHexDigest_encodeHex (hmacSha256_length _ _)
  unfold checkEnvelope validateEnvelopeShape validateEnvelopeSize
  simp only [except_bind_ok, exists_unit, failIf_ok, okOr_ok, requirePeer_ok, except_pure_ok,
    validateId_ok, validateHexDigest_ok]
  have hname : isId "peer-a" = true ∧ isId "key-a" = true := by decide
  refine ⟨peer, hpeer, ⟨?_, not_not_intro rfl, hname.1, hname.2, hsignature, hpath, ?_⟩, ?_⟩
  · unfold maxEnvelopeBytes
    omega
  · exact not_not_intro hlast
  · refine ⟨not_or.mpr ⟨not_not_intro rfl, not_not_intro hlast⟩, not_not_intro hkey.symm, hloop, ?_⟩
    rw [hkeyring]
    exact ⟨sampleAuthored_verified, hrelay, .peer, rfl, fun hskill => Bool.false_ne_true hskill.1, rfl⟩

end

/-- What the sample signs, with its identifier and signatures written out. -/
def sampleText (authorSignature : String) (path : List String) : KnowledgeEnvelope where
  envelopeVersion := 1
  authored :=
    { envelopeVersion := 1
      item := ⟨"0c0343d410decdb29ab2f6ab49e51c1a6eb305d66ce216a68db30e06f44db57b", samplePayload⟩
      createdAtMs := 10
      authorKeyId := "key-a"
      authorSignature }
  path
  relayPeerId := "peer-a"
  relayKeyId := "key-a"
  relaySignature := ""

def sampleSignature : String :=
  "34f4912bcb7625a49abb98edc3e6fc012ed17a003adf995ced468ae0281c5c98"

/-- A path of as many hops as a path may have. -/
def sampleLongPath : List String :=
  ["hop-1", "hop-2", "hop-3", "hop-4", "hop-5", "hop-6", "hop-7", "hop-8", "hop-9", "hop-10",
    "hop-11", "hop-12", "hop-13", "hop-14", "hop-15", "peer-a"]

/-- The 32 bytes of a digest. -/
def digestBytes (digest : ℕ) : List UInt8 :=
  (List.range 32).map fun i => UInt8.ofNat (digest >>> (8 * (31 - i)))

/-- The digests of the two messages of a keyed hash with A's key. -/
def sampleHmac (message : List UInt8) (inner outer : ℕ) : List (List UInt8 × ℕ) :=
  let block := sampleA.secret ++ List.replicate 32 0
  [(block.map (0x36 ^^^ ·) ++ message, inner), (block.map (0x5c ^^^ ·) ++ digestBytes inner, outer)]

/-- The SHA-256 digests of what the sample encodes. -/
def sampleDigests : List (List UInt8 × ℕ) :=
  [(utf8 "cthuwu-hermes-knowledge-id-v1\x00strategy:answer-first",
      0x0c0343d410decdb29ab2f6ab49e51c1a6eb305d66ce216a68db30e06f44db57b),
    (utf8 (sampleText sampleSignature []).authored.toJson,
      0x292dcf753f472e5df7ec3454efe867dd3c0d1c5fe1ccd016b7d38676df702d88)] ++
  sampleHmac (sampleText "" []).authored.signingBytes
    0x40d219298e745dc3119f04e39eda661685fad1efb22f3ba753c93a1d5cd432c7
    0x34f4912bcb7625a49abb98edc3e6fc012ed17a003adf995ced468ae0281c5c98 ++
  sampleHmac (sampleText sampleSignature ["peer-a"]).signingBytes
    0xbb90a4189f0a6da0e4fc616b6b4938d9e9b5f2090876752a3f6dd452e4e64fb0
    0xa89b84edaca74e8bd630dbab62e4c6b9bbc0074871c1a98aab856fffc789005e ++
  sampleHmac (sampleText sampleSignature sampleLongPath).signingBytes
    0xfcf73ef19ea0209657d738349b26e2c02fc839d9d1f6dad4c9d1e52da21e9afa
    0x9538e397ed525f9c8ed4b7be02e17ab95ad95eef717b4d676327d7de741467ce

/-- The digests of the sample, and the end of anything else. -/
@[reducible] def sampleHashing : Hashing where
  sha256 bytes := ((sampleDigests.lookup bytes).map digestBytes).getD
    ((bytes.reverse ++ List.replicate 32 0).take 32)
  sha256_length bytes := by
    cases sampleDigests.lookup bytes with
    | none => simp
    | some digest => simp [digestBytes]

end Cthuwu.Hermes
