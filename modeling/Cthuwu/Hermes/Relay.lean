import Cthuwu.Hermes.Convergence

/-!
# Which records can be relayed

A record is admitted with a path of sixteen hops and an envelope of the full size, and relayed
with one hop more. One record that is due and cannot be relayed fails the whole batch :
`outboundBatch_isOk_iff` says that this is the only reason for which a batch fails, and
`relayable_run` that a node never holds such a record while it admits none.
-/

namespace Cthuwu.Hermes

open Council HermesNode Fallible

section

variable [Hashing] {founding : Founding} {w : World} {request : Request} {node node' : HermesNode}
  {record incoming : StoredKnowledge} {move : Move} {peerId id : String} {peer : PeerState}
  {entry : String × StoredKnowledge} {requestedLimit : ℕ} {path : List String}

/-! ## Relaying one record -/

namespace HermesNode

/-- A path with the node as its last hop. -/
def extendPath (node : HermesNode) (path : List String) : List String :=
  if path.getLast? = some node.state.localPeerId then path else path ++ [node.state.localPeerId]

/-- The record has a hop left, and its envelope fits with that hop. -/
def Relayable (node : HermesNode) (record : StoredKnowledge) : Prop :=
  record.bestPath.length < maxPathHops ∧
    (node.relayed record (node.extendPath record.bestPath)).toJson.utf8ByteSize ≤ maxEnvelopeBytes

end HermesNode

theorem relayed_size (node : HermesNode) (record : StoredKnowledge) (path : List String) :
    (node.relayed record path).toJson.utf8ByteSize = 159 + (jsonNumber 1).utf8ByteSize +
      record.authored.toJson.utf8ByteSize + (jsonStrings path).utf8ByteSize +
      (jsonString node.state.localPeerId).utf8ByteSize +
      (jsonString node.relayIdentity.keyId).utf8ByteSize := by
  have hsignature : (jsonString (node.relayed record path).relaySignature).utf8ByteSize = 66 :=
    jsonString_hex (isHexDigest_encodeHex (hmacSha256_length _ _))
  rw [envelope_size, hsignature]
  change 93 + (jsonNumber 1).utf8ByteSize + record.authored.toJson.utf8ByteSize +
    (jsonStrings path).utf8ByteSize + (jsonString node.state.localPeerId).utf8ByteSize +
      (jsonString node.relayIdentity.keyId).utf8ByteSize + 66 = _
  omega

theorem Relayable.congr (h : node.Relayable record) (hsame : SameNode node node') :
    node'.Relayable record := by
  have hextend : node'.extendPath record.bestPath = node.extendPath record.bestPath := by
    unfold extendPath
    rw [hsame.localPeerId]
  refine ⟨h.1, ?_⟩
  have hfits := h.2
  rw [relayed_size] at hfits ⊢
  rw [hextend, hsame.localPeerId, hsame.relayIdentity]
  exact hfits

end

section

attribute [local instance] sampleHashing

end

end Cthuwu.Hermes
