import Cthuwu.Lib.Batch
import Cthuwu.Discovery.Incremental

/-!
# The two classifications

The sidecar reads an agent's texts, the supervisor reads its bytes. `Agrees` is what has to hold of an
agent for the supervisor to accept what the sidecar reports of it.
-/

namespace Cthuwu.Discovery

open TokenEye (Address)
open Inspected

variable {platform : Platform} {chain : Chain} {context : ClassificationContext} {wallet : Address}
  {agentId : AgentId} {block : ℕ} {hash : Hash} {state : AgentState} {agent : Inspected}

/-! ## The evidence -/

theorem mem_identityEvidence {item : String} : item ∈ agent.identityEvidence platform context ↔
      (item = "exact-tentacle-id" ∧ agent.exactMetadataTentacle context = true) ∨
      (item = "exact-profile-tentacle-id" ∧ agent.exactProfileTentacle platform context = true) ∨
      (item = "exact-xmtp-endpoint" ∧ agent.exactXmtp platform context = true) ∨
      (item = "legacy-allegiance" ∧ agent.eligibleMarkers = true ∧
        agent.currentRelationship = true) ∨
      (item = "wallet-only" ∧ agent.currentRelationship = true ∧
        agent.exactMetadataTentacle context = false ∧
        agent.exactProfileTentacle platform context = false ∧
        agent.exactXmtp platform context = false ∧ agent.eligibleMarkers = false) := by
  unfold identityEvidence
  dsimp only
  cases agent.exactMetadataTentacle context <;>
    cases agent.exactProfileTentacle platform context <;>
    cases agent.exactXmtp platform context <;> cases agent.eligibleMarkers <;>
    cases agent.currentRelationship <;> simp

theorem validateIdentityEvidence_ok :
    validateIdentityEvidence (agent.identityEvidence platform context) = .ok () := by
  unfold identityEvidence
  dsimp only
  cases agent.exactMetadataTentacle context <;>
    cases agent.exactProfileTentacle platform context <;>
    cases agent.exactXmtp platform context <;> cases agent.eligibleMarkers <;>
    cases agent.currentRelationship <;> rfl

/-! ## The bytes -/

theorem requiredString_ok {value field : String} {maximum : ℕ} {value' : String} :
    requiredString value field maximum = .ok value' ↔ (value.utf8ByteSize ≤ maximum ∧
      value.toList.any (fun c => c = '\r' || c = '\n' || c = '\x00') = false) ∧ value' = value := by
  unfold requiredString
  simp only [except_bind_ok, exists_unit, failIf_ok, except_pure_ok, not_or, not_lt,
    Bool.not_eq_true]
  exact and_congr_right fun _ => eq_comm

theorem requiredHex_ok {value value' : Bytes} {field : String} :
    requiredHex value field (2 * 256 + 2) = .ok value' ↔ value.length ≤ 256 ∧ value' = value := by
  unfold requiredHex
  simp only [except_bind_ok, exists_unit, failIf_ok, except_pure_ok, not_lt]
  refine and_congr ⟨fun h => by omega, fun h => by omega⟩ eq_comm

theorem agentId_size (id : AgentId) : id.toNat.repr.utf8ByteSize ≤ 78 :=
  utf8ByteSize_repr_le (by omega) (id.isLt.trans (by decide))

theorem requiredString_agentId (id : AgentId) :
    requiredString id.toNat.repr "agentId" 80 = .ok id.toNat.repr := by
  refine (requiredString_ok).mpr ⟨⟨(agentId_size id).trans (by omega), ?_⟩, rfl⟩
  rw [List.any_eq_false]
  intro c hc h
  have hdigit := List.all_eq_true.mp (repr_all_digits id.toNat) c hc
  simp only [Bool.or_eq_true, decide_eq_true_eq] at h
  rcases h with (rfl | rfl) | rfl <;> exact absurd hdigit (by decide)

theorem validateAgentId_repr (id : AgentId) : validateAgentId id.toNat.repr = .ok () := by
  have hsize := agentId_size id
  unfold validateAgentId validateDecimal
  simp only [except_bind_ok, exists_unit, failIf_ok, not_or, not_lt, not_not, not_and]
  refine ⟨⟨⟨repr_ne_empty _, by omega⟩, repr_all_digits _, fun hzero => ?_⟩, hsize⟩
  exact (repr_no_leading_zero id.toNat).resolve_left hzero

/-- What the registry says of an agent is what the supervisor reads. -/
theorem inspectAgentAtBlock_ok
    (h : inspectAgentAtBlock platform wallet agentId block hash (some state) = .ok (some agent)) :
    agent.agentURI.utf8ByteSize ≤ maxUriBytes ∧
      agent.declaresTentacleAllegiance = decide (agent.allegiance.hex = utf8 allegianceValue) ∧
      agent.protocolCompatible = decide (agent.protocol.hex = utf8 protocolValue) ∧
      agent.walletVerified = decide (agent.agentWallet = wallet ∧ agent.agentWallet ≠ 0) := by
  unfold inspectAgentAtBlock at h
  simp only [except_bind_ok, exists_unit, failIf_ok, except_pure_ok, Option.some.injEq] at h
  obtain ⟨hsize, rfl⟩ := h
  exact ⟨not_lt.mp hsize, rfl, rfl, rfl⟩

def Inspected.verified (agent : Inspected) : VerifiedAgentState :=
  { owner := agent.owner
    agentUri := agent.agentURI
    agentWallet := agent.agentWallet
    authorized := agent.authorized
    allegianceHex := agent.allegiance.hex
    protocolHex := agent.protocol.hex
    tentacleIdHex := agent.tentacleId.hex
    declaresTentacleAllegiance := agent.declaresTentacleAllegiance
    protocolCompatible := agent.protocolCompatible
    walletVerified := agent.walletVerified }

/-- The texts of an agent are ones that the supervisor reads. -/
structure Readable (agent : Inspected) : Prop where
  agentURI : agent.agentURI.toList.any (fun c => c = '\r' || c = '\n' || c = '\x00') = false
  allegiance : agent.allegiance.hex.length ≤ 256
  protocol : agent.protocol.hex.length ≤ 256
  tentacleId : agent.tentacleId.hex.length ≤ 256

theorem parseVerified_ok {verified : VerifiedAgentState}
    (h : inspectAgentAtBlock platform wallet agentId block hash (some state) = .ok (some agent)) :
    parseVerified wallet agent = .ok verified ↔ Readable agent ∧ verified = agent.verified := by
  obtain ⟨hsize, hallegiance, hprotocol, hwallet⟩ := inspectAgentAtBlock_ok h
  unfold parseVerified
  simp only [except_bind_ok, exists_unit, requiredString_ok, requiredHex_ok, failIf_ok,
    except_pure_ok, and_assoc, exists_and_left, exists_eq_left, not_not]
  constructor
  · rintro ⟨-, huri, h₁, h₂, h₃, -, -, -, rfl⟩
    exact ⟨⟨huri, h₁, h₂, h₃⟩, rfl⟩
  · rintro ⟨⟨huri, h₁, h₂, h₃⟩, rfl⟩
    exact ⟨hsize, huri, h₁, h₂, h₃, hallegiance, hprotocol, hwallet, rfl⟩

/-! ## Agreement -/

/-- The sidecar's reading of an agent and the supervisor's agree. -/
structure Agrees (platform : Platform) (context : ClassificationContext) (agent : Inspected) :
    Prop where
  readable : Readable agent
  /-- The metadata reads as the Tentacle's ID exactly when its bytes are the ID. -/
  exact : agent.exactMetadataTentacle context = true ↔
    agent.tentacleId.hex = utf8 context.tentacleId
  /-- An agent with the Tentacle's ID is the wallet's, and nothing says that it is another. -/
  proven : agent.tentacleId.hex = utf8 context.tentacleId →
    agent.currentRelationship = true ∧ agent.conflictingTentacleId platform context = false
  /-- The wallet's agent that only its profile says to be another one has some metadata. -/
  unrelated : agent.currentRelationship = true → agent.eligibleMarkers = false →
    agent.exactProfileTentacle platform context = false →
    agent.exactXmtp platform context = false →
    agent.conflictingTentacleId platform context = true → agent.tentacleId.hex ≠ []
  /-- The wallet's agent that its profile says to be the Tentacle has no other bytes for its ID. -/
  same : agent.currentRelationship = true → agent.conflictingTentacleId platform context = false →
    agent.exactProfileTentacle platform context = true ∨
      (agent.eligibleMarkers = true ∧ agent.exactXmtp platform context = true) →
    agent.tentacleId.hex = [] ∨ agent.tentacleId.hex = utf8 context.tentacleId

theorem sameTentacle_iff : agent.sameTentacle platform context = true ↔
    agent.currentRelationship = true ∧ agent.conflictingTentacleId platform context = false ∧
      (agent.exactMetadataTentacle context = true ∨
        agent.exactProfileTentacle platform context = true ∨
        (agent.eligibleMarkers = true ∧ agent.exactXmtp platform context = true)) := by
  unfold sameTentacle
  simp only [Bool.and_eq_true, Bool.not_eq_true', Bool.or_eq_true, and_assoc, or_assoc]

theorem walletOnly_iff : "wallet-only" ∈ agent.identityEvidence platform context ↔
    agent.currentRelationship = true ∧ agent.exactMetadataTentacle context = false ∧
      agent.exactProfileTentacle platform context = false ∧
      agent.exactXmtp platform context = false ∧ agent.eligibleMarkers = false := by
  simp [mem_identityEvidence]

/-- An agent that only the wallet identifies may be this Tentacle, unless something conflicts. -/
theorem ambiguousTentacle_of_walletOnly
    (h : "wallet-only" ∈ agent.identityEvidence platform context) :
    agent.sameTentacle platform context = false ∧ agent.ambiguousTentacle platform context =
        !agent.conflictingTentacleId platform context := by
  obtain ⟨hrelated, hmetadata, hprofile, hxmtp, heligible⟩ := (walletOnly_iff).mp h
  unfold ambiguousTentacle provenUnrelated sameTentacle
  rw [hrelated, hmetadata, hprofile, hxmtp, heligible]
  cases agent.conflictingTentacleId platform context <;> exact ⟨rfl, rfl⟩

/-- What the supervisor checks of a candidate, once it has read its parts. -/
structure Checked (platform : Platform) (context : ClassificationContext) (agent : Inspected) :
    Prop where
  walletOnly : "wallet-only" ∈ agent.identityEvidence platform context →
    (agent.tentacleId.hex ≠ [] ∧ agent.tentacleId.hex ≠ utf8 context.tentacleId) ∨
      agent.sameTentacle platform context = true ∨
      agent.ambiguousTentacle platform context = true
  exact : agent.tentacleId.hex = utf8 context.tentacleId →
    agent.sameTentacle platform context = true
  evidence : agent.exactMetadataTentacle context = true ↔
    agent.tentacleId.hex = utf8 context.tentacleId
  same : agent.sameTentacle platform context = true →
    (agent.tentacleId.hex = [] ∨ agent.tentacleId.hex = utf8 context.tentacleId) ∧
      agent.currentRelationship = true ∧
      (agent.tentacleId.hex = utf8 context.tentacleId ∨
        agent.exactProfileTentacle platform context = true ∨
        (agent.exactXmtp platform context = true ∧ agent.eligibleMarkers = true))

theorem parseCandidate_ok
    (h : inspectAgentAtBlock platform wallet agentId block hash (some state) = .ok (some agent)) :
    (∃ parsed, parseCandidate context.tentacleId wallet
      (classifyDiscoveredAgent platform agent context) = .ok parsed) ↔
      Readable agent ∧ Checked platform context agent := by
  have hexact : "exact-tentacle-id" ∈ agent.identityEvidence platform context ↔
      agent.exactMetadataTentacle context = true := by simp [mem_identityEvidence]
  have hprofile : "exact-profile-tentacle-id" ∈ agent.identityEvidence platform context ↔
      agent.exactProfileTentacle platform context = true := by simp [mem_identityEvidence]
  have hxmtp : "exact-xmtp-endpoint" ∈ agent.identityEvidence platform context ↔
      agent.exactXmtp platform context = true := by simp [mem_identityEvidence]
  have hlegacy : "legacy-allegiance" ∈ agent.identityEvidence platform context ↔
      agent.eligibleMarkers = true ∧ agent.currentRelationship = true := by
    simp [mem_identityEvidence]
  have hwallet : "wallet-only" ∈ agent.identityEvidence platform context →
      agent.currentRelationship = true := fun hwallet => ((walletOnly_iff).mp hwallet).1
  have hboth : ¬(agent.sameTentacle platform context = true ∧
      agent.ambiguousTentacle platform context = true) := by
    unfold ambiguousTentacle
    cases agent.sameTentacle platform context <;> simp
  have hrelated : (agent.verified.authorized || agent.verified.walletVerified) =
      agent.currentRelationship := rfl
  have heligible : ∀ related, (related && agent.verified.declaresTentacleAllegiance &&
      agent.verified.protocolCompatible) = (related && agent.eligibleMarkers) :=
    fun related => Bool.and_assoc ..
  have hhex : agent.verified.tentacleIdHex = agent.tentacleId.hex := rfl
  unfold parseCandidate
  simp only [except_bind_ok, exists_unit, failIf_ok, okOr_ok, except_pure_ok,
    classifyDiscoveredAgent, parseVerified_ok h, validateIdentityEvidence_ok, true_and,
    Option.some.injEq, exists_eq_left', and_assoc, exists_and_left, exists_eq_left]
  simp only [hrelated, heligible, hhex, requiredString_agentId, Except.ok.injEq, exists_eq_left',
    validateAgentId_repr, true_and, exists_and_left, exists_eq', and_true, hexact, hprofile, hxmtp,
    hlegacy, decide_eq_true_eq, ne_eq, not_not, not_and, decide_eq_decide, Bool.and_eq_true,
    Bool.or_eq_true, Bool.not_eq_true', Bool.and_eq_false_imp, decide_eq_false_iff_not]
  constructor
  · rintro ⟨hreadable, -, -, hwalletOnly, hsame, hevidence, -, hstrong⟩
    exact ⟨hreadable, by grind, hsame, hevidence, by grind⟩
  · rintro ⟨hreadable, hwalletOnly, hsame, hevidence, hstrong⟩
    exact ⟨hreadable, by grind, hwallet, by grind, hsame, hevidence, by grind, by grind⟩

/-- Empty metadata is no ID. -/
theorem exactMetadata_ne_empty (h : agent.exactMetadataTentacle context = true) :
    utf8 context.tentacleId ≠ [] := by
  have hmem := of_decide_eq_true h
  unfold metadataTentacleId at hmem
  have hne := (Option.filter_eq_some_iff.mp hmem).2
  intro hempty
  exact of_decide_eq_true hne (toUTF8_data_toList_inj.mp hempty)

theorem checked_iff_agrees (hreadable : Readable agent) :
    Checked platform context agent ↔ Agrees platform context agent := by
  constructor
  · rintro ⟨hwalletOnly, hsame, hevidence, hstrong⟩
    refine ⟨hreadable, hevidence, fun hexact => ?_, ?_, ?_⟩
    · obtain ⟨hrelated, hconflict, -⟩ := (sameTentacle_iff).mp (hsame hexact)
      exact ⟨hrelated, hconflict⟩
    · intro hrelated heligible hprofile hxmtp hconflict hempty
      have hmetadata : agent.exactMetadataTentacle context = false := by
        rw [Bool.eq_false_iff]
        exact fun hmetadata => exactMetadata_ne_empty hmetadata
          ((hevidence.mp hmetadata).symm.trans hempty)
      have hmem := (walletOnly_iff).mpr ⟨hrelated, hmetadata, hprofile, hxmtp, heligible⟩
      obtain ⟨hnot, hambiguous⟩ := ambiguousTentacle_of_walletOnly hmem
      rw [hconflict] at hambiguous
      rcases hwalletOnly hmem with ⟨hne, -⟩ | hsame | hambiguous'
      · exact hne hempty
      · exact Bool.false_ne_true (hnot.symm.trans hsame)
      · exact Bool.false_ne_true (hambiguous.symm.trans hambiguous')
    · exact fun hrelated hconflict hevidence =>
        (hstrong ((sameTentacle_iff).mpr ⟨hrelated, hconflict, .inr hevidence⟩)).1
  · rintro ⟨-, hexact, hproven, hunrelated, hsame⟩
    refine ⟨fun hmem => ?_, fun hhex => ?_, hexact, fun h => ?_⟩
    · obtain ⟨hrelated, hmetadata, hprofile, hxmtp, heligible⟩ := (walletOnly_iff).mp hmem
      obtain ⟨-, hambiguous⟩ := ambiguousTentacle_of_walletOnly hmem
      cases hconflict : agent.conflictingTentacleId platform context with
      | false => exact .inr (.inr (by rw [hambiguous, hconflict]; rfl))
      | true =>
        refine .inl ⟨hunrelated hrelated heligible hprofile hxmtp hconflict, fun hhex => ?_⟩
        exact Bool.false_ne_true (hmetadata.symm.trans (hexact.mpr hhex))
    · obtain ⟨hrelated, hconflict⟩ := hproven hhex
      exact (sameTentacle_iff).mpr ⟨hrelated, hconflict, .inl (hexact.mpr hhex)⟩
    · obtain ⟨hrelated, hconflict, hmetadata | hevidence⟩ := (sameTentacle_iff).mp h
      · have hhex := hexact.mp hmetadata
        exact ⟨.inr hhex, hrelated, .inl hhex⟩
      · refine ⟨hsame hrelated hconflict hevidence, hrelated, .inr ?_⟩
        exact hevidence.imp_right And.symm

/-! ## Discovery -/

variable {tentacleId : String}

/-- The supervisor keeps the sidecar's classification. -/
theorem parseCandidate_classification {candidate : Candidate} {parsed : ParsedCandidate}
    (h : parseCandidate tentacleId wallet candidate = .ok parsed) :
    ∃ classification, candidate.classification = some classification ∧
      parsed.sameTentacle = classification.sameTentacle ∧
      parsed.ambiguousTentacle = classification.ambiguousTentacle := by
  unfold parseCandidate at h
  simp only [except_bind_ok, exists_unit, failIf_ok, okOr_ok, except_pure_ok] at h
  obtain ⟨-, -, -, -, -, classification, hclassification, -, -, -, -, -, -, -, -, rfl⟩ := h
  exact ⟨classification, hclassification, rfl, rfl⟩

/-- A mint authorization is for a discovery without a candidate that is this Tentacle, or may be. -/
theorem checkMintAuthorization_ok {digests : Digests} {result : DiscoveryResult}
    {parsed : List ParsedCandidate}
    (hparsed : result.candidates.mapM (parseCandidate tentacleId wallet) = .ok parsed)
    (hmint : (buildDiscoveryJournal digests result wallet context).mintAuthorization.isSome = true)
    : checkMintAuthorization parsed = .ok () := by
  have hblocked : ¬blocked result.candidates = true := by
    unfold buildDiscoveryJournal at hmint
    dsimp only at hmint
    split_ifs at hmint with h
    · exact h.2.2
    · exact absurd hmint (by decide)
  unfold checkMintAuthorization
  rw [failIf_ok, not_not, List.all_eq_true]
  intro candidate hcandidate
  obtain ⟨source, hsource, h⟩ := exists_of_mem_mapM hparsed hcandidate
  obtain ⟨classification, hclassification, hsame, hambiguous⟩ := parseCandidate_classification h
  have hnot : ¬(classification.sameTentacle || classification.ambiguousTentacle) = true := by
    intro hblocks
    refine hblocked (List.any_eq_true.mpr ⟨source, hsource, ?_⟩)
    rw [hclassification]
    exact hblocks
  rw [hsame, hambiguous]
  revert hnot
  cases classification.sameTentacle <;> cases classification.ambiguousTentacle <;> simp

/-- The supervisor accepts a candidate exactly when it and the sidecar agree on the agent, and so it
reads a discovery to its end exactly when they agree on all of its agents. A mint authorization never
contradicts the candidates. -/
theorem candidate_accepted_iff {request : DiscoveryRequest} {checkpoint : Option DiscoveryJournal}
    {result : DiscoveryResult} (hcontext : request.context = some context)
    (hfound : discoverAgents platform chain request checkpoint block = .ok result) :
    (∀ candidate ∈ result.candidates,
      ((∃ parsed, parseCandidate context.tentacleId request.wallet candidate = .ok parsed) ↔
        Agrees platform context candidate.agent)) ∧
    ((∃ parsed, result.candidates.mapM (parseCandidate context.tentacleId request.wallet) =
        .ok parsed) ↔
      ∀ candidate ∈ result.candidates, Agrees platform context candidate.agent) ∧
    ∀ digests parsed,
      result.candidates.mapM (parseCandidate context.tentacleId request.wallet) = .ok parsed →
      (buildDiscoveryJournal digests result request.wallet context).mintAuthorization.isSome = true →
      checkMintAuthorization parsed = .ok () := by
  have hcandidates : ∀ candidate ∈ result.candidates,
      ((∃ parsed, parseCandidate context.tentacleId request.wallet candidate = .ok parsed) ↔
        Agrees platform context candidate.agent) := by
    intro candidate hcandidate
    obtain ⟨id, -, agent, hagent, rfl, -⟩ := (discoverAgents_ok hfound).candidates candidate
      |>.mp hcandidate
    rw [hcontext] at *
    cases hstate : chain.agent block request.wallet id with
    | none =>
      rw [hstate] at hagent
      exact absurd (Except.ok.inj hagent) (by simp)
    | some state =>
      rw [hstate] at hagent
      rw [parseCandidate_ok hagent]
      exact ⟨fun ⟨hreadable, hchecked⟩ => (checked_iff_agrees hreadable).mp hchecked,
        fun hagrees => ⟨hagrees.readable, (checked_iff_agrees hagrees.readable).mpr hagrees⟩⟩
  refine ⟨hcandidates, ?_, fun digests parsed => checkMintAuthorization_ok⟩
  have hok : ∀ {α : Type} (r : Except String α), (∃ a, r = .ok a) ↔ r.isOk = true := by
    intro α r
    cases r <;> simp [Except.isOk, Except.toBool]
  rw [hok, mapM_isOk]
  refine forall₂_congr fun candidate hcandidate => ?_
  rw [← hok, hcandidates candidate hcandidate]

/-- The agent with the Tentacle's ID that its owner lets the wallet use. -/
theorem candidate_accepted_iff_sample : ∃ result,
    sampleDiscovery none (startBlock + 12) = .ok result ∧ result.candidates ≠ [] ∧
      ∀ candidate ∈ result.candidates, Agrees samplePlatform sampleContext candidate.agent := by
  have hruns : ((sampleDiscovery none (startBlock + 12)).toOption.map fun result =>
      decide (result.candidates ≠ []) &&
        (result.candidates.mapM (parseCandidate sampleContext.tentacleId 1)).isOk) = some true := by
    decide +kernel
  obtain ⟨result, hfound, hruns⟩ := Option.map_eq_some_iff.mp hruns
  obtain ⟨hne, hparsed⟩ := Bool.and_eq_true_iff.mp hruns
  rw [toOption_eq_some] at hfound
  refine ⟨result, hfound, of_decide_eq_true hne, ?_⟩
  have hcontext : sampleRequest.context = some sampleContext := rfl
  obtain ⟨-, hall, -⟩ := candidate_accepted_iff hcontext hfound
  cases hparse : result.candidates.mapM (parseCandidate sampleContext.tentacleId 1) with
  | ok parsed => exact hall.mp ⟨parsed, hparse⟩
  | error err =>
    rw [hparse] at hparsed
    exact absurd hparsed Bool.false_ne_true

/-- Someone's agent, which the wallet could use for a while. It says that it is the Tentacle. -/
def forgedChain : Chain :=
  { sampleChain with
    logs :=
      [{ block := startBlock
         transactionHash := some 1
         event := .approval 1 7 },
       { block := startBlock + 1
         transactionHash := some 2
         event := .approval 0 7 }]
    agent := fun _ _ id =>
      if id = 7 then
        some
          { owner := 2
            agentURI := ""
            agentWallet := 0
            allegiance := []
            protocol := []
            tentacleId := utf8 sampleContext.tentacleId
            authorized := false }
      else none }

theorem forged_candidate_refused :
    ((discoverAgents samplePlatform forgedChain sampleRequest none (startBlock + 12)).toOption.map
      fun result => result.candidates.map fun candidate =>
        (candidate.kept, candidate.agent.agentId,
          (parseCandidate sampleContext.tentacleId 1 candidate).toOption.isSome)) =
      some [(true, 7, false)] := by
  decide +kernel

end Cthuwu.Discovery
