import Cthuwu.Protocol.Messages

/-!
# Envelopes

The closed set of payloads, the checks of a payload at a time (`CouncilPayload.validateAt`) and
against its authenticated sender (`CouncilPayload.validateSender`), and the envelope that carries
it, with the checks of the envelope in their order.

An accepted announcement or forward comes from the end of its path, and a forward goes to
someone new. The invite branch of `CouncilPayload.validateAt` never looks at the path, so an
accepted invite keeps to its provenance exactly when its item would (`provenance_iff`), and a
member can invite with a path that it is not on (`invite_forges_provenance`).
-/

namespace Cthuwu.Protocol

open Council Routing

/-! ## Payloads -/

inductive CouncilPayload
  | councilMemberAnnounce (member : CthulhuIdentity)
  | councilMemberWithdraw (cthulhuId : CthulhuId) (reason : Option String)
  | tentacleAnnounce (tentacle : Tentacle)
  | tentacleCapabilities (tentacleId : TentacleId) (owner : CthulhuId) (incarnation : Incarnation)
      (capabilities : CapabilityManifest) (observedAt : Timestamp)
  | tentacleHeartbeat (update : TentacleLifecycleUpdate)
  | tentacleDraining (tentacleId : TentacleId) (owner : CthulhuId) (incarnation : Incarnation)
      (effectiveAt : Timestamp)
  | tentacleWithdraw (tentacleId : TentacleId) (owner : CthulhuId) (incarnation : Incarnation)
      (reason : Option String)
  | routeRequest (value : RouteRequest)
  | routeOffer (value : RouteOffer)
  | routeReject (value : RouteReject)
  | routeAward (value : RouteAward)
  | leaseGrant (lease : Lease)
  | leaseRenew (value : LeaseRenew)
  | leaseRelease (value : LeaseRelease)
  | leaseRevoke (value : LeaseRevoke)
  | leaseExpired (value : LeaseExpired)
  | governanceProposal (value : GovernanceProposal)
  | governanceArgument (value : GovernanceArgument)
  | governanceVote (value : GovernanceVote)
  | governanceRatified (value : GovernanceRatified)
  | governanceRejected (value : GovernanceRejected)
  | propagationInvite (invitationId : InvitationId) (item : PropagationItem)
      (inviterCthulhuId inviteeCthulhuId : CthulhuId)
  | propagationAccept (invitationId : InvitationId) (propagationId : PropagationId)
      (inviteeCthulhuId : CthulhuId) (acceptedAt : Timestamp)
  | propagationReject (invitationId : InvitationId) (propagationId : PropagationId)
      (inviteeCthulhuId : CthulhuId) (reason : String)
  | propagationAnnounce (item : PropagationItem)
  | propagationForward (item : PropagationItem) (fromCthulhuId toCthulhuId : CthulhuId)
  | propagationAck (value : PropagationAck)
  | propagationRevoke (propagationId : PropagationId) (revokerCthulhuId : CthulhuId)
      (revokedAt : Timestamp) (reason : String)

def nonzeroGeneration (field : String) (generation : ℕ) : Except ValidationError Unit :=
  rejectIf (generation = 0) field .outOfRange

def validateNotFarFuture (field : String) (value now : Timestamp) : Except ValidationError Unit :=
  rejectIf (now + maxFutureClockSkewSeconds < value) field .outOfRange

def validateWindow (field : String) (starts ends now : Timestamp) (maximumLifetimeSeconds : ℤ) :
    Except ValidationError Unit := do
  rejectIf (ends ≤ starts) field .outOfRange
  rejectIf (ends ≤ now) field .expired
  validateNotFarFuture field starts now
  rejectIf (maximumLifetimeSeconds < ends - starts) field .outOfRange

/-- A sum that saturates is positive when the sum is. -/
def validateVoteTally (decidedAt : Timestamp) (yes no abstain : ℕ) (now : Timestamp) :
    Except ValidationError Unit :=
  rejectIf (now < decidedAt ∨ yes + no + abstain = 0) "governance.voteTally" .outOfRange

variable [Hashing]

def CouncilPayload.validateAt (payload : CouncilPayload) (now : Timestamp) :
    Except ValidationError Unit :=
  match payload with
  | councilMemberAnnounce member => member.validate
  | councilMemberWithdraw _ reason =>
    boundedOptionalText "council.member.withdraw.reason" reason 256
  | tentacleAnnounce tentacle => do
    tentacle.validate
    validateNotFarFuture "tentacle.announce.lastHeartbeat" tentacle.lastHeartbeat now
  | tentacleCapabilities _ _ incarnation capabilities observedAt => do
    validateIncarnation incarnation
    capabilities.validate
    validateNotFarFuture "tentacle.capabilities.observedAt" observedAt now
  | tentacleHeartbeat update => do
    update.validate
    validateNotFarFuture "tentacle.heartbeat.lastHeartbeat" update.lastHeartbeat now
  | tentacleDraining _ _ incarnation effectiveAt => do
    validateIncarnation incarnation
    validateNotFarFuture "tentacle.draining.effectiveAt" effectiveAt now
  | tentacleWithdraw _ _ incarnation reason => do
    validateIncarnation incarnation
    boundedOptionalText "tentacle.withdraw.reason" reason 256
  | routeRequest value => do
    value.userReference.validate
    value.requirements.validate
    validateWindow "route.request" value.issuedAt value.expiresAt now maxRouteWindowSeconds
  | routeOffer value => do
    validateIncarnation value.incarnation
    rejectIf (1000 < value.currentLoadPerMille ∨ value.validUntil ≤ now ∨
      now + maxRouteWindowSeconds < value.validUntil) "route.offer" .expired
  | routeReject _ => .ok ()
  | routeAward value => do
    validateIncarnation value.incarnation
    nonzeroGeneration "route.award.generation" value.generation
  | leaseGrant lease => do
    lease.validate
    rejectIf (lease.status ≠ .granted) "lease.grant.status" .invalidFormat
    validateWindow "lease.grant" lease.issuedAt lease.expiresAt now maxLeaseLifetimeSeconds
  | leaseRenew value => do
    validateIncarnation value.incarnation
    nonzeroGeneration "lease.renew.generation" value.generation
    rejectIf (value.expiresAt ≤ now ∨ value.renewalDeadline ≤ now ∨
      value.expiresAt < value.renewalDeadline ∨ now + maxLeaseLifetimeSeconds < value.expiresAt)
      "lease.renew" .expired
  | leaseRelease value => do
    validateIncarnation value.incarnation
    nonzeroGeneration "lease.release.generation" value.generation
  | leaseRevoke value => do
    nonzeroGeneration "lease.revoke.generation" value.generation
    boundedText "lease.revoke.reason" value.reason 256
  | leaseExpired value => do
    nonzeroGeneration "lease.expired.generation" value.generation
    rejectIf (now < value.expiredAt) "lease.expired.expiredAt" .outOfRange
  | governanceProposal value => do
    value.document.validate
    rejectIf (value.deadline ≤ now ∨ now + maxGovernanceLifetimeSeconds < value.deadline ∨
      ¬(1 ≤ value.quorumBasisPoints ∧ value.quorumBasisPoints ≤ 10000) ∨
      ¬(1 ≤ value.approvalBasisPoints ∧ value.approvalBasisPoints ≤ 10000)) "governance.proposal"
      .outOfRange
  | governanceArgument value => do
    boundedText "governance.argument.summary" value.summary 2048
    boundedCount "governance.argument.evidenceHashes" value.evidenceHashes.length maxArgumentHashes
  | governanceVote value => rejectIf (now < value.castAt) "governance.vote.castAt" .outOfRange
  | governanceRatified value =>
    validateVoteTally value.ratifiedAt value.yesVotes value.noVotes value.abstentions now
  | governanceRejected value =>
    rejectIf (now < value.rejectedAt) "governance.rejected.rejectedAt" .outOfRange
  | propagationInvite _ item inviterCthulhuId inviteeCthulhuId => do
    item.validate
    validateWindow "propagation.invite.item" item.createdAt item.expiresAt now
      maxPropagationLifetimeSeconds
    rejectIf (inviterCthulhuId = inviteeCthulhuId ∨ item.expiresAt ≤ now) "propagation.invite"
      .invalidFormat
  | propagationAccept _ _ _ acceptedAt =>
    rejectIf (now < acceptedAt) "propagation.accept.acceptedAt" .outOfRange
  | propagationReject _ _ _ reason => boundedText "propagation.reject.reason" reason 256
  | propagationAnnounce item => do
    item.validate
    validateWindow "propagation.announce.item" item.createdAt item.expiresAt now
      maxPropagationLifetimeSeconds
    rejectIf (item.expiresAt ≤ now) "propagation.announce" .expired
  | propagationForward item fromCthulhuId toCthulhuId => do
    item.validate
    validateWindow "propagation.forward.item" item.createdAt item.expiresAt now
      maxPropagationLifetimeSeconds
    rejectIf (fromCthulhuId = toCthulhuId ∨ item.path.getLast? ≠ some fromCthulhuId ∨
      toCthulhuId ∈ item.path ∨ item.expiresAt ≤ now) "propagation.forward" .invalidFormat
  | propagationAck value =>
    rejectIf (now < value.acknowledgedAt) "propagation.ack.acknowledgedAt" .outOfRange
  | propagationRevoke _ _ revokedAt reason => do
    boundedText "propagation.revoke.reason" reason 256
    rejectIf (now < revokedAt) "propagation.revoke.revokedAt" .outOfRange

/-- Whether a payload speaks for its authenticated sender. -/
def CouncilPayload.matchesSender (payload : CouncilPayload) (cthulhuId : CthulhuId)
    (tentacleId : TentacleId) : Bool :=
  match payload with
  | councilMemberAnnounce member => member.id = cthulhuId && tentacleId ∈ member.tentacles
  | councilMemberWithdraw withdrawn _ => withdrawn = cthulhuId
  | tentacleAnnounce tentacle => tentacle.owner = cthulhuId && tentacle.id = tentacleId
  | tentacleCapabilities tentacle owner _ _ _ => owner = cthulhuId && tentacle = tentacleId
  | tentacleHeartbeat update => update.owner = cthulhuId && update.tentacleId = tentacleId
  | tentacleDraining tentacle owner _ _ => owner = cthulhuId && tentacle = tentacleId
  | tentacleWithdraw tentacle owner _ _ => owner = cthulhuId && tentacle = tentacleId
  | routeRequest value =>
    value.requesterCthulhuId = cthulhuId && value.requesterTentacleId = tentacleId
  | routeOffer value => value.offeringCthulhuId = cthulhuId && value.offeringTentacleId = tentacleId
  | routeReject value =>
    value.rejectingCthulhuId = cthulhuId && value.rejectingTentacleId = tentacleId
  | routeAward value => value.issuerCthulhuId = cthulhuId && value.issuerTentacleId = tentacleId
  | leaseGrant lease => lease.issuerCthulhuId = cthulhuId && lease.issuerTentacleId = tentacleId
  | leaseRenew value => value.renewingCthulhuId = cthulhuId && value.renewingTentacleId = tentacleId
  | leaseRelease value =>
    value.releasingCthulhuId = cthulhuId && value.releasingTentacleId = tentacleId
  | leaseRevoke value => value.issuerCthulhuId = cthulhuId
  | leaseExpired value => value.issuerCthulhuId = cthulhuId
  | governanceProposal value => value.proposerCthulhuId = cthulhuId
  | governanceArgument value => value.authorCthulhuId = cthulhuId
  | governanceVote value => value.voterCthulhuId = cthulhuId
  | governanceRatified value => value.issuerCthulhuId = cthulhuId
  | governanceRejected value => value.issuerCthulhuId = cthulhuId
  | propagationInvite _ _ inviter _ => inviter = cthulhuId
  | propagationAccept _ _ invitee _ => invitee = cthulhuId
  | propagationReject _ _ invitee _ => invitee = cthulhuId
  | propagationAnnounce item => item.path.getLast? = some cthulhuId
  | propagationForward _ sender _ => sender = cthulhuId
  | propagationAck value => value.acknowledgingCthulhuId = cthulhuId
  | propagationRevoke _ revoker _ _ => revoker = cthulhuId

def CouncilPayload.validateSender (payload : CouncilPayload) (cthulhuId : CthulhuId)
    (tentacleId : TentacleId) : Except ValidationError Unit :=
  rejectIf (!payload.matchesSender cthulhuId tentacleId) "sender" .senderMismatch

/-! ## Envelopes -/

def councilProtocolName : String := "cthuwu-council"

/-- `64 * 1024`. -/
def maxEnvelopeBytes : ℕ := 65536

def maxEnvelopeLifetimeSeconds : ℤ := 3600

structure Signature where
  algorithm : String
  keyId : String
  value : String

def Signature.validate (s : Signature) : Except ValidationError Unit := do
  validateSlug "signature.algorithm" s.algorithm 48
  boundedText "signature.keyId" s.keyId 128
  boundedText "signature.value" s.value 1024
  rejectIf (!isAscii s.keyId ∨ !isAscii s.value ∨ s.keyId.toList.any isWhiteSpace ∨
    s.value.toList.any isWhiteSpace) "signature" .invalidFormat

structure CouncilEnvelope where
  protocol : String
  version : ProtocolVersion
  messageId : MessageId
  councilId : CouncilId
  senderCthulhuId : CthulhuId
  senderTentacleId : TentacleId
  sentAt : Timestamp
  expiresAt : Timestamp
  sequence : ℕ
  payload : CouncilPayload
  signature : Option Signature

/-- The encoding that an envelope takes from another crate. -/
class Wire where
  /-- The length of `serde_json::to_vec`. -/
  encodedLen : CouncilEnvelope → Except Unit ℕ
  /-- The encoding of the envelope without its signature. -/
  canonicalSigningBytes : CouncilEnvelope → Except Unit (List UInt8)

variable [Wire]

def CouncilEnvelope.validateAt (e : CouncilEnvelope) (now : Timestamp) :
    Except ValidationError Unit := do
  rejectIf (e.protocol ≠ councilProtocolName) "protocol" .unsupported
  requireSupported e.version
  rejectIf (e.sequence = 0) "sequence" .outOfRange
  rejectIf (e.expiresAt - e.sentAt ≤ 0 ∨ maxEnvelopeLifetimeSeconds < e.expiresAt - e.sentAt)
    "expiresAt" .outOfRange
  rejectIf (e.expiresAt ≤ now) "expiresAt" .expired
  rejectIf (now + maxFutureClockSkewSeconds < e.sentAt) "sentAt" .outOfRange
  e.payload.validateAt now
  e.payload.validateSender e.senderCthulhuId e.senderTentacleId
  e.signature.toList.forM Signature.validate
  let actual ← (Wire.encodedLen e).mapError fun _ => ⟨"envelope", .invalidFormat⟩
  rejectIf (maxEnvelopeBytes < actual) "envelope" (.tooLong maxEnvelopeBytes actual)

end Cthuwu.Protocol

/-! ## Wire provenance -/

namespace Cthuwu.Protocol

open Council Routing

/-- A path runs up to `sender`, from where the next step goes to `recipient`, who is new to it.
An invite may name the invitee already. -/
def LeadsTo (path : List CthulhuId) (sender recipient : CthulhuId) : Prop :=
  ∃ before, (path = before ++ [sender] ∨ path = before ++ [sender, recipient]) ∧
    recipient ∉ before ++ [sender]

/-- The sender of an envelope stands where the path of its item says. -/
def CouncilEnvelope.SoundProvenance (e : CouncilEnvelope) : Prop :=
  match e.payload with
  | .propagationInvite _ item _ invitee => LeadsTo item.path e.senderCthulhuId invitee
  | .propagationAnnounce item => item.path.getLast? = some e.senderCthulhuId
  | .propagationForward item _ recipient =>
    item.path.getLast? = some e.senderCthulhuId ∧ recipient ∉ item.path
  | _ => True

/-- The path of an item, less an invitee at its end. -/
def PropagationItem.pathTo (item : PropagationItem) (invitee : CthulhuId) : List CthulhuId :=
  if item.path.getLast? = some invitee then item.path.dropLast else item.path

/-- What a forward checks of its path, asked of the path that an invite names. -/
def CouncilPayload.InvitesOnward : CouncilPayload → Prop
  | propagationInvite _ item inviter invitee =>
    (item.pathTo invitee).getLast? = some inviter ∧ invitee ∉ item.pathTo invitee
  | _ => True

variable {item : PropagationItem} {sender invitee : CthulhuId}

/-- A path leads from the sender to the invitee exactly when, without the invitee, it ends in the
sender and does not know the invitee. -/
theorem leadsTo_iff (hne : sender ≠ invitee) : LeadsTo item.path sender invitee ↔
    (item.pathTo invitee).getLast? = some sender ∧ invitee ∉ item.pathTo invitee := by
  unfold LeadsTo PropagationItem.pathTo
  constructor
  · rintro ⟨before, hpath | hpath, hnew⟩
    · have hlast : item.path.getLast? = some sender := by
        rw [hpath, List.getLast?_concat]
      rw [if_neg fun h => hne (Option.some.inj (hlast.symm.trans h)), hlast, hpath]
      exact ⟨rfl, hnew⟩
    · have hsplit : item.path = (before ++ [sender]) ++ [invitee] := by
        rw [hpath, List.append_assoc, List.singleton_append]
      have hlast : item.path.getLast? = some invitee := by
        rw [hsplit, List.getLast?_concat]
      rw [if_pos hlast, hsplit, List.dropLast_concat, List.getLast?_concat]
      exact ⟨rfl, hnew⟩
  · rintro ⟨hlast, hnew⟩
    split_ifs at hlast hnew with hinvitee
    · obtain ⟨before, hbefore⟩ := List.getLast?_eq_some_iff.mp hlast
      obtain ⟨front, hfront⟩ := List.getLast?_eq_some_iff.mp hinvitee
      have hdrop : item.path.dropLast = front := by
        rw [hfront, List.dropLast_concat]
      refine ⟨before, .inr ?_, ?_⟩
      · rw [hfront, ← hdrop, hbefore, List.append_assoc, List.singleton_append]
      · rwa [← hbefore]
    · obtain ⟨before, hbefore⟩ := List.getLast?_eq_some_iff.mp hlast
      exact ⟨before, .inl hbefore, by rwa [← hbefore]⟩

section

variable [Hashing] [Wire] {e : CouncilEnvelope} {now : Timestamp}

theorem CouncilPayload.validateSender_ok {payload : CouncilPayload} {cthulhuId : CthulhuId}
    {tentacleId : TentacleId} :
    payload.validateSender cthulhuId tentacleId = .ok () ↔
      payload.matchesSender cthulhuId tentacleId = true := by
  unfold CouncilPayload.validateSender
  rw [failIf_ok, Bool.not_eq_true', Bool.not_eq_false]

/-- The payload of an accepted envelope is valid, and speaks for its sender. -/
theorem validateAt_payload (h : e.validateAt now = .ok ()) : e.payload.validateAt now = .ok () ∧
      e.payload.matchesSender e.senderCthulhuId e.senderTentacleId = true := by
  unfold CouncilEnvelope.validateAt at h
  simp only [except_check_ok] at h
  obtain ⟨-, -, -, -, -, -, hpayload, hsender, -⟩ := h
  exact ⟨hpayload, (CouncilPayload.validateSender_ok).mp hsender⟩

/-- An accepted envelope keeps to the provenance of its item exactly when it is no invite whose
path does not lead from the inviter to the invitee. -/
theorem provenance_iff (h : e.validateAt now = .ok ()) :
    e.SoundProvenance ↔ e.payload.InvitesOnward := by
  obtain ⟨hpayload, hsender⟩ := validateAt_payload h
  unfold CouncilEnvelope.SoundProvenance CouncilPayload.InvitesOnward
  split
  · rename_i invitationId item inviter invitee heq
    rw [heq] at hpayload hsender ⊢
    have hinviter : inviter = e.senderCthulhuId := of_decide_eq_true hsender
    unfold CouncilPayload.validateAt at hpayload
    simp only [except_check_ok, failIf_ok, not_or] at hpayload
    obtain ⟨-, -, hne, -⟩ := hpayload
    rw [hinviter] at hne ⊢
    exact leadsTo_iff hne
  · rename_i item heq
    rw [heq] at hsender ⊢
    exact iff_of_true (of_decide_eq_true hsender) trivial
  · rename_i item from_ recipient heq
    rw [heq] at hpayload hsender ⊢
    have hfrom : from_ = e.senderCthulhuId := of_decide_eq_true hsender
    unfold CouncilPayload.validateAt at hpayload
    simp only [except_check_ok, failIf_ok, not_or, not_not] at hpayload
    obtain ⟨-, -, -, hlast, hnew, -⟩ := hpayload
    rw [hfrom] at hlast
    exact iff_of_true ⟨hlast, hnew⟩ trivial
  · rename_i hinvite hannounce hforward
    refine iff_of_true trivial ?_
    split
    · rename_i invitationId item inviter invitee heq
      exact absurd heq (hinvite invitationId item inviter invitee)
    · trivial

end

/-! ## A forged invitation -/

def sampleMaterial : String :=
  "\x7b\"domain\":\"cthuwu-council-provenance-v1\",\"propagationId\":\"propagation_sample\"," ++
  "\"contentKind\":\"agendaSummary\",\"payloadHash\":\"sha256:00000000000000000000000000000000" ++
  "00000000000000000000000000000000\",\"originCthulhuId\":\"cthulhu_origin\"," ++
  "\"parentPropagationId\":null,\"depth\":0,\"path\":[\"cthulhu_origin\"],\"provenance\":[]," ++
  "\"createdAt\":0,\"expiresAt\":100,\"policy\":\x7b\"policyVersion\":\"1.0\",\"maximumDepth\":4," ++
  "\"maximumFanOut\":4,\"visibility\":\"council\"\x7d\x7d"

@[reducible] def sampleHashing : Hashing where
  materialJson _ := .ok sampleMaterial
  sha256 _ := "10e2737e45749d199085f579c06a0bdebb0125455a2066b702131749778e9d36"

/-- An invitation to the sample item takes 863 bytes. -/
@[reducible] def sampleWire : Wire where
  encodedLen _ := .ok 863
  canonicalSigningBytes _ := .error ()

attribute [local instance] sampleHashing sampleWire

def samplePayloadHash : ContentHash :=
  ⟨"sha256:0000000000000000000000000000000000000000000000000000000000000000", by decide +kernel⟩

def sampleChainHash : ContentHash :=
  ⟨"sha256:10e2737e45749d199085f579c06a0bdebb0125455a2066b702131749778e9d36", by decide +kernel⟩

def sampleOrigin : CthulhuId :=
  ⟨"cthulhu_origin", by decide +kernel⟩

def sampleForger : CthulhuId :=
  ⟨"cthulhu_forger", by decide +kernel⟩

def sampleInvitee : CthulhuId :=
  ⟨"cthulhu_invitee", by decide +kernel⟩

/-- The root item of `sampleOrigin`. -/
def sampleItem : PropagationItem where
  propagationId := ⟨"propagation_sample", by decide +kernel⟩
  contentKind := .agendaSummary
  payloadHash := samplePayloadHash
  originCthulhuId := sampleOrigin
  parentPropagationId := none
  depth := 0
  path := [sampleOrigin]
  provenance := []
  chainHash := sampleChainHash
  createdAt := 0
  expiresAt := 100
  policy := ⟨.first, 4, 4, .council⟩

def sampleInvitation (inviter : CthulhuId) : CouncilEnvelope where
  protocol := councilProtocolName
  version := .first
  messageId := ⟨"msg_sample", by decide +kernel⟩
  councilId := ⟨"council_sample", by decide +kernel⟩
  senderCthulhuId := inviter
  senderTentacleId := ⟨"tentacle_sample", by decide +kernel⟩
  sentAt := 1
  expiresAt := 20
  sequence := 1
  payload := .propagationInvite ⟨"invite_sample", by decide +kernel⟩ sampleItem inviter sampleInvitee
  signature := none

theorem provenance_iff_sample : (sampleInvitation sampleOrigin).validateAt 10 = .ok () ∧
    ((sampleInvitation sampleOrigin).SoundProvenance ↔
      (sampleInvitation sampleOrigin).payload.InvitesOnward) := by
  have hvalid : (sampleInvitation sampleOrigin).validateAt 10 = .ok () := by decide +kernel
  exact ⟨hvalid, provenance_iff hvalid⟩

/-- Someone who is not on the path of an item invites to it, and the envelope is accepted. -/
theorem invite_forges_provenance : (sampleInvitation sampleForger).validateAt 10 = .ok () ∧
    ¬(sampleInvitation sampleForger).SoundProvenance := by
  refine ⟨by decide +kernel, ?_⟩
  change ¬LeadsTo sampleItem.path sampleForger sampleInvitee
  rw [leadsTo_iff (by decide)]
  decide

end Cthuwu.Protocol
