import Cthuwu.Hermes.Text
import Cthuwu.Lib.Maps

/-!
# Knowledge, its authors and their keys

A `KnowledgeItem` is a payload under an identifier that is the hash of its logical key. An
author signs it with a keyed hash, and a relay signs the author's record together with the path
it took. What is signed and hashed is the compact JSON that `serde_json` writes.

SHA-256 comes from outside the repository and is the field of `Hashing`, with the one property
that the code relies on : a digest has 32 bytes.
-/

namespace Cthuwu.Hermes

open Council

/-! ## Payloads -/

inductive InteractionPatternKind
  | firstTurnEngagement
  | returnEngagement
  | clarification
  | consentBoundary
  | topicChange

def InteractionPatternKind.code : InteractionPatternKind → String
  | firstTurnEngagement => "first-turn-engagement"
  | returnEngagement => "return-engagement"
  | clarification => "clarification"
  | consentBoundary => "consent-boundary"
  | topicChange => "topic-change"

/-- `rename_all = "snake_case"`. -/
def InteractionPatternKind.label : InteractionPatternKind → String
  | firstTurnEngagement => "first_turn_engagement"
  | returnEngagement => "return_engagement"
  | clarification => "clarification"
  | consentBoundary => "consent_boundary"
  | topicChange => "topic_change"

inductive ConversationStrategyKind
  | answerFirst
  | oneQuestionAtATime
  | askForClarification
  | respectTopicChange
  | explainUncertainty

def ConversationStrategyKind.code : ConversationStrategyKind → String
  | answerFirst => "answer-first"
  | oneQuestionAtATime => "one-question-at-a-time"
  | askForClarification => "ask-for-clarification"
  | respectTopicChange => "respect-topic-change"
  | explainUncertainty => "explain-uncertainty"

def ConversationStrategyKind.label : ConversationStrategyKind → String
  | answerFirst => "answer_first"
  | oneQuestionAtATime => "one_question_at_a_time"
  | askForClarification => "ask_for_clarification"
  | respectTopicChange => "respect_topic_change"
  | explainUncertainty => "explain_uncertainty"

inductive ToolOperationKind
  | discover
  | read
  | search
  | transform
  | validate

/-- Also its name in JSON. -/
def ToolOperationKind.code : ToolOperationKind → String
  | discover => "discover"
  | read => "read"
  | search => "search"
  | transform => "transform"
  | validate => "validate"

structure AnonymizedInteractionPattern where
  pattern : InteractionPatternKind
  observations : ℕ
  successes : ℕ

structure ConversationStrategy where
  strategy : ConversationStrategyKind
  attempts : ℕ
  successes : ℕ

structure ToolUsagePattern where
  toolName : String
  operation : ToolOperationKind
  attempts : ℕ
  successes : ℕ

structure OperatorSkill where
  name : String
  version : ℕ
  instructions : String

def OperatorSkill.validate (skill : OperatorSkill) : Except HermesError Unit := do
  validateSlug skill.name maxSkillNameBytes "skill name"
  failIf (skill.version = 0) (.invalid "skill version must be positive")
  validatePublicSkillText skill.instructions

inductive KnowledgePayload
  | anonymizedInteractionPattern (pattern : AnonymizedInteractionPattern)
  | conversationStrategy (strategy : ConversationStrategy)
  | toolUsagePattern (pattern : ToolUsagePattern)
  | operatorCreatedSkill (skill : OperatorSkill)

def KnowledgePayload.validate : KnowledgePayload → Except HermesError Unit
  | anonymizedInteractionPattern pattern =>
    validateCounts pattern.observations pattern.successes "interaction pattern"
  | conversationStrategy strategy =>
    validateCounts strategy.attempts strategy.successes "conversation strategy"
  | toolUsagePattern pattern => do
    validateSlug pattern.toolName maxToolNameBytes "tool name"
    validateCounts pattern.attempts pattern.successes "tool pattern"
  | operatorCreatedSkill skill => skill.validate

def KnowledgePayload.logicalKey : KnowledgePayload → String
  | anonymizedInteractionPattern pattern => "interaction:" ++ pattern.pattern.code
  | conversationStrategy strategy => "strategy:" ++ strategy.strategy.code
  | toolUsagePattern pattern => "tool:" ++ pattern.toolName ++ ":" ++ pattern.operation.code
  | operatorCreatedSkill skill => "skill:" ++ skill.name

/-- `matches!(payload, OperatorCreatedSkill(_))`. -/
def KnowledgePayload.isSkill : KnowledgePayload → Bool
  | operatorCreatedSkill _ => true
  | _ => false

def jsonNumber (n : ℕ) : String :=
  toString n

/-- Tagged by `knowledge_type`, with the content under `value`. -/
def KnowledgePayload.toJson : KnowledgePayload → String
  | anonymizedInteractionPattern pattern =>
    jsonObject [("knowledge_type", jsonString "anonymized_interaction_pattern"),
      ("value", jsonObject [("pattern", jsonString pattern.pattern.label),
        ("observations", jsonNumber pattern.observations),
        ("successes", jsonNumber pattern.successes)])]
  | conversationStrategy strategy =>
    jsonObject [("knowledge_type", jsonString "conversation_strategy"),
      ("value", jsonObject [("strategy", jsonString strategy.strategy.label),
        ("attempts", jsonNumber strategy.attempts),
        ("successes", jsonNumber strategy.successes)])]
  | toolUsagePattern pattern =>
    jsonObject [("knowledge_type", jsonString "tool_usage_pattern"),
      ("value", jsonObject [("tool_name", jsonString pattern.toolName),
        ("operation", jsonString pattern.operation.code),
        ("attempts", jsonNumber pattern.attempts),
        ("successes", jsonNumber pattern.successes)])]
  | operatorCreatedSkill skill =>
    jsonObject [("knowledge_type", jsonString "operator_created_skill"),
      ("value", jsonObject [("name", jsonString skill.name),
        ("version", jsonNumber skill.version),
        ("instructions", jsonString skill.instructions)])]

/-! ## Items and envelopes -/

structure KnowledgeItem where
  id : String
  payload : KnowledgePayload

def KnowledgeItem.toJson (item : KnowledgeItem) : String :=
  jsonObject [("id", jsonString item.id), ("payload", item.payload.toJson)]

structure AuthoredKnowledge where
  envelopeVersion : ℕ
  item : KnowledgeItem
  createdAtMs : ℕ
  authorKeyId : String
  authorSignature : String

def AuthoredKnowledge.toJson (authored : AuthoredKnowledge) : String :=
  jsonObject [("envelope_version", jsonNumber authored.envelopeVersion),
    ("item", authored.item.toJson), ("created_at_ms", jsonNumber authored.createdAtMs),
    ("author_key_id", jsonString authored.authorKeyId),
    ("author_signature", jsonString authored.authorSignature)]

structure KnowledgeEnvelope where
  envelopeVersion : ℕ
  authored : AuthoredKnowledge
  path : List String
  relayPeerId : String
  relayKeyId : String
  relaySignature : String

def jsonStrings (values : List String) : String :=
  jsonList (values.map jsonString)

def KnowledgeEnvelope.toJson (envelope : KnowledgeEnvelope) : String :=
  jsonObject [("envelope_version", jsonNumber envelope.envelopeVersion),
    ("authored", envelope.authored.toJson), ("path", jsonStrings envelope.path),
    ("relay_peer_id", jsonString envelope.relayPeerId),
    ("relay_key_id", jsonString envelope.relayKeyId),
    ("relay_signature", jsonString envelope.relaySignature)]

/-- `author_signing_bytes`. -/
def AuthoredKnowledge.signingBytes (authored : AuthoredKnowledge) : List UInt8 :=
  utf8 (jsonObject [("domain", jsonString "cthuwu-hermes-author-v1\x00"),
    ("envelope_version", jsonNumber authored.envelopeVersion), ("item", authored.item.toJson),
    ("created_at_ms", jsonNumber authored.createdAtMs),
    ("author_key_id", jsonString authored.authorKeyId)])

/-- `relay_signing_bytes`. -/
def KnowledgeEnvelope.signingBytes (envelope : KnowledgeEnvelope) : List UInt8 :=
  utf8 (jsonObject [("domain", jsonString "cthuwu-hermes-relay-v1\x00"),
    ("envelope_version", jsonNumber envelope.envelopeVersion),
    ("authored", envelope.authored.toJson), ("path", jsonStrings envelope.path),
    ("relay_peer_id", jsonString envelope.relayPeerId),
    ("relay_key_id", jsonString envelope.relayKeyId)])

/-! ## Hashes -/

class Hashing where
  sha256 : List UInt8 → List UInt8
  sha256_length : ∀ bytes, (sha256 bytes).length = 32

variable [Hashing]

/-- A key filled up to the block of the hash, or hashed when it is longer. -/
def keyBlock (key : List UInt8) : List UInt8 :=
  let start := if 64 < key.length then Hashing.sha256 key else key
  start ++ List.replicate (64 - start.length) 0

def hmacSha256 (key message : List UInt8) : List UInt8 :=
  let inner := Hashing.sha256 ((keyBlock key).map (0x36 ^^^ ·) ++ message)
  Hashing.sha256 ((keyBlock key).map (0x5c ^^^ ·) ++ inner)

def knowledgeId (logicalKey : String) : String :=
  encodeHex (Hashing.sha256 (utf8 "cthuwu-hermes-knowledge-id-v1\x00" ++ utf8 logicalKey))

variable (authored : AuthoredKnowledge) (keyring : TrustedKeyring)

/-- `authored_digest`. -/
def AuthoredKnowledge.digest : String :=
  encodeHex (Hashing.sha256 (utf8 authored.toJson))

def KnowledgeItem.validate (item : KnowledgeItem) : Except HermesError Unit := do
  item.payload.validate
  failIf (item.id ≠ knowledgeId item.payload.logicalKey)
    (.invalid "knowledge ID does not match its privacy-safe logical key")

theorem isHexDigest_knowledgeId (logicalKey : String) :
    isHexDigest (knowledgeId logicalKey) = true :=
  isHexDigest_encodeHex (Hashing.sha256_length _)

theorem isHexDigest_digest (authored : AuthoredKnowledge) : isHexDigest authored.digest = true :=
  isHexDigest_encodeHex (Hashing.sha256_length _)

/-! ## Keys -/

inductive SignatureAuthority
  | peer
  | operator
  deriving DecidableEq

def SignatureAuthority.rank : SignatureAuthority → ℕ
  | peer => 0
  | operator => 1

/-- A key and its identifier, as `SigningIdentity::new` admits them. -/
structure SigningIdentity where
  keyId : String
  secret : List UInt8
  keyIdValid : isId keyId = true
  secretValid : 32 ≤ secret.length ∧ secret.length ≤ 4096

structure TrustedKey where
  secret : List UInt8
  authority : SignatureAuthority

structure TrustedKeyring where
  keys : HashMap String TrustedKey

namespace TrustedKeyring

def authority (keyId : String) : Option SignatureAuthority :=
  (keyring.keys.get keyId).map (·.authority)

def trusted (identity : SigningIdentity) : Bool :=
  (keyring.keys.get identity.keyId).any fun key => key.secret = identity.secret

def verify (keyId : String) (message : List UInt8)
    (signature : String) : Bool :=
  (keyring.keys.get keyId).any fun key =>
    (decodeHex signature).toOption.any fun signature => hmacSha256 key.secret message = signature

end TrustedKeyring

def signAuthor (identity : SigningIdentity) : String :=
  encodeHex (hmacSha256 identity.secret authored.signingBytes)

def signRelay (envelope : KnowledgeEnvelope) (identity : SigningIdentity) : String :=
  encodeHex (hmacSha256 identity.secret envelope.signingBytes)

def verifyAuthored :
    Except HermesError Unit := do
  authored.item.validate
  validateId authored.authorKeyId "author key ID"
  validateHexDigest authored.authorSignature "author signature"
  failIf (authored.envelopeVersion ≠ 1) (.invalid "unsupported authored-envelope version")
  failIf (!keyring.verify authored.authorKeyId authored.signingBytes authored.authorSignature)
    (.unauthorized "invalid author signature")

def verifyRelay (envelope : KnowledgeEnvelope) (keyring : TrustedKeyring) :
    Except HermesError Unit :=
  failIf (!keyring.verify envelope.relayKeyId envelope.signingBytes envelope.relaySignature)
    (.unauthorized "invalid relay signature")

theorem hmacSha256_length (key message : List UInt8) : (hmacSha256 key message).length = 32 :=
  Hashing.sha256_length _

theorem verify_signed {keyring : TrustedKeyring} {identity : SigningIdentity}
    (h : keyring.trusted identity = true) (message : List UInt8) :
    keyring.verify identity.keyId message (encodeHex (hmacSha256 identity.secret message)) =
      true := by
  unfold TrustedKeyring.trusted at h
  unfold TrustedKeyring.verify
  rw [Option.any_eq_true] at h ⊢
  obtain ⟨key, hkey, hsecret⟩ := h
  refine ⟨key, hkey, ?_⟩
  rw [decodeHex_encodeHex (hmacSha256_length _ _), of_decide_eq_true hsecret]
  exact decide_eq_true rfl

end Cthuwu.Hermes
