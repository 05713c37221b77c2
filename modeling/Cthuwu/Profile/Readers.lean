import Cthuwu.Profile.Snapshot

/-!
# Reading a profile

Another Tentacle and the browser each read a profile by themselves. Both want one registration, one
inbox and one manifest of the first version.
-/

namespace Cthuwu.Profile

open Council (isControl)
open Discovery (Bytes dataJsonPrefix xmtpInbox)
open Json

/-- What the readers use of their platforms. -/
structure Platform where
  /-- `JSON.parse` of the text of some bytes. -/
  parseJson : Bytes → Option Json
  /-- The checksummed text of an address. -/
  getAddress : String → Option String

/-! ## What both look for -/

/-- `BigInt` of a decimal text. -/
def bigInt (value : String) : ℤ :=
  Nat.ofDigitChars 10 value.toList 0

def isSafeInteger (n : ℤ) : Bool :=
  n.natAbs < 2 ^ 53

def matchesRegistration (registry agentId : String) (registration : Json) : Bool :=
  registration.asRecord.any fun record =>
    record.HasExactKeys ["agentId", "agentRegistry"] &&
      (record.get "agentRegistry").bind asString = some registry &&
      (((record.get "agentId").bind asInteger).any (fun n =>
          isSafeInteger n && 0 ≤ n && n = bigInt agentId) ||
        (record.get "agentId").bind asString = some agentId)

/-- The endpoint of a service of the first version. -/
def endpointOf (name : String) (service : Json) : Option String :=
  service.asRecord.bind fun record =>
    if record.HasExactKeys ["name", "endpoint", "version"] ∧
        (record.get "name").bind asString = some name ∧
        (record.get "version").bind asString = some "1" then
      (record.get "endpoint").bind asString
    else none

/-- The endpoints of a profile with one registration of the agent, one inbox and one manifest. -/
def exactEndpoints (registry agentId : String) (registrations services : List Json) :
    Option (String × String) :=
  match registrations.filter (matchesRegistration registry agentId),
      services.filterMap (endpointOf "CTHUWU-XMTP"),
      services.filterMap (endpointOf "CTHUWU") with
  | [_], [endpoint], [manifestUri] => some (endpoint, manifestUri)
  | _, _, _ => none

def isCapability (capability : Json) : Bool :=
  capability.asString.any fun capability =>
    capability ≠ "" && capability.utf8ByteSize ≤ 64

/-- The Tentacle of a manifest that binds an identity to an endpoint. -/
def manifestTentacleId (isRegistry : String → Bool) (agentId endpoint : String) (manifest : Json) :
    Option String := do
  let manifest ← manifest.asRecord
  guard (manifest.HasExactKeys
    ["schemaVersion", "protocol", "tentacleId", "erc8004", "xmtp", "capabilities"])
  guard ((manifest.get "schemaVersion").bind asInteger = some 1)
  guard ((manifest.get "protocol").bind asInteger = some 1)
  let tentacleId ← (manifest.get "tentacleId").bind asString
  guard (tentacleId ≠ "" ∧ tentacleId.utf8ByteSize ≤ 128)
  let erc8004 ← (manifest.get "erc8004").bind asRecord
  guard (erc8004.HasExactKeys ["chainId", "registry", "agentId"])
  guard ((erc8004.get "chainId").bind asInteger = some 8453)
  guard (((erc8004.get "registry").bind asString).any isRegistry = true)
  guard ((erc8004.get "agentId").bind asString = some agentId)
  let xmtp ← (manifest.get "xmtp").bind asRecord
  guard (xmtp.HasExactKeys ["environment", "endpoint"])
  guard ((xmtp.get "environment").bind asString = some "production")
  guard ((xmtp.get "endpoint").bind asString = some endpoint)
  let capabilities ← (manifest.get "capabilities").bind Json.asArray
  guard (capabilities.length ≤ 16 ∧ capabilities.all isCapability = true)
  guard (capabilities.any (·.asString = some "direct-xmtp-messaging") = true)
  return tentacleId

/-! ## A Tentacle -/

/-- The text after the prefix. -/
def encodedPart (uri : String) : List Char :=
  uri.toList.drop dataJsonPrefix.length

variable (platform : Platform)

def decodeCanonicalDataJson (uri : String) : Except String Json := do
  failIf (¬startsWith uri dataJsonPrefix = true ∨ maxAgentUriBytes < uri.utf8ByteSize)
    "data URI is not a bounded application/json base64 value"
  let encoded := encodedPart uri
  failIf (encoded = [] ∨ encoded.length % 4 ≠ 0) "data URI base64 is not canonical"
  let decoded ← okOr (base64Decode encoded) "data URI base64 is not canonical"
  failIf (base64Encode decoded ≠ encoded ∨ maxAgentUriBytes < decoded.length)
    "data URI base64 is not canonical or exceeds its decoded bound"
  okOr (platform.parseJson decoded) "data URI has invalid UTF-8 JSON"

structure RoutedProfile where
  inboxId : String
  tentacleId : String

/-- `ERC8004_IDENTITY_REGISTRY` is a constant of the sidecar with the checksum of the address. -/
def erc8004IdentityRegistry : String := "0x8004A169FB4a3325136EB29fA0ceB6D2e539a432"

def profileFromAgentUri (agentUri agentId : String) :
    Except String RoutedProfile := do
  let value ← okOr (decodeCanonicalDataJson platform agentUri).toOption
    "controller agentURI has invalid registration-v1 JSON"
  let inactive := "controller agentURI is not an active registration-v1 profile"
  let value ← okOr value.asRecord inactive
  failIf ((value.get "type").bind asString ≠ some registrationSchema ∨
    (value.get "active").bind Json.asBool ≠ some true) inactive
  let services ← okOr ((value.get "services").bind Json.asArray) inactive
  let registrations ← okOr ((value.get "registrations").bind Json.asArray) inactive
  let (endpoint, manifestUri) ← okOr
    (exactEndpoints ("eip155:8453:" ++ erc8004IdentityRegistry) agentId registrations services)
    "controller profile lacks one exact production XMTP service"
  failIf (¬startsWith endpoint "xmtp://" = true) "controller XMTP endpoint is invalid"
  let inboxId ← okOr (xmtpInbox endpoint)
    "controller XMTP endpoint is not a canonical inbox ID"
  let manifest ← okOr (decodeCanonicalDataJson platform manifestUri).toOption
    "controller CTHUWU manifest is invalid"
  let tentacleId ← okOr
    (manifestTentacleId (fun registry => registry = erc8004IdentityRegistry) agentId endpoint
      manifest)
    "controller CTHUWU manifest does not bind its canonical identity and endpoint"
  return { inboxId := inboxId, tentacleId := tentacleId }

/-! ## The browser -/

/-- The browser's own constant, in lower case. -/
def webIdentityRegistry : String := "0x8004a169fb4a3325136eb29fa0ceb6d2e539a432"

def decodeDataJson (value label : String) : Except String Json := do
  failIf (¬startsWith value dataJsonPrefix = true ∨ maxAgentUriBytes < value.utf8ByteSize)
    s!"{label} is not a bounded data URI"
  let bytes ← okOr (base64Decode (encodedPart value)) s!"{label} has invalid base64"
  failIf (maxAgentUriBytes < bytes.length) s!"{label} has invalid JSON"
  okOr (platform.parseJson bytes) s!"{label} has invalid JSON"

/-- The whitespace that JavaScript trims. -/
def isTrimmed (c : Char) : Bool :=
  (Council.isWhiteSpace c && c.toNat ≠ 0x85) || c.toNat = 0xfeff

/-- The formatting characters that a name may not have. -/
def isFormatting (c : Char) : Bool :=
  let n := c.toNat
  n = 0x061c || (0x200b ≤ n && n ≤ 0x200f) || (0x202a ≤ n && n ≤ 0x202e) ||
    (0x2060 ≤ n && n ≤ 0x206f) || n = 0xfeff

def verifiedProfileName (value : Option Json) : Option String := do
  let value ← value.bind asString
  guard (¬value.toList.all isTrimmed = true ∧ value.utf8ByteSize ≤ 128)
  guard (¬value.toList.any (fun c => isControl c || isFormatting c) = true)
  return value

structure VerifiedProfile where
  inboxId : String
  name : String
  tentacleId : String

def canonicalAddress (value : String) : Option String :=
  (platform.getAddress value).map fun address => String.ofList (address.toList.map Char.toLower)

def verifiedProfileFromAgentUri (agentUri agentId : String) :
    Except String VerifiedProfile := do
  let profile ← decodeDataJson platform agentUri "controller registration profile"
  let inactive := "controller registration profile is not active registration-v1"
  let profile ← okOr profile.asRecord inactive
  failIf ((profile.get "type").bind asString ≠ some registrationSchema ∨
    (profile.get "active").bind Json.asBool ≠ some true) inactive
  let services ← okOr ((profile.get "services").bind Json.asArray) inactive
  failIf (16 < services.length) inactive
  let registrations ← okOr ((profile.get "registrations").bind Json.asArray) inactive
  let canonicalRegistry ← okOr (platform.getAddress webIdentityRegistry) "invalid address"
  let (endpoint, manifestUri) ← okOr
    (exactEndpoints ("eip155:8453:" ++ canonicalRegistry) agentId registrations services)
    "controller profile does not have one exact canonical service binding"
  let inboxId ← okOr (xmtpInbox endpoint) "controller XMTP endpoint is invalid"
  let manifest ← decodeDataJson platform manifestUri "controller CTHUWU manifest"
  let tentacleId ← okOr
    (manifestTentacleId
      (fun registry => canonicalAddress platform registry = some webIdentityRegistry) agentId
      endpoint manifest)
    "controller CTHUWU manifest does not bind its canonical identity and endpoint"
  return {
    inboxId := inboxId
    name := (verifiedProfileName (profile.get "name")).getD s!"Tentacle #{agentId}"
    tentacleId := tentacleId }

end Cthuwu.Profile
