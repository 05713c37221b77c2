import Cthuwu.Discovery.Journal

/-!
# Publishing a profile

What a Tentacle publishes of itself : a JSON document in a data URI, with a manifest in a data URI of
its own. The document counts its own versions.

A registration keeps what its profile is made of. Each republication takes the next version of the
profile, and the document is built anew.
-/

namespace Cthuwu.Profile

open Council (isBlank isControl)
open Discovery (Bytes utf8 dataJsonPrefix validateAgentId)

/-! ## JSON values -/

inductive Value
  | bool (value : Bool)
  | number (value : ℕ)
  | string (value : String)
  | array (items : List Value)
  | object (fields : List (String × Value))

namespace Value

def get (value : Value) (key : String) : Option Value :=
  match value with
  | object fields => fields.lookup key
  | _ => none

def asObject : Value → Option (List (String × Value))
  | object fields => some fields
  | _ => none

def asArray : Value → Option (List Value)
  | array items => some items
  | _ => none

def asStr : Value → Option String
  | string value => some value
  | _ => none

def asBool : Value → Option Bool
  | bool value => some value
  | _ => none

def asU64 : Value → Option ℕ
  | number value => some value
  | _ => none

/-- The bytes of a control character, a quote or a backslash are escaped. -/
def escapeByte (byte : UInt8) : Bytes :=
  if byte = 0x22 then utf8 "\\\""
  else if byte = 0x5c then utf8 "\\\\"
  else if byte = 0x08 then utf8 "\\b"
  else if byte = 0x09 then utf8 "\\t"
  else if byte = 0x0a then utf8 "\\n"
  else if byte = 0x0c then utf8 "\\f"
  else if byte = 0x0d then utf8 "\\r"
  else if byte < 0x20 then utf8 ("\\u" ++ String.ofList (hexOf 4 byte.toNat))
  else [byte]

def quote (value : String) : Bytes :=
  utf8 "\"" ++ (utf8 value).flatMap escapeByte ++ utf8 "\""

/-- The fields of an object in the order of their keys. -/
def sortFields (fields : List (String × Bytes)) : List (String × Bytes) :=
  fields.insertionSort fun field other => field.1 ≤ other.1

def joinBytes (parts : List Bytes) : Bytes :=
  (parts.intersperse (utf8 ",")).flatten

mutual

/-- `serde_json::to_vec`. -/
def toVec : Value → Bytes
  | bool value => utf8 (if value = true then "true" else "false")
  | number value => utf8 value.repr
  | string value => quote value
  | array items => utf8 "[" ++ joinBytes (itemsToVec items) ++ utf8 "]"
  | object fields =>
    utf8 "\x7b" ++ joinBytes ((sortFields (fieldsToVec fields)).map fun (key, value) =>
      quote key ++ utf8 ":" ++ value) ++ utf8 "\x7d"

def itemsToVec : List Value → List Bytes
  | [] => []
  | item :: items => toVec item :: itemsToVec items

def fieldsToVec : List (String × Value) → List (String × Bytes)
  | [] => []
  | (key, value) :: fields => (key, toVec value) :: fieldsToVec fields

end

/-- The double that is nearest to a number, an even one of two. -/
def toDouble (n : ℕ) : ℕ :=
  if n < 2 ^ 53 then n
  else
    let unit := 2 ^ (n.log2 - 52)
    (if unit < 2 * (n % unit) ∨ (unit = 2 * (n % unit) ∧ n / unit % 2 = 1) then n / unit + 1
      else n / unit) * unit

mutual

/-- What JavaScript reads of the value's text. -/
def read : Value → Json
  | bool value => .bool value
  | number value => .number (some (toDouble value))
  | string value => .string value
  | array items => .array (readItems items)
  | object fields => .object (readFields fields)

def readItems : List Value → List Json
  | [] => []
  | item :: items => read item :: readItems items

def readFields : List (String × Value) → List (String × Json)
  | [] => []
  | (key, value) :: fields => (key, read value) :: readFields fields

end

end Value

/-- An integer that is no safe integer stays none. -/
theorem le_toDouble {n : ℕ} (h : 2 ^ 53 ≤ n) : 2 ^ 53 ≤ Value.toDouble n := by
  have hlog : 53 ≤ n.log2 := (Nat.le_log2 (by omega)).mpr h
  have hself : 2 ^ n.log2 ≤ n := Nat.log2_self_le (by omega)
  have hunit : 2 ^ n.log2 = 2 ^ 52 * 2 ^ (n.log2 - 52) := by
    rw [← pow_add]
    congr 1
    omega
  have hquot : 2 ^ 52 ≤ n / 2 ^ (n.log2 - 52) := by
    rw [Nat.le_div_iff_mul_le (Nat.two_pow_pos _), ← hunit]
    exact hself
  have hmul : 2 ^ 53 ≤ n / 2 ^ (n.log2 - 52) * 2 ^ (n.log2 - 52) :=
    calc 2 ^ 53 ≤ 2 ^ n.log2 := Nat.pow_le_pow_right (by omega) hlog
      _ = 2 ^ 52 * 2 ^ (n.log2 - 52) := hunit
      _ ≤ _ := Nat.mul_le_mul_right _ hquot
  unfold Value.toDouble
  rw [if_neg (by omega)]
  dsimp only
  split_ifs
  · exact hmul.trans (Nat.mul_le_mul_right _ (Nat.le_succ _))
  · exact hmul

end Cthuwu.Profile

/-! ## Publishing a profile -/

namespace Cthuwu.Profile

open Council (isBlank isControl isLowerHex)
open Discovery (Bytes utf8 dataJsonPrefix validateAgentId)

def baseMainnetChainId : ℕ := 8453
def identityRegistry : String := "0x8004A169FB4a3325136EB29fA0ceB6D2e539a432"
def registrationSchema : String := "https://eips.ethereum.org/EIPS/eip-8004#registration-v1"
def maxTentacleIdBytes : ℕ := 128
def maxProfileNameBytes : ℕ := 128
def maxProfileDescriptionBytes : ℕ := 512
def maxAgentUriBytes : ℕ := 8 * 1024
def defaultPublicImage : String := "https://cthuwu.app/icons/cthuwu-512.png"

/-! ## Checks -/

def startsWith (value start : String) : Bool :=
  start.toList.isPrefixOf value.toList

def validateXmtpInboxId (value : String) : Except String Unit :=
  failIf (¬(value.utf8ByteSize = 64 ∧ value.toList.all isLowerHex = true))
    "XMTP production inbox ID must be exactly 32 lowercase hexadecimal bytes"

def validatePublicText (value label : String) (maximum : ℕ) : Except String Unit := do
  failIf (isBlank value = true ∨ maximum < value.utf8ByteSize) s!"{label} is empty or oversized"
  failIf (value.toList.any isControl = true) s!"{label} contains control characters"

def imagePrefixes : List String :=
  ["https://", "data:image/svg+xml;base64,", "data:image/svg+xml;utf8,", "data:image/png;base64,",
    "data:image/jpeg;base64,", "data:image/webp;base64,"]

def validateImageUri (value label : String) : Except String Unit :=
  failIf (¬(imagePrefixes.any (startsWith value) = true ∧ value.utf8ByteSize ≤ 6144 ∧
      value.toList.any isControl = false))
    s!"{label} must be a bounded HTTPS URL, SVG, PNG, or WebP data URI"

def profileKeys : List String :=
  ["type", "name", "description", "image", "services", "x402Support", "active", "registrations"]

def forbiddenFields : List String :=
  ["privateKey", "operatorIdentity", "localPath", "internalPrompt"]

def registryRef : String :=
  s!"eip155:{baseMainnetChainId}:{identityRegistry}"

/-- `str::parse::<u64>` of a decimal text. -/
def parseU64 (value : String) : Option ℕ :=
  let n := Nat.ofDigitChars 10 value.toList 0
  if value ≠ "" ∧ value.toList.all Char.isDigit = true ∧ n < 2 ^ 64 then some n else none

def textOf (profile : Value) (key : String) : String :=
  ((profile.get key).bind Value.asStr).getD ""

def validateServices (services : List Value) : Except String Unit := do
  match services with
  | [xmtp, manifest] => do
    let _ ← okOr xmtp.asObject "XMTP service must be an object"
    failIf (¬((xmtp.get "name").bind Value.asStr = some "CTHUWU-XMTP" ∧
        (xmtp.get "version").bind Value.asStr = some "1"))
      "XMTP service name or version is incompatible"
    let xmtpEndpoint ← okOr ((xmtp.get "endpoint").bind Value.asStr) "XMTP service has no endpoint"
    failIf (¬startsWith xmtpEndpoint "xmtp://" = true)
      "XMTP service uses an unsupported URI convention"
    validateXmtpInboxId (String.ofList (xmtpEndpoint.toList.drop "xmtp://".length))
    let _ ← okOr manifest.asObject "CTHUWU service must be an object"
    failIf (¬(manifest.get "name").bind Value.asStr = some "CTHUWU")
      "CTHUWU manifest service is missing"
    let manifestEndpoint ← okOr ((manifest.get "endpoint").bind Value.asStr)
      "CTHUWU manifest service has no endpoint"
    failIf (¬(startsWith manifestEndpoint dataJsonPrefix = true ∧
        manifestEndpoint.utf8ByteSize ≤ 2048))
      "CTHUWU manifest endpoint is invalid or oversized"
  | _ => .error "registration services are incomplete"

def validateRegistrations (registrations : List Value) (agentId : String) : Except String Unit := do
  match registrations with
  | [registration] => do
    let _ ← okOr registration.asObject "registry reference must be an object"
    failIf ((registration.get "agentId").bind Value.asU64 ≠ parseU64 agentId)
      "registration document agent ID is not the confirmed identity"
    failIf ((registration.get "agentRegistry").bind Value.asStr ≠ some registryRef)
      "registration document does not reference the canonical Base registry"
  | _ => .error "registration document must contain one Base registry reference"

def validateProfile (profile : Value) (tentacleId agentId : String) : Except String Unit := do
  let object ← okOr profile.asObject "registration document must be an object"
  failIf (object.length ≠ 8) "registration document contains an unexpected top-level field"
  profileKeys.forM fun key =>
    failIf ((profile.get key).isNone = true) s!"registration document is missing {key}"
  failIf ((profile.get "type").bind Value.asStr ≠ some registrationSchema)
    "registration schema type is incompatible"
  failIf ((profile.get "x402Support").bind Value.asBool ≠ some false) "x402 must remain disabled"
  failIf ((profile.get "active").bind Value.asBool ≠ some true)
    "registration document must be active"
  failIf ((profile.get "supportedTrust").isSome = true)
    "unimplemented trust mechanisms must not be advertised"
  validatePublicText (textOf profile "name") "registration name" maxProfileNameBytes
  validatePublicText (textOf profile "description") "registration description"
    maxProfileDescriptionBytes
  validateImageUri (textOf profile "image") "registration image"
  let services ← okOr ((profile.get "services").bind Value.asArray)
    "registration services must be an array"
  validateServices services
  let registrations ← okOr ((profile.get "registrations").bind Value.asArray)
    "registration references must be an array"
  validateRegistrations registrations agentId
  let encoded := profile.toVec
  failIf (6 * 1024 < encoded.length) "registration JSON exceeds its bound"
  failIf (forbiddenFields.any (fun field => decide (utf8 field <:+: encoded)) = true)
    "registration document contains a forbidden private field name"
  failIf (tentacleId = "" ∨ agentId = "") "registration identity fields must be present"

/-! ## The document -/

/-- What a profile is made of, as the registration keeps it. -/
structure RegistrationSnapshot where
  tentacleId : String
  publicName : String
  xmtpInboxId : Option String
  confirmedAgentId : Option String
  finalAgentUri : Option String
  profileSha256 : Option String
  /-- A 32-bit number. -/
  publicProfileRevision : ℕ
  successNotified : Bool

/-- What a profile takes from elsewhere. -/
structure Settings where
  publicDescription : String
  publicImage : String
  customAvatar : Option String
  generateAvatar : (tentacleId publicName : String) → String

def base64 (value : Bytes) : String :=
  String.ofList (base64Encode value)

def dataUri (value : Value) : String :=
  dataJsonPrefix ++ base64 value.toVec

def xmtpEndpoint (inboxId : String) : String :=
  "xmtp://" ++ inboxId

def buildManifest (tentacleId inboxId agentId : String) : Value :=
  .object
    [("schemaVersion", .number 1),
     ("protocol", .number 1),
     ("tentacleId", .string tentacleId),
     ("erc8004", .object
       [("chainId", .number baseMainnetChainId),
        ("registry", .string identityRegistry),
        ("agentId", .string agentId)]),
     ("xmtp", .object
       [("environment", .string "production"),
        ("endpoint", .string (xmtpEndpoint inboxId))]),
     ("capabilities", .array [.string "direct-xmtp-messaging"])]

variable (settings : Settings) (snapshot : RegistrationSnapshot)
  (generateEldritchName : String → Except String String)

def Settings.image : String :=
  match settings.customAvatar with
  | some custom => custom
  | none =>
    if startsWith settings.publicImage "https://" = true ∧
        settings.publicImage ≠ defaultPublicImage then settings.publicImage
    else settings.generateAvatar snapshot.tentacleId snapshot.publicName

def buildProfile
    (inboxId agentId : String) (numericAgentId : ℕ) : Value :=
  .object
    [("type", .string registrationSchema),
     ("name", .string snapshot.publicName),
     ("description", .string settings.publicDescription),
     ("image", .string (settings.image snapshot)),
     ("services", .array
       [.object
          [("name", .string "CTHUWU-XMTP"),
           ("endpoint", .string (xmtpEndpoint inboxId)),
           ("version", .string "1")],
        .object
          [("name", .string "CTHUWU"),
           ("endpoint", .string (dataUri (buildManifest snapshot.tentacleId inboxId agentId))),
           ("version", .string snapshot.publicProfileRevision.repr)]]),
     ("x402Support", .bool false),
     ("active", .bool true),
     ("registrations", .array
       [.object
          [("agentId", .number numericAgentId),
           ("agentRegistry", .string registryRef)]])]

def buildAgentUri (agentId : String) :
    Except String String := do
  validateAgentId agentId
  let numericAgentId ← okOr (parseU64 agentId)
    "registration-v1 numeric agent ID exceeds the supported JSON range"
  let inboxId ← okOr snapshot.xmtpInboxId
    "the XMTP production inbox has not been positively resolved"
  validateXmtpInboxId inboxId
  let profile := buildProfile settings snapshot inboxId agentId numericAgentId
  validateProfile profile snapshot.tentacleId agentId
  let uri := dataUri profile
  failIf (maxAgentUriBytes < uri.utf8ByteSize)
    "registration document exceeds the strict on-chain URI budget"
  return uri

/-! ## The life of a snapshot -/

def defaultName : String := "Cthuwu Tentacle"

/-- `generate_eldritch_name` names a Tentacle that has no name of its own. -/
def RegistrationSnapshot.rename (newName : Option String) :
    Except String RegistrationSnapshot := do
  match newName with
  | some name => do
    validatePublicText name "public name" maxProfileNameBytes
    return { snapshot with publicName := name }
  | none =>
    if isBlank snapshot.publicName = true ∨ snapshot.publicName = defaultName then
      match generateEldritchName snapshot.tentacleId with
      | .ok name => return { snapshot with publicName := name }
      | .error _ => return snapshot
    else return snapshot

/-- The snapshot in memory after a republication, up to where the registry is asked. -/
def republishProfileWithName
    (snapshot : RegistrationSnapshot) (newName : Option String) :
    RegistrationSnapshot × Except String Unit :=
  match snapshot.confirmedAgentId with
  | none => (snapshot, .error "no ERC-8004 identity is selected")
  | some _ =>
    match snapshot.rename generateEldritchName newName with
    | .error err => (snapshot, .error err)
    | .ok renamed =>
      if 2 ^ 32 ≤ renamed.publicProfileRevision + 1 then
        (renamed, .error "profile revision overflow")
      else
        ({ renamed with
            publicProfileRevision := renamed.publicProfileRevision + 1
            finalAgentUri := none
            profileSha256 := none
            successNotified := false }, .ok ())

def freshSnapshot (tentacleId publicName : String) : RegistrationSnapshot :=
  { tentacleId := tentacleId
    publicName := publicName
    xmtpInboxId := none
    confirmedAgentId := none
    finalAgentUri := none
    profileSha256 := none
    publicProfileRevision := 1
    successNotified := false }

/-- A snapshot that is loaded gets a name if it has none of its own. -/
def loadSnapshot
    (snapshot : RegistrationSnapshot) : RegistrationSnapshot :=
  if isBlank snapshot.publicName = true ∨ snapshot.publicName = defaultName then
    match generateEldritchName snapshot.tentacleId with
    | .ok name =>
      { snapshot with
        publicName := name
        finalAgentUri := none
        profileSha256 := none }
    | .error _ => snapshot
  else snapshot

/-- The snapshots of a Tentacle that its registration reaches. -/
inductive Reachable (generateEldritchName : String → Except String String) (tentacleId : String) :
    RegistrationSnapshot → Prop
  | opened {publicName : String}
      (hid : validatePublicText tentacleId "Tentacle ID" maxTentacleIdBytes = .ok ())
      (hname : validatePublicText publicName "public name" maxProfileNameBytes = .ok ()) :
      Reachable generateEldritchName tentacleId (freshSnapshot tentacleId publicName)
  | loaded {snapshot : RegistrationSnapshot}
      (h : Reachable generateEldritchName tentacleId snapshot) :
      Reachable generateEldritchName tentacleId (loadSnapshot generateEldritchName snapshot)
  | resolved {snapshot : RegistrationSnapshot} {inboxId : String}
      (h : Reachable generateEldritchName tentacleId snapshot)
      (hinbox : validateXmtpInboxId inboxId = .ok ()) :
      Reachable generateEldritchName tentacleId { snapshot with xmtpInboxId := some inboxId }
  | confirmed {snapshot : RegistrationSnapshot} {agentId : String}
      (h : Reachable generateEldritchName tentacleId snapshot)
      (hagent : validateAgentId agentId = .ok ()) :
      Reachable generateEldritchName tentacleId
        { snapshot with
          confirmedAgentId := some agentId
          successNotified := false }
  | republished {snapshot : RegistrationSnapshot} {newName : Option String}
      (h : Reachable generateEldritchName tentacleId snapshot) :
      Reachable generateEldritchName tentacleId
        (republishProfileWithName generateEldritchName snapshot newName).1
  | reconciled {snapshot : RegistrationSnapshot} {settings : Settings} {agentId uri digest : String}
      (h : Reachable generateEldritchName tentacleId snapshot)
      (huri : buildAgentUri settings snapshot agentId = .ok uri) :
      Reachable generateEldritchName tentacleId
        { snapshot with
          finalAgentUri := some uri
          profileSha256 := some digest }
  | notified {snapshot : RegistrationSnapshot}
      (h : Reachable generateEldritchName tentacleId snapshot) :
      Reachable generateEldritchName tentacleId { snapshot with successNotified := true }

end Cthuwu.Profile
