import Cthuwu.Profile.Readers

/-!
# Profiles that are read back

A profile that is built is in its data URI (`decodeCanonicalDataJson_dataUri`), and both readers find
its parts. They read the first version of it only (`published_profile_readable`).
-/

namespace Cthuwu.Profile

open Council (isBlank isControl isLowerHex)
open Discovery (Bytes utf8 dataJsonPrefix validateAgentId xmtpInbox)
open Value Json

variable {platform : Platform} {settings : Settings} {snapshot : RegistrationSnapshot}
  {inboxId agentId uri tentacleId : String} {numericAgentId : ℕ} {value : Value}

/-! ## Data URIs -/

theorem startsWith_append (start rest : String) : startsWith (start ++ rest) start = true := by
  unfold startsWith
  rw [String.toList_append, List.isPrefixOf_iff_prefix]
  exact List.prefix_append _ _

theorem encodedPart_dataUri (value : Value) :
    encodedPart (dataUri value) = base64Encode value.toVec := by
  unfold encodedPart dataUri base64
  rw [String.toList_append, String.toList_ofList, ← String.length_toList, List.drop_left]

theorem utf8ByteSize_base64 (bytes : Bytes) :
    (base64 bytes).utf8ByteSize = (base64Encode bytes).length :=
  utf8ByteSize_ofList base64Encode_utf8Size

/-- A text in base64 takes more room than its bytes. -/
theorem length_toVec_le (h : (dataUri value).utf8ByteSize ≤ maxAgentUriBytes) :
    value.toVec.length ≤ maxAgentUriBytes := by
  unfold dataUri at h
  rw [String.utf8ByteSize_append, utf8ByteSize_base64, base64Encode_length] at h
  omega

/-- What a Tentacle decodes of a data URI is what was written. -/
theorem decodeCanonicalDataJson_dataUri {json : Json}
    (h : (dataUri value).utf8ByteSize ≤ maxAgentUriBytes) (hvalue : value.toVec ≠ []) :
    decodeCanonicalDataJson platform (dataUri value) = .ok json ↔
      platform.parseJson value.toVec = some json := by
  have hlength := base64Encode_length value.toVec
  have hne : base64Encode value.toVec ≠ [] := by
    rw [← List.length_pos_iff] at hvalue ⊢
    omega
  have hstart : startsWith (dataUri value) dataJsonPrefix = true := startsWith_append _ _
  unfold decodeCanonicalDataJson
  simp only [encodedPart_dataUri, hstart, except_bind_ok, exists_unit, failIf_ok, okOr_ok,
    base64Decode_encode, Option.some.injEq, exists_eq_left']
  refine ⟨fun h => h.2.2.2, fun hparsed => ⟨?_, ?_, ?_, hparsed⟩⟩
  · exact not_or.mpr ⟨not_not_intro trivial, not_lt.mpr h⟩
  · exact not_or.mpr ⟨hne, by omega⟩
  · exact not_or.mpr ⟨not_not_intro rfl, not_lt.mpr (length_toVec_le h)⟩

/-- What the browser decodes of a data URI is what was written. -/
theorem decodeDataJson_dataUri {label : String} {json : Json}
    (h : (dataUri value).utf8ByteSize ≤ maxAgentUriBytes) :
    decodeDataJson platform (dataUri value) label = .ok json ↔
      platform.parseJson value.toVec = some json := by
  have hstart : startsWith (dataUri value) dataJsonPrefix = true := startsWith_append _ _
  unfold decodeDataJson
  simp only [encodedPart_dataUri, hstart, except_bind_ok, exists_unit, failIf_ok, okOr_ok,
    base64Decode_encode, Option.some.injEq, exists_eq_left']
  refine ⟨fun h => h.2.2, fun hparsed => ⟨?_, ?_, hparsed⟩⟩
  · exact not_or.mpr ⟨not_not_intro trivial, not_lt.mpr h⟩
  · exact not_lt.mpr (length_toVec_le h)

theorem toVec_object_ne_nil (fields : List (String × Value)) : (Value.object fields).toVec ≠ [] := by
  have hopen : utf8 "\x7b" ≠ [] := by decide
  intro h
  rw [Value.toVec, List.append_assoc] at h
  exact hopen (List.append_eq_nil_iff.mp h).1

/-! ## The parts of a profile -/

theorem utf8Size_of_isLowerHex {c : Char} (h : isLowerHex c = true) : c.utf8Size = 1 := by
  simp only [isLowerHex, Char.isDigit, Bool.or_eq_true, Bool.and_eq_true, decide_eq_true_eq,
    ge_iff_le, UInt32.le_iff_toNat_le, Char.le_def] at h
  unfold Char.utf8Size
  rw [if_pos]
  rw [UInt32.le_iff_toNat_le]
  rcases h with h | h
  · exact h.2.trans (by decide)
  · exact h.2.trans (by decide)

theorem xmtpInbox_xmtpEndpoint (h : validateXmtpInboxId inboxId = .ok ()) :
    xmtpInbox (xmtpEndpoint inboxId) = some inboxId := by
  unfold validateXmtpInboxId at h
  obtain ⟨hsize, hall⟩ := not_not.mp (failIf_ok.mp h)
  have hone : ∀ c ∈ inboxId.toList, c.utf8Size = 1 :=
    fun c hc => utf8Size_of_isLowerHex (List.all_eq_true.mp hall c hc)
  have hlength : inboxId.toList.length = 64 := by
    rw [← String.ofList_toList (s := inboxId), utf8ByteSize_ofList hone] at hsize
    exact hsize
  have hdrop : (xmtpEndpoint inboxId).toList.drop "xmtp://".length = inboxId.toList := by
    unfold xmtpEndpoint
    rw [String.toList_append, ← String.length_toList, List.drop_left]
  have hstart : "xmtp://".toList <+: (xmtpEndpoint inboxId).toList := by
    unfold xmtpEndpoint
    rw [String.toList_append]
    exact List.prefix_append _ _
  unfold xmtpInbox
  rw [hdrop]
  dsimp only
  rw [if_pos ⟨hstart, hlength, hall⟩, String.ofList_toList]

theorem registryRef_eq : registryRef = "eip155:8453:" ++ identityRegistry := by
  decide

/-- JavaScript has a number exactly if the number is below 2 ^ 53. -/
theorem isSafeInteger_toDouble (n : ℕ) :
    (isSafeInteger (toDouble n) && decide ((0 : ℤ) ≤ toDouble n) &&
      decide ((toDouble n : ℤ) = n)) = decide (n < 2 ^ 53) := by
  unfold isSafeInteger
  rw [Int.natAbs_natCast]
  by_cases h : n < 2 ^ 53
  · have hexact : toDouble n = n := if_pos h
    rw [hexact, decide_eq_true h]
    simp
  · have hle := le_toDouble (not_lt.mp h)
    rw [decide_eq_false h, decide_eq_false (not_lt.mpr hle)]
    rfl

/-- A registration is found by its number if JavaScript has the number. -/
theorem matchesRegistration_read (n : ℕ) :
    matchesRegistration ("eip155:8453:" ++ identityRegistry) n.repr
      (.object [("agentId", .number (some (toDouble n))),
        ("agentRegistry", .string registryRef)]) = decide (n < 2 ^ 53) := by
  have hint : bigInt n.repr = n := by
    unfold bigInt
    rw [Nat.toList_repr, Nat.ofDigitChars_ten_toDigits]
  have hkeys : ∀ a b : Json, Json.Record.HasExactKeys [("agentId", a), ("agentRegistry", b)]
      ["agentId", "agentRegistry"] := fun _ _ => by
    change (List.dedup ["agentId", "agentRegistry"]).Perm ["agentId", "agentRegistry"]
    decide
  rw [← isSafeInteger_toDouble, registryRef_eq]
  unfold matchesRegistration
  simp [asRecord, hkeys, Json.Record.get, asString, asInteger, hint]

variable {name endpoint : String} {record : Json.Record} {n : ℕ}
  {generateEldritchName : String → Except String String} {newName : Option String}

theorem endpointOf_read {other version : String} :
    endpointOf name (.object [("name", .string other), ("endpoint", .string endpoint),
      ("version", .string version)]) =
        if other = name ∧ version = "1" then some endpoint else none := by
  have hkeys : ∀ a b c : Json, Json.Record.HasExactKeys
      [("name", a), ("endpoint", b), ("version", c)] ["name", "endpoint", "version"] :=
    fun _ _ _ => by
      change (List.dedup ["name", "endpoint", "version"]).Perm ["name", "endpoint", "version"]
      decide
  unfold endpointOf
  simp [asRecord, hkeys, Json.Record.get, asString]

theorem manifestTentacleId_read {isRegistry : String → Bool}
    (hregistry : isRegistry identityRegistry = true) (hne : tentacleId ≠ "")
    (hsize : tentacleId.utf8ByteSize ≤ 128) :
    manifestTentacleId isRegistry agentId (xmtpEndpoint inboxId)
      (buildManifest tentacleId inboxId agentId).read = some tentacleId := by
  have hkeys : ∀ a b c d e f : Json, Json.Record.HasExactKeys
      [("schemaVersion", a), ("protocol", b), ("tentacleId", c), ("erc8004", d), ("xmtp", e),
        ("capabilities", f)]
      ["schemaVersion", "protocol", "tentacleId", "erc8004", "xmtp", "capabilities"] :=
    fun _ _ _ _ _ _ => by
      change (List.dedup ["schemaVersion", "protocol", "tentacleId", "erc8004", "xmtp",
        "capabilities"]).Perm _
      decide
  have hidentity : ∀ a b c : Json, Json.Record.HasExactKeys
      [("chainId", a), ("registry", b), ("agentId", c)] ["chainId", "registry", "agentId"] :=
    fun _ _ _ => by
      change (List.dedup ["chainId", "registry", "agentId"]).Perm _
      decide
  have hxmtp : ∀ a b : Json, Json.Record.HasExactKeys [("environment", a), ("endpoint", b)]
      ["environment", "endpoint"] := fun _ _ => by
    change (List.dedup ["environment", "endpoint"]).Perm _
    decide
  have hone : toDouble 1 = 1 := by decide
  have hchain : toDouble baseMainnetChainId = 8453 := by decide
  have hcapability : isCapability (.string "direct-xmtp-messaging") = true := by decide
  unfold manifestTentacleId buildManifest
  simp [Value.read, readFields, readItems, asRecord, Json.Record.get, hkeys,
    hidentity, hxmtp, asString, asInteger, Json.asArray, hone, hchain, hcapability,
    hregistry, hne, hsize]

/-! ## What is built -/

structure Built (settings : Settings) (snapshot : RegistrationSnapshot) (agentId inboxId : String)
    (numericAgentId : ℕ) (uri : String) : Prop where
  inbox : snapshot.xmtpInboxId = some inboxId
  inboxValid : validateXmtpInboxId inboxId = .ok ()
  number : parseU64 agentId = some numericAgentId
  name : validatePublicText snapshot.publicName "registration name" maxProfileNameBytes = .ok ()
  tentacleId : snapshot.tentacleId ≠ ""
  manifestSize : (dataUri (buildManifest snapshot.tentacleId inboxId agentId)).utf8ByteSize ≤ 2048
  size : uri.utf8ByteSize ≤ maxAgentUriBytes
  built : uri = dataUri (buildProfile settings snapshot inboxId agentId numericAgentId)

def services (inboxId manifestUri version : String) : List Value :=
  [.object
    [("name", .string "CTHUWU-XMTP"),
     ("endpoint", .string (xmtpEndpoint inboxId)),
     ("version", .string "1")],
   .object
    [("name", .string "CTHUWU"),
     ("endpoint", .string manifestUri),
     ("version", .string version)]]

theorem validateServices_ok {version : String} :
    validateServices (services inboxId (dataUri value) version) = .ok () ↔
      validateXmtpInboxId inboxId = .ok () ∧ (dataUri value).utf8ByteSize ≤ 2048 := by
  have hxmtp : startsWith (xmtpEndpoint inboxId) "xmtp://" = true := startsWith_append _ _
  have hdata : startsWith (dataUri value) dataJsonPrefix = true := startsWith_append _ _
  have hdrop : String.ofList ((xmtpEndpoint inboxId).toList.drop "xmtp://".length) = inboxId := by
    unfold xmtpEndpoint
    rw [String.toList_append, ← String.length_toList, List.drop_left, String.ofList_toList]
  have hbound : failIf (¬(startsWith (dataUri value) dataJsonPrefix = true ∧
      (dataUri value).utf8ByteSize ≤ 2048)) "CTHUWU manifest endpoint is invalid or oversized" =
        .ok () ↔ (dataUri value).utf8ByteSize ≤ 2048 := by
    rw [failIf_ok, not_not, and_iff_right hdata]
  unfold validateServices services
  constructor
  · intro h
    obtain ⟨-, -, h⟩ := except_bind_ok.mp h
    obtain ⟨-, -, h⟩ := except_bind_ok.mp h
    obtain ⟨endpoint, hendpoint, h⟩ := except_bind_ok.mp h
    obtain rfl := Except.ok.inj (hendpoint.symm.trans rfl)
    obtain ⟨-, -, h⟩ := except_bind_ok.mp h
    obtain ⟨hinbox, h⟩ := except_check_ok.mp h
    obtain ⟨-, -, h⟩ := except_bind_ok.mp h
    obtain ⟨-, -, h⟩ := except_bind_ok.mp h
    obtain ⟨manifest, hmanifest, h⟩ := except_bind_ok.mp h
    obtain rfl := Except.ok.inj (hmanifest.symm.trans rfl)
    exact ⟨hdrop ▸ hinbox, hbound.mp h⟩
  · rintro ⟨hinbox, hsize⟩
    refine except_bind_ok.mpr ⟨_, rfl, except_check_ok.mpr ⟨failIf_ok.mpr ?_, ?_⟩⟩
    · exact not_not_intro ⟨rfl, rfl⟩
    refine except_bind_ok.mpr ⟨_, rfl, except_check_ok.mpr ⟨failIf_ok.mpr ?_, ?_⟩⟩
    · exact not_not_intro hxmtp
    refine except_check_ok.mpr ⟨hdrop.symm ▸ hinbox, except_bind_ok.mpr ⟨_, rfl, ?_⟩⟩
    refine except_check_ok.mpr ⟨failIf_ok.mpr (not_not_intro rfl), ?_⟩
    exact except_bind_ok.mpr ⟨_, rfl, hbound.mpr hsize⟩

theorem validateRegistrations_ok : validateRegistrations [.object
      [("agentId", .number numericAgentId),
       ("agentRegistry", .string registryRef)]] agentId = .ok () ↔
      parseU64 agentId = some numericAgentId := by
  have hnumber : failIf (some numericAgentId ≠ parseU64 agentId)
      "registration document agent ID is not the confirmed identity" = .ok () ↔
        parseU64 agentId = some numericAgentId := by
    rw [failIf_ok, not_not, eq_comm]
  unfold validateRegistrations
  constructor
  · intro h
    obtain ⟨-, -, h⟩ := except_bind_ok.mp h
    exact hnumber.mp (except_check_ok.mp h).1
  · intro h
    refine except_bind_ok.mpr ⟨_, rfl, except_check_ok.mpr ⟨hnumber.mpr h, ?_⟩⟩
    exact failIf_ok.mpr (not_not_intro rfl)

/-- What is checked of a profile when it is built. -/
theorem validateProfile_ok :
    validateProfile (buildProfile settings snapshot inboxId agentId numericAgentId)
      snapshot.tentacleId agentId = .ok () ↔
    validatePublicText snapshot.publicName "registration name" maxProfileNameBytes = .ok () ∧
      validatePublicText settings.publicDescription "registration description"
        maxProfileDescriptionBytes = .ok () ∧
      validateImageUri (settings.image snapshot) "registration image" = .ok () ∧
      validateXmtpInboxId inboxId = .ok () ∧
      (dataUri (buildManifest snapshot.tentacleId inboxId agentId)).utf8ByteSize ≤ 2048 ∧
      parseU64 agentId = some numericAgentId ∧
      (buildProfile settings snapshot inboxId agentId numericAgentId).toVec.length ≤ 6 * 1024 ∧
      forbiddenFields.any (fun field => decide (utf8 field <:+:
        (buildProfile settings snapshot inboxId agentId numericAgentId).toVec)) = false ∧
      snapshot.tentacleId ≠ "" ∧ agentId ≠ "" := by
  unfold validateProfile
  simp only [except_bind_ok, exists_unit, failIf_ok, okOr_ok, not_or, not_lt, Bool.not_eq_true]
  constructor
  · rintro ⟨-, -, -, -, -, -, -, -, hname, hdescription, himage, services, hservices, hvalid,
      registrations, hregistrations, hregistered, hlength, hforbidden, hid⟩
    obtain rfl := Option.some.inj (hservices.symm.trans rfl)
    obtain rfl := Option.some.inj (hregistrations.symm.trans rfl)
    obtain ⟨hinbox, hmanifest⟩ := (validateServices_ok).mp hvalid
    exact ⟨hname, hdescription, himage, hinbox, hmanifest,
      (validateRegistrations_ok).mp hregistered, hlength, hforbidden, hid⟩
  · rintro ⟨hname, hdescription, himage, hinbox, hmanifest, hnumber, hlength, hforbidden, hid⟩
    exact ⟨_, rfl, not_not_intro rfl, rfl, not_not_intro rfl, not_not_intro rfl,
      not_not_intro rfl, rfl, hname, hdescription, himage, _, rfl,
      (validateServices_ok).mpr ⟨hinbox, hmanifest⟩, _, rfl, (validateRegistrations_ok).mpr hnumber,
      hlength, hforbidden, hid⟩

theorem buildAgentUri_ok (h : buildAgentUri settings snapshot agentId = .ok uri) :
    ∃ inboxId numericAgentId, Built settings snapshot agentId inboxId numericAgentId uri := by
  unfold buildAgentUri at h
  simp only [except_bind_ok, exists_unit, failIf_ok, okOr_ok, except_pure_ok, not_lt] at h
  obtain ⟨-, numericAgentId, hnumber, inboxId, hinbox, hvalid, hprofile, hsize, rfl⟩ := h
  obtain ⟨hname, -, -, -, hmanifest, -, -, -, htentacle, -⟩ := (validateProfile_ok).mp hprofile
  exact ⟨inboxId, numericAgentId, hinbox, hvalid, hnumber, hname, htentacle, hmanifest, hsize, rfl⟩

/-! ## What is read -/

/-- JavaScript reads of a value's text what was written. -/
def Reads (platform : Platform) (value : Value) : Prop :=
  platform.parseJson value.toVec = some value.read

def serviceList (snapshot : RegistrationSnapshot) (inboxId agentId : String) : List Json :=
  [.object
    [("name", .string "CTHUWU-XMTP"),
     ("endpoint", .string (xmtpEndpoint inboxId)),
     ("version", .string "1")],
   .object
    [("name", .string "CTHUWU"),
     ("endpoint", .string (dataUri (buildManifest snapshot.tentacleId inboxId agentId))),
     ("version", .string snapshot.publicProfileRevision.repr)]]

def registrationList (numericAgentId : ℕ) : List Json :=
  [.object
    [("agentId", .number (some (toDouble numericAgentId))),
     ("agentRegistry", .string registryRef)]]

def profileRecord (settings : Settings) (snapshot : RegistrationSnapshot)
    (inboxId agentId : String) (numericAgentId : ℕ) : Json.Record :=
  [("type", .string registrationSchema),
   ("name", .string snapshot.publicName),
   ("description", .string settings.publicDescription),
   ("image", .string (settings.image snapshot)),
   ("services", .array (serviceList snapshot inboxId agentId)),
   ("x402Support", .bool false),
   ("active", .bool true),
   ("registrations", .array (registrationList numericAgentId))]

theorem asRecord_read :
    (buildProfile settings snapshot inboxId agentId numericAgentId).read.asRecord = some record ↔
      record = profileRecord settings snapshot inboxId agentId numericAgentId :=
  Option.some_inj.trans eq_comm

theorem profileRecord_get
    (h : record = profileRecord settings snapshot inboxId agentId numericAgentId) :
    (record.get "type").bind asString = some registrationSchema ∧
      (record.get "active").bind Json.asBool = some true ∧
      (record.get "services").bind Json.asArray = some (serviceList snapshot inboxId agentId) ∧
      (record.get "registrations").bind Json.asArray = some (registrationList numericAgentId) ∧
      record.get "name" = some (.string snapshot.publicName) := by
  subst h
  exact ⟨rfl, rfl, rfl, rfl, rfl⟩

theorem repr_eq_one : n.repr = "1" ↔ n = 1 := by
  refine ⟨fun h => ?_, fun h => h ▸ rfl⟩
  have hvalue := congrArg (fun value => Nat.ofDigitChars 10 value.toList 0) h
  rw [Nat.toList_repr, Nat.ofDigitChars_ten_toDigits] at hvalue
  exact hvalue

theorem xmtpEndpoints : (serviceList snapshot inboxId agentId).filterMap
    (endpointOf "CTHUWU-XMTP") = [xmtpEndpoint inboxId] := by
  simp [serviceList, endpointOf_read]

/-- The manifest is found if the profile is the first version. -/
theorem manifestUris : (serviceList snapshot inboxId agentId).filterMap (endpointOf "CTHUWU") =
    if snapshot.publicProfileRevision = 1 then
      [dataUri (buildManifest snapshot.tentacleId inboxId agentId)]
    else [] := by
  by_cases h : snapshot.publicProfileRevision = 1 <;>
    simp [serviceList, endpointOf_read, repr_eq_one, h]

theorem matchingRegistrations (n : ℕ) : (registrationList n).filter
    (matchesRegistration ("eip155:8453:" ++ identityRegistry) n.repr) =
      if n < 2 ^ 53 then registrationList n else [] := by
  unfold registrationList
  rw [List.filter_cons, matchesRegistration_read, List.filter_nil]
  simp only [decide_eq_true_eq]

/-- The parts of a profile are found in its first version, for an agent whose number JavaScript
has. -/
theorem exactEndpoints_eq {manifestUri : String} :
    exactEndpoints ("eip155:8453:" ++ identityRegistry) n.repr (registrationList n)
        (serviceList snapshot inboxId n.repr) = some (endpoint, manifestUri) ↔
      (snapshot.publicProfileRevision = 1 ∧ n < 2 ^ 53) ∧ endpoint = xmtpEndpoint inboxId ∧
        manifestUri = dataUri (buildManifest snapshot.tentacleId inboxId n.repr) := by
  unfold exactEndpoints
  rw [matchingRegistrations, xmtpEndpoints, manifestUris]
  by_cases hrevision : snapshot.publicProfileRevision = 1
  · by_cases hnumber : n < 2 ^ 53
    · rw [if_pos hrevision, if_pos hnumber]
      simp only [registrationList, Option.some.injEq, Prod.mk.injEq, hrevision, hnumber, true_and,
        eq_comm]
    · rw [if_neg hnumber]
      exact iff_of_false (by simp) fun h => hnumber h.1.2
  · rw [if_neg hrevision]
    refine iff_of_false ?_ fun h => hrevision h.1.1
    split_ifs <;> simp [registrationList]

/-- A Tentacle reads a profile that is the first version of an agent whose number JavaScript has. -/
theorem profileFromAgentUri_ok {profile : RoutedProfile}
    (hbuilt : Built settings snapshot n.repr inboxId n uri)
    (hsize : snapshot.tentacleId.utf8ByteSize ≤ 128)
    (hprofile : Reads platform (buildProfile settings snapshot inboxId n.repr n))
    (hmanifest : Reads platform (buildManifest snapshot.tentacleId inboxId n.repr)) :
    profileFromAgentUri platform uri n.repr = .ok profile ↔
      (snapshot.publicProfileRevision = 1 ∧ n < 2 ^ 53) ∧
        profile = { inboxId := inboxId, tentacleId := snapshot.tentacleId } := by
  obtain ⟨-, hinbox, -, -, hne, hmanifestSize, huriSize, rfl⟩ := hbuilt
  have hmanifestSize : (dataUri (buildManifest snapshot.tentacleId inboxId n.repr)).utf8ByteSize ≤
      maxAgentUriBytes := hmanifestSize.trans (by decide)
  obtain ⟨htype, hactive, hservices, hregistrations, -⟩ := profileRecord_get
    (rfl : profileRecord settings snapshot inboxId n.repr n = _)
  have hprofile := (decodeCanonicalDataJson_dataUri huriSize (toVec_object_ne_nil _)).mpr hprofile
  have hmanifest :=
    (decodeCanonicalDataJson_dataUri hmanifestSize (toVec_object_ne_nil _)).mpr hmanifest
  have hstart : startsWith (xmtpEndpoint inboxId) "xmtp://" = true := startsWith_append _ _
  have hmanifestId : manifestTentacleId (fun registry => decide (registry = identityRegistry))
      n.repr (xmtpEndpoint inboxId) (buildManifest snapshot.tentacleId inboxId n.repr).read =
        some snapshot.tentacleId :=
    manifestTentacleId_read (decide_eq_true rfl) hne hsize
  unfold profileFromAgentUri
  rw [hprofile]
  simp only [except_bind_ok, exists_unit, okOr_ok, failIf_ok, toOption_eq_some, Except.ok.injEq,
    exists_eq_left', asRecord_read, exists_eq_left, htype, hactive, hservices, hregistrations,
    not_or, not_not, true_and, ne_eq, Option.some.injEq, Prod.exists,
    show erc8004IdentityRegistry = identityRegistry from rfl, exactEndpoints_eq, and_assoc,
    exists_and_left, hstart, xmtpInbox_xmtpEndpoint hinbox, hmanifest, hmanifestId, except_pure_ok]
  exact and_congr_right fun _ => and_congr_right fun _ => eq_comm

/-- The checksummed text of the registry's address. -/
structure Checksums (platform : Platform) : Prop where
  lower : platform.getAddress webIdentityRegistry = some identityRegistry
  checksummed : platform.getAddress identityRegistry = some identityRegistry

theorem verifiedProfileFromAgentUri_ok {profile : VerifiedProfile}
    (hbuilt : Built settings snapshot n.repr inboxId n uri)
    (hsize : snapshot.tentacleId.utf8ByteSize ≤ 128) (hchecksums : Checksums platform)
    (hprofile : Reads platform (buildProfile settings snapshot inboxId n.repr n))
    (hmanifest : Reads platform (buildManifest snapshot.tentacleId inboxId n.repr)) :
    verifiedProfileFromAgentUri platform uri n.repr = .ok profile ↔
      (snapshot.publicProfileRevision = 1 ∧ n < 2 ^ 53) ∧ profile =
          { inboxId := inboxId
            name := (verifiedProfileName (some (.string snapshot.publicName))).getD
              s!"Tentacle #{n.repr}"
            tentacleId := snapshot.tentacleId } := by
  obtain ⟨-, hinbox, -, -, hne, hmanifestSize, huriSize, rfl⟩ := hbuilt
  have hmanifestSize : (dataUri (buildManifest snapshot.tentacleId inboxId n.repr)).utf8ByteSize ≤
      maxAgentUriBytes := hmanifestSize.trans (by decide)
  obtain ⟨htype, hactive, hservices, hregistrations, hname⟩ := profileRecord_get
    (rfl : profileRecord settings snapshot inboxId n.repr n = _)
  have hprofile := fun label => (@decodeDataJson_dataUri platform _ label _ huriSize).mpr hprofile
  have hmanifest := fun label =>
    (@decodeDataJson_dataUri platform _ label _ hmanifestSize).mpr hmanifest
  have hregistry : canonicalAddress platform identityRegistry = some webIdentityRegistry := by
    unfold canonicalAddress
    rw [hchecksums.checksummed]
    decide
  have hmanifestId : manifestTentacleId
      (fun registry => decide (canonicalAddress platform registry = some webIdentityRegistry))
      n.repr (xmtpEndpoint inboxId) (buildManifest snapshot.tentacleId inboxId n.repr).read =
        some snapshot.tentacleId :=
    manifestTentacleId_read (decide_eq_true hregistry) hne hsize
  have hlength : ¬16 < (serviceList snapshot inboxId n.repr).length := by simp [serviceList]
  unfold verifiedProfileFromAgentUri
  rw [hprofile]
  simp only [except_bind_ok, exists_unit, okOr_ok, failIf_ok, Except.ok.injEq,
    exists_eq_left', asRecord_read, exists_eq_left, htype, hactive, hservices, hregistrations,
    not_or, not_not, true_and, ne_eq, Option.some.injEq, Prod.exists, hlength, not_false_eq_true,
    hchecksums.lower, exactEndpoints_eq, and_assoc,
    exists_and_left, xmtpInbox_xmtpEndpoint hinbox, hmanifest, hmanifestId, except_pure_ok, hname]
  exact and_congr_right fun _ => and_congr_right fun _ => eq_comm

/-- The browser shows a name that the registration takes, unless it has formatting characters. -/
theorem verifiedProfileName_eq {label : String}
    (h : validatePublicText name label maxProfileNameBytes = .ok ()) :
    verifiedProfileName (some (.string name)) =
      if name.toList.any isFormatting = true then none else some name := by
  unfold validatePublicText at h
  simp only [except_bind_ok, exists_unit, failIf_ok, not_or, not_lt] at h
  obtain ⟨⟨hblank, hsize⟩, hcontrol⟩ := h
  have hany : name.toList.any (fun c => isControl c || isFormatting c) =
      name.toList.any isFormatting := by
    rw [Bool.eq_iff_iff, List.any_eq_true, List.any_eq_true]
    refine exists_congr fun c => and_congr_right fun hc => ?_
    have hnot : isControl c = false :=
      Bool.eq_false_iff.mpr fun h => hcontrol (List.any_eq_true.mpr ⟨c, hc, h⟩)
    rw [hnot, Bool.false_or]
  have hsize : name.utf8ByteSize ≤ 128 := hsize
  unfold verifiedProfileName
  simp only [Option.bind_some, asString, Option.bind_eq_bind, hany]
  by_cases hformatting : name.toList.any isFormatting = true
  · rw [if_pos hformatting]
    simp [hformatting, guard]
  · have htrimmed : ¬name.toList.all isTrimmed = true := by
      intro hall
      refine hblank (List.all_eq_true.mpr fun c hc => ?_)
      have hnot : ¬isFormatting c = true :=
        fun h => hformatting (List.any_eq_true.mpr ⟨c, hc, h⟩)
      have hspace := List.all_eq_true.mp hall c hc
      simp only [isTrimmed, isFormatting, Bool.or_eq_true, Bool.and_eq_true, not_or,
        decide_eq_true_eq] at hspace hnot
      exact hspace.elim And.left fun h => absurd h hnot.2
    rw [if_neg hformatting]
    simp [hformatting, htrimmed, hsize, guard]

/-- The name that stands in for another has no formatting characters. -/
theorem standIn_ne (h : name.toList.any isFormatting = true) : s!"Tentacle #{n.repr}" ≠ name := by
  rintro rfl
  have hdigits : n.repr.toList.any isFormatting = false := by
    rw [List.any_eq_false]
    intro c hc
    have hdigit := List.all_eq_true.mp (repr_all_digits n) c hc
    simp only [Char.isDigit, Bool.and_eq_true, decide_eq_true_eq, ge_iff_le,
      UInt32.le_iff_toNat_le] at hdigit
    have hsmall : c.toNat ≤ 57 := hdigit.2
    simp only [isFormatting, Bool.or_eq_true, Bool.and_eq_true, decide_eq_true_eq]
    omega
  have hstart : "Tentacle #".toList.any isFormatting = false := by decide
  rw [String.toList_append, List.any_append] at h
  change ("Tentacle #".toList.any isFormatting || n.repr.toList.any isFormatting) = true at h
  rw [hstart, hdigits] at h
  exact Bool.false_ne_true h

/-! ## Every snapshot -/

theorem rename_ok {renamed : RegistrationSnapshot}
    (h : snapshot.rename generateEldritchName newName = .ok renamed) :
    renamed.tentacleId = snapshot.tentacleId ∧
      renamed.publicProfileRevision = snapshot.publicProfileRevision := by
  unfold RegistrationSnapshot.rename at h
  cases newName with
  | some name =>
    obtain ⟨-, -, h⟩ := except_bind_ok.mp h
    obtain rfl := Except.ok.inj h
    exact ⟨rfl, rfl⟩
  | none =>
    dsimp only at h
    split_ifs at h
    · cases hname : generateEldritchName snapshot.tentacleId <;> rw [hname] at h <;>
        obtain rfl := Except.ok.inj h <;> exact ⟨rfl, rfl⟩
    · obtain rfl := Except.ok.inj h
      exact ⟨rfl, rfl⟩

/-- A republication that succeeds takes the next version, and any other one keeps the version. -/
theorem republish_revision :
    let (snapshot', outcome) := republishProfileWithName generateEldritchName snapshot newName
    snapshot'.tentacleId = snapshot.tentacleId ∧ snapshot'.publicProfileRevision =
        snapshot.publicProfileRevision + if outcome = .ok () then 1 else 0 := by
  unfold republishProfileWithName
  cases snapshot.confirmedAgentId with
  | none => exact ⟨rfl, rfl⟩
  | some agentId =>
    dsimp only
    cases hrenamed : snapshot.rename generateEldritchName newName with
    | error err => exact ⟨rfl, rfl⟩
    | ok renamed =>
      obtain ⟨htentacle, hrevision⟩ := rename_ok hrenamed
      by_cases hfull : 2 ^ 32 ≤ renamed.publicProfileRevision + 1
      · simp only [if_pos hfull]
        exact ⟨htentacle, hrevision⟩
      · simp only [if_neg hfull]
        exact ⟨htentacle, congrArg (· + 1) hrevision⟩

theorem Reachable.keeps_tentacle (h : Reachable generateEldritchName tentacleId snapshot) :
    snapshot.tentacleId = tentacleId ∧ tentacleId.utf8ByteSize ≤ 128 := by
  induction h with
  | opened hid hname =>
    unfold validatePublicText at hid
    simp only [except_bind_ok, exists_unit, failIf_ok, not_or, not_lt] at hid
    exact ⟨rfl, hid.1.2⟩
  | @loaded snapshot h ih =>
    refine ⟨?_, ih.2⟩
    rw [← ih.1]
    unfold loadSnapshot
    split_ifs
    · cases generateEldritchName snapshot.tentacleId <;> rfl
    · rfl
  | republished h ih => exact ⟨republish_revision.1.trans ih.1, ih.2⟩
  | resolved h hinbox ih => exact ih
  | confirmed h hagent ih => exact ih
  | reconciled h huri ih => exact ih
  | notified h ih => exact ih

theorem parseU64_repr {m : ℕ} (h : parseU64 n.repr = some m) : m = n := by
  unfold parseU64 at h
  simp only [Option.ite_none_right_eq_some, Option.some.injEq] at h
  rw [← h.2, Nat.toList_repr, Nat.ofDigitChars_ten_toDigits]

/-- Both readers accept a profile, with its inbox and its name, exactly when it is the first version,
JavaScript has the number of its agent, and the name has no formatting characters. -/
theorem published_profile_readable {generateEldritchName : String → Except String String} {n : ℕ}
    (hreachable : Reachable generateEldritchName tentacleId snapshot)
    (hbuilt : buildAgentUri settings snapshot n.repr = .ok uri)
    (hchecksums : Checksums platform)
    (hreads : ∀ inboxId, snapshot.xmtpInboxId = some inboxId →
      Reads platform (buildProfile settings snapshot inboxId n.repr n) ∧
        Reads platform (buildManifest tentacleId inboxId n.repr)) :
    (∃ inboxId, snapshot.xmtpInboxId = some inboxId ∧ profileFromAgentUri platform uri n.repr =
        .ok { inboxId := inboxId, tentacleId := tentacleId } ∧
      verifiedProfileFromAgentUri platform uri n.repr =
        .ok { inboxId := inboxId, name := snapshot.publicName, tentacleId := tentacleId }) ↔
    snapshot.publicProfileRevision = 1 ∧ n < 2 ^ 53 ∧
      snapshot.publicName.toList.any isFormatting = false := by
  obtain ⟨rfl, hsize⟩ := hreachable.keeps_tentacle
  obtain ⟨inboxId, numericAgentId, hbuilt⟩ := buildAgentUri_ok hbuilt
  obtain rfl := parseU64_repr hbuilt.number
  obtain ⟨hprofile, hmanifest⟩ := hreads inboxId hbuilt.inbox
  have hname := verifiedProfileName_eq hbuilt.name
  simp only [hbuilt.inbox, Option.some.injEq, exists_eq_left', and_true, hname,
    profileFromAgentUri_ok hbuilt hsize hprofile hmanifest, VerifiedProfile.mk.injEq, true_and,
    verifiedProfileFromAgentUri_ok hbuilt hsize hchecksums hprofile hmanifest]
  rw [and_self_left, and_assoc]
  refine and_congr_right fun _ => and_congr_right fun _ => ?_
  by_cases hformatting : snapshot.publicName.toList.any isFormatting = true
  · rw [if_pos hformatting]
    exact iff_of_false (fun h => standIn_ne hformatting h.symm) (by rw [hformatting]; decide)
  · rw [if_neg hformatting]
    exact iff_of_true rfl (Bool.eq_false_iff.mpr hformatting)

/-! ## A Tentacle that publishes its profile again -/

def sampleSettings : Settings :=
  { publicDescription := "d"
    publicImage := defaultPublicImage
    customAvatar := some "https://a"
    generateAvatar := fun _ _ => "" }

def sampleInboxId : String := "aaaaaaaaaaaaaaaaaaaaaaaaaaaaaaaaaaaaaaaaaaaaaaaaaaaaaaaaaaaaaaaa"

/-- The Tentacle of agent 7, in some version of its profile. -/
def sampleSnapshot (revision : ℕ) : RegistrationSnapshot :=
  { freshSnapshot "deep-one" "Yog" with
    xmtpInboxId := some sampleInboxId
    confirmedAgentId := some "7"
    publicProfileRevision := revision }

def noName (_ : String) : Except String String := .error "no name"

theorem sampleSnapshot_reachable : Reachable noName "deep-one" (sampleSnapshot 1) :=
  .confirmed (.resolved (.opened (by decide) (by decide)) (by decide)) (by decide)

def sampleProfile (revision : ℕ) : Value :=
  buildProfile sampleSettings (sampleSnapshot revision) sampleInboxId "7" 7

def sampleManifest : Value :=
  buildManifest "deep-one" sampleInboxId "7"

def samplePlatform (revision : ℕ) : Platform :=
  { parseJson := fun bytes =>
      if bytes = sampleManifest.toVec then some sampleManifest.read
      else if bytes = (sampleProfile revision).toVec then some (sampleProfile revision).read
      else none
    getAddress := fun _ => some identityRegistry }

theorem utf8_ofList (l : List Char) : utf8 (String.ofList l) = l.flatMap String.utf8EncodeChar := by
  change (List.utf8Encode l).data.toList = _
  unfold List.utf8Encode
  exact List.toList_data_toByteArray

theorem quote_dataUri (value : Value) : Value.quote (dataUri value) =
    utf8 "\"" ++ (utf8 dataJsonPrefix ++
      (base64Encode value.toVec).flatMap String.utf8EncodeChar).flatMap escapeByte ++
      utf8 "\"" := by
  have happend : utf8 (dataUri value) = utf8 dataJsonPrefix ++ utf8 (base64 value.toVec) := by
    change (dataJsonPrefix ++ base64 value.toVec).toByteArray.data.toList = _
    rw [String.toByteArray_append, ByteArray.data_append, Array.toList_append]
    rfl
  unfold Value.quote
  rw [happend, ← utf8_ofList (base64Encode value.toVec)]
  rfl

/-- A version of the profile that is short, and open. -/
def Publishable (revision : ℕ) : Prop :=
  (sampleProfile revision).toVec.length ≤ 2048 ∧ forbiddenFields.any (fun field =>
      decide (utf8 field <:+: (sampleProfile revision).toVec)) = false ∧
    sampleManifest.toVec ≠ (sampleProfile revision).toVec

theorem publishable : Publishable 1 ∧ Publishable 2 := by
  simp only [Publishable, sampleProfile, buildProfile, Value.toVec, fieldsToVec,
    itemsToVec, quote_dataUri]
  decide +kernel

theorem size_dataUri (value : Value) :
    (dataUri value).utf8ByteSize = 29 + (value.toVec.length + 2) / 3 * 4 := by
  unfold dataUri
  rw [String.utf8ByteSize_append, utf8ByteSize_base64, base64Encode_length]
  rfl

theorem sampleUri_built {revision : ℕ} (h : Publishable revision) :
    buildAgentUri sampleSettings (sampleSnapshot revision) "7" =
      .ok (dataUri (sampleProfile revision)) := by
  obtain ⟨hlength, hforbidden, -⟩ := h
  have hmanifest : sampleManifest.toVec.length ≤ 1000 := by decide +kernel
  have hmanifestSize : (dataUri sampleManifest).utf8ByteSize ≤ 2048 := by
    rw [size_dataUri]
    omega
  have hsize : (dataUri (sampleProfile revision)).utf8ByteSize ≤ maxAgentUriBytes := by
    unfold maxAgentUriBytes
    rw [size_dataUri]
    omega
  have hinbox : validateXmtpInboxId sampleInboxId = .ok () := by decide
  have hname : validatePublicText "Yog" "registration name" maxProfileNameBytes = .ok () := by
    decide
  have himage : validateImageUri "https://a" "registration image" = .ok () := by decide
  have hid : "deep-one" ≠ "" := by decide
  have hprofile : validateProfile (sampleProfile revision) "deep-one" "7" = .ok () :=
    (validateProfile_ok).mpr ⟨hname, by decide, himage, hinbox, hmanifestSize, by decide,
      hlength.trans (by decide), hforbidden, hid, by decide⟩
  unfold buildAgentUri
  refine except_check_ok.mpr ⟨by decide, except_bind_ok.mpr ⟨7, by decide, ?_⟩⟩
  refine except_bind_ok.mpr ⟨sampleInboxId, rfl, except_check_ok.mpr ⟨hinbox, ?_⟩⟩
  refine except_check_ok.mpr ⟨hprofile, except_check_ok.mpr ⟨failIf_ok.mpr ?_, rfl⟩⟩
  exact not_lt.mpr hsize

theorem samplePlatform_reads {revision : ℕ} (h : Publishable revision) :
    Reads (samplePlatform revision) (sampleProfile revision) ∧
      Reads (samplePlatform revision) sampleManifest := by
  unfold Reads samplePlatform
  dsimp only
  rw [if_neg h.2.2.symm, if_pos rfl, if_pos rfl]
  exact ⟨rfl, rfl⟩

/-- Both readers accept the first version of the profile. -/
theorem published_profile_readable_first :
    profileFromAgentUri (samplePlatform 1) (dataUri (sampleProfile 1)) "7" =
        .ok { inboxId := sampleInboxId, tentacleId := "deep-one" } ∧
      verifiedProfileFromAgentUri (samplePlatform 1) (dataUri (sampleProfile 1)) "7" =
        .ok { inboxId := sampleInboxId, name := "Yog", tentacleId := "deep-one" } := by
  obtain ⟨hprofile, hmanifest⟩ := samplePlatform_reads publishable.1
  have h := published_profile_readable (n := 7) sampleSnapshot_reachable
    (sampleUri_built publishable.1) ⟨rfl, rfl⟩ fun inboxId hinbox => by
      obtain rfl := Option.some.inj hinbox
      exact ⟨hprofile, hmanifest⟩
  obtain ⟨inboxId, hinbox, hread⟩ := h.mpr ⟨rfl, by decide, by decide⟩
  obtain rfl := Option.some.inj hinbox
  exact hread

/-- Neither reader accepts the profile that is published again. -/
theorem republished_profile_unreadable :
    (republishProfileWithName noName (sampleSnapshot 1) none) = (sampleSnapshot 2, .ok ()) ∧
      buildAgentUri sampleSettings (sampleSnapshot 2) "7" = .ok (dataUri (sampleProfile 2)) ∧
      (profileFromAgentUri (samplePlatform 2) (dataUri (sampleProfile 2)) "7").toOption = none ∧
      (verifiedProfileFromAgentUri (samplePlatform 2) (dataUri (sampleProfile 2)) "7").toOption =
        none := by
  have huri := sampleUri_built publishable.2
  obtain ⟨hprofile, hmanifest⟩ := samplePlatform_reads publishable.2
  obtain ⟨inboxId, n, hbuilt⟩ := buildAgentUri_ok huri
  obtain rfl := Option.some.inj hbuilt.inbox
  obtain rfl := parseU64_repr (n := 7) hbuilt.number
  have hsize : (sampleSnapshot 2).tentacleId.utf8ByteSize ≤ 128 := by decide
  refine ⟨rfl, huri, ?_, ?_⟩
  · rw [Option.eq_none_iff_forall_not_mem]
    intro profile hprofile'
    have h := (profileFromAgentUri_ok (n := 7) hbuilt hsize hprofile hmanifest).mp
      (toOption_eq_some.mp hprofile')
    exact absurd h.1.1 (by decide)
  · rw [Option.eq_none_iff_forall_not_mem]
    intro profile hprofile'
    have h := (verifiedProfileFromAgentUri_ok (n := 7) hbuilt hsize ⟨rfl, rfl⟩ hprofile
      hmanifest).mp (toOption_eq_some.mp hprofile')
    exact absurd h.1.1 (by decide)

end Cthuwu.Profile
