import Mathlib.Logic.Function.Basic
import Cthuwu.Council.Text
import Cthuwu.Lib.Outcome
import Cthuwu.Lib.Lines

/-!
# Credential slots and the inference router

A variable of the environment has up to eight named slots, tried in order. `set` puts its value
first, in the slot `primary`, and `add` puts it last, in a slot of a new name. Unsetting a model
credential leaves the variable without slots, so that no older credential comes back. A failed
inference marks the slot it used.

The credential slots, the one key of the older key file, the selection of a provider and its model
ids, and the Venice model in memory. A public key is stored when none is there (`veniceKeyCommand`
without `allowReplace`), selects Venice at once and is cleared again when its validation fails. A
donation and an operator's own key are validated first and stored in the slots, where the older key
moves ahead of them (`keepPrimary`).
-/

namespace Cthuwu.Inference

open Council (isControl)

/-! ## Slots -/

inductive CredentialFailure
  | rejected
  | rateLimited
  | transient
  deriving DecidableEq

structure Entry where
  name : String
  value : String
  enabled : Bool
  cooldown : ℕ
  failure : Option CredentialFailure

/-- The slots of every variable that is configured. -/
abbrev Environment := String → Option (List Entry)

def Entry.new (name value : String) : Entry :=
  { name, value
    enabled := true
    cooldown := 0
    failure := none }

def veniceVariable : String := "VENICE_API_KEY"

def openaiVariable : String := "UWUBOT_MODEL_API_KEY"

variable (env : Environment)

namespace Environment

def contains (name : String) : Bool :=
  (env name).isSome

/-- The slots that an inference may use. -/
def candidates (name : String) (now : ℕ) : List Entry :=
  ((env name).getD []).filter fun entry => entry.enabled && entry.cooldown ≤ now

end Environment

def validateName (name : String) : Except String Unit := do
  failIf (name = "" ∨ 128 < name.utf8ByteSize ∨
    (name.toList.all fun c => c.isUpper || c.isDigit || c = '_') = false ∨
    (name.toList.head?.any Char.isDigit) = true) "invalid environment variable name"
  failIf (name ∉ [veniceVariable, "UWUBOT_VENICE_API_KEY", openaiVariable, "UWUBOT_PROVIDER",
    "UWUBOT_MODEL", "CTHUWU_RPC_ENDPOINT"] ∧ ¬"TOOL_".toList <+: name.toList)
    "unsupported runtime variable; use TOOL_* for operator command environment values"

def validateEntry (slot value : String) : Except String Unit :=
  failIf (slot = "" ∨ 64 < slot.utf8ByteSize ∨
    (slot.toList.all fun c => c.isAlphanum || c = '-' || c = '_') = false ∨ value = "" ∨
    4096 < value.utf8ByteSize ∨ value.toList.any isControl = true)
    "invalid configuration slot or value"

/-! ## Commands -/

/-- What a command does to the slots of one variable. -/
inductive EnvOp
  | set (name value : String)
  | add (name slot value : String)
  | unset (name : String)
  | remove (name slot : String)
  | enable (name slot : String)
  | disable (name slot : String)
  deriving DecidableEq

def EnvOp.name : EnvOp → String
  | .set v _ | .add v _ _ | .unset v | .remove v _ | .enable v _ | .disable v _ => v

/-- A slot that was switched on or off is no longer marked. -/
def Entry.switched (enabled : Bool) (entry : Entry) : Entry :=
  { entry with
    enabled
    cooldown := 0
    failure := none }

/-- The slots with a change of the first slot of a name. -/
def onSlot (slot : String) (change : Entry → Option Entry) : List Entry → Option (List Entry)
  | [] => none
  | entry :: rest =>
    if entry.name = slot then some ((change entry).toList ++ rest)
    else (onSlot slot change rest).map (entry :: ·)

def putSlot (values : List Entry) (slot : String) (place : List Entry → List Entry) :
    Except String (List Entry) := do
  let kept := values.filter fun entry => entry.name ≠ slot
  failIf (8 ≤ kept.length) "at most eight slots per variable"
  return place kept

def changeSlot (name slot : String) (change : Entry → Option Entry) :
    Except String (List Entry) := do
  let values ← okOr (env name) "variable not configured"
  okOr (onSlot slot change values) "slot not found"

/-- The slots that a command leaves its variable, `none` where it is no longer configured. -/
def EnvOp.result : EnvOp → Except String (Option (List Entry))
  | .set name value => do
    validateEntry "primary" value
    let values ← putSlot ((env name).getD []) "primary" (.new "primary" value :: ·)
    return some values
  | .add name slot value => do
    validateEntry slot value
    failIf (((env name).getD []).any (·.name = slot))
      "slot exists; remove it before replacing it"
    let values ← putSlot ((env name).getD []) slot (· ++ [.new slot value])
    return some values
  | .unset name => return if name ∈ [veniceVariable, openaiVariable] then some [] else none
  | .remove name slot => do
    let values ← changeSlot env name slot fun _ => none
    return some values
  | .enable name slot => do
    let values ← changeSlot env name slot fun entry => some (entry.switched true)
    return some values
  | .disable name slot => do
    let values ← changeSlot env name slot fun entry => some (entry.switched false)
    return some values

def Environment.command (op : EnvOp) : Fallible String Environment Unit := do
  validateName op.name
  let env ← get
  let values ← op.result env
  set (Function.update env op.name values)

/-! ## What inference leaves behind -/

/-- A slot after an inference with it has failed. -/
def Entry.failed (failure : CredentialFailure) (now : ℕ) (entry : Entry) : Entry :=
  { entry with
    failure := some failure
    cooldown := now + if failure = .rateLimited then 300 else 60
    enabled := entry.enabled && failure ≠ .rejected }

def Environment.failed (name slot : String) (failure : CredentialFailure)
    (now : ℕ) : Environment :=
  match (env name).bind (onSlot slot fun entry => some (entry.failed failure now)) with
  | some values => Function.update env name (some values)
  | none => env

/-- The slots with the first enabled one of a name and a value unmarked. -/
def verifySlot (slot value : String) : List Entry → Option (List Entry)
  | [] => none
  | entry :: rest =>
    if entry.name = slot ∧ entry.value = value ∧ entry.enabled = true then
      some ({ entry with
        cooldown := 0
        failure := none } :: rest)
    else (verifySlot slot value rest).map (entry :: ·)

def Environment.verified (name slot value : String) : Environment :=
  match (env name).bind (verifySlot slot value) with
  | some values => Function.update env name (some values)
  | none => env

end Cthuwu.Inference

/-! ## The inference router -/

namespace Cthuwu.Inference

open Council (isControl isWhiteSpace)

inductive Provider
  | venice
  | ollama
  | openai
  | deterministic
  deriving DecidableEq

/-- `StoredInferenceConfig`. -/
structure Selection where
  provider : Provider
  veniceModel : String
  veniceRequireTee : Bool
  ollamaModel : String
  openaiModel : String

variable (r : Router) (s : Selection) (value : String)

def Selection.model : Provider → Option String
  | .venice => some s.veniceModel
  | .ollama => some s.ollamaModel
  | .openai => some s.openaiModel
  | .deterministic => none

def Selection.setModel (provider : Provider) (model : String) :
    Except String Selection :=
  match provider with
  | .venice => .ok { s with veniceModel := model }
  | .ollama => .ok { s with ollamaModel := model }
  | .openai => .ok { s with openaiModel := model }
  | .deterministic => .error "the deterministic provider has no model ID"

/-- What the Venice model in memory was built from. -/
structure VeniceRoute where
  apiKey : String
  model : String
  requireTee : Bool

structure Router where
  environment : Environment
  veniceApiKey : Option String
  selection : Selection
  veniceRoute : Option VeniceRoute
  /-- The OpenAI-compatible provider has a key from the start. -/
  openaiConfigured : Bool

/-- `build_one_model` for Venice. -/
def Selection.route (apiKey : Option String) : Option VeniceRoute :=
  apiKey.map fun apiKey => ⟨apiKey, s.veniceModel, s.veniceRequireTee⟩

def Router.start (environment : Environment) (veniceApiKey : Option String)
    (selection : Selection) (openaiConfigured : Bool) : Router :=
  { environment, veniceApiKey, selection, openaiConfigured
    veniceRoute := selection.route veniceApiKey }

abbrev Control := Fallible String Router

def onEnvironment {α : Type} (command : Fallible String Environment α) : Control α :=
  Fallible.onPart id Router.environment (fun environment r => { r with environment }) command

/-! ## Texts -/

def trim : String :=
  String.ofList (trimBy isWhiteSpace value.toList)

def maxVeniceKeyBytes : ℕ := 4 * 1024

def validateVeniceKey : Except String String := do
  let key := trim value
  failIf (key = "" ∨ maxVeniceKeyBytes < key.utf8ByteSize) "Venice API key must be 1-4096 bytes"
  failIf (key.toList.any isWhiteSpace = true ∨ key.toList.any isControl = true)
    "Venice API key must be one non-whitespace token"
  return key

def maxModelIdChars : ℕ := 128

def validateModelId : Except String String := do
  let model := trim value
  failIf (model = "" ∨ maxModelIdChars < model.toList.length ∨
    (model.toList.all fun c => c.isAlphanum || ['.', '_', ':', '/', '-'].contains c) = false)
    ("model ID must be 1-128 ASCII letters, digits, dots, underscores, colons, slashes, " ++
      "or hyphens")
  return model

/-! ## The operator's route -/

/-- The OpenAI-compatible provider needs a key of its own, at startup or in a slot. -/
def switchProvider (now : ℕ) (provider : Provider) : Control Unit := do
  let r ← get
  failIf (provider = .openai ∧ r.openaiConfigured = false ∧
    r.environment.candidates openaiVariable now = [])
    "the OpenAI-compatible provider has no locally configured API key"
  modify fun r => { r with selection := { r.selection with provider } }

/-- The router with a selection, whose Venice model is built anew. -/
def Router.select (selection : Selection) : Router :=
  { r with
    selection
    veniceRoute := selection.route r.veniceApiKey }

def switchModel (model : String) : Control Unit := do
  let model ← validateModelId model
  let r ← get
  let selection ← r.selection.setModel r.selection.provider model
  set (r.select selection)

/-- `/env set UWUBOT_VENICE_PRIVACY`. -/
def setVenicePrivacy (requireTee : Bool) : Control Unit :=
  modify fun r => r.select { r.selection with veniceRequireTee := requireTee }

/-! ## Keys -/

/-- The argument asks for the status of the key. -/
def asksStatus (argument : String) : Bool :=
  trim argument = "" || (trim argument).toLower = "status"

/-- The router with a key of the key file, which selects Venice. -/
def Router.withKey (key : String) : Router :=
  let selection := { r.selection with provider := .venice }
  { r with
    selection
    veniceApiKey := some key
    veniceRoute := selection.route (some key) }

/-- Where a key is already loaded only the operator replaces it. Returns whether the key was
stored. -/
def veniceKeyCommand (argument : String) (allowReplace : Bool) : Control Bool :=
  if asksStatus argument then return false
  else do
    let key ← validateVeniceKey argument
    let r ← get
    if (r.veniceApiKey.isSome || r.environment.contains veniceVariable) && !allowReplace then
      return false
    else
      if r.environment.contains veniceVariable then
        onEnvironment (Environment.command (.set veniceVariable key))
      modify (·.withKey key)
      return true

def Router.withoutKey : Router :=
  { r with
    veniceApiKey := none
    veniceRoute := none }

def clearVeniceKey : Control Unit :=
  modify Router.withoutKey

/-- The key of the key file moves into the first slot before another one is added. -/
def keepPrimary : Control Unit := do
  let r ← get
  if r.environment.contains veniceVariable then return ()
  else
    match r.veniceApiKey with
    | none => return ()
    | some key => onEnvironment (Environment.command (.set veniceVariable key))

/-- The end of a donation that was validated. -/
def storeDonation (donor key : String) : Control Unit := do
  keepPrimary
  onEnvironment (Environment.command (.add veniceVariable donor key))

/-- The end of an operator's `set` or `add` of a Venice key that was validated. -/
def storeConfigured (op : EnvOp) : Control Unit := do
  keepPrimary
  onEnvironment (Environment.command op)

/-- The other commands of `/env` on slots. -/
def environmentCommand (op : EnvOp) : Control Unit := do
  failIf (op.name ∈ ["UWUBOT_PROVIDER", "UWUBOT_MODEL", "CTHUWU_RPC_ENDPOINT"])
    ("this runtime setting needs its supported set/get adapter; named backup slots are for model " ++
      "credentials and TOOL_* values")
  if op = .unset veniceVariable then clearVeniceKey
  onEnvironment (Environment.command op)

end Cthuwu.Inference
