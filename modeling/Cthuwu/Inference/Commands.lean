import Cthuwu.Lib.Runs
import Cthuwu.Inference.Router

/-!
# Commands in any order

A command that validates a key stops at the validation, and everything else may happen before its
answer comes back. `Event` is one step of one command : a public `/venice-key` stores its key and is
later told whether it was valid, a donation and an operator's key are told first and store then.

`World` keeps with the router what is pending, and for the statements about runs which public
command has put the loaded key there (`storedBy`) and what happened to each since it stored
(`Marks`). No step reads these.
-/

namespace Cthuwu.Inference

open Fallible

inductive Pending
  | provisioning
  | donating (donor key : String)
  | configuring (op : EnvOp)
  deriving DecidableEq

/-- What happened since a public key was stored. -/
structure Marks where
  /-- The selected provider is the one that would be selected without the command. -/
  providerKept : Bool
  /-- The key was copied into a slot, or stood in the way of another public key. -/
  disturbed : Bool

structure World where
  router : Router
  pending : ℕ → Option Pending
  started : List ℕ
  storedBy : Option ℕ
  marks : ℕ → Marks

variable (router : Router) (w : World) (c : ℕ) (valid : Bool)

def World.start : World :=
  { router
    pending := fun _ => none
    started := []
    storedBy := none
    marks := fun _ => ⟨true, false⟩ }

inductive Event
  /-- A public `/venice-key`. -/
  | provision (command : ℕ) (argument : String)
  | validated (command : ℕ) (valid : Bool)
  /-- A public `/env donate VENICE_API_KEY`. -/
  | donate (command : ℕ) (inboxDigest key : String)
  | donated (command : ℕ) (valid : Bool)
  | provider (provider : Provider) (now : ℕ)
  | model (model : String)
  | venicePrivacy (requireTee : Bool)
  /-- The operator's `/venice-key`. -/
  | operatorKey (argument : String)
  /-- The operator's `/env set` or `/env add` of a Venice key. -/
  | configure (command : ℕ) (op : EnvOp)
  | configured (command : ℕ) (valid : Bool)
  | environment (op : EnvOp)
  /-- A completion whose credential failed, or one of a diagnosis that worked. -/
  | failed (name slot : String) (failure : CredentialFailure) (now : ℕ)
  | verified (name slot value : String)

def Event.command : Event → Option ℕ
  | .provision c _ | .validated c _ | .donate c _ _ | .donated c _ | .configure c _
  | .configured c _ => some c
  | _ => none

def Event.public : Event → Option ℕ
  | .provision c _ | .validated c _ | .donate c _ _ | .donated c _ => some c
  | _ => none

/-- A key for a slot of Venice, which is validated before it is stored. -/
def EnvOp.veniceKey : EnvOp → Option String
  | .set name value => if name = veniceVariable then some value else none
  | .add name _ value => if name = veniceVariable then some value else none
  | _ => none

def donorSlot (inboxDigest : String) : String :=
  "donor-" ++ String.ofList (inboxDigest.toList.take 32)

namespace World

/-- The key file holds a key that no slot holds. -/
def hasLooseKey : Bool :=
  w.router.veniceApiKey.isSome && !w.router.environment.contains veniceVariable

/-- The public key that is loaded outside the slots has been disturbed. -/
def disturb : World :=
  if w.hasLooseKey then
    { w with marks := fun c =>
        if w.storedBy = some c then { w.marks c with disturbed := true } else w.marks c }
  else w

def selectProvider : World :=
  { w with marks := fun c => { w.marks c with providerKept := true } }

def control {α : Type} (w : World) (command : Control α) : World :=
  { w with router := (command.exec w.router).2 }

def begin (pending : Option Pending) : World :=
  { w with
    pending := Function.update w.pending c pending
    started := c :: w.started }

def finish : World :=
  { w with pending := Function.update w.pending c none }

/-- A public key is stored, or it is refused. -/
def provision (argument : String) : World :=
  match (veniceKeyCommand argument false).exec w.router with
  | (.ok true, router) =>
    { w with
      router
      pending := Function.update w.pending c (some .provisioning)
      started := c :: w.started
      storedBy := some c
      marks := Function.update w.marks c ⟨w.router.selection.provider = .venice, false⟩ }
  | (.ok false, router) =>
    if asksStatus argument then { w with router, started := c :: w.started }
    else { w.disturb with router, started := c :: w.started }
  | (.error _, router) => { w with router, started := c :: w.started }

/-- The answer to a public key. A key that is not valid is cleared, whichever is loaded then. -/
def validated : World :=
  if w.pending c = some .provisioning then
    if valid then w.finish c
    else { (w.finish c).control clearVeniceKey with storedBy := none }
  else w

def donated : World :=
  match w.pending c with
  | some (.donating donor key) =>
    if valid then (w.disturb.finish c).control (storeDonation donor key) else w.finish c
  | _ => w

/-- A first slot that is set replaces the copy of the older key. -/
def disturbs (op : EnvOp) : Bool :=
  match op with
  | .set _ _ => !((storeConfigured op).exec router).1.isOk
  | _ => true

def configured : World :=
  match w.pending c with
  | some (.configuring op) =>
    if valid then
      ((if disturbs w.router op then w.disturb else w).finish c).control (storeConfigured op)
    else w.finish c
  | _ => w

def provider (w : World) (now : ℕ) (provider : Provider) : World :=
  let result := (switchProvider now provider).exec w.router
  if result.1.isOk then { w.selectProvider with router := result.2 } else w

/-- The operator's key replaces any other and selects Venice. -/
def operatorKey (argument : String) : World :=
  match (veniceKeyCommand argument true).exec w.router with
  | (.ok true, router) =>
    { w.selectProvider with
      router
      storedBy := none }
  | (_, router) => { w with router }

def environment (op : EnvOp) : World :=
  { w.control (environmentCommand op) with
    storedBy := if op = .unset veniceVariable then none else w.storedBy }

def next : Event → World
  | .provision c argument => w.provision c argument
  | .validated c valid => w.validated c valid
  | .donate c inboxDigest key =>
    w.begin c ((validateVeniceKey key).toOption.map (.donating (donorSlot inboxDigest)))
  | .donated c valid => w.donated c valid
  | .provider provider now => w.provider now provider
  | .model model => w.control (switchModel model)
  | .venicePrivacy requireTee => w.control (setVenicePrivacy requireTee)
  | .operatorKey argument => w.operatorKey argument
  | .configure c op =>
    w.begin c ((op.veniceKey.bind fun key => (validateVeniceKey key).toOption).map
      fun _ => .configuring op)
  | .configured c valid => w.configured c valid
  | .environment op => w.environment op
  | .failed name slot failure now =>
    w.control (modify fun r =>
      { r with environment := r.environment.failed name slot failure now })
  | .verified name slot value =>
    w.control (modify fun r => { r with environment := r.environment.verified name slot value })

/-- A command starts once, and is told about its validation while it waits for it. -/
def Allowed : Event → Prop
  | .provision c _ | .donate c _ _ => c ∉ w.started
  | .configure c op => c ∉ w.started ∧ op.veniceKey.isSome = true
  | .validated c _ => w.pending c = some .provisioning
  | .donated c _ => ∃ donor key, w.pending c = some (.donating donor key)
  | .configured c _ => ∃ op, w.pending c = some (.configuring op)
  | .environment op => op.veniceKey = none
  | _ => True

instance (w : World) : (e : Event) → Decidable (w.Allowed e)
  | .provision c _ | .donate c _ _ => inferInstanceAs (Decidable (c ∉ w.started))
  | .configure c op => inferInstanceAs (Decidable (c ∉ w.started ∧ op.veniceKey.isSome = true))
  | .validated c _ => inferInstanceAs (Decidable (w.pending c = some .provisioning))
  | .donated c _ => match h : w.pending c with
    | some (.donating donor key) => isTrue ⟨donor, key, h⟩
    | none | some .provisioning | some (.configuring _) =>
      isFalse fun ⟨donor, key, h'⟩ => by rw [h] at h'; cases h'
  | .configured c _ => match h : w.pending c with
    | some (.configuring op) => isTrue ⟨op, h⟩
    | none | some .provisioning | some (.donating _ _) =>
      isFalse fun ⟨op, h'⟩ => by rw [h] at h'; cases h'
  | .environment op => inferInstanceAs (Decidable (op.veniceKey = none))
  | .provider _ _ | .model _ | .venicePrivacy _ | .operatorKey _ | .failed _ _ _ _
  | .verified _ _ _ => isTrue trivial

end World

def machine : Machine World Event where
  init := .start router
  Allowed := World.Allowed
  next := World.next

instance (router : Router) (w : World) (e : Event) : Decidable ((machine router).Allowed w e) :=
  inferInstanceAs (Decidable (w.Allowed e))

end Cthuwu.Inference
