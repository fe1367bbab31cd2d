import GpioBroker.MessageBus
import GpioBroker.ObjectBus

/-!
# The broker's connection

The connection over which the broker owns its name and exports its objects.  It keeps every message
bus it ever made, the one it is linked to, and a table of the objects it registered.  Registrations
are numbered from one and a number is given once; a registration that fails takes none.
-/

namespace GpioBroker

/-- How far an attempt to own the name has come. -/
inductive OwnershipPhase where
  /-- Nothing was done yet; the script is that of the bus to be made. -/
  | starting (script : BusScript)
  /-- A bus was made and waits for its connection. -/
  | connecting (bus : Nat)
  /-- The name was requested from a bus. -/
  | requesting (bus : Nat)
  /-- The name is owned until a bus hangs up. -/
  | waiting (bus : Nat)
  | ended
  | cancelled
deriving Inhabited, Repr

/-- Whether an attempt goes on. -/
def OwnershipPhase.isLive : OwnershipPhase → Bool
  | .ended | .cancelled => false
  | _ => true

/-- An object that was registered. -/
structure RegisteredObject (ρ : Type) where
  registration : Int
  path : Text
  object : ChipObject ρ

/-- The broker's connection to the bus. -/
structure Connection (ρ : Type) where
  name : Text := Layout.busName
  /-- All message buses ever made, by number. -/
  buses : List (MessageBus ρ) := []
  /-- The number of the bus in use. -/
  link : Option Nat := none
  /-- Whether the name is owned, as far as is known. -/
  isOwner : Bool := false
  nextRegistration : Int := 1
  nextSerial : Nat := 0
  /-- The registered objects in the order of their registrations. -/
  objects : List (RegisteredObject ρ) := []
  /-- The attempts to own the name, by number. -/
  attempts : List OwnershipPhase := []
deriving Inhabited

namespace Connection

variable {ρ : Type}

/-- The message bus with a number. -/
def bus? (c : Connection ρ) (number : Nat) : Option (MessageBus ρ) := c.buses[number]?

/-- The bus in use. -/
def linked? (c : Connection ρ) : Option (MessageBus ρ) := c.link.bind c.bus?

/-- The number of the bus in use, if it is up. -/
def live? (c : Connection ρ) : Option Nat :=
  c.link.filter fun number => (c.bus? number).any MessageBus.isConnected

/-- Whether the connection is up. -/
def isConnected (c : Connection ρ) : Bool := c.live?.isSome

/-- The message bus made last. -/
def newest? (c : Connection ρ) : Option (MessageBus ρ) := c.buses.getLast?

/-- Changes the message bus with a number. -/
def changeBus (c : Connection ρ) (number : Nat) (f : MessageBus ρ → MessageBus ρ) : Connection ρ :=
  { c with buses := c.buses.modify number f }

def withinBus {α : Type} (number : Nat) (x : Act (MessageBus ρ) α) : Act (Connection ρ) α :=
  Act.within (fun c => (c.bus? number).getD {})
    (fun c b => { c with buses := c.buses.set number b }) x

/-- Registers an object at a path and gives its registration. -/
def register (path : Text) (reader : ρ) : Act (Connection ρ) Int := do
  let c ← Act.state
  match c.live? with
  | none => Act.fail (.notConnected path)
  | some number =>
    if c.objects.any fun o => o.path == path then Act.fail (.alreadyExported path)
    let object : ChipObject ρ := { serial := c.nextSerial, reader }
    Act.update fun c => { c with nextSerial := c.nextSerial + 1 }
    Act.explain Fault.refusesExport (withinBus number (MessageBus.exportObject path object))
      fun f => .exportRefused path f.message
    let registration := c.nextRegistration
    Act.update fun c => { c with
      nextRegistration := registration + 1
      objects := c.objects ++ [{ registration, path, object }] }
    return registration

/-- Refuses to register an object at a path that is no text: no bus exports it. -/
def refusePath (path : Value) : Act (Connection ρ) Unit := do
  let c ← Act.state
  match c.live? with
  | none => Act.fail (.notConnected path.display)
  | some number =>
    Act.explain Fault.refusesExport (withinBus number (MessageBus.refusePath path))
      fun f => .exportRefused path.display f.message

/-- The registered object with a registration. -/
def find? (c : Connection ρ) (registration : Int) : Option (RegisteredObject ρ) :=
  c.objects.find? fun o => o.registration == registration

/-- Forgets the registered object whose registration a value equals and, while the connection is up,
takes it off the bus. -/
def unregister (registration : Value) : Act (Connection ρ) Unit := do
  discard (Act.ofExcept registration.toKey)
  let c ← Act.state
  match registration.wholeNumber?.bind c.find? with
  | none => Act.fail (.unknownRegistration registration)
  | some removed =>
    Act.update fun c => { c with
      objects := c.objects.filter fun o => o.registration != removed.registration }
    match c.live? with
    | none => pure ()
    | some number => withinBus number (MessageBus.unexportObject removed.path removed.object)

/-- Reports that the name is lost. -/
def postLoss (reason : LossReason) (detail : Text := "") : Act (Connection ρ) Unit := do
  let c ← Act.state
  Act.post (.nameLost { name := .text c.name, reason, detail := .text detail })

/-- Hears a message: the bus may take the name away. -/
def hear (m : Message) : Act (Connection ρ) Unit := do
  let c ← Act.state
  if ← Act.ofExcept (m.revokes c.name) then
    Act.update fun c => { c with isOwner := false }
    postLoss .nameRevoked

/-- Releases the name if it is owned, and closes the connection.  The link is given up first, so
that what fails here is not tried again. -/
def release : Act (Connection ρ) Unit := do
  let c ← Act.state
  match c.link with
  | none => pure ()
  | some number =>
    Act.update fun c => { c with link := none }
    if c.isOwner && c.isConnected then
      Act.recover Fault.isBus (withinBus number (MessageBus.releaseName c.name)) fun f =>
        Act.log .warning ("error releasing bus name " ++ c.name ++ ": " ++ f.message)
    Act.update fun c => { c with isOwner := false }
    withinBus number MessageBus.disconnect

end Connection

end GpioBroker
