import GpioBroker.Device.Bindings
import GpioBroker.MessageBus.Names
import GpioBroker.Roster
import GpioBroker.Signal
import GpioBroker.UeventSource

/-!
# The broker

The broker exposes chips on the bus.  It follows the ownership of its name and the uevents of chip
devices, keeps the roster of exposed chips in step with the devices that are there, and answers
property reads from the metadata of the time of opening.  A chip that cannot be opened or registered
is skipped with a warning; a chip that is added twice or removed while absent is a fault.
-/

namespace GpioBroker

/-- The broker: the bindings, the roster with its bus, the uevent source, and its name's state. -/
structure Broker (β η : Type) where
  bindings : Bindings
  roster : Roster β
  source : η
  ownership : Ownership := .unowned

namespace Broker

variable {β η α : Type}

def withinBindings (x : Act Bindings α) : Act (Broker β η) α :=
  Act.within Broker.bindings (fun b bindings => { b with bindings }) x

def withinRoster (x : Act (Roster β) α) : Act (Broker β η) α :=
  Act.within Broker.roster (fun b roster => { b with roster }) x

def withinBus (x : Act β α) : Act (Broker β η) α := withinRoster (Roster.withinBus x)

def withinSource (x : Act η α) : Act (Broker β η) α :=
  Act.within Broker.source (fun b source => { b with source }) x

/-- Sets the state of the name. -/
def setOwnership (ownership : Ownership) : Act (Broker β η) Unit :=
  Act.update fun b => { b with ownership }

/-- The value of a property of an exposed chip, both given by their keys. -/
def property? (b : Broker β η) (device property : Key) : Option Value := do
  let record ← b.roster.record? device
  let handle ← record.handle
  let property ← ChipProperty.ofKey? property
  return property.value handle.info

/-- Answers a property read. -/
def getProperty (deviceId name : Value) : Act (Broker β η) (Option Value) := do
  Act.log .debug ("property get - object: " ++ objectPath deviceId.display ++ ", property: " ++
    name.display)
  let b ← Act.state
  let device ← Act.ofExcept deviceId.toKey
  let property ← Act.ofExcept name.toKey
  return b.property? device property

/-- Opens a chip; a failed system call is only logged. -/
def openChip (deviceId : Value) : Act (Broker β η) (Option Handle) :=
  Act.recover Fault.isSystem (some <$> withinBindings (Bindings.openDevice deviceId)) fun f => do
    Act.log .warning ("error opening GPIO device " ++ deviceId.display ++ ": " ++ f.message)
    return none

variable [ObjectBus β]

/-- Registers the object of a record; if the bus refuses it, the record is destroyed. -/
def registerRecord (number : Nat) (record : Record) : Act (Broker β η) (Option Int) :=
  Act.recover Fault.isRegistration
    (some <$> withinBus (ObjectBus.register (objectPath record.deviceId.display) record.deviceId))
    fun f => do
      withinRoster (Roster.destroy number)
      Act.log .warning ("error registering a dbus object: " ++ f.message)
      return none

/-- Opens a chip and exposes it; gives the number of its record, or none if that failed. -/
def addChip (deviceId : Value) : Act (Broker β η) (Option Nat) := do
  let b ← Act.state
  let key ← Act.ofExcept deviceId.toKey
  if b.roster.contains key then Act.fail (.duplicateAdd deviceId.display)
  Act.log .debug ("creating a dbus object for " ++ deviceId.display)
  match ← openChip deviceId with
  | none => return none
  | some handle =>
    let record : Record := { deviceId, handle := some handle }
    let number ← withinRoster (Roster.keep record)
    match ← registerRecord number record with
    | none => return none
    | some registration =>
      withinRoster do
        Act.update fun r =>
          r.setRecord number { record with registration := some (.int registration) }
        Roster.insert number
      return some number

/-- Takes a chip off the bus. -/
def removeChip (deviceId : Value) : Act (Broker β η) Unit := do
  Act.log .debug ("removing a dbus object for " ++ deviceId.display)
  withinRoster (Roster.remove deviceId)

/-- Follows an action on a device; only character devices count. -/
def onUevent (e : Uevent) : Act (Broker β η) Unit := do
  if e.isChipDevice then
    Act.log .debug ("uevent: " ++ e.action.display ++ " action on " ++ e.deviceId.display ++
      " device")
    if e.action = .text "add" then discard (addChip e.deviceId)
    else if e.action = .text "remove" then removeChip e.deviceId
    else Act.log .warning ("unknown action for uevent: " ++ e.action.display)

/-- Adds the chip of a listed event, which has to be an action on a device. -/
def addEntry (e : Event) : Act (Broker β η) Unit := do
  match e with
  | .uevent e => if e.isChipDevice then discard (addChip e.deviceId)
  | e => Act.fail (.noPart e.typeName "is_chip_device")

/-- Adds the chips of a listing, and fails as the listing did. -/
def addListed (l : Listing) : Act (Broker β η) Unit := do
  l.events.forM addEntry
  Act.failing l.failure

/-- Destroys every exposed chip. -/
def destroyAll : Act (Broker β η) Unit := do
  let b ← Act.state
  let count := b.roster.entries.length
  if count != 0 then
    Act.log .debug ("destroying " ++ toString count ++ " chip object(s)")
  withinRoster Roster.clear

variable [UeventSource η]

/-- Follows the acquisition of the name: subscribes to uevents and adds the chips that are there. -/
def onNameAcquired (name : Value) : Act (Broker β η) Unit := do
  Act.log .debug ("DBus name acquired: '" ++ name.display ++ "'")
  setOwnership .acquired
  withinSource UeventSource.subscribe
  let listing ← withinSource UeventSource.enumerate
  addListed listing

/-- Applies one event.  The loss of the name is a fault. -/
def handle (e : Event) : Act (Broker β η) Unit := do
  match e with
  | .uevent e => onUevent e
  | .busAcquired =>
    Act.log .debug "DBus connection acquired"
    setOwnership .connected
  | .nameAcquired name => onNameAcquired name
  | .nameLost loss =>
    Act.log .debug ("DBus name lost: '" ++ loss.name.display ++ "'")
    setOwnership .lost
    Act.fail (.nameLost loss)
  | .signal number => Act.log .warning ("ignoring unexpected event " ++ Signal.quoted number)
  | .other v => Act.log .warning ("ignoring unexpected event " ++ v.quoted)

end Broker

end GpioBroker
