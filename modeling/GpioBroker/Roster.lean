import GpioBroker.Device.Handle
import GpioBroker.ObjectBus
import GpioBroker.Value.Order

/-!
# Rosters of exposed chips

Which chips are exposed on a bus.  A record says what an exposed chip holds: a handle and a
registration.  The roster names one record for each exposed device, in the order in which they were
entered; records keep their numbers after they leave it.  A device is known by the key of its name,
so a value that has no key names none.  A record is emptied before its parts are given up, so that
each part is given up at most once, and both are tried even if the first fails.
-/

namespace GpioBroker

/-- What an exposed chip holds. -/
structure Record where
  deviceId : Value
  handle : Option Handle
  registration : Option Value := none
deriving Inhabited, Repr

/-- The record after its parts were given up. -/
def Record.emptied (r : Record) : Record := { r with handle := none, registration := none }

/-- The chips exposed on a bus. -/
structure Roster (β : Type) where
  bus : β
  /-- All records ever made, by number. -/
  records : List Record := []
  /-- The keys of the exposed devices and the numbers of their records, in the order of entry. -/
  entries : List (Key × Nat) := []

namespace Roster

variable {β : Type}

/-- The number of the record of the exposed device with a key. -/
def find? (r : Roster β) (key : Key) : Option Nat := r.entries.lookup key

/-- The record of the exposed device with a key. -/
def record? (r : Roster β) (key : Key) : Option Record :=
  (r.find? key).bind fun number => r.records[number]?

/-- Whether the device with a key is exposed. -/
def contains (r : Roster β) (key : Key) : Bool := (r.find? key).isSome

/-- The number of the record of an exposed device. -/
def lookup (r : Roster β) (deviceId : Value) : Except Fault (Option Nat) :=
  deviceId.toKey.map r.find?

/-- The keys of the exposed devices in the order of entry. -/
def keys (r : Roster β) : List Key := r.entries.map Prod.fst

/-- The exposed devices in the order of entry. -/
def devices (r : Roster β) : List Value :=
  r.entries.filterMap fun e => r.records[e.2]?.map Record.deviceId

/-- The exposed devices in ascending order. -/
def ids (r : Roster β) : Except Fault (List Value) := Value.sorted r.devices

/-- Takes the entry of a device away. -/
def erase (r : Roster β) (key : Key) : Roster β :=
  { r with entries := r.entries.filter fun e => e.1 != key }

/-- Replaces the record with a number. -/
def setRecord (r : Roster β) (number : Nat) (record : Record) : Roster β :=
  { r with records := r.records.set number record }

def withinBus {α : Type} (x : Act β α) : Act (Roster β) α :=
  Act.within Roster.bus (fun r bus => { r with bus }) x

/-- Keeps a new record and gives its number. -/
def keep (record : Record) : Act (Roster β) Nat := do
  let r ← Act.state
  Act.update fun r => { r with records := r.records ++ [record] }
  return r.records.length

/-- Enters a record under its device, which must not be exposed already. -/
def insert (number : Nat) : Act (Roster β) Unit := do
  let r ← Act.state
  match r.records[number]? with
  | none => Act.fail .noEntry
  | some record =>
    let key ← Act.ofExcept record.deviceId.toKey
    if r.contains key then Act.fail (.alreadyRegistered record.deviceId.display)
    else Act.update fun r => { r with entries := r.entries ++ [(key, number)] }

/-- Closes the handle that a record held. -/
def closeHandle (handle : Option Handle) : Act (Roster β) Unit :=
  match handle with
  | none => pure ()
  | some h => h.closeChip

variable [ObjectBus β]

/-- Unregisters the object that a record held. -/
def unregister (registration : Option Value) : Act (Roster β) Unit :=
  match registration with
  | none => pure ()
  | some id => withinBus (ObjectBus.unregister id)

/-- Gives up the parts of a record: closes its handle, then unregisters its object. -/
def destroy (number : Nat) : Act (Roster β) Unit := do
  let r ← Act.state
  match r.records[number]? with
  | none => Act.fail .noEntry
  | some record =>
    Act.update fun r => r.setRecord number record.emptied
    Act.ensure (closeHandle record.handle) (unregister record.registration)

/-- Destroys the record of the exposed device with a key and takes its entry away. -/
def removeEntry (key : Key) (number : Nat) : Act (Roster β) Unit :=
  Act.ensure (destroy number) (Act.update fun r => r.erase key)

/-- Removes an exposed device. -/
def remove (deviceId : Value) : Act (Roster β) Unit := do
  let r ← Act.state
  let key ← Act.ofExcept deviceId.toKey
  match r.find? key with
  | none => Act.fail (.notRegistered deviceId.display)
  | some number => removeEntry key number

/-- Removes every exposed device in the order of entry, up to the first that fails. -/
def clear : Act (Roster β) Unit := do
  let r ← Act.state
  r.entries.forM fun e => removeEntry e.1 e.2

end Roster

end GpioBroker
