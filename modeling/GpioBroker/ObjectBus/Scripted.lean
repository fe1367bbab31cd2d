import GpioBroker.Conversion
import GpioBroker.ObjectBus

/-!
# Scripted buses

A bus that does as a script says: it hands out registrations in ascending order, accepts every path,
and fails where it was told to.
-/

namespace GpioBroker

/-- An object on a scripted bus. -/
structure ScriptedObject where
  registration : Int
  path : Text
  deviceId : Value
deriving DecidableEq, Repr, Inhabited

/-- A bus that follows a script. -/
structure ScriptedBus where
  objects : List ScriptedObject := []
  nextRegistration : Int := 1
  /-- The faults of registering at a path. -/
  registerFaults : List (Text × Fault) := []
  /-- The faults of unregistering, which come after the object is forgotten. -/
  unregisterFaults : List (Int × Fault) := []
  releaseFault : Option Fault := none
  /-- The events that the ownership of the name reports, all at once. -/
  script : List Event := []
deriving Inhabited

namespace ScriptedBus

def register (path : Text) (deviceId : Value) : Act ScriptedBus Int := do
  Act.note (.register path)
  let b ← Act.state
  Act.failing (b.registerFaults.lookup path)
  let registration := b.nextRegistration
  Act.update fun b => { b with
    objects := b.objects ++ [{ registration, path, deviceId }]
    nextRegistration := registration + 1 }
  return registration

/-- The object with the registration that a value equals. -/
def registered? (b : ScriptedBus) (registration : Value) : Option ScriptedObject :=
  registration.wholeNumber?.bind fun number =>
    b.objects.find? fun o => o.registration == number

def unregister (registration : Value) : Act ScriptedBus Unit := do
  Act.note (.unregister registration)
  discard (Act.ofExcept registration.toKey)
  let b ← Act.state
  match b.registered? registration with
  | none => Act.fail (.unknownRegistration registration)
  | some object =>
    Act.update fun b => { b with
      objects := b.objects.filter fun o => o.registration != object.registration }
    Act.failing (b.unregisterFaults.lookup object.registration)

def progress : Act ScriptedBus Unit := do
  let b ← Act.state
  Act.update fun b => { b with script := [] }
  b.script.forM Act.post

def release : Act ScriptedBus Unit := do
  Act.note .release
  let b ← Act.state
  Act.failing b.releaseFault

instance : ObjectBus ScriptedBus where
  register := register
  unregister := unregister
  progress := progress
  abandon := pure ()
  release := release

/-- The first object at a path. -/
def find? (b : ScriptedBus) (path : Text) : Option ScriptedObject :=
  b.objects.find? fun o => o.path == path

/-- A bus on which every registration of a range is in use. -/
def occupied (first : Int) (count : Nat) (unregisterFaults : List (Int × Fault)) : ScriptedBus :=
  { objects := (List.range count).map fun (i : Nat) =>
      { registration := first + (i : Int), path := "", deviceId := .null }
    unregisterFaults }

end ScriptedBus

end GpioBroker
