import GpioBroker.Device.Handle

/-!
# Chip bindings

The bindings that open chips: the devices that are there, the directory that device names are looked
up in, and the version they report.
-/

namespace GpioBroker

/-- An attribute that holds a value or has to be called for it. -/
inductive Attribute where
  | plain (v : Value)
  | callable (result : Value)
deriving Inhabited, Repr

/-- Whether an attribute counts as absent; one that has to be called never does. -/
def Attribute.isFalsy : Attribute → Bool
  | .plain v => v.isFalsy
  | .callable _ => false

/-- The value of an attribute. -/
def Attribute.value : Attribute → Value
  | .plain v => v
  | .callable result => result

/-- Joins a directory and a name.  A name from the root on stands for itself. -/
def joinPath (directory name : Text) : Text :=
  if name.startsWith "/" then name
  else if directory.isEmpty ∨ directory.endsWith "/" then directory ++ name
  else directory ++ "/" ++ name

/-- The directory that devices are in. -/
def deviceDirectory : Text := "/dev"

/-- The bindings, with the devices that can be opened through them. -/
structure Bindings where
  generation : Generation := .first
  /-- The version attribute, which is asked first. -/
  version : Option Attribute := none
  /-- The version attribute of older bindings. -/
  versionText : Option Attribute := none
  directory : Value := .text deviceDirectory
  devices : List Device := []
  /-- The serial number of the next opening. -/
  nextSerial : Nat := 0
deriving Inhabited, Repr

namespace Bindings

/-- The path of a device; only texts can be joined to one. -/
def pathOf (b : Bindings) (deviceId : Value) : Except Fault Text :=
  match b.directory, deviceId with
  | .text directory, .text name => .ok (joinPath directory name)
  | .text _, v => .error (.noPathPart v.typeName)
  | v, _ => .error (.noDirectory v.typeName)

/-- The device at a path. -/
def find? (b : Bindings) (path : Text) : Option Device := b.devices.find? fun d => d.path == path

/-- Puts a device at its path, in place of the one that was there. -/
def put (b : Bindings) (d : Device) : Bindings :=
  { b with devices := (b.devices.filter fun e => e.path != d.path) ++ [d] }

/-- Takes the device at a path away. -/
def drop (b : Bindings) (path : Text) : Bindings :=
  { b with devices := b.devices.filter fun e => e.path != path }

/-- The version that the bindings report. -/
def versionReport (b : Bindings) : Text :=
  let chosen :=
    match b.version with
    | some a => if a.isFalsy then b.versionText else some a
    | none => b.versionText
  match chosen with
  | none => "unknown"
  | some a => if a.value.isFalsy then "unknown" else a.value.display

/-- Opens the chip at a path. -/
def openPath (path : Text) : Act Bindings OpenChip := do
  Act.note (.openChip path)
  let b ← Act.state
  match b.find? path with
  | none => Act.fail .noSuchFile
  | some device =>
    Act.failing device.faults.opening
    Act.update fun b => { b with nextSerial := b.nextSerial + 1 }
    return { serial := b.nextSerial, device }

/-- Reads the metadata of a chip that was just opened; a failed system call closes it again. -/
def readOpened (chip : OpenChip) : Act Bindings ChipInfo := do
  let b ← Act.state
  Act.undo Fault.isSystem (chip.readInfo b.generation) (chip.call .close)

/-- Opens a chip by its device name and reads its metadata. -/
def openDevice (deviceId : Value) : Act Bindings Handle := do
  let b ← Act.state
  let path ← Act.ofExcept (b.pathOf deviceId)
  let chip ← openPath path
  let info ← readOpened chip
  Act.log .debug ("opened " ++ deviceId.display ++ ": name=" ++ info.name.display ++ " label=" ++
    info.label.display ++ " lines=" ++ info.numLines.display)
  return { deviceId, chip := some chip, info }

end Bindings

/-- Handles that were made over one set of bindings, by number. -/
structure Workbench where
  bindings : Bindings
  handles : List Handle := []
deriving Inhabited

namespace Workbench

def withinBindings {α : Type} (x : Act Bindings α) : Act Workbench α :=
  Act.within Workbench.bindings (fun w bindings => { w with bindings }) x

/-- Opens a chip and keeps its handle. -/
def openDevice (deviceId : Value) : Act Workbench Handle := do
  let handle ← withinBindings (Bindings.openDevice deviceId)
  Act.update fun w => { w with handles := w.handles ++ [handle] }
  return handle

/-- Keeps a handle made from given metadata and, perhaps, a device that counts as opened. -/
def wrap (deviceId : Value) (info : ChipInfo) (device : Option Device) : Act Workbench Handle := do
  let w ← Act.state
  let chip := device.map fun device => { serial := w.bindings.nextSerial, device }
  let handle : Handle := { deviceId, chip, info }
  Act.update fun w =>
    { bindings := { w.bindings with nextSerial := w.bindings.nextSerial + 1 }
      handles := w.handles ++ [handle] }
  return handle

/-- Closes the handle with a number. -/
def close (number : Nat) : Act Workbench Unit := do
  let w ← Act.state
  match w.handles[number]? with
  | none => Act.fail .noEntry
  | some handle =>
    Act.update fun w => { w with handles := w.handles.set number handle.closed }
    handle.closeChip

end Workbench

end GpioBroker
