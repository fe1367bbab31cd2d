import GpioBroker.Act
import GpioBroker.Conversion

/-!
# Chip devices

A chip device as the bindings see it: a path, the metadata it answers, and the calls that fail.  An
open chip keeps the device as it was when it was opened, so later changes do not reach it.
-/

namespace GpioBroker

/-- Which calls of a device fail, and how. -/
structure DeviceFaults where
  opening : Option Fault := none
  getInfo : Option Fault := none
  name : Option Fault := none
  label : Option Fault := none
  numLines : Option Fault := none
  close : Option Fault := none
deriving Inhabited, Repr

/-- A chip device. -/
structure Device where
  path : Text
  name : Value := .null
  label : Value := .null
  numLines : Value := .null
  faults : DeviceFaults := {}
deriving Inhabited, Repr

/-- The fault of a call to the open chip. -/
def Device.fault? (d : Device) : ChipCall → Option Fault
  | .getInfo => d.faults.getInfo
  | .name => d.faults.name
  | .label => d.faults.label
  | .numLines => d.faults.numLines
  | .close => d.faults.close

/-- An open chip: the serial number of its opening and the device as it was then. -/
structure OpenChip where
  serial : Nat
  device : Device
deriving Inhabited, Repr

namespace OpenChip

variable {σ : Type}

/-- Calls an open chip.  The call is noted before it fails. -/
def call (chip : OpenChip) (c : ChipCall) : Act σ Unit := do
  Act.note (.chip chip.serial chip.device.path c)
  Act.failing (chip.device.fault? c)

/-- A call does not change the state of the component that makes it. -/
@[simp] theorem state_run_call (chip : OpenChip) (c : ChipCall) (h : Host σ) :
    ((chip.call c).run h).2.state = h.state := by
  simp only [call, Act.run_bind, Act.run_note]
  cases chip.device.fault? c <;> simp

end OpenChip

/-- The metadata of a chip, read once when it is opened. -/
structure ChipInfo where
  name : Value
  label : Value
  numLines : Value
deriving DecidableEq, Repr, Inhabited

/-- The metadata of a device: its name and its label as texts and its count of lines as an integer,
which may not be readable. -/
def Device.info? (d : Device) : Except Fault ChipInfo :=
  d.numLines.toInteger.map fun count =>
    { name := .text d.name.display, label := .text d.label.display, numLines := .int count }

/-- The bindings come in two generations, which differ in how metadata are read. -/
inductive Generation where
  /-- One call for each item. -/
  | first
  /-- One call for everything. -/
  | second
deriving DecidableEq, Repr, Inhabited

namespace OpenChip

variable {σ : Type}

/-- Reads the metadata of an open chip. -/
def readInfo (chip : OpenChip) : Generation → Act σ ChipInfo
  | .first => do
    chip.call .name
    chip.call .label
    chip.call .numLines
    Act.ofExcept chip.device.info?
  | .second => do
    chip.call .getInfo
    Act.ofExcept chip.device.info?

end OpenChip

end GpioBroker
