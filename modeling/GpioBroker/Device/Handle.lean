import GpioBroker.Device
import GpioBroker.Value.Key

/-!
# Chip handles

A handle on a chip: the metadata from the time of its opening and, until it is closed, the open
chip.  Closing gives the open chip up first, so that a failed close is not tried again.
-/

namespace GpioBroker

/-- A handle on a chip. -/
structure Handle where
  deviceId : Value
  chip : Option OpenChip
  info : ChipInfo
deriving Inhabited, Repr

namespace Handle

variable {σ : Type}

/-- Whether the open chip was given up. -/
def isClosed (h : Handle) : Bool := h.chip.isNone

/-- The handle after it was closed. -/
def closed (h : Handle) : Handle := { h with chip := none }

/-- Closes the open chip, if there still is one.  A failed system call is only logged. -/
def closeChip (h : Handle) : Act σ Unit :=
  match h.chip with
  | none => pure ()
  | some chip =>
    Act.recover Fault.isSystem (chip.call .close) fun f =>
      Act.log .warning ("error closing GPIO device " ++ h.deviceId.display ++ ": " ++ f.message)

/-- Closing does not change the state of the component that closes. -/
@[simp] theorem state_run_closeChip (x : Handle) (h : Host σ) :
    (x.closeChip.run h).2.state = h.state := by
  unfold closeChip
  split
  · rfl
  · rename_i chip _
    have kept := chip.state_run_call .close h
    rw [Act.run_recover]
    split
    · rename_i heq
      rw [heq] at kept
      exact kept
    · rename_i heq
      rw [heq] at kept
      split <;> simpa using kept

end Handle

/-- The properties of a chip that can be read on the bus. -/
inductive ChipProperty where
  | name
  | label
  | numLines
deriving DecidableEq, Repr, Inhabited

namespace ChipProperty

def all : List ChipProperty := [.label, .name, .numLines]

def text : ChipProperty → Text
  | .name => "Name"
  | .label => "Label"
  | .numLines => "NumLines"

/-- The type of a property, as the bus writes it. -/
def signature : ChipProperty → Text
  | .name => "s"
  | .label => "s"
  | .numLines => "u"

/-- The property with a name. -/
def ofText? (name : Text) : Option ChipProperty := all.find? fun p => p.text == name

/-- The property whose name a key is. -/
def ofKey? : Key → Option ChipProperty
  | .text t => ofText? t
  | _ => none

/-- The value of a property of a chip. -/
def value (p : ChipProperty) (info : ChipInfo) : Value :=
  match p with
  | .name => info.name
  | .label => info.label
  | .numLines => info.numLines

end ChipProperty

end GpioBroker
