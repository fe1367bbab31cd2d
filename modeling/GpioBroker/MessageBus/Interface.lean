import GpioBroker.Device.Handle
import GpioBroker.MessageBus.Names

/-!
# The chip interface

The interface that a chip's object has on the bus: three properties that can only be read.  The
reader of the object is asked for a property; that it knows no value means that the chip is gone.
The object knows the name of its interface itself, and has nothing else.
-/

namespace GpioBroker

/-- A property of an interface. -/
structure PropertyMember where
  name : Text
  signature : Text
  access : Text
deriving DecidableEq, Repr

/-- What an interface offers. -/
structure InterfaceDescription where
  name : Text
  properties : List PropertyMember
  methods : List Text
  signals : List Text
deriving DecidableEq, Repr

/-- The interface of a chip. -/
def chipInterface : InterfaceDescription where
  name := Layout.chipInterface
  properties := ChipProperty.all.map fun p =>
    { name := p.text, signature := p.signature, access := "read" }
  methods := []
  signals := []

/-- What an object answers with when its reader gave a value or none. -/
def answerProperty : Option Value → Except Fault Value
  | none => .error .chipGone
  | some .null => .error .chipGone
  | some v => .ok v

/-- Who answers a read. -/
inductive ReadTarget where
  | reader (property : ChipProperty)
  /-- The object itself. -/
  | object (v : Value)
deriving Inhabited, Repr

/-- Who answers a read of what a value names. -/
def ReadTarget.ofName : Value → Except Fault ReadTarget
  | .text name =>
    match ChipProperty.ofText? name with
    | some property => .ok (.reader property)
    | none =>
      if name = "name" then .ok (.object (.text chipInterface.name))
      else .error (.noPart "ChipInterface" name)
  | v => .error (.noPartName v.typeName)

/-- Reads what a value names from an object with a reader. -/
def readProperty {σ : Type} (reader : Text → Act σ (Option Value)) (name : Value) :
    Act σ Value := do
  match ← Act.ofExcept (ReadTarget.ofName name) with
  | .object v => return v
  | .reader property =>
    let answer ← reader property.text
    Act.ofExcept (answerProperty answer)

end GpioBroker
