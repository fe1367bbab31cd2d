import GpioBroker.Value.Display

/-!
# Events

What the daemon's loop is told: transitions of the ownership of its bus name, actions on devices,
process signals, and anything else that was put into its queue.
-/

namespace GpioBroker

/-- How far the broker has come in owning its name on the bus. -/
inductive Ownership where
  | unowned
  | connected
  | acquired
  | lost
deriving DecidableEq, Repr, Inhabited

/-- Why a bus name is not owned. -/
inductive LossReason where
  | noConnection
  | connectionClosed
  | nameRevoked
deriving DecidableEq, Repr, Inhabited

/-- The loss of a bus name; a detail that counts as absent says nothing more about it. -/
structure NameLoss where
  name : Value
  reason : LossReason
  detail : Value := .text ""
deriving DecidableEq, Repr, Inhabited

namespace NameLoss

/-- What was lost, in words. -/
def summary (loss : NameLoss) : Text :=
  match loss.reason with
  | .noConnection => "unable to make connection to the bus"
  | .connectionClosed => "connection to the bus closed, dying..."
  | .nameRevoked => "name '" ++ loss.name.display ++ "' lost on the bus, dying..."

/-- The summary, followed by the detail in parentheses when there is one. -/
def message (loss : NameLoss) : Text :=
  if loss.detail.isFalsy then loss.summary
  else loss.summary ++ " (" ++ loss.detail.display ++ ")"

end NameLoss

/-- An action on a device.  Every action on a chip comes twice: once for the character device, which
has a device file, and once for its older twin, which has none. -/
structure Uevent where
  action : Value
  deviceId : Value
  deviceFile : Option Value := none
deriving DecidableEq, Repr, Inhabited

/-- Whether the device is a chip's character device. -/
def Uevent.isChipDevice (e : Uevent) : Bool := e.deviceFile.isSome

/-- An event of the daemon's queue. -/
inductive Event where
  | busAcquired
  | nameAcquired (name : Value)
  | nameLost (loss : NameLoss)
  | uevent (e : Uevent)
  | signal (number : Value)
  | other (v : Value)
deriving Inhabited, Repr

/-- The name of the type of an event, as messages give it. -/
def Event.typeName : Event → Text
  | .busAcquired => "BusAcquired"
  | .nameAcquired _ => "NameAcquired"
  | .nameLost _ => "NameLost"
  | .uevent _ => "HotplugEvent"
  | .signal _ => "SignalReceived"
  | .other v => v.typeName

end GpioBroker
