import GpioBroker.Act

/-!
# Uevent sources

What the broker needs of the device manager: to be told of actions on devices, and to list the
devices that are there.
-/

namespace GpioBroker

/-- What a listing gave, and the fault that it ended with, if any. -/
structure Listing where
  events : List Event
  failure : Option Fault := none
deriving Inhabited

/-- All of a listing, or the fault that it ended with. -/
def Listing.complete (l : Listing) : Except Fault (List Event) :=
  match l.failure with
  | none => .ok l.events
  | some f => .error f

/-- A source of uevents. -/
class UeventSource (η : Type) where
  /-- Asks to be told of actions on devices. -/
  subscribe : Act η Unit
  /-- Lists the devices that are there, each as an event that adds it. -/
  enumerate : Act η Listing
  /-- Brings the uevents that arrived since the last time, if they are watched for. -/
  poll : Act η Unit
  /-- Stops being told of actions. -/
  close : Act η Unit

end GpioBroker
