import GpioBroker.UeventSource

/-!
# Device monitors

The uevent source of the device manager.  Subscribing opens a monitor for one subsystem and watches
it; uevents wait until the monitor is drained, which happens at once while it is watched.  Closing
gives the monitor up before it stops watching it, so that a monitor whose descriptor cannot be had
stays watched.
-/

namespace GpioBroker

/-- A device as the device manager describes it. -/
structure ManagedDevice where
  name : Value
  node : Option Value := none
  action : Value := .null
deriving Inhabited

/-- The action on a device; one that is given replaces the device's own. -/
def ManagedDevice.uevent (d : ManagedDevice) (action : Option Value := none) : Uevent where
  action := action.getD (.text d.action.display)
  deviceId := .text d.name.display
  deviceFile := d.node

/-- The device manager: the devices that are there, the uevents that nobody took, and its faults. -/
structure DeviceManager where
  devices : List ManagedDevice := []
  pending : List ManagedDevice := []
  contextFault : Option Fault := none
  monitorFault : Option Fault := none
  filterFault : Option Fault := none
  startFault : Option Fault := none
  /-- The fault of asking a monitor for its descriptor to watch it. -/
  watchFault : Option Fault := none
  /-- The fault of asking a monitor for its descriptor to stop watching it. -/
  unwatchFault : Option Fault := none
  listFault : Option Fault := none
  /-- The faults of the next polls, in turn; the polls after them do not fail. -/
  pollFaults : List (Option Fault) := []
deriving Inhabited

/-- The uevent source of the device manager. -/
structure MonitorSource where
  manager : DeviceManager := {}
  subsystem : Text := "gpio"
  /-- The monitor that is subscribed to. -/
  monitor : Option Nat := none
  /-- The monitors whose arrivals are watched. -/
  watched : List Nat := []
  /-- How many monitors were opened. -/
  monitors : Nat := 0
deriving Inhabited

namespace MonitorSource

/-- Whether a monitor is subscribed to. -/
def isSubscribed (s : MonitorSource) : Bool := s.monitor.isSome

/-- Connects to the device manager. -/
def connect : Act MonitorSource Unit := do
  Act.note .openDeviceManager
  let s ← Act.state
  Act.failing s.manager.contextFault

/-- Opens a monitor, unless one is subscribed to, and watches it from then on. -/
def subscribe : Act MonitorSource Unit := do
  let s ← Act.state
  if !s.isSubscribed then
    Act.note .openMonitor
    Act.failing s.manager.monitorFault
    Act.note (.filterMonitor s.subsystem)
    Act.failing s.manager.filterFault
    Act.note .startMonitor
    Act.failing s.manager.startFault
    Act.failing s.manager.watchFault
    Act.update fun s => { s with
      watched := s.monitors :: s.watched
      monitor := some s.monitors
      monitors := s.monitors + 1 }
    Act.log .debug ("subscribed to " ++ s.subsystem ++ " uevents")

/-- Lists the devices that are there. -/
def enumerate : Act MonitorSource Listing := do
  let s ← Act.state
  Act.note (.listDevices s.subsystem)
  return {
    events := s.manager.devices.map fun d => .uevent (d.uevent (some (.text "add")))
    failure := s.manager.listFault }

/-- Polls the monitor.  A poll that fails takes nothing, and else these are left. -/
def takeFirst (left : List ManagedDevice) : Act MonitorSource Unit := do
  let s ← Act.state
  Act.update fun s => { s with manager := { s.manager with
    pollFaults := s.manager.pollFaults.tail } }
  Act.failing s.manager.pollFaults.head?.join
  Act.update fun s => { s with manager := { s.manager with pending := left } }

/-- Polls for each of the uevents that wait and puts it into the queue, until a poll finds none. -/
def drainEach : List ManagedDevice → Act MonitorSource Unit
  | [] => takeFirst []
  | d :: rest => do
    takeFirst rest
    Act.post (.uevent d.uevent)
    drainEach rest

/-- Puts the uevents that wait into the queue, if a monitor is subscribed to. -/
def drain : Act MonitorSource Unit := do
  let s ← Act.state
  if s.isSubscribed then drainEach s.manager.pending

/-- Adds uevents to those that wait. -/
def enqueue (devices : List ManagedDevice) : Act MonitorSource Unit :=
  Act.update fun s => { s with manager := { s.manager with
    pending := s.manager.pending ++ devices } }

/-- Drains the uevents that wait while a monitor is watched.  A poll that fails ends the drain, and
is left to the loop that watches. -/
def poll : Act MonitorSource Unit := do
  let s ← Act.state
  if !s.watched.isEmpty then discard (Act.attempt drain)

/-- Brings uevents, which are drained at once while a monitor is watched. -/
def arrive (devices : List ManagedDevice) : Act MonitorSource Unit := do
  enqueue devices
  poll

/-- Replaces the devices that are there. -/
def replaceDevices (devices : List ManagedDevice) : Act MonitorSource Unit :=
  Act.update fun s => { s with manager := { s.manager with devices } }

/-- Gives the monitor up and stops watching it, for which it has to be asked for its descriptor. -/
def close : Act MonitorSource Unit := do
  let s ← Act.state
  match s.monitor with
  | none => pure ()
  | some m =>
    Act.update fun s => { s with monitor := none }
    Act.failing s.manager.unwatchFault
    Act.update fun s => { s with watched := s.watched.erase m }

instance : UeventSource MonitorSource where
  subscribe := subscribe
  enumerate := enumerate
  poll := poll
  close := close

end MonitorSource

end GpioBroker
