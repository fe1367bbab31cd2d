import GpioBroker.MessageBus.Interface
import GpioBroker.MessageBus.Ownership
import GpioBroker.Supervisor
import GpioBroker.UeventSource.Monitor

/-!
# The service

The broker as it runs: over its own connection to the bus and the monitor of the device manager.
The world stimulates it with uevents, signals, messages, the end of its connection, property reads
and changes of the devices; after each stimulus it goes on until it has to wait again.
-/

namespace GpioBroker

/-- The broker over a connection and a device monitor. -/
abbrev Service := Broker (Connection Value) MonitorSource

/-- What the world does to a running service. -/
inductive Stimulus where
  | uevents (devices : List ManagedDevice)
  | signal (number : Value)
  | message (m : Message)
  | hangup (fault : Option Fault)
  | read (path : Text) (property : Value)
  | putDevice (device : Device)
  | dropDevice (path : Text)
  | present (devices : List ManagedDevice)
  /-- Several stimuli at once, before the service goes on. -/
  | together (stimuli : List Stimulus)
deriving Inhabited

/-- What a stimulus gives back to the world. -/
inductive Response where
  | nothing
  | noObject
  | property (v : Value)
deriving Inhabited

namespace Service

/-- The service before its run. -/
def initial (bindings : Bindings) (manager : DeviceManager) : Service where
  bindings
  roster := { bus := {} }
  source := { manager }

/-- Reads a property of the object at a path of the newest bus. -/
def readObject (path : Text) (property : Value) : Act Service Response := do
  let s ← Act.state
  match s.roster.bus.newest?.bind fun b => b.find? path with
  | none => return .noObject
  | some object =>
    let reader := fun name => Broker.getProperty object.reader (.text name)
    .property <$> readProperty reader property

mutual

/-- Lets a stimulus act on the service.  Uevents and signals are only noticed when the service goes
on; several stimuli together give nothing back, and end with the first that fails. -/
def stimulate : Stimulus → Act Service Response
  | .uevents devices => do
    Broker.withinSource (MonitorSource.enqueue devices)
    return .nothing
  | .signal number => do
    discard (Act.ofExcept number.toKey)
    if Signal.isWatched number then Act.defer (.signal number)
    return .nothing
  | .message m => do
    Act.ofExcept m.check
    Broker.withinBus (Connection.deliver m)
    return .nothing
  | .hangup fault => do
    Broker.withinBus (Connection.hangUp fault)
    return .nothing
  | .read path property => readObject path property
  | .putDevice device => do
    Act.update fun s => { s with bindings := s.bindings.put device }
    return .nothing
  | .dropDevice path => do
    Act.update fun s => { s with bindings := s.bindings.drop path }
    return .nothing
  | .present devices => do
    Broker.withinSource (MonitorSource.replaceDevices devices)
    return .nothing
  | .together stimuli => do
    stimulateEach stimuli
    return .nothing

/-- Lets stimuli act on the service one after another. -/
def stimulateEach : List Stimulus → Act Service Unit
  | [] => pure ()
  | s :: rest => do
    discard (stimulate s)
    stimulateEach rest

end

/-- Connects the service to the device manager. -/
def assemble : Act Service Unit := Broker.withinSource MonitorSource.connect

/-- Starts the run of an assembled service, which owns its name over a bus with a script. -/
def start (script : BusScript) : Act Service (Option Outcome) := do
  Broker.withinBus (Connection.begin script)
  Supervisor.start

/-- Lets the run go on after stimuli. -/
def advance : Act Service (Option Outcome) := Supervisor.advance

end Service

end GpioBroker
