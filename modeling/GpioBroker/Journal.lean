import GpioBroker.Fault

/-!
# Calls and log records

What the broker does to the outside world, as data: the calls it makes to chips, to the bus and to
the device manager, and the records it logs.  A log takes the records from some level on and writes
them one after another.
-/

namespace GpioBroker

/-- A call to an open chip. -/
inductive ChipCall where
  | getInfo
  | name
  | label
  | numLines
  | close
deriving DecidableEq, Repr, Inhabited

def ChipCall.text : ChipCall → Text
  | .getInfo => "get_info"
  | .name => "name"
  | .label => "label"
  | .numLines => "num_lines"
  | .close => "close"

/-- Which of the two message buses is meant. -/
inductive BusKind where
  | system
  | session
deriving DecidableEq, Repr, Inhabited

def BusKind.text : BusKind → Text
  | .system => "SYSTEM"
  | .session => "SESSION"

/-- A call to a collaborator. -/
inductive Call where
  /-- Opens the chip at a path. -/
  | openChip (path : Text)
  /-- Calls the open chip with a serial number. -/
  | chip (serial : Nat) (path : Text) (call : ChipCall)
  | createBus (kind : BusKind)
  | connect
  | watchMessages
  | requestName (name : Text)
  | waitForHangup
  | exportObject (path : Text)
  | unexportObject (path : Text)
  | releaseName (name : Text)
  | disconnect
  | introspect (name path : Text)
  /-- Asks an object for all properties of an interface. -/
  | getAll (destination path interface signature : Text) (body : List Text)
  | openDeviceManager
  | listDevices (subsystem : Text)
  | openMonitor
  | filterMonitor (subsystem : Text)
  | startMonitor
  | register (path : Text)
  | unregister (registration : Value)
  | release
  | subscribe
  | enumerate
  | closeHotplug
deriving DecidableEq, Repr, Inhabited

def Call.text : Call → Text
  | .openChip path => "Chip(" ++ path ++ ")"
  | .chip _ path call => call.text ++ "(" ++ path ++ ")"
  | .createBus kind => "MessageBus(" ++ kind.text ++ ")"
  | .connect => "connect"
  | .watchMessages => "add_message_handler"
  | .requestName name => "request_name(" ++ name ++ ",DO_NOT_QUEUE)"
  | .waitForHangup => "wait_for_disconnect"
  | .exportObject path => "export(" ++ path ++ ")"
  | .unexportObject path => "unexport(" ++ path ++ ")"
  | .releaseName name => "release_name(" ++ name ++ ")"
  | .disconnect => "disconnect"
  | .introspect name path => "introspect(" ++ name ++ "," ++ path ++ ")"
  | .getAll destination path interface signature body =>
    "GetAll(" ++ Text.intercalate "," ([destination, path, interface, signature] ++ body) ++ ")"
  | .openDeviceManager => "Context()"
  | .listDevices subsystem => "list_devices(" ++ subsystem ++ ")"
  | .openMonitor => "from_netlink"
  | .filterMonitor subsystem => "filter_by(" ++ subsystem ++ ")"
  | .startMonitor => "start"
  | .register path => "register(" ++ path ++ ")"
  | .unregister registration => "unregister(" ++ registration.display ++ ")"
  | .release => "release"
  | .subscribe => "subscribe"
  | .enumerate => "enumerate"
  | .closeHotplug => "hotplug_close"

/-- The levels of the broker's own log records; any other number is a level too. -/
inductive Level where
  | debug
  | info
  | warning
  | error
  | critical
deriving DecidableEq, Repr, Inhabited

def Level.number : Level → Int
  | .debug => 10
  | .info => 20
  | .warning => 30
  | .error => 40
  | .critical => 50

/-- A log record: a numbered level and a text, which may have several lines. -/
structure LogRecord where
  level : Int
  text : Text
deriving DecidableEq, Repr, Inhabited

namespace LogRecord

/-- A record whose level is given by a value, which has to be an integer. -/
def ofLevel (level : Value) (text : Text) : Except Fault LogRecord :=
  match level.integer? with
  | some number => .ok { level := number, text }
  | none => .error .noLevel

/-- The priority that the system log gives to a level: 5 for levels without a name. -/
def priority (level : Int) : Nat :=
  if level = Level.critical.number then 0
  else if level = Level.error.number then 3
  else if level = Level.warning.number then 4
  else if level = Level.info.number then 6
  else if level = Level.debug.number then 7
  else 5

/-- The written form of a record: its priority in angle brackets, then its text. -/
def line (r : LogRecord) : Text := "<" ++ toString (priority r.level) ++ ">" ++ r.text

/-- What a log of a lowest level writes of some records, each with a line feed. -/
def written (lowest : Int) (records : List LogRecord) : Text :=
  Text.join ((records.filter fun r => lowest ≤ r.level).map fun r => r.line ++ "\n")

end LogRecord

/-- How a log is set up.  Before it is configured it takes every record and writes none. -/
structure LogSetup where
  /-- The lowest level that it takes. -/
  lowest : Level := .debug
  isWritten : Bool := false
deriving DecidableEq, Repr, Inhabited

namespace LogSetup

/-- The set-up of a log that writes, with or without what only helps to find mistakes. -/
def configured (debug : Bool) : LogSetup :=
  { lowest := if debug then .debug else .info, isWritten := true }

/-- The set-up of a log that was configured several times: the last time counts. -/
def ofConfigurations (debug : List Bool) : LogSetup := (debug.getLast?.map configured).getD {}

/-- What a log writes of some records. -/
def written (s : LogSetup) (records : List LogRecord) : Text :=
  if s.isWritten then LogRecord.written s.lowest.number records else ""

end LogSetup

end GpioBroker
