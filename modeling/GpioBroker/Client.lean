import GpioBroker.CommandLine
import GpioBroker.MessageBus
import GpioBroker.MessageBus.Signature
import GpioBroker.Value.Json
import GpioBroker.Value.Order

/-!
# The listing client

The client that lists the chips exposed on a bus.  It asks for the chips it was told, in that order,
or for all of them in ascending order, and prints their properties as a JSON document.  The first
error reply ends it; once connected, it disconnects however it ends.
-/

namespace GpioBroker

namespace Client

/-- A property value as a reply carries it: wrapped with its signature, or plain. -/
inductive Carried where
  | wrapped (signature : Value) (v : Value)
  | plain (v : Value)
deriving Inhabited

/-- The value inside, which has to fit its signature. -/
def Carried.value : Carried → Except Fault Value
  | .wrapped signature v => (checkVariant signature v).map fun _ => v
  | .plain v => .ok v

/-- The reply to a request for all properties. -/
inductive Reply where
  /-- The body holds maps of properties, whose names may be any values. -/
  | properties (body : List (List (Value × Carried)))
  | error (name body : Value)
  /-- The call itself fails. -/
  | fault (f : Fault)
deriving Inhabited

/-- A bus that chips are listed from. -/
structure Directory where
  connectFault : Option Fault := none
  introspectFault : Option Fault := none
  /-- The names below the root. -/
  nodes : List Value := []
  /-- The replies of the objects by path. -/
  replies : List (Text × Reply) := []
  /-- The replies after one query, after two, and so on, as long as they change. -/
  laterReplies : List (List (Text × Reply)) := []
deriving Inhabited

/-- Properties by name. -/
abbrev Properties := List (Value × Value)

/-- Sets a property; names that are equal are the same. -/
def setProperty (fields : Properties) (name v : Value) : Properties :=
  setField (fun k name => k.key? == name.key?) fields name v

/-- The properties of a map.  A name that cannot be looked up is no name of a property. -/
def propertiesOf (props : List (Value × Carried)) : Except Fault Properties :=
  props.foldlM (fun fields p => do
    let v ← p.2.value
    discard p.1.toKey
    return setProperty fields p.1 v) []

/-- The properties of a reply: those of the first map. -/
def unpack (body : List (List (Value × Carried))) : Except Fault Properties := do
  let maps ← body.mapM propertiesOf
  return maps.head?.getD []

/-- The reply of the object at a path. -/
def Directory.reply (d : Directory) (path : Text) : Reply :=
  (d.replies.lookup path).getD
    (.error (.text "org.freedesktop.DBus.Error.UnknownObject")
      (.list [.text "no such object"]))

/-- The bus after one query. -/
def Directory.onward (d : Directory) : Directory :=
  match d.laterReplies with
  | [] => d
  | replies :: later => { d with replies, laterReplies := later }

/-- Refuses a malformed error reply: its name has to be an interface name. -/
def checkErrorName : Value → Except Fault Unit
  | .null => .error (.missingField "error_name")
  | name => Names.check .interfaceName name

/-- What an error reply says: the first item of its body, or else its name. -/
def errorDetail (name body : Value) : Except Fault Text :=
  body.firstItem?.map fun first => (first.getD name).display

/-- The call for all properties of a chip. -/
def query (path : Text) : Call :=
  .getAll Layout.busName path "org.freedesktop.DBus.Properties" "s" [Layout.chipInterface]

/-- What is printed of a chip: its name under the key `chip`, and its properties, one of which may
take the place of the name. -/
def chipDocument (deviceId : Value) (properties : Properties) : Value :=
  let fields := properties.foldl (fun fields p => setProperty fields p.1 p.2)
    [(.text "chip", deviceId)]
  .map (fields.map fun p => (p.1.jsonName, p.2))

/-- Asks for the properties of one chip. -/
def getChip (deviceId : Value) : Act Directory Value := do
  let path := objectPath deviceId.display
  Act.ofExcept (Names.checkText .objectPath path)
  Act.note (query path)
  let d ← Act.state
  Act.update Directory.onward
  match d.reply path with
  | .fault f => Act.fail f
  | .error name body =>
    Act.ofExcept (checkErrorName name)
    let detail ← Act.ofExcept (errorDetail name body)
    Act.fail (.queryFailed deviceId.display detail)
  | .properties body =>
    let properties ← Act.ofExcept (unpack body)
    return chipDocument deviceId properties

/-- The names below the root in ascending order. -/
def findChips : Act Directory (List Value) := do
  Act.note (.introspect Layout.busName Layout.rootPath)
  let d ← Act.state
  Act.failing d.introspectFault
  Act.ofExcept (Value.sorted d.nodes)

/-- Asks for the properties of some chips, or of all if none is given. -/
def queryChips (only : List Text) : Act Directory (List Value) := do
  let names ← if only.isEmpty then findChips else pure (only.map .text)
  names.mapM getChip

/-- Connects, asks for the properties of chips, and disconnects. -/
def listChips (bus : BusKind) (only : List Text) : Act Directory (List Value) := do
  Act.note (.createBus bus)
  Act.note .connect
  let d ← Act.state
  Act.failing d.connectFault
  Act.ensure (queryChips only) (Act.note .disconnect)

/-- The flags of the client. -/
inductive ClientFlag where
  | session
deriving DecidableEq, Repr, Inhabited

/-- The command line of the client. -/
def clientGrammar : CommandLine.Grammar ClientFlag where
  program := "gpiodbus-list"
  usage := "usage: gpiodbus-list [-h] [--session] [chips ...]"
  help := "\nList GPIO chips exposed on the bus by gpio-dbus\n\n" ++
    "positional arguments:\n" ++
    "  chips       Only show these chips (e.g. gpiochip0)\n\n" ++
    "options:\n" ++
    "  -h, --help  show this help message and exit\n" ++
    "  --session   Query the session bus instead of the system bus\n"
  flags := [
    { names := ["-h", "--help"], effect := .showHelp },
    { names := ["--session"], effect := .turnOn .session }]
  hasWords := true

/-- How the client starts: it ends at once with a status and what it writes, or goes on. -/
inductive Start where
  | ended (status : Int) (output errors : Text)
  | running (bus : BusKind) (chips : List Text)
deriving Repr, Inhabited

/-- How the client starts with a command line. -/
def Start.ofCommandLine (argv : List Text) : Start :=
  match CommandLine.parse clientGrammar argv with
  | .printed text => .ended 0 text ""
  | .refused reason => .ended 2 "" (CommandLine.refusal clientGrammar reason)
  | .accepted flags chips => .running (if flags.contains .session then .session else .system) chips

/-- Whether the client reports a fault in its document instead of failing with it. -/
def isReported (f : Fault) : Bool := f.isBus || f.isSystem || f.isRuntime

/-- The document that the client prints for an outcome. -/
def document (outcome : Except Failure (List Value)) : Value :=
  match outcome with
  | .ok chips => .map [("ok", .bool true), ("chips", .list chips)]
  | .error e => .map [("ok", .bool false), ("error", .text e.fault.message)]

/-- How the client ends: whether it succeeded and what it printed, or a fault that leaves it. -/
def report (bus : BusKind) (chips : List Text) : Act Directory (Bool × Text) := do
  match ← Act.attempt (listChips bus chips) with
  | .ok found => return (true, (document (.ok found)).json ++ "\n")
  | .error e =>
    if isReported e.fault then return (false, (document (.error e)).json ++ "\n") else throw e

end Client

end GpioBroker
