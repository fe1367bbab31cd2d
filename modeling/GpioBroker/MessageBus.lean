import GpioBroker.Act
import GpioBroker.MessageBus.Names

/-!
# Message buses

One connection to the message bus as the broker finds it: whether it is up, what is exported on it,
who listens to its messages, and where it fails.  A connection is hung up at most once, by the other
side or by disconnecting.
-/

namespace GpioBroker

/-- The answers of the bus to a request for a name. -/
inductive NameReply where
  | primaryOwner
  | inQueue
  | exists
  | alreadyOwner
deriving DecidableEq, Repr, Inhabited

namespace NameReply

def text : NameReply → Text
  | .primaryOwner => "PRIMARY_OWNER"
  | .inQueue => "IN_QUEUE"
  | .exists => "EXISTS"
  | .alreadyOwner => "ALREADY_OWNER"

/-- Whether the name is owned after the answer. -/
def isOwner : NameReply → Bool
  | .primaryOwner | .alreadyOwner => true
  | .inQueue | .exists => false

end NameReply

/-- What a message bus does when it is asked. -/
structure BusScript where
  createFault : Option Fault := none
  connectFault : Option Fault := none
  requestFault : Option Fault := none
  reply : NameReply := .primaryOwner
  releaseFault : Option Fault := none
  /-- The faults of exporting at a path, which may be any value. -/
  exportFaults : List (Value × Fault) := []
  unexportFaults : List (Text × Fault) := []
deriving Inhabited, Repr

/-- The fault of exporting at a path: the first one that is given for it. -/
def BusScript.exportFault? (s : BusScript) (path : Value) : Option Fault :=
  (s.exportFaults.find? fun e => e.1.isEqual path).map Prod.snd

/-- An object with the chip interface; its reader says whose properties it answers with. -/
structure ChipObject (ρ : Type) where
  serial : Nat
  reader : ρ
deriving Repr

/-- A connection to the message bus. -/
structure MessageBus (ρ : Type) where
  script : BusScript := {}
  isConnected : Bool := false
  /-- The exported objects by path, in the order of export. -/
  exported : List (Text × ChipObject ρ) := []
  /-- How often somebody asked to be told of messages. -/
  listeners : Nat := 0
  /-- Whether the connection was hung up, and the fault it was hung up with. -/
  hangup : Option (Option Fault) := none
  /-- How often the connection was disconnected from this side. -/
  disconnects : Nat := 0
deriving Inhabited

/-- The kinds of messages. -/
inductive MessageKind where
  | signal
  | methodCall
  | methodReturn
  | error
deriving DecidableEq, Repr, Inhabited

/-- A message as it comes from the bus; it may be malformed. -/
structure Message where
  kind : MessageKind := .signal
  sender : Value
  member : Value
  body : Value
deriving Inhabited

/-- Whether a value is a text. -/
def Value.isText (text : Text) : Value → Bool
  | .text t => t == text
  | _ => false

namespace Message

/-- The name of the bus itself. -/
def busDaemon : Text := "org.freedesktop.DBus"

/-- Whether a message of some kind has to say which member it is for. -/
def needsMember : MessageKind → Bool
  | .signal | .methodCall => true
  | .methodReturn | .error => false

/-- Refuses a malformed message: a member that is given has to be a member name. -/
def check (m : Message) : Except Fault Unit :=
  match m.member with
  | .null => if needsMember m.kind then .error (.missingField "member") else .ok ()
  | member => Names.check .memberName member

/-- Whether a message is the bus's word that a name was taken away. -/
def revokes (m : Message) (name : Text) : Except Fault Bool :=
  if m.kind == .signal && m.sender.isText busDaemon && m.member.isText "NameLost" then
    m.body.firstItem?.map fun first => first.any (·.isText name)
  else .ok false

end Message

namespace MessageBus

variable {ρ : Type}

/-- The first object at a path. -/
def find? (b : MessageBus ρ) (path : Text) : Option (ChipObject ρ) := b.exported.lookup path

/-- The paths of the exported objects in ascending order. -/
def paths (b : MessageBus ρ) : List Text :=
  Text.sorted (b.exported.map Prod.fst)

/-- Hangs the connection up; what comes after the first time changes nothing. -/
def hungUp (b : MessageBus ρ) (fault : Option Fault) : MessageBus ρ :=
  match b.hangup with
  | none => { b with isConnected := false, hangup := some fault }
  | some _ => { b with isConnected := false }

/-- Exports an object at a path. -/
def exportObject (path : Text) (object : ChipObject ρ) : Act (MessageBus ρ) Unit := do
  Act.note (.exportObject path)
  let b ← Act.state
  Act.failing (b.script.exportFault? (.text path))
  Act.ofExcept (Names.checkText .objectPath path)
  if (b.find? path).isSome then Act.fail .pathTaken
  Act.update fun b => { b with exported := b.exported ++ [(path, object)] }

/-- Refuses to export an object at a path that is no text. -/
def refusePath (path : Value) : Act (MessageBus ρ) Unit := do
  Act.note (.exportObject path.display)
  let b ← Act.state
  Act.failing (b.script.exportFault? path)
  Act.ofExcept (Names.check .objectPath path)

/-- Takes an object away from a path. -/
def unexportObject (path : Text) (object : ChipObject ρ) : Act (MessageBus ρ) Unit := do
  Act.note (.unexportObject path)
  let b ← Act.state
  Act.failing (b.script.unexportFaults.lookup path)
  Act.update fun b => { b with
    exported := b.exported.filter fun e => !(e.1 == path && e.2.serial == object.serial) }

/-- Gives a bus name back. -/
def releaseName (name : Text) : Act (MessageBus ρ) Unit := do
  Act.note (.releaseName name)
  let b ← Act.state
  Act.failing b.script.releaseFault

/-- Closes the connection. -/
def disconnect : Act (MessageBus ρ) Unit := do
  Act.note .disconnect
  Act.update fun b => { b.hungUp none with disconnects := b.disconnects + 1 }

end MessageBus

end GpioBroker
