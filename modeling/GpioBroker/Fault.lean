import GpioBroker.Event
import GpioBroker.Log.Misfit
import GpioBroker.MessageBus.SignatureFlaw

/-!
# Faults

Everything that can go wrong, by its cause: refusals of the broker's own parts, values that cannot
be read, and faults of the devices, the bus and the device manager.  A fault has a kind, by which
handlers tell it from others, and a message.
-/

namespace GpioBroker

def NameSort.text : NameSort → Text
  | .busName => "bus name"
  | .objectPath => "object path"
  | .interfaceName => "interface name"
  | .memberName => "member name"

/-- A name that the bus does not accept, as text. -/
structure Misnomer where
  sort : NameSort
  text : Text
deriving DecidableEq, Repr, Inhabited

def Misnomer.message (m : Misnomer) : Text := "invalid " ++ m.sort.text ++ ": " ++ m.text

/-- A fault, by its cause. -/
inductive Fault where
  /-- A fault of a collaborator that gives its own words. -/
  | raised (kind : FaultKind) (text : Text)
  /-- A failed system call with its error number. -/
  | system (code : Value) (reason : Text) (file : Option Value)
  /-- An error of the bus with its error name. -/
  | bus (name : Text) (text : Text)
  | misnamed (name : Misnomer)
  /-- A message lacks a field that its kind has to have. -/
  | missingField (name : Text)
  | signature (cause : SignatureFlaw)
  /-- A path was exported on the bus already. -/
  | pathTaken
  | layout (cause : Misnomer)
  | notConnected (path : Text)
  | alreadyExported (path : Text)
  | exportRefused (path : Text) (cause : Text)
  | unknownRegistration (registration : Value)
  /-- A value that tables cannot be searched for was looked up. -/
  | notLookedUp (typeName : Text)
  /-- Values that have no order were to be sorted. -/
  | notOrdered (typeName other : Text)
  /-- A value that has no items was asked for one. -/
  | noItems (typeName : Text)
  /-- A map was asked for the item with a number, which is no name of a field. -/
  | noField (number : Nat)
  /-- There is no entry with a number. -/
  | noEntry
  /-- A value that is no integer was to be the number of an entry. -/
  | noPlace (typeName : Text)
  | placeTooBig
  /-- Something that lacks a part was asked for it. -/
  | noPart (typeName part : Text)
  /-- A value that is no text was to be the name of a part. -/
  | noPartName (typeName : Text)
  /-- A value that is no text was to be a part of a path. -/
  | noPathPart (typeName : Text)
  /-- A value that is no text was to be a directory. -/
  | noDirectory (typeName : Text)
  /-- An interface was asked about a chip that is gone. -/
  | chipGone
  | duplicateAdd (deviceId : Text)
  | alreadyRegistered (deviceId : Text)
  | notRegistered (deviceId : Text)
  | nameLost (loss : NameLoss)
  | unknownSignal (number : Value)
  /-- A value that is no integer was to be the level of a record. -/
  | noLevel
  /-- The chip bindings are not installed. -/
  | noBindings
  | unreadableInteger (text : Text)
  | tooManyDigits (count : Nat)
  | notNumeric (typeName : Text)
  | infinite
  | undefined
  /-- A value that is no integer was to be a count of characters. -/
  | noCount (typeName : Text)
  | countTooBig
  /-- A log template and its arguments do not fit. -/
  | template (cause : Misfit)
  /-- A chip could not be queried by the listing client. -/
  | queryFailed (deviceId : Text) (detail : Text)
deriving DecidableEq, Repr, Inhabited

namespace Fault

/-- The error numbers of system calls that would block. -/
def blockingCodes : List (Option Int) := [some 11, some 114, some 115]

/-- Whether a number fits the word that counts of characters have. -/
def isCount (n : Int) : Bool := -(Decimal.twoTo 63 : Int) ≤ n && n < Decimal.twoTo 63

/-- The fault of a path that names no device. -/
def noSuchFile : Fault := .system (.int 2) "No such file or directory" none

/-- A failed system call as it is reported.  One that would block has the count of characters that
it wrote in place of a file, so a number there is no part of the message, and has to be a count. -/
def ofSystem (code : Value) (reason : Text) (file : Option Value) : Fault :=
  if blockingCodes.contains code.integer? then
    match file, file.bind Value.integer? with
    | some (.float x), _ => .noCount (Value.typeName (.float x))
    | _, some n => if isCount n then .system code reason none else .countTooBig
    | file, none => .system code reason file
  else .system code reason file

/-- The bus connection went away between two steps of acquiring the name. -/
def noConnection : Fault := .noPart (Value.typeName .null) "wait_for_disconnect"

def kind : Fault → FaultKind
  | .raised k _ => k
  | .system .. => .system
  | .bus .. | .chipGone => .bus
  | .misnamed name => .misnomer name.sort
  | .missingField _ => .message
  | .signature cause => cause.kind
  | .pathTaken | .unreadableInteger _ | .tooManyDigits _ | .undefined | .unknownSignal _
  | .countTooBig => .value
  | .layout _ => .setup
  | .notConnected _ | .alreadyExported _ | .exportRefused .. => .registration
  | .unknownRegistration _ | .noField _ => .missingKey
  | .noEntry | .placeTooBig => .missingEntry
  | .noPart .. => .missingPart
  | .duplicateAdd _ | .alreadyRegistered _ | .notRegistered _ => .roster
  | .nameLost _ => .nameLost
  | .noBindings | .queryFailed .. => .runtime
  | .notNumeric _ | .notLookedUp _ | .notOrdered .. | .noItems _ | .noPartName _ | .noPathPart _
  | .noDirectory _ | .noPlace _ | .noLevel | .noCount _ => .type
  | .template cause => cause.kind
  | .infinite => .overflow

def message : Fault → Text
  | .raised _ text => text
  | .system code reason none => "[Errno " ++ code.display ++ "] " ++ reason
  | .system code reason (some file) =>
    "[Errno " ++ code.display ++ "] " ++ reason ++ ": " ++ file.quoted
  | .bus _ text => text
  | .misnamed name => name.message
  | .missingField name => "missing required field: " ++ name
  | .signature cause => cause.message
  | .pathTaken => "already exported"
  | .layout cause => "error setting up the bus interface: " ++ cause.message
  | .notConnected path => "cannot export " ++ path ++ ": not connected to the bus"
  | .alreadyExported path => "an object is already exported at " ++ path
  | .exportRefused path cause => "cannot export " ++ path ++ ": " ++ cause
  | .unknownRegistration registration => registration.quoted
  | .notLookedUp typeName => "unhashable type: '" ++ typeName ++ "'"
  | .notOrdered typeName other =>
    "'<' not supported between instances of '" ++ typeName ++ "' and '" ++ other ++ "'"
  | .noItems typeName => "'" ++ typeName ++ "' object is not subscriptable"
  | .noField number => toString number
  | .noEntry => "list index out of range"
  | .noPlace typeName => "list indices must be integers or slices, not " ++ typeName
  | .noPart typeName part => "'" ++ typeName ++ "' object has no attribute '" ++ part ++ "'"
  | .noPartName typeName => "attribute name must be string, not '" ++ typeName ++ "'"
  | .noPathPart typeName =>
    "join() argument must be str, bytes, or os.PathLike object, not '" ++ typeName ++ "'"
  | .noDirectory typeName => "expected str, bytes or os.PathLike object, not " ++ typeName
  | .chipGone => "chip is no longer available"
  | .duplicateAdd deviceId => "duplicate add for chip " ++ deviceId
  | .alreadyRegistered deviceId => "chip " ++ deviceId ++ " is already registered"
  | .notRegistered deviceId => "chip " ++ deviceId ++ " is not registered"
  | .nameLost loss => loss.message
  | .unknownSignal number => number.quoted ++ " is not a valid Signals"
  | .noLevel => "level must be an integer"
  | .noBindings => "gpiod is required for GPIO access (install python3-libgpiod)"
  | .unreadableInteger text =>
    "invalid literal for int() with base 10: " ++ text.quoted.take 200
  | .tooManyDigits count =>
    "Exceeds the limit (4300 digits) for integer string conversion: value has " ++
      toString count ++ " digits; use sys.set_int_max_str_digits() to increase the limit"
  | .notNumeric typeName =>
    "int() argument must be a string, a bytes-like object or a real number, not '" ++
      typeName ++ "'"
  | .infinite => "cannot convert float infinity to integer"
  | .undefined => "cannot convert float NaN to integer"
  | .noCount typeName => "'" ++ typeName ++ "' object cannot be interpreted as an integer"
  | .placeTooBig | .countTooBig => "cannot fit 'int' into an index-sized integer"
  | .template cause => cause.message
  | .queryFailed deviceId detail => deviceId ++ ": " ++ detail

/-- The error name that the bus gives a fault. -/
def busErrorName? : Fault → Option Text
  | .bus name _ => some name
  | .chipGone => some "org.freedesktop.DBus.Error.UnknownObject"
  | _ => none

/-- Whether a fault is a failed system call. -/
def isSystem (f : Fault) : Bool := f.kind == .system

/-- Whether a fault is an error reply of the bus. -/
def isBus (f : Fault) : Bool := f.kind == .bus

/-- Whether a fault says that an object could not be exported. -/
def isRegistration (f : Fault) : Bool := f.kind == .registration

/-- Whether a fault says that the bus does not take an object: a bad path or a bad value. -/
def refusesExport (f : Fault) : Bool :=
  f.kind == .misnomer .objectPath || f.kind.isValue

/-- Whether a fault is the loss of the bus name. -/
def isNameLoss (f : Fault) : Bool := f.kind == .nameLost

/-- Whether a fault is a runtime fault of any sort. -/
def isRuntime (f : Fault) : Bool :=
  f.kind == .runtime || f.kind == .registration || f.kind == .setup || f.kind == .nameLost

end Fault

end GpioBroker
