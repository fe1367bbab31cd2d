import GpioBroker.Conversion

/-!
# Names on the bus

Which texts are bus names, object paths, interface names and member names.  A name is split into
elements at its separator, and each element is a run of characters of a class, where a line feed may
follow the run.  The layout of the broker is its bus name, the root of its object paths and its
interface; it is checked before the broker connects.
-/

namespace GpioBroker

namespace Names

/-- The elements of a text between separators; there is always one. -/
def elements (separator : CodePoint) : List CodePoint → List (List CodePoint)
  | [] => [[]]
  | c :: cs =>
    if c = separator then [] :: elements separator cs
    else
      match elements separator cs with
      | [] => [[c]]
      | e :: es => (c :: e) :: es

/-- A text without one line feed at its end. -/
def withoutFinalNewline (cs : List CodePoint) : List CodePoint :=
  if cs.getLast? = some (.char '\n') then cs.dropLast else cs

/-- Whether an element has a first character of one class and further ones of another. -/
def isRun (first further : Char → Bool) (cs : List CodePoint) : Bool :=
  match withoutFinalNewline cs with
  | [] => false
  | c :: rest => c.isIn first && rest.all (·.isIn further)

/-- The characters that an element of an object path has. -/
def isPathChar (c : Char) : Bool := c.isAlphanum || c == '_'

/-- The characters that an element of a bus name starts with. -/
def isBusNameStart (c : Char) : Bool := c.isAlpha || c == '_' || c == '-'

/-- The characters that an element of a bus name goes on with. -/
def isBusNameChar (c : Char) : Bool := c.isAlphanum || c == '_' || c == '-'

/-- The characters that an element of an interface name starts with. -/
def isInterfaceStart (c : Char) : Bool := c.isAlpha || c == '_'

/-- The characters that a member name goes on with. -/
def isMemberChar (c : Char) : Bool := c.isAlphanum || c == '_' || c == '-'

/-- The most characters of a bus name, an interface name or a member name. -/
def lengthLimit : Nat := 255

/-- Whether a text is a list of at least two elements between points, each of them a run. -/
def isDotted (first further : Char → Bool) (cs : List CodePoint) : Bool :=
  !cs.isEmpty && cs.length ≤ lengthLimit && cs.head? != some (.char '.') && cs.contains '.' &&
    (elements '.' cs).all (isRun first further)

/-- Whether a text is a bus name.  One that starts with a colon was given out by the bus. -/
def isBusName (t : Text) : Bool :=
  match t.toList with
  | .char ':' :: rest => rest.length < lengthLimit
  | cs => isDotted isBusNameStart isBusNameChar cs

/-- Whether a text is an object path: a slash, and elements between slashes unless it is alone. -/
def isObjectPath (t : Text) : Bool :=
  match t.toList with
  | [.char '/'] => true
  | .char '/' :: rest => (elements '/' rest).all (isRun isPathChar isPathChar)
  | _ => false

/-- Whether a text is an interface name. -/
def isInterfaceName (t : Text) : Bool :=
  isDotted isInterfaceStart isPathChar t.toList

/-- Whether a text is a member name, which has a single element. -/
def isMemberName (t : Text) : Bool :=
  t.length ≤ lengthLimit && isRun isInterfaceStart isMemberChar t.toList

/-- Whether a text is a name of a sort. -/
def accepts : NameSort → Text → Bool
  | .busName => isBusName
  | .objectPath => isObjectPath
  | .interfaceName => isInterfaceName
  | .memberName => isMemberName

/-- Refuses a text that is no name of a sort. -/
def checkText (sort : NameSort) (t : Text) : Except Fault Unit :=
  if accepts sort t then .ok () else .error (.misnamed ⟨sort, t⟩)

/-- Refuses a value that is no name of a sort.  Names are looked up among those that were accepted
before, which a value without a key cannot be. -/
def check (sort : NameSort) : Value → Except Fault Unit
  | .text t => checkText sort t
  | v => v.toKey.bind fun _ => .error (.misnamed ⟨sort, v.display⟩)

@[simp] theorem check_text (sort : NameSort) (t : Text) :
    check sort (.text t) = checkText sort t := rfl

end Names

namespace Layout

/-- The bus name that the broker owns. -/
def busName : Text := "org.gpiod"

/-- The root of the object paths of chips. -/
def rootPath : Text := "/org/gpiod"

/-- The interface that a chip's object has. -/
def chipInterface : Text := "org.gpiod.Chip"

end Layout

/-- The names that the broker uses on the bus, as they were configured. -/
structure Layout where
  name : Value := .text Layout.busName
  root : Value := .text Layout.rootPath
  interface : Value := .text Layout.chipInterface

namespace Layout

/-- Checks the names of a layout: its bus name, its root and its interface in this order. -/
def checkNames (l : Layout) : Except Fault Unit := do
  Names.check .busName l.name
  Names.check .objectPath l.root
  Names.check .interfaceName l.interface

/-- Refuses a layout with a misnomer. -/
def check (l : Layout) : Except Fault Unit :=
  l.checkNames.mapError fun f =>
    match f with
    | .misnamed m => .layout m
    | f => f

end Layout

/-- The object path of a device. -/
def objectPath (deviceId : Text) : Text := Layout.rootPath ++ "/" ++ deviceId

/-- An error reply of the bus.  Its error name has to be an interface name, so a bad one is the
fault instead. -/
def Fault.ofBus (name : Value) (text : Text) : Fault :=
  match Names.check .interfaceName name with
  | .ok _ => .bus name.display text
  | .error f => f

end GpioBroker
