import GpioBroker.Fault

/-!
# Failures

An action fails with a fault, and that fault may have others behind it: one that was being dealt
with when it arose, or one on account of which it was raised.  A failure keeps them all, and its
account tells them from the first to the last.
-/

namespace GpioBroker

/-- How a fault comes after another one. -/
inductive Link where
  /-- It arose while the other was being dealt with. -/
  | during
  /-- It was raised on account of the other. -/
  | because
deriving DecidableEq, Repr, Inhabited

/-- A fault with the faults behind it, the latest first.  A link says how the fault in front of it
came after the fault beside it. -/
structure Failure where
  fault : Fault
  behind : List (Link × Fault) := []
deriving DecidableEq, Repr, Inhabited

namespace Failure

/-- A failure that came after another one. -/
def after (e : Failure) (link : Link) (earlier : Failure) : Failure :=
  { e with behind := e.behind ++ (link, earlier.fault) :: earlier.behind }

@[simp] theorem fault_after (e : Failure) (link : Link) (earlier : Failure) :
    (e.after link earlier).fault = e.fault := rfl

/-- A failure that came while an outcome was being dealt with. -/
def following {α : Type} (e : Failure) : Except Failure α → Failure
  | .ok _ => e
  | .error earlier => e.after .during earlier

@[simp] theorem fault_following {α : Type} (e : Failure) (r : Except Failure α) :
    (e.following r).fault = e.fault := by
  cases r <;> rfl

end Failure

/-! ### Accounts -/

/-- The titles of failed system calls whose error number has one of its own. -/
def systemTitles : List (Int × String) := [
  (1, "PermissionError"), (2, "FileNotFoundError"), (3, "ProcessLookupError"),
  (4, "InterruptedError"), (10, "ChildProcessError"), (11, "BlockingIOError"),
  (13, "PermissionError"), (17, "FileExistsError"), (20, "NotADirectoryError"),
  (21, "IsADirectoryError"), (32, "BrokenPipeError"), (103, "ConnectionAbortedError"),
  (104, "ConnectionResetError"), (108, "BrokenPipeError"), (110, "TimeoutError"),
  (111, "ConnectionRefusedError"), (114, "BlockingIOError"), (115, "BlockingIOError")]

/-- The title of a kind of fault in an account. -/
def FaultKind.title : FaultKind → Text
  | .system => "OSError"
  | .runtime => "RuntimeError"
  | .registration => "gpiod_dbus.bus.BusRegistrationError"
  | .setup => "gpiod_dbus.bus.BusSetupError"
  | .nameLost => "gpiod_dbus.manager.BusNameLost"
  | .value => "ValueError"
  | .credentials => "dbus_fast.errors.AuthError"
  | .type => "TypeError"
  | .misnomer .busName => "dbus_fast.errors.InvalidBusNameError"
  | .misnomer .objectPath => "dbus_fast.errors.InvalidObjectPathError"
  | .misnomer .interfaceName => "dbus_fast.errors.InvalidInterfaceNameError"
  | .misnomer .memberName => "dbus_fast.errors.InvalidMemberNameError"
  | .message => "dbus_fast.errors.InvalidMessageError"
  | .signature => "dbus_fast.errors.InvalidSignatureError"
  | .mismatch => "dbus_fast.errors.SignatureBodyMismatchError"
  | .endOfInput => "EOFError"
  | .assertion => "AssertionError"
  | .roster => "gpiod_dbus.registry.ChipRegistryError"
  | .bus => "dbus_fast.errors.DBusError"
  | .missingKey => "KeyError"
  | .missingEntry => "IndexError"
  | .missingPart => "AttributeError"
  | .overflow => "OverflowError"
  | .memory => "MemoryError"
  | .unspecific => "Exception"

/-- The title of a fault in an account.  Only an integer is an error number that has a title. -/
def Fault.title : Fault → Text
  | .system code _ _ =>
    match code.integer?.bind fun number => systemTitles.lookup number with
    | some title => .ofString title
    | none => FaultKind.system.title
  | f => f.kind.title

/-- A fault as it stands in an account: its title, and its message if there is one. -/
def Fault.account (f : Fault) : Text :=
  if f.message.isEmpty then f.title else f.title ++ ": " ++ f.message

/-- What stands in an account between a fault and the one that came after it. -/
def Link.text : Link → Text
  | .during => "During handling of the above exception, another exception occurred:"
  | .because => "The above exception was the direct cause of the following exception:"

/-- The account of a fault and the faults behind it. -/
def accountFrom (f : Fault) : List (Link × Fault) → Text
  | [] => f.account
  | (link, earlier) :: rest =>
    accountFrom earlier rest ++ "\n\n" ++ link.text ++ "\n\n" ++ f.account

/-- The account of a failure, from its first fault to its last. -/
def Failure.account (e : Failure) : Text := accountFrom e.fault e.behind

end GpioBroker
