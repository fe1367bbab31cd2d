import GpioBroker.CommandLine
import GpioBroker.Supervisor

/-!
# The daemon program

The daemon's command line, and what it reports before and after its run: which bindings it uses,
and the exit status that an outcome stands for.  A status is passed on as it is.  A fault of the
devices' monitor or of the layout is an error, a fault of the roster is critical, and any other
fault leaves the program.
-/

namespace GpioBroker

namespace Program

def version : Text := "0.1.0"

/-- The flags of the daemon. -/
inductive DaemonFlag where
  | debug
deriving DecidableEq, Repr, Inhabited

/-- The command line of the daemon. -/
def daemonGrammar : CommandLine.Grammar DaemonFlag where
  program := daemonName
  usage := "usage: gpio-dbus [-h] [-d] [--version]"
  help := "\ngpio-dbus v" ++ version ++ " - dbus daemon for libgpiod\n\n" ++
    "options:\n" ++
    "  -h, --help   show this help message and exit\n" ++
    "  -d, --debug  print additional debug messages\n" ++
    "  --version    show program's version number and exit\n"
  flags := [
    { names := ["-h", "--help"], effect := .showHelp },
    { names := ["-d", "--debug"], effect := .turnOn .debug },
    { names := ["--version"], effect := .showLine (daemonName ++ " " ++ version) }]
  hasWords := false

/-- How a program starts: it ends at once with a status and what it writes, or goes on. -/
inductive Start where
  | ended (status : Int) (output errors : Text)
  | running (debug : Bool)
deriving DecidableEq, Repr, Inhabited

/-- How the daemon starts with a command line. -/
def Start.ofCommandLine (argv : List Text) : Start :=
  match CommandLine.parse daemonGrammar argv with
  | .printed text => .ended 0 text ""
  | .refused reason => .ended 2 "" (CommandLine.refusal daemonGrammar reason)
  | .accepted flags _ => .running (flags.contains .debug)

variable {σ : Type}

/-- Reports that the program begins. -/
def begin : Act σ Unit := Act.log .info ("initiating " ++ daemonName)

/-- Ends a program whose bindings are not installed. -/
def withoutBindings : Act σ Value := do
  Act.log .error Fault.noBindings.message
  return .int 1

/-- Reports which bindings are used. -/
def reportBindings (b : Bindings) : Act σ Unit :=
  Act.log .debug ("using gpiod bindings " ++ b.versionReport)

/-- The words of an unrecoverable failure, with its account. -/
def unrecoverable (e : Failure) : Text := "unrecoverable internal error\n" ++ e.account

/-- The exit status that an outcome stands for, after it was reported. -/
def finish (outcome : Except Failure Value) : Act σ Value :=
  match outcome with
  | .ok status => do
    if status.wholeNumber? = some 0 then Act.log .info (daemonName ++ " exiting cleanly")
    return status
  | .error e =>
    if e.fault.kind = .setup then do
      Act.log .error e.fault.message
      return .int 1
    else if e.fault.isSystem then do
      Act.log .error ("error setting up the udev monitor: " ++ e.fault.message)
      return .int 1
    else if e.fault.kind = .roster then do
      Act.log .critical (unrecoverable e)
      return .int 1
    else throw e

end Program

end GpioBroker
