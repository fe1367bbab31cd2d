import GpioBroker.Value.Display
import GpioBroker.Value.Key

/-!
# Process signals

The names of the signals and what the daemon does on each: it quits on an interrupt or a request to
terminate, and takes note of the others.  A signal is known by its number, which may be any value
that equals one.
-/

namespace GpioBroker

namespace Signal

def hangup : Int := 1
def interrupt : Int := 2
def terminate : Int := 15

/-- The signals that have names. -/
def names : List (Int × String) := [
  (1, "SIGHUP"), (2, "SIGINT"), (3, "SIGQUIT"), (4, "SIGILL"), (5, "SIGTRAP"), (6, "SIGABRT"),
  (7, "SIGBUS"), (8, "SIGFPE"), (9, "SIGKILL"), (10, "SIGUSR1"), (11, "SIGSEGV"), (12, "SIGUSR2"),
  (13, "SIGPIPE"), (14, "SIGALRM"), (15, "SIGTERM"), (16, "SIGSTKFLT"), (17, "SIGCHLD"),
  (18, "SIGCONT"), (19, "SIGSTOP"), (20, "SIGTSTP"), (21, "SIGTTIN"), (22, "SIGTTOU"),
  (23, "SIGURG"), (24, "SIGXCPU"), (25, "SIGXFSZ"), (26, "SIGVTALRM"), (27, "SIGPROF"),
  (28, "SIGWINCH"), (29, "SIGIO"), (30, "SIGPWR"), (31, "SIGSYS"), (34, "SIGRTMIN"),
  (64, "SIGRTMAX")]

/-- The name of a signal. -/
def name? (number : Value) : Option Text :=
  (number.wholeNumber?.bind fun n => names.lookup n).map .ofString

/-- Whether a signal ends the daemon. -/
def quits (number : Value) : Bool :=
  number.wholeNumber? == some terminate || number.wholeNumber? == some interrupt

/-- Whether the daemon listens for a signal at all. -/
def isWatched (number : Value) : Bool := quits number || number.wholeNumber? == some hangup

/-- The quoted form of a received signal. -/
def quoted (number : Value) : Text := "SignalReceived(signum=" ++ number.quoted ++ ")"

end Signal

end GpioBroker
