import GpioBroker.Session

/-!
# The daemon's entry point

The daemon on a system without chip bindings: it reads its command line, reports that the bindings
are missing, and ends.
-/

def main (argv : List String) : IO UInt32 := do
  let report := GpioBroker.Program.run (argv.map .ofString) none {} fun host =>
    { host, outcome := .ok (.int 0) }
  match report.ending with
  | .exited status output errors =>
    (← IO.getStdout).putStr output.toString
    (← IO.getStderr).putStr errors.toString
    return UInt32.ofNat status.toNat
  | .ran outcome errors =>
    (← IO.getStderr).putStr errors.toString
    match outcome with
    | .ok (.int status) => return UInt32.ofNat status.toNat
    | _ => return 1
