import GpioBroker.Program
import GpioBroker.Service

/-!
# Sessions

A session of the daemon's program: it starts, is stimulated step by step, and ends.  After each step
the session goes on until it has to wait, and what it did in the step is kept.  A session that still
runs after its last step is asked to terminate.
-/

namespace GpioBroker

/-- What was seen of a step of a session. -/
structure Step where
  /-- What the stimulus gave back; nothing for the first step. -/
  response : Option (Except Failure Response)
  /-- Whether the service was assembled. -/
  isAssembled : Bool
  /-- The service after the step, with the calls and records of the step. -/
  host : Host Service

/-- A session: what comes after the last step is on its host. -/
structure Session where
  host : Host Service
  steps : List Step := []
  outcome : Option Outcome := none

namespace Session

/-- A host on which nothing was called or logged yet. -/
def cleared (h : Host Service) : Host Service := { h with calls := [], records := [] }

/-- How a run stands after an action that lets it go on. -/
def outcomeOf : Except Failure (Option Outcome) → Option Outcome
  | .ok outcome => outcome
  | .error e => some (.error e)

/-- Starts the service, over a bus with a script, and sees its first step. -/
def start (script : BusScript) (h : Host Service) : Session :=
  match Service.assemble.run h with
  | (.error e, h) =>
    { host := cleared h
      steps := [{ response := none, isAssembled := false, host := h }]
      outcome := some (.error e) }
  | (.ok _, h) =>
    let (outcome, h) := (Service.start script).run h
    { host := cleared h
      steps := [{ response := none, isAssembled := true, host := h }]
      outcome := outcomeOf outcome }

/-- Lets a stimulus act on a session that runs, and sees the step. -/
def stimulate (s : Session) (stimulus : Stimulus) : Session :=
  match s.outcome with
  | some _ => s
  | none =>
    let (response, h) := (Service.stimulate stimulus).run s.host
    let (outcome, h) := Service.advance.run h
    { host := cleared h
      steps := s.steps ++ [{ response := some response, isAssembled := true, host := h }]
      outcome := outcomeOf outcome }

/-- Asks a session that still runs to terminate. -/
def terminate (s : Session) : Session :=
  match s.outcome with
  | some _ => s
  | none =>
    let (_, h) := (Service.stimulate (.signal (.int Signal.terminate))).run s.host
    let (outcome, h) := Service.advance.run h
    { s with host := h, outcome := outcomeOf outcome }

/-- A whole session: it starts, takes one stimulus after another, and ends. -/
def serve (script : BusScript) (stimuli : List Stimulus) (h : Host Service) : Session :=
  (stimuli.foldl stimulate (start script h)).terminate

end Session

/-- What a program has of serving: the host that is left, the steps that were seen, and a status or
a failure. -/
structure Served where
  host : Host Service
  steps : List Step := []
  outcome : Except Failure Value

/-- What a program has of a session.  One that did not end stands for success. -/
def Session.served (s : Session) : Served where
  host := s.host
  steps := s.steps
  outcome := (s.outcome.getD (.ok 0)).map .int

/-- How a program ended. -/
inductive Ending where
  /-- Its command line ended it. -/
  | exited (status : Int) (output errors : Text)
  /-- It ran, with a status or a failure, and wrote this to its errors after the last step. -/
  | ran (outcome : Except Failure Value) (errors : Text)

/-- What was seen of a program. -/
structure Report where
  /-- How the program logs. -/
  log : LogSetup := {}
  steps : List Step := []
  ending : Ending
  /-- The calls after the last step. -/
  calls : List Call := []

namespace Program

/-- The report of a program that ran. -/
def reportOf (log : LogSetup) (steps : List Step)
    (finished : Except Failure Value × Host Service) : Report where
  log
  steps
  ending := .ran finished.1 (log.written finished.2.records)
  calls := finished.2.calls

/-- The daemon's program around a way to serve.  It opens the devices of the device directory;
without bindings it does not serve. -/
def run (argv : List Text) (bindings : Option Bindings) (manager : DeviceManager)
    (serve : Host Service → Served) : Report :=
  match Start.ofCommandLine argv with
  | .ended status output errors => { ending := .exited status output errors }
  | .running debug =>
    let log := LogSetup.configured debug
    let bindings := bindings.map fun b => { b with directory := .text deviceDirectory }
    let h : Host Service := { state := Service.initial (bindings.getD {}) manager }
    let (_, h) := (begin : Act Service Unit).run h
    match bindings with
    | none => reportOf log [] (withoutBindings.run h)
    | some b =>
      let (_, h) := (reportBindings b : Act Service Unit).run h
      let served := serve h
      reportOf log served.steps ((finish served.outcome).run served.host)

end Program

end GpioBroker
