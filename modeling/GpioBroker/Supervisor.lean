import GpioBroker.Broker

/-!
# Supervision of a run

A run takes events from the queue, one by one, until a signal to quit, the loss of the name, or a
fault ends it.  It then stops listening for the name, destroys every exposed chip, releases the bus
and closes the uevent source; each of these is done even if an earlier one failed, and the last
fault is the outcome.
-/

namespace GpioBroker

/-- How a run ended: with an exit status or with a failure. -/
abbrev Outcome := Except Failure Int

/-- The name of the daemon in its log. -/
def daemonName : Text := "gpio-dbus"

namespace Supervisor

variable {β η : Type} [ObjectBus β] [UeventSource η]

/-- Notes a signal; gives the status if it ends the run. -/
def onSignal (number : Value) : Act (Broker β η) (Option Int) := do
  match Signal.name? number with
  | none => Act.fail (.unknownSignal number)
  | some name =>
    Act.log .debug (name ++ " received")
    return if Signal.quits number then some 0 else none

/-- Reacts to an event; gives the status if it ends the run. -/
def react (e : Event) : Act (Broker β η) (Option Int) :=
  match e with
  | .signal number => onSignal number
  | e =>
    Act.recover Fault.isNameLoss (do Broker.handle e; return none) fun f => do
      Act.log .error f.message
      return some 1

/-- Takes one event, if one waits; gives the status if it ends the run. -/
def takeEvent : Act (Broker β η) (Option Int) := do
  match ← Act.take? with
  | none => return none
  | some e => react e

/-- Takes a number of events, up to the one that ends the run. -/
def takeEvents : Nat → Act (Broker β η) (Option Int)
  | 0 => return none
  | count + 1 => do
    match ← takeEvent with
    | some status => return some status
    | none => takeEvents count

/-- Destroys every exposed chip, releases the bus and closes the uevent source. -/
def teardown : Act (Broker β η) Unit :=
  Act.ensure Broker.destroyAll
    (Act.ensure (Broker.withinBus ObjectBus.release) (Broker.withinSource UeventSource.close))

/-- Ends a run: what it was about to end with holds unless the teardown fails. -/
def conclude (outcome : Outcome) : Act (Broker β η) Int :=
  Act.ensure (Act.ofOutcome outcome) (do Broker.withinBus ObjectBus.abandon; teardown)

/-- Lets a run go on until it ends or has to wait.  First the ownership of the name goes on, then
the uevents that arrived are brought, then the deferred events; then the run takes what is there. -/
def advance : Act (Broker β η) (Option Outcome) := do
  Broker.withinBus ObjectBus.progress
  Broker.withinSource UeventSource.poll
  Act.deliver
  let count ← Act.waiting
  match ← Act.attempt (takeEvents count) with
  | .ok none => return none
  | .ok (some status) => some <$> Act.attempt (conclude (.ok status))
  | .error e => some <$> Act.attempt (conclude (.error e))

/-- Starts a run. -/
def start : Act (Broker β η) (Option Outcome) := do
  Act.log .info (daemonName ++ " started")
  advance

/-- A run over the events that are there: its status, or none if it still waits for events. -/
def run : Act (Broker β η) (Option Int) := do
  match ← start with
  | none => return none
  | some outcome => some <$> Act.ofOutcome outcome

end Supervisor

end GpioBroker
