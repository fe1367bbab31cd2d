import GpioBroker.MessageBus.Connection

/-!
# Owning a bus name

An attempt to own the name goes through a few steps, with a wait before each: it makes a bus and
connects, then requests the name, then owns it until the bus hangs up.  Every transition is reported
as an event, and an attempt that ends by itself ends with the report of a loss.  Between two steps
messages may be heard, the bus may hang up and the attempt may be cancelled.
-/

namespace GpioBroker

namespace Connection

variable {ρ : Type}

/-- Sets the phase of an attempt. -/
def setPhase (attempt : Nat) (phase : OwnershipPhase) : Act (Connection ρ) Unit :=
  Act.update fun c => { c with attempts := c.attempts.set attempt phase }

/-- Begins an attempt to own the name over a bus still to be made. -/
def begin (script : BusScript) : Act (Connection ρ) Unit :=
  Act.update fun c => { c with attempts := c.attempts ++ [.starting script] }

/-- Makes the bus of an attempt and starts to connect it. -/
def makeBus (attempt : Nat) (script : BusScript) : Act (Connection ρ) Unit := do
  match script.createFault with
  | some f =>
    postLoss .noConnection f.message
    setPhase attempt .ended
  | none =>
    let c ← Act.state
    Act.note (.createBus .system)
    Act.note .connect
    Act.update fun c => { c with
      buses := c.buses ++ [{ script, isConnected := script.connectFault.isNone }] }
    setPhase attempt (.connecting c.buses.length)

/-- Goes on when the connection was made or refused: links the bus and requests the name. -/
def afterConnect (attempt bus : Nat) (script : BusScript) : Act (Connection ρ) Unit := do
  match script.connectFault with
  | some f =>
    postLoss .noConnection f.message
    setPhase attempt .ended
  | none =>
    Act.update fun c => { c with link := some bus }
    Act.post .busAcquired
    Act.note .watchMessages
    Act.update fun c => c.changeBus bus fun b => { b with listeners := b.listeners + 1 }
    let c ← Act.state
    Act.note (.requestName c.name)
    setPhase attempt (.requesting bus)

/-- Goes on when the request for the name was answered: the name is owned or lost. -/
def afterRequest (attempt : Nat) (script : BusScript) : Act (Connection ρ) Unit := do
  match script.requestFault with
  | some f =>
    postLoss (if f.isBus then .nameRevoked else .connectionClosed) f.message
    setPhase attempt .ended
  | none =>
    if script.reply.isOwner then
      Act.update fun c => { c with isOwner := true }
      let c ← Act.state
      Act.post (.nameAcquired (.text c.name))
      match c.link with
      | some bus =>
        Act.note .waitForHangup
        setPhase attempt (.waiting bus)
      | none =>
        postLoss .connectionClosed Fault.noConnection.message
        setPhase attempt .ended
    else
      postLoss .nameRevoked ("request returned " ++ script.reply.text)
      setPhase attempt .ended

/-- Ends an attempt whose bus hung up. -/
def afterHangup (attempt : Nat) (fault : Option Fault) : Act (Connection ρ) Unit := do
  match fault with
  | some f => postLoss .connectionClosed f.message
  | none => postLoss .connectionClosed
  setPhase attempt .ended

/-- Lets an attempt take its next step, if what it waits for has come. -/
def resume (attempt : Nat) : Act (Connection ρ) Unit := do
  let c ← Act.state
  match c.attempts[attempt]? with
  | some (.starting script) => makeBus attempt script
  | some (.connecting bus) =>
    match c.bus? bus with
    | some b => afterConnect attempt bus b.script
    | none => pure ()
  | some (.requesting bus) =>
    match c.bus? bus with
    | some b => afterRequest attempt b.script
    | none => pure ()
  | some (.waiting bus) =>
    match (c.bus? bus).bind MessageBus.hangup with
    | some fault => afterHangup attempt fault
    | none => pure ()
  | _ => pure ()

/-- Lets an attempt go on until it has to wait for the bus to hang up. -/
def resumeFully (attempt : Nat) : Act (Connection ρ) Unit := do
  resume attempt
  resume attempt
  resume attempt
  resume attempt

/-- Lets every attempt go on as far as it can. -/
def progress : Act (Connection ρ) Unit := do
  let c ← Act.state
  (List.range c.attempts.length).forM resumeFully

/-- Cancels an attempt that goes on; it reports nothing more. -/
def cancel (attempt : Nat) : Act (Connection ρ) Unit := do
  let c ← Act.state
  match c.attempts[attempt]? with
  | some phase => if phase.isLive then setPhase attempt .cancelled
  | none => pure ()

/-- Cancels the attempt made last. -/
def abandon : Act (Connection ρ) Unit := do
  let c ← Act.state
  cancel (c.attempts.length - 1)

/-- Hangs the newest bus up from the other side. -/
def hangUp (fault : Option Fault) : Act (Connection ρ) Unit :=
  Act.update fun c => c.changeBus (c.buses.length - 1) fun b => b.hungUp fault

/-- Begins an attempt and lets it go on as far as it can. -/
def own (script : BusScript) : Act (Connection ρ) Unit := do
  begin script
  progress

/-- Hangs the newest bus up and lets the attempts that waited for it go on. -/
def lose (fault : Option Fault) : Act (Connection ρ) Unit := do
  hangUp fault
  progress

/-- Releases the name and lets the attempts that waited for the bus go on. -/
def leave : Act (Connection ρ) Unit := Act.ensure release progress

/-- Sets whether the newest bus is up, and nothing else. -/
def setLink (isConnected : Bool) : Act (Connection ρ) Unit :=
  Act.update fun c => c.changeBus (c.buses.length - 1) fun b => { b with isConnected }

/-- Delivers a message to everybody who listens to the newest bus. -/
def deliver (m : Message) : Act (Connection ρ) Unit := do
  let c ← Act.state
  let listeners := (c.newest?.map MessageBus.listeners).getD 0
  (List.replicate listeners m).forM hear

/-- The phase of the attempt made last. -/
def newestPhase? (c : Connection ρ) : Option OwnershipPhase := c.attempts.getLast?

end Connection

instance : ObjectBus (Connection Value) where
  register := Connection.register
  unregister := Connection.unregister
  progress := Connection.progress
  abandon := Connection.abandon
  release := Connection.release

end GpioBroker
