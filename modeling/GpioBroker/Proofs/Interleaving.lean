import GpioBroker.Proofs.Accounts

/-!
# Interleavings of a run

A run of the service takes one event after another.  Before each of them, and while it waits for the
bus to release the name, the world, the attempt to own the name, the uevents and the signals go on
in any order.  At any time the chips that are open are those that the records hold, and nothing that
the run took is left when it has ended.
-/

namespace GpioBroker

open Act

mutual

/-- The devices that a stimulus puts at their paths. -/
def Stimulus.newDevices : Stimulus → List Device
  | .putDevice d => [d]
  | .together ss => newDevicesOf ss
  | _ => []

def Stimulus.newDevicesOf : List Stimulus → List Device
  | [] => []
  | s :: ss => s.newDevices ++ newDevicesOf ss

end

/-- The devices that a stimulus puts are tame. -/
def Stimulus.IsTame (s : Stimulus) : Prop := ∀ d ∈ s.newDevices, d.IsTame

namespace Run

/-- How far a run has come. -/
inductive Phase where
  | running
  /-- Every chip is destroyed, and the bus is asked to release the name. -/
  | releasing (outcome : Outcome) (destroyed : Except Failure Unit) (request : Connection.Request)
  | ended (outcome : Outcome)

/-- What a run ended with. -/
def Phase.outcome? : Phase → Option Outcome
  | .ended outcome => some outcome
  | _ => none

theorem Phase.eq_ended {phase : Phase} {outcome : Outcome} (ended : phase.outcome? = some outcome) :
    phase = .ended outcome := by
  cases phase with
  | running => cases ended
  | releasing => cases ended
  | ended =>
    cases ended
    rfl

/-- What may happen next, whatever happened before. -/
inductive Move where
  | stimulate (s : Stimulus)
  /-- An attempt to own the name goes on. -/
  | resume (attempt : Nat)
  /-- The uevents that arrived are brought. -/
  | poll
  /-- The deferred events are brought. -/
  | deliver
  /-- Any event is brought. -/
  | post (e : Event)
  /-- The run takes an event. -/
  | take
  /-- The bus has answered, and the run ends. -/
  | finish

end Run

/-- A run: the host of its service, and how far it has come. -/
structure Run where
  host : Host Service
  phase : Run.Phase := .running

namespace Run

/-- The run stops for an outcome, up to where it waits for the bus. -/
def stop (outcome : Outcome) : Act Service Phase := do
  Broker.withinBus Connection.abandon
  let destroyed ← Act.attempt Broker.destroyAll
  let request ← Broker.withinBus Connection.beginRelease
  return .releasing outcome destroyed request

/-- The run ends, from where it waited for the bus. -/
def finish (outcome : Outcome) (destroyed : Except Failure Unit) (request : Connection.Request) :
    Act Service Phase := do
  let released ← Act.attempt (Broker.withinBus (Connection.finishRelease request))
  let closed ← Act.attempt (Broker.withinSource UeventSource.close)
  return .ended (settled outcome (settled destroyed (settled released closed)))

/-- The run takes an event, which may make it stop. -/
def take : Act Service Phase := do
  match ← Act.attempt Supervisor.takeEvent with
  | .ok none => return .running
  | .ok (some status) => stop (.ok status)
  | .error e => stop (.error e)

/-- The run goes on. -/
def goOn (run : Run) (x : Act Service Phase) : Run :=
  match x.run run.host with
  | (.ok phase, h) => ⟨h, phase⟩
  | (.error e, h) => ⟨h, .ended (.error e)⟩

/-- Something goes on beside the run. -/
def beside {α : Type} (run : Run) (x : Act Service α) : Run :=
  { run with host := (x.run run.host).2 }

/-- The run after a move.  The run only takes events until it stops, and only ends once. -/
def step (run : Run) : Move → Run
  | .stimulate s => run.beside (Service.stimulate s)
  | .resume attempt => run.beside (Broker.withinBus (Connection.resume attempt))
  | .poll => run.beside (Broker.withinSource MonitorSource.poll)
  | .deliver => run.beside Act.deliver
  | .post e => run.beside (Act.post e)
  | .take =>
    match run.phase with
    | .running => run.goOn take
    | _ => run
  | .finish =>
    match run.phase with
    | .releasing outcome destroyed request => run.goOn (finish outcome destroyed request)
    | _ => run

/-- The run after some moves. -/
def after (run : Run) (moves : List Move) : Run := moves.foldl step run

/-- A run that begins, with an attempt to own the name over a bus with a script. -/
def begin (bindings : Bindings) (manager : DeviceManager) (script : BusScript) : Run where
  host := ((do
    Broker.withinBus (Connection.begin script)
    Act.log .info (daemonName ++ " started") : Act Service Unit).run
      { state := Service.initial bindings manager }).2

/-- The devices that a move puts are tame. -/
def Move.IsTame : Move → Prop
  | .stimulate s => s.IsTame
  | _ => True

/-! ### Beside the run -/

theorem keeps_readObject {I : Host Service → Prop}
    (log : ∀ level text, (Act.log level text).Keeps I) (path : Text) (property : Value) :
    (Service.readObject path property).Keeps I := by
  refine keeps_state.bind fun b => ?_
  split
  · exact keeps_pure _
  · refine Keeps.map ((keeps_ofExcept _).bind fun target => ?_)
    split
    · exact keeps_pure _
    · exact (Broker.keeps_getProperty log _ _).bind fun _ => keeps_ofExcept _

section Standing

variable {first : Nat} {custody : Custody} {xs : List Exposure} {watch : Watch}

mutual

theorem keeps_stimulate (s : Stimulus) (tame : s.IsTame) :
    (Service.stimulate s).Keeps (Standing first custody xs watch) := by
  cases s with
  | uevents devices =>
    unfold Service.stimulate
    exact (Standing.keeps_withinSource fun _ => MonitorSource.keeps_enqueue devices).bind fun _ =>
      keeps_pure _
  | signal number =>
    unfold Service.stimulate
    refine (keeps_ofExcept _).discard.bind fun _ => Keeps.ite ?_ (keeps_pure _)
    exact (keeps_defer Standing.isLoose _).bind fun _ => keeps_pure _
  | message m =>
    unfold Service.stimulate
    refine (keeps_ofExcept _).bind fun _ => Keeps.bind ?_ fun _ => keeps_pure _
    exact Standing.keeps_withinBus (fun _ => Connection.keeps_deliver m) fun _ =>
      Connection.keeps_outline_deliver _ m
  | hangup fault =>
    unfold Service.stimulate
    refine Keeps.bind ?_ fun _ => keeps_pure _
    exact Standing.keeps_withinBus (fun _ => Connection.keeps_hangUp fault) fun _ =>
      Connection.keeps_outline_hangUp _ fault
  | read path property =>
    unfold Service.stimulate
    exact keeps_readObject (keeps_log Standing.isLoose) path property
  | putDevice device =>
    unfold Service.stimulate
    refine Keeps.bind (Standing.keeps_setDevices (f := fun b => b.put device) (fun b old d hd => ?_)
      fun _ => rfl) fun _ => keeps_pure _
    rcases List.mem_append.1 hd with kept | new
    · exact old d (List.mem_filter.1 kept).1
    · exact tame d new
  | dropDevice path =>
    unfold Service.stimulate
    refine Keeps.bind (Standing.keeps_setDevices (f := fun b => b.drop path) (fun b old d hd => ?_)
      fun _ => rfl) fun _ => keeps_pure _
    exact old d (List.mem_filter.1 hd).1
  | present devices =>
    unfold Service.stimulate
    refine Keeps.bind ?_ fun _ => keeps_pure _
    exact Standing.keeps_withinSource fun _ => MonitorSource.keeps_replaceDevices devices
  | together stimuli =>
    unfold Service.stimulate
    exact (keeps_stimulateEach stimuli tame).bind fun _ => keeps_pure _

theorem keeps_stimulateEach (stimuli : List Stimulus)
    (tame : ∀ d ∈ Stimulus.newDevicesOf stimuli, d.IsTame) :
    (Service.stimulateEach stimuli).Keeps (Standing first custody xs watch) := by
  cases stimuli with
  | nil =>
    unfold Service.stimulateEach
    exact keeps_pure ()
  | cons s rest =>
    unfold Service.stimulateEach
    refine (keeps_stimulate s fun d hd => ?_).discard.bind fun _ =>
      keeps_stimulateEach rest fun d hd => ?_
    · exact tame d (List.mem_append_left _ hd)
    · exact tame d (List.mem_append_right _ hd)

end

end Standing

/-! ### Sound runs -/

/-- How far a run has come fits what is there: it watches what it subscribed to until it ends, once
it stops, no chip is exposed, and once it has ended, its bus is disconnected and its source is
closed. -/
def Phase.Fits (fault : Option Fault) (custody : Custody) (xs : List Exposure) (watch : Watch) :
    Phase → Prop
  | .running => (∀ count, custody ≠ .released count) ∧ watch.IsOpen fault
  | .releasing _ _ request => xs = [] ∧ Connection.Asked request custody ∧ watch.IsOpen fault
  | .ended _ => xs = [] ∧ (custody = .absent ∨ custody = .released 1) ∧ watch.IsClosed fault

/-- The accounts of a run are in order. -/
def IsSound (first : Nat) (fault : Option Fault) (custody : Custody) (run : Run) : Prop :=
  ∃ xs watch, Standing first custody xs watch run.host ∧ run.phase.Fits fault custody xs watch

variable {first : Nat} {fault : Option Fault} {custody : Custody} {run : Run}

/-- What becomes of a bus that may still come fits the phase that the run is in. -/
theorem Phase.Fits.leads {phase : Phase} {xs : List Exposure} {watch : Watch} {custody' : Custody}
    (fits : phase.Fits fault custody xs watch) (leads : custody.Leads custody') :
    phase.Fits fault custody' xs watch := by
  cases leads with
  | same => exact fits
  | absent =>
    cases phase with
    | running => exact ⟨nofun, fits.2⟩
    | releasing outcome destroyed request => cases fits.2.1
    | ended outcome => simp [Phase.Fits] at fits
  | held =>
    cases phase with
    | running => exact ⟨nofun, fits.2⟩
    | releasing outcome destroyed request => cases fits.2.1
    | ended outcome => simp [Phase.Fits] at fits

theorem isSound_beside {α : Type} {x : Act Service α}
    (keeps : ∀ xs watch, x.Keeps (Standing first custody xs watch))
    (sound : run.IsSound first fault custody) :
    (run.beside x).IsSound first fault custody := by
  obtain ⟨xs, watch, standing, fits⟩ := sound
  exact ⟨xs, watch, keeps xs watch run.host standing, fits⟩

theorem isSound_resume (sound : run.IsSound first fault custody) (attempt : Nat) :
    ∃ custody', (run.beside (Broker.withinBus (Connection.resume attempt))).IsSound first
      fault custody' ∧
      custody.Leads custody' := by
  obtain ⟨xs, watch, ⟨accounted, same⟩, fits⟩ := sound
  have resumed := accounted.ends_withinBus (P := fun _ _ c => custody.Leads c)
    (fun _ => Connection.keeps_resume attempt) (Connection.ends_resume accounted.stage attempt)
  obtain ⟨custody', accounted', source, leads⟩ := resumed
  refine ⟨custody', ⟨xs, watch, ⟨accounted', ?_⟩, fits.leads leads⟩, leads⟩
  rw [← same, ← source]
  rfl

/-- A run that stops destroys every chip, and gives up its bus. -/
theorem ends_stop {h : Host Service} {xs : List Exposure} (outcome : Outcome)
    (accounted : Accounted first custody xs h) (isOpen : h.state.source.watch.IsOpen fault)
    (taken : ∀ count, custody ≠ .released count) :
    (stop outcome).Ends h fun r h' => ∃ phase, r = .ok phase ∧ ∃ custody',
      (Run.mk h' phase).IsSound first fault custody' ∧ (custody.wasHeld → custody'.wasHeld) := by
  have abandoned := accounted.ends_withinBus
    (P := fun r o c => r = .ok () ∧ o.IsOver ∧ c ≠ .coming ∧ custody.Leads c)
    (fun _ => Connection.keeps_abandon) ((Connection.ends_abandon accounted.stage).mono ?_)
  · unfold stop
    refine abandoned.bind ?_ ?_
    · rintro _ h₁ ⟨custody₁, accounted₁, source₁, -, spent, late, leads⟩
      have settled := leads.settled taken late
      rw [ends_bind]
      refine Ends.attempt (accounted₁.ends_destroyAll.mono ?_)
      rintro destroyed h₂ ⟨accounted₂, source₂, same⟩
      rw [← same] at spent
      have begun := accounted₂.ends_withinBus
        (P := fun r _ c => ∃ request, r = .ok request ∧ Connection.Asked request c ∧
          (custody₁.wasHeld ↔ c.wasHeld))
        (fun _ => Connection.keeps_beginRelease)
        ((Connection.ends_beginRelease accounted₂.stage spent settled).mono ?_)
      · refine begun.bind ?_ ?_
        · rintro _ h₃ ⟨custody₃, accounted₃, source₃, request, ok, asked, held⟩
          cases ok
          have isOpen₃ : h₃.state.source.watch.IsOpen fault := by
            rw [source₃, source₂, source₁]
            exact isOpen
          refine ⟨_, rfl, custody₃, ⟨[], _, ⟨accounted₃, rfl⟩, rfl, asked, isOpen₃⟩, fun was => ?_⟩
          exact held.1 (leads.wasHeld was)
        · rintro e h₃ ⟨_, _, _, _, failed, _⟩
          cases failed
      · rintro r h₃ ⟨request, custody₃, ok, stage, asked, held⟩
        exact ⟨custody₃, stage, request, ok, asked, held⟩
    · rintro e h₁ ⟨_, _, _, failed, _⟩
      cases failed
  · rintro r h₁ ⟨ok, spent, custody₁, stage, late, leads⟩
    exact ⟨custody₁, stage, ok, spent, late, leads⟩

/-- A run that ends disconnects its bus and closes its source. -/
theorem ends_finish {h : Host Service} (outcome : Outcome) (destroyed : Except Failure Unit)
    {request : Connection.Request} (accounted : Accounted first custody [] h)
    (isOpen : h.state.source.watch.IsOpen fault) (asked : Connection.Asked request custody) :
    (finish outcome destroyed request).Ends h fun r h' => ∃ phase, r = .ok phase ∧ ∃ custody',
      (Run.mk h' phase).IsSound first fault custody' ∧ (custody.wasHeld → custody'.wasHeld) := by
  have released := accounted.ends_withinBus
    (P := fun _ _ c => (c = .absent ∨ c = .released 1) ∧ (custody.wasHeld ↔ c.wasHeld))
    (fun _ => Connection.keeps_finishRelease request)
    ((Connection.ends_finishRelease asked accounted.stage).mono ?_)
  · unfold finish
    rw [ends_bind]
    refine Ends.attempt (released.mono ?_)
    rintro given h₁ ⟨custody', accounted₁, source, spent, held⟩
    dsimp only
    rw [ends_bind]
    refine Ends.attempt (Ends.within ?_)
    refine (MonitorSource.ends_close (h₁.withState h₁.state.source)).mono ?_
    rintro closed h₂ closing
    have isOpen₁ : h₁.state.source.watch.IsOpen fault := by
      rw [source]
      exact isOpen
    refine ⟨_, rfl, custody', ⟨[], _, ⟨⟨accounted₁.shows, accounted₁.stage, accounted₁.devices,
      accounted₁.held, fun s => ?_⟩, rfl⟩, rfl, spent, closing.isClosed isOpen₁⟩, held.1⟩
    change (closes h₂.calls s + _ + _) = _
    rw [closing.quiet.1]
    exact accounted₁.count s
  · rintro r h₁ ⟨-, custody', stage, spent, held⟩
    exact ⟨custody', stage, spent, held⟩

/-- A run that takes an event goes on or stops. -/
theorem ends_take {h : Host Service} {xs : List Exposure} (accounted : Accounted first custody xs h)
    (isOpen : h.state.source.watch.IsOpen fault) (taken : ∀ count, custody ≠ .released count) :
    take.Ends h fun r h' => ∃ phase, r = .ok phase ∧ ∃ custody',
      (Run.mk h' phase).IsSound first fault custody' ∧ (custody.wasHeld → custody'.wasHeld) := by
  unfold take
  rw [ends_bind]
  refine Ends.attempt ((accounted.ends_takeEvent isOpen).mono ?_)
  rintro r h₁ ⟨⟨xs', accounted'⟩, isOpen'⟩
  rcases r with e | _ | status
  · exact ends_stop (.error e) accounted' isOpen' taken
  · exact ⟨.running, rfl, custody, ⟨xs', _, ⟨accounted', rfl⟩, taken, isOpen'⟩, id⟩
  · exact ends_stop (.ok status) accounted' isOpen' taken

theorem isSound_goOn {x : Act Service Phase}
    (ends : x.Ends run.host fun r h' => ∃ phase, r = .ok phase ∧ ∃ custody',
      (Run.mk h' phase).IsSound first fault custody' ∧ (custody.wasHeld → custody'.wasHeld)) :
    ∃ custody', (run.goOn x).IsSound first fault custody' ∧
      (custody.wasHeld → custody'.wasHeld) := by
  unfold Ends at ends
  unfold goOn
  obtain ⟨phase, ok, sound⟩ := ends
  generalize x.run run.host = ran at ok sound
  obtain ⟨r, h'⟩ := ran
  cases ok
  exact sound

/-- The accounts of a run are in order after every move. -/
theorem isSound_step (sound : run.IsSound first fault custody) {move : Move} (tame : move.IsTame) :
    ∃ custody', (run.step move).IsSound first fault custody' ∧
      (custody.wasHeld → custody'.wasHeld) := by
  have beside {α : Type} {x : Act Service α}
      (keeps : ∀ xs watch, x.Keeps (Standing first custody xs watch)) :
      ∃ custody', (run.beside x).IsSound first fault custody' ∧
        (custody.wasHeld → custody'.wasHeld) :=
    ⟨custody, isSound_beside keeps sound, id⟩
  cases move with
  | stimulate s => exact beside fun _ _ => keeps_stimulate s tame
  | resume attempt =>
    obtain ⟨custody', sound', leads⟩ := isSound_resume sound attempt
    exact ⟨custody', sound', leads.wasHeld⟩
  | poll => exact beside fun _ _ => Standing.keeps_withinSource fun _ => MonitorSource.keeps_poll
  | deliver => exact beside fun _ _ h standing => Standing.isLoose h _ rfl rfl standing
  | post e => exact beside fun _ _ => keeps_post Standing.isLoose e
  | take =>
    obtain ⟨xs, watch, ⟨accounted, same⟩, fits⟩ := sound
    obtain ⟨h, phase⟩ := run
    cases phase with
    | running =>
      subst same
      exact isSound_goOn (ends_take accounted fits.2 fits.1)
    | releasing outcome destroyed request =>
      exact ⟨custody, ⟨xs, watch, ⟨accounted, same⟩, fits⟩, id⟩
    | ended outcome => exact ⟨custody, ⟨xs, watch, ⟨accounted, same⟩, fits⟩, id⟩
  | finish =>
    obtain ⟨xs, watch, ⟨accounted, same⟩, fits⟩ := sound
    obtain ⟨h, phase⟩ := run
    cases phase with
    | running => exact ⟨custody, ⟨xs, watch, ⟨accounted, same⟩, fits⟩, id⟩
    | releasing outcome destroyed request =>
      subst same
      obtain ⟨rfl, asked, isOpen⟩ := fits
      exact isSound_goOn (ends_finish outcome destroyed accounted isOpen asked)
    | ended outcome => exact ⟨custody, ⟨xs, watch, ⟨accounted, same⟩, fits⟩, id⟩

theorem isSound_after (sound : run.IsSound first fault custody) (moves : List Move)
    (tame : ∀ m ∈ moves, m.IsTame) :
    ∃ custody', (run.after moves).IsSound first fault custody' ∧
      (custody.wasHeld → custody'.wasHeld) := by
  induction moves generalizing run custody with
  | nil => exact ⟨custody, sound, id⟩
  | cons m moves ih =>
    obtain ⟨custody₁, sound₁, held₁⟩ := isSound_step sound (tame m List.mem_cons_self)
    obtain ⟨custody₂, sound₂, held₂⟩ := ih sound₁ fun m' hm' => tame m' (List.mem_cons_of_mem _ hm')
    exact ⟨custody₂, sound₂, fun held => held₂ (held₁ held)⟩

/-! ### What a run leaves -/

/-- The chips that were opened since the first one and were not closed are those that records
hold. -/
def HoldsWhatIsOpen (first : Nat) (h : Host Service) : Prop :=
  ∀ s, (first ≤ s ∧ s < h.state.bindings.nextSerial ∧ closes h.calls s = 0) ↔
    h.state.roster.IsHeld s

/-- Nothing is left: no entry, no object, no chip that was not closed once, and no monitor, unless
one was opened and this fault came up as it was to be watched no longer. -/
structure IsCleared (first : Nat) (fault : Option Fault) (h : Host Service) : Prop where
  keys : h.state.roster.keys = []
  objects : h.state.roster.bus.objects = []
  chips : ∀ s, first ≤ s → s < h.state.bindings.nextSerial → closes h.calls s = 1
  watched : h.state.source.watched = [] ↔ fault = none ∨ h.state.source.monitors = 0

theorem holdsWhatIsOpen {xs : List Exposure} {h : Host Service}
    (accounted : Accounted first custody xs h) : HoldsWhatIsOpen first h := by
  intro s
  rw [accounted.shows.isHeld_iff]
  have count := accounted.count s
  constructor
  · rintro ⟨since, until_, unclosed⟩
    rw [unclosed, if_neg (by omega), if_pos until_] at count
    omega
  · intro held
    split at count <;> split at count <;> omega

theorem isCleared {h : Host Service} (accounted : Accounted first custody [] h)
    (isClosed : h.state.source.watch.IsClosed fault) : IsCleared first fault h where
  keys := accounted.shows.keys
  objects := accounted.shows.objects
  chips s since until_ := by
    have count := accounted.count s
    rw [holders_nil, if_neg (by omega), if_pos until_] at count
    omega
  watched := isClosed

theorem isSound_begin {bindings : Bindings} (manager : DeviceManager) {script : BusScript}
    (devices : ∀ d ∈ bindings.devices, d.IsTame) (tame : script.IsTame) :
    (begin bindings manager script).IsSound bindings.nextSerial manager.unwatchFault .coming := by
  refine ⟨[], _, ⟨⟨.nil rfl rfl, .starting tame, devices, by simp, fun s => ?_⟩, rfl⟩, nofun, ?_⟩
  · change (0 + 0 + if s < bindings.nextSerial then 1 else 0) =
      if s < bindings.nextSerial then 1 else 0
    omega
  · exact ⟨rfl, ⟨fun _ => rfl, fun _ => rfl⟩, rfl⟩

/-- A bus that was given up was disconnected once. -/
theorem exists_bus_of_released {c : Connection Value} (stage : Stage c.outline (.released 1)) :
    ∃ b, c.bus? 0 = some b ∧ b.disconnects = 1 := by
  generalize outline : c.outline = o at stage
  cases stage with
  | released spent tame =>
    obtain ⟨b, single, -, once⟩ := Connection.exists_bus_of_outline outline
    exact ⟨b, by simp [Connection.bus?, single], once⟩

/-- Bindings with two chips, one of which cannot be closed. -/
def sampleBindings : Bindings where
  devices := [
    { path := "/dev/gpiochip0", numLines := .int 8,
      faults := { close := some (.system (.int 5) "" none) } },
    { path := "/dev/gpiochip1", numLines := .int 4 }]

def sampleDevices : List ManagedDevice := [
  { name := .text "gpiochip0", node := some (.text "/dev/gpiochip0"), action := .text "remove" },
  { name := .text "gpiochip1", node := some (.text "/dev/gpiochip1"), action := .text "remove" }]

/-- A bus that does not release the name. -/
def sampleScript : BusScript where
  releaseFault := some (.bus "org.freedesktop.DBus.Error.Failed" "")

/-- The name is acquired, both chips are exposed and removed, one of them a second time, as its
uevent arrives twice and is brought when the monitor is polled again, and the bus hangs up while the
run waits for it. -/
def sampleMoves : List Move := [
  .resume 0, .resume 0, .take, .resume 0, .take, .stimulate (.uevents sampleDevices), .poll, .take,
  .stimulate (.uevents sampleDevices), .take, .poll, .poll, .take,
  .stimulate (.hangup none), .finish]

theorem isTame_sampleBindings : ∀ d ∈ sampleBindings.devices, d.IsTame := by
  intro d hd
  simp only [sampleBindings, List.mem_cons, List.not_mem_nil, or_false] at hd
  rcases hd with rfl | rfl
  · refine ⟨fun c f fault => ?_, 8, rfl⟩
    cases c <;> cases fault
    rfl
  · refine ⟨fun c f fault => ?_, 4, rfl⟩
    cases c <;> cases fault

theorem isTame_sampleMoves : ∀ m ∈ sampleMoves, m.IsTame := by
  simp [sampleMoves, Move.IsTame, Stimulus.IsTame, Stimulus.newDevices]

/-- A device manager whose fourth poll fails. -/
def sampleManager : DeviceManager where
  devices := sampleDevices
  pollFaults := [none, none, none, some (.raised .runtime "interrupted")]

def sampleStart : Run := begin sampleBindings sampleManager sampleScript

/-- A device manager whose monitors do not tell their descriptors as they are given up. -/
def stuckManager : DeviceManager :=
  { sampleManager with unwatchFault := some (.raised .runtime "gone") }

-- Such a monitor stays watched.
example : ((begin sampleBindings stuckManager sampleScript).after
    sampleMoves).host.state.source.watched = [0] := by
  decide +kernel

end Run

end GpioBroker
