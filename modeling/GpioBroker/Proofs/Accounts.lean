import GpioBroker.Proofs.Monitoring
import GpioBroker.Proofs.Passage
import GpioBroker.Proofs.Stages
import GpioBroker.Service

/-!
# The accounts of a service

What is there to be given up at the end of a run: the chips that are open, the bus and the monitor.
At any time between two events, the chips that are open are those of the exposures, the bus is where
the attempt to own the name has left it, and a monitor is watched if it is subscribed to.  What goes
on beside the run changes nothing of that, and what the run does to an event keeps the accounts.
-/

namespace GpioBroker

open Act

/-- How a source watches: the monitor that is subscribed to, the monitors that are watched, how many
were opened, and the fault that there is when one is to be watched no longer. -/
structure Watch where
  monitor : Option Nat
  watched : List Nat
  monitors : Nat
  fault : Option Fault

/-- What is watched is the monitor that is subscribed to, if one was opened, and there is this
fault. -/
structure Watch.IsOpen (w : Watch) (fault : Option Fault) : Prop where
  watched : w.watched = w.monitor.toList
  monitors : w.monitor = none ↔ w.monitors = 0
  fault : w.fault = fault

/-- Nothing is watched, unless a monitor was opened and this fault kept it from being given up. -/
def Watch.IsClosed (w : Watch) (fault : Option Fault) : Prop :=
  w.watched = [] ↔ fault = none ∨ w.monitors = 0

/-- How the source watches. -/
def MonitorSource.watch (s : MonitorSource) : Watch where
  monitor := s.monitor
  watched := s.watched
  monitors := s.monitors
  fault := s.manager.unwatchFault

/-- Nothing is left out: of the chips that were opened since the first one each was closed once or
is held once, and the bus is in custody. -/
structure Accounted (first : Nat) (custody : Custody) (xs : List Exposure)
    (h : Host Service) : Prop where
  shows : h.state.roster.Shows xs
  stage : Stage h.state.roster.bus.outline custody
  devices : ∀ d ∈ h.state.bindings.devices, d.IsTame
  held : ∀ x ∈ xs, x.chip.device.IsTame
  count : ∀ s, (closes h.calls s + holders xs s + if s < first then 1 else 0) =
    if s < h.state.bindings.nextSerial then 1 else 0

/-- What a source may do while it is neither subscribed to nor closed: it closes no chip, and
watches as it watched. -/
def MonitorSource.Idle (h₀ h : Host MonitorSource) : Prop :=
  h.state.watch = h₀.state.watch ∧ ∀ s, closes h.calls s = closes h₀.calls s

namespace MonitorSource

variable {h₀ h h' : Host MonitorSource} {fault : Option Fault}

theorem isLoose_idle : IsLoose (Idle h₀) := by
  rintro h h' state calls ⟨watch, kept⟩
  exact ⟨by rw [state, watch], fun s => by rw [calls, kept]⟩

theorem keeps_note {c : Call} (other : ∀ s, c.isClose s = false := by intro s; rfl) :
    (note c).Keeps (Idle h₀) := fun h idle =>
  ⟨idle.1, fun s => (closes_append_other h.calls other s).trans (idle.2 s)⟩

theorem keeps_manager (f : MonitorSource → DeviceManager)
    (same : ∀ s, (f s).unwatchFault = s.manager.unwatchFault := by intro s; rfl) :
    (update fun s => { s with manager := f s }).Keeps (Idle h₀) := by
  rintro h ⟨watch, kept⟩
  refine ⟨?_, kept⟩
  rw [← watch]
  change Watch.mk _ _ _ (f h.state).unwatchFault = _
  rw [same]
  rfl

theorem keeps_enqueue (devices : List ManagedDevice) : (enqueue devices).Keeps (Idle h₀) :=
  keeps_manager _

theorem keeps_replaceDevices (devices : List ManagedDevice) :
    (replaceDevices devices).Keeps (Idle h₀) :=
  keeps_manager _

theorem keeps_enumerate : enumerate.Keeps (Idle h₀) :=
  keeps_state.bind fun _ => (keeps_note).bind fun _ => keeps_pure _

theorem keeps_takeFirst (left : List ManagedDevice) : (takeFirst left).Keeps (Idle h₀) := by
  refine keeps_state.bind fun _ => (keeps_manager _).bind fun _ => ?_
  exact (keeps_failing _).bind fun _ => keeps_manager _

theorem keeps_drainEach (ds : List ManagedDevice) : (drainEach ds).Keeps (Idle h₀) := by
  induction ds with
  | nil => exact keeps_takeFirst []
  | cons d ds ih =>
    exact (keeps_takeFirst ds).bind fun _ => (keeps_post isLoose_idle _).bind fun _ => ih

theorem keeps_poll : poll.Keeps (Idle h₀) := by
  refine keeps_state.bind fun _ => Keeps.ite (Keeps.discard (Keeps.attempt ?_)) (keeps_pure ())
  exact keeps_state.bind fun s => Keeps.ite (keeps_drainEach _) (keeps_pure ())

/-- Subscribing closes no chip, wherever it fails. -/
theorem Subscribing.closes_eq {r : Except Failure Unit}
    (subscribing : Subscribing h h' r) (s : Nat) :
    closes h'.calls s = closes h.calls s := by
  obtain ⟨asked, first, calls⟩ := subscribing.asked
  have others : ∀ c ∈ h.state.requests, c.isClose s = false := by simp [requests, Call.isClose]
  have none : closes asked s = 0 :=
    List.countP_eq_zero.2 fun c there => by simp [others c (first.subset there)]
  rw [calls, closes_append, none]
  rfl

theorem Subscribing.isOpen {r : Except Failure Unit} (subscribing : Subscribing h h' r)
    (isOpen : h.state.watch.IsOpen fault) : h'.state.watch.IsOpen fault where
  watched := subscribing.watches isOpen.watched
  monitors := by
    cases subscribing with
    | held _ same => exact same ▸ isOpen.monitors
    | opened _ _ state => simp [watch, state]
    | failed f _ _ state => exact state ▸ isOpen.monitors
  fault := by
    cases subscribing with
    | held _ same => exact same ▸ isOpen.fault
    | opened _ _ state => exact state ▸ isOpen.fault
    | failed f _ _ state => exact state ▸ isOpen.fault

/-- What was watched as it was subscribed to is watched no longer, unless a fault kept it. -/
theorem Closing.isClosed {r : Except Failure Unit} (closing : Closing h h' r)
    (isOpen : h.state.watch.IsOpen fault) : h'.state.watch.IsClosed fault := by
  have watched : h.state.watched = h.state.monitor.toList := isOpen.watched
  have monitors : h.state.monitor = none ↔ h.state.monitors = 0 := isOpen.monitors
  have there : h.state.manager.unwatchFault = fault := isOpen.fault
  unfold Watch.IsClosed
  cases closing with
  | idle none same =>
    subst same
    simp [watch, watched, none, monitors.1 none]
  | closed number held fine made =>
    subst made
    simp [watch, watched, held, ← there, fine]
  | stuck number f held fails made =>
    subst made
    have opened : h.state.monitors ≠ 0 := fun zero => by simp [monitors.2 zero] at held
    simp [watch, watched, held, ← there, fails, opened]

theorem sparesChips : UeventSource.SparesChips MonitorSource where
  subscribe h s := Subscribing.closes_eq (ends_subscribe h) s
  enumerate h s := (keeps_enumerate h ⟨rfl, fun _ => rfl⟩).2 s

end MonitorSource

namespace Accounted

variable {first : Nat} {custody : Custody} {xs xs' : List Exposure} {h h' : Host Service}

theorem isTame (accounted : Accounted first custody xs h) : h.state.IsTame xs where
  devices := accounted.devices
  held := accounted.held
  buses := Connection.isTame_of_stage accounted.stage
  source := MonitorSource.sparesChips

/-- What passes from what is shown keeps the accounts. -/
theorem passes (accounted : Accounted first custody xs h) (passes : Broker.Passes h xs h' xs') :
    Accounted first custody xs' h' where
  shows := passes.shows
  stage := by
    rw [Connection.outline_of_line passes.line]
    exact accounted.stage
  devices := (passes.isTame accounted.isTame).devices
  held := (passes.isTame accounted.isTame).held
  count s := by
    have before := accounted.count s
    have balance := passes.balance accounted.isTame s
    omega

/-- What acts on the connection and has no part in its objects keeps the accounts, with the bus in
the custody that it comes to. -/
theorem ends_withinBus {α : Type} {x : Act (Connection Value) α}
    {P : Except Failure α → Outline → Custody → Prop}
    (accounted : Accounted first custody xs h) (apart : ∀ h₀, x.Keeps (Connection.Apart h₀))
    (staged : x.Ends (h.withState h.state.roster.bus) fun r h' => ∃ custody',
      Stage h'.state.outline custody' ∧ P r h'.state.outline custody') :
    (Broker.withinBus x : Act Service α).Ends h fun r h' =>
      ∃ custody', Accounted first custody' xs h' ∧
      h'.state.source = h.state.source ∧ P r h'.state.roster.bus.outline custody' := by
  unfold Broker.withinBus Broker.withinRoster Roster.withinBus
  refine Ends.within (Ends.within ?_)
  have kept := apart (h.withState h.state.roster.bus) _ ⟨rfl, rfl, fun _ => rfl⟩
  refine (kept.and staged).mono ?_
  rintro r h' ⟨⟨objects, next, closed⟩, custody', stage, hP⟩
  refine ⟨custody', ⟨?_, stage, accounted.devices, accounted.held, fun s => ?_⟩, rfl, hP⟩
  · exact accounted.shows.same rfl objects next fun _ _ => rfl
  · change (closes h'.calls s + _ + _) = _
    rw [closed]
    exact accounted.count s

end Accounted

/-! ### What the run does -/

namespace Broker

/-- Whatever the broker does, what is watched is the monitor that is subscribed to. -/
theorem isKept_isOpen (fault : Option Fault) :
    IsKept fun h : Host Service => h.state.source.watch.IsOpen fault where
  loose := isLoose_of_state fun b : Service => b.source.watch.IsOpen fault
  setOwnership _ _ isOpen := isOpen
  addChip deviceId h isOpen := by
    refine (ends_addChip deviceId).mono ?_
    rintro r h' ⟨spares, -⟩
    rw [spares.source]
    exact isOpen
  removeChip deviceId h isOpen := by
    unfold removeChip
    simp only [ends_bind, ends_log]
    exact Ends.within isOpen
  subscribe h isOpen :=
    Ends.within ((MonitorSource.ends_subscribe _).mono fun _ _ ends => ends.isOpen isOpen)
  enumerate h isOpen := by
    refine Ends.within ((MonitorSource.keeps_enumerate (h.withState h.state.source)
      ⟨rfl, fun _ => rfl⟩).mono fun _ h' idle => ?_)
    change h'.state.watch.IsOpen fault
    rw [idle.1]
    exact isOpen

namespace IsKept

variable {η : Type} [UeventSource η] {I : Host (Broker (Connection Value) η) → Prop}

theorem react (kept : IsKept I) (e : Event) : (Supervisor.react e).Keeps I := by
  have other (e : Event) :
      (Act.recover Fault.isNameLoss (do Broker.handle e; return none) fun f => do
      Act.log .error f.message
      return some 1 : Act (Broker (Connection Value) η) (Option Int)).Keeps I := by
    refine Keeps.recover ((kept.handle e).bind fun _ => keeps_pure _) fun _ => ?_
    exact (keeps_log kept.loose _ _).bind fun _ => keeps_pure _
  cases e with
  | signal number =>
    change (Supervisor.onSignal number).Keeps I
    unfold Supervisor.onSignal
    cases Signal.name? number with
    | none => exact keeps_fail _
    | some name => exact (keeps_log kept.loose _ _).bind fun _ => keeps_pure _
  | uevent u => exact other (.uevent u)
  | busAcquired => exact other .busAcquired
  | nameAcquired name => exact other (.nameAcquired name)
  | nameLost loss => exact other (.nameLost loss)
  | other v => exact other (.other v)

/-- Taking an event keeps what all the broker does keeps. -/
theorem takeEvent (kept : IsKept I) : Supervisor.takeEvent.Keeps I := by
  refine Keeps.bind (fun h hI => ends_take?.2 ?_) fun taken => ?_
  · cases h.queue with
    | nil => exact hI
    | cons e rest => exact kept.loose h _ rfl rfl hI
  · cases taken with
    | none => exact keeps_pure _
    | some e => exact kept.react e

end IsKept

end Broker

namespace Accounted

variable {first : Nat} {custody : Custody} {xs : List Exposure} {h : Host Service}

theorem ends_takeEvent {fault : Option Fault} (accounted : Accounted first custody xs h)
    (isOpen : h.state.source.watch.IsOpen fault) :
    Supervisor.takeEvent.Ends h fun _ h' =>
      (∃ xs', Accounted first custody xs' h') ∧ h'.state.source.watch.IsOpen fault := by
  have shown := Broker.isKept_shown.takeEvent h ⟨xs, .refl accounted.shows⟩
  refine (shown.and ((Broker.isKept_isOpen fault).takeEvent h isOpen)).mono ?_
  rintro r h' ⟨⟨xs', passes⟩, isOpen⟩
  exact ⟨⟨xs', accounted.passes passes⟩, isOpen⟩

/-- Destroying every exposed chip leaves none. -/
theorem ends_destroyAll (accounted : Accounted first custody xs h) :
    Broker.destroyAll.Ends h fun _ h' => Accounted first custody [] h' ∧
      h'.state.source = h.state.source ∧
      h'.state.roster.bus.outline = h.state.roster.bus.outline := by
  refine (Broker.ends_destroyAll accounted.shows).mono ?_
  rintro r h' ⟨xs', passes, source, all⟩
  obtain rfl := all accounted.isTame
  exact ⟨accounted.passes passes, source, Connection.outline_of_line passes.line⟩

end Accounted

/-! ### What goes on beside the run -/

/-- The accounts are in order, and the source watches in one way. -/
def Standing (first : Nat) (custody : Custody) (xs : List Exposure) (watch : Watch)
    (h : Host Service) : Prop :=
  Accounted first custody xs h ∧ h.state.source.watch = watch

namespace Standing

variable {first : Nat} {custody : Custody} {xs : List Exposure} {watch : Watch}

theorem isLoose : IsLoose (Standing first custody xs watch) := by
  rintro h h' state calls ⟨accounted, same⟩
  refine ⟨⟨?_, ?_, ?_, accounted.held, fun s => ?_⟩, ?_⟩
  · rw [state]
    exact accounted.shows
  · rw [state]
    exact accounted.stage
  · rw [state]
    exact accounted.devices
  · rw [state, calls]
    exact accounted.count s
  · rw [state]
    exact same

theorem keeps_withinSource {α : Type} {x : Act MonitorSource α}
    (idle : ∀ h₀, x.Keeps (MonitorSource.Idle h₀)) :
    (Broker.withinSource x : Act Service α).Keeps (Standing first custody xs watch) := by
  rintro h ⟨accounted, same⟩
  refine Ends.within ((idle (h.withState h.state.source) _ ⟨rfl, fun _ => rfl⟩).mono ?_)
  intro r h' idle
  refine ⟨⟨accounted.shows, accounted.stage, accounted.devices, accounted.held, fun s => ?_⟩,
    idle.1.trans same⟩
  change (closes h'.calls s + _ + _) = _
  rw [idle.2]
  exact accounted.count s

theorem keeps_withinBus {α : Type} {x : Act (Connection Value) α}
    (apart : ∀ h₀, x.Keeps (Connection.Apart h₀))
    (outline : ∀ o, x.Keeps fun h => h.state.outline = o) :
    (Broker.withinBus x : Act Service α).Keeps (Standing first custody xs watch) := by
  rintro h ⟨accounted, same⟩
  have staged : x.Ends (h.withState h.state.roster.bus) fun _ h' => ∃ custody',
      Stage h'.state.outline custody' ∧ custody' = custody := by
    refine (outline _ _ rfl).mono ?_
    rintro r h' outline
    exact ⟨custody, by rw [outline]; exact accounted.stage, rfl⟩
  refine (accounted.ends_withinBus (P := fun _ _ c => c = custody) apart staged).mono ?_
  rintro r h' ⟨_, accounted', source, rfl⟩
  exact ⟨accounted', by rw [source, same]⟩

theorem keeps_setDevices {f : Bindings → Bindings}
    (tame : ∀ b : Bindings, (∀ d ∈ b.devices, d.IsTame) → ∀ d ∈ (f b).devices, d.IsTame)
    (serial : ∀ b, (f b).nextSerial = b.nextSerial) :
    (update fun b : Service => { b with bindings := f b.bindings }).Keeps
      (Standing first custody xs watch) := by
  rintro h ⟨accounted, same⟩
  refine ⟨⟨accounted.shows, accounted.stage, tame _ accounted.devices, accounted.held,
    fun s => ?_⟩, same⟩
  change _ = if s < (f h.state.bindings).nextSerial then 1 else 0
  rw [serial]
  exact accounted.count s

end Standing

end GpioBroker
