import GpioBroker.Proofs.Monitoring

/-!
# Delivery of uevents

Uevents arrive, and a source is subscribed to, drained and closed, in any order; a monitor may fail
whenever one is opened, polled or given up.  What was posted and what still waits are, one after the
other, all that ever arrived, in the order of arrival.  A drain takes one uevent after another until
a poll finds none or fails, and a subscription that fails watches nothing.
-/

namespace GpioBroker

open Act

namespace MonitorSource

/-- How the calls fail by which a monitor is opened and watched. -/
structure OpeningFaults where
  monitor : Option Fault := none
  filter : Option Fault := none
  start : Option Fault := none
  watch : Option Fault := none

/-- The source when its monitors fail otherwise as they are opened. -/
def withFaults (s : MonitorSource) (faults : OpeningFaults) : MonitorSource :=
  { s with manager := { s.manager with
    monitorFault := faults.monitor
    filterFault := faults.filter
    startFault := faults.start
    watchFault := faults.watch } }

/-- The source when its monitors fail otherwise as they are given up. -/
def withUnwatchFault (s : MonitorSource) (unwatchFault : Option Fault) : MonitorSource :=
  { s with manager := { s.manager with unwatchFault } }

variable {h h' : Host MonitorSource}

/-! ### What is watched -/

theorem Watches.watched_ne_nil_iff {s : MonitorSource} (watches : s.Watches) :
    s.watched ≠ [] ↔ s.isSubscribed = true := by
  unfold Watches at watches
  rw [watches]
  cases subscribed : s.monitor <;> simp [isSubscribed, subscribed]

theorem Watches.watched_le {s : MonitorSource} (watches : s.Watches) :
    s.watched.length ≤ 1 ∧ ∀ number ∈ s.watched, s.monitor = some number := by
  unfold Watches at watches
  rw [watches]
  cases s.monitor <;> simp

theorem Watches.watched_eq_nil {s : MonitorSource} (watches : s.Watches)
    (unsubscribed : s.isSubscribed = false) : s.watched = [] := by
  unfold Watches at watches
  rw [watches]
  simpa [isSubscribed] using unsubscribed

/-! ### What is done with a source -/

/-- What the world and the broker do with a source. -/
inductive Action where
  /-- Uevents arrive. -/
  | arrive (devices : List ManagedDevice)
  /-- The source is subscribed to, and a monitor that is opened fails so. -/
  | subscribe (faults : OpeningFaults)
  /-- The loop finds that something waits. -/
  | drain
  /-- The source is closed, and a monitor that is given up fails so. -/
  | close (fault : Option Fault)

namespace Action

def perform : Action → Act MonitorSource Unit
  | .arrive devices => enqueue devices
  | .subscribe faults => do
    Act.update fun s => s.withFaults faults
    MonitorSource.subscribe
  | .drain => MonitorSource.drain
  | .close fault => do
    Act.update fun s => s.withUnwatchFault fault
    MonitorSource.close

/-- The uevents that arrive. -/
def arrivals : Action → List ManagedDevice
  | .arrive devices => devices
  | _ => []

/-- The host after some actions, each taken however the one before it ended. -/
def after (actions : List Action) (h : Host MonitorSource) : Host MonitorSource :=
  actions.foldl (fun h action => (action.perform.run h).2) h

/-- No monitor fails as it is given up. -/
def GiveUp (actions : List Action) : Prop := ∀ f, .close (some f) ∉ actions

variable {action : Action} {h h' : Host MonitorSource}

/-- What an action does to the uevents and to the polls. -/
structure Delivers (arrivals : List ManagedDevice) (h h' : Host MonitorSource) : Prop where
  events : ∃ more, h'.queue = h.queue ++ more ∧
    more ++ h'.state.waiting.map telling = (h.state.waiting ++ arrivals).map telling
  polls : ∀ f ∈ h'.state.manager.pollFaults, f ∈ h.state.manager.pollFaults

theorem Delivers.of_queue (queue : h'.queue = h.queue)
    (waiting : h'.state.waiting = h.state.waiting)
    (polls : h'.state.manager.pollFaults = h.state.manager.pollFaults) : Delivers [] h h' where
  events := ⟨[], by simp [queue], by simp [waiting]⟩
  polls f there := by rwa [← polls]

theorem Delivers.trans {arrivals arrivals' : List ManagedDevice} {h₁ : Host MonitorSource}
    (first : Delivers arrivals h h₁) (second : Delivers arrivals' h₁ h') :
    Delivers (arrivals ++ arrivals') h h' where
  events := by
    obtain ⟨more₁, queue₁, told₁⟩ := first.events
    obtain ⟨more₂, queue₂, told₂⟩ := second.events
    refine ⟨more₁ ++ more₂, by rw [queue₂, queue₁, List.append_assoc], ?_⟩
    calc more₁ ++ more₂ ++ h'.state.waiting.map telling
        = more₁ ++ (h₁.state.waiting ++ arrivals').map telling := by rw [List.append_assoc, told₂]
      _ = (h.state.waiting ++ arrivals).map telling ++ arrivals'.map telling := by
        rw [List.map_append, ← List.append_assoc, told₁]
      _ = (h.state.waiting ++ (arrivals ++ arrivals')).map telling := by
        rw [← List.map_append, List.append_assoc]
  polls f there := first.polls f (second.polls f there)

theorem delivers_drains {r : Except Failure Unit} (drains : Drains h r h') : Delivers [] h h' := by
  induction drains with
  | none waiting _ =>
    exact ⟨⟨[], by simp, by simp [waiting]⟩, fun f => List.mem_of_mem_tail⟩
  | @next h h' r d rest first _ _ ih =>
    have taken : Delivers [] h (posted h d rest) :=
      ⟨⟨[telling d], rfl, by simp [first, posted]⟩, fun f => List.mem_of_mem_tail⟩
    exact taken.trans ih
  | fails _ => exact ⟨⟨[], by simp, by simp⟩, fun f => List.mem_of_mem_tail⟩

theorem delivers_subscribing {r : Except Failure Unit} (subscribing : Subscribing h h' r) :
    Delivers [] h h' := by
  cases subscribing with
  | held _ same =>
    subst same
    exact .of_queue rfl rfl rfl
  | opened _ _ state queue => exact .of_queue queue (by rw [state]; rfl) (by rw [state])
  | failed f _ _ state queue => exact .of_queue queue (by rw [state]) (by rw [state])

theorem delivers_closing {r : Except Failure Unit} (closing : Closing h h' r) :
    Delivers [] h h' := by
  cases closing with
  | idle _ same =>
    subst same
    exact .of_queue rfl rfl rfl
  | closed number _ _ made =>
    subst made
    exact .of_queue rfl rfl rfl
  | stuck number f _ _ made =>
    subst made
    exact .of_queue rfl rfl rfl

theorem ends_perform (action : Action) (h : Host MonitorSource) : action.perform.Ends h fun _ h' =>
    Delivers action.arrivals h h' ∧ (GiveUp [action] → h.state.Watches → h'.state.Watches) := by
  cases action with
  | arrive devices =>
    exact ⟨⟨⟨[], by simp [perform, enqueue], by rfl⟩, fun _ => id⟩, fun _ => id⟩
  | subscribe faults =>
    rw [perform, ends_bind, ends_update]
    refine (ends_subscribe _).mono fun r h' subscribing => ?_
    obtain ⟨events, polls⟩ := delivers_subscribing subscribing
    exact ⟨⟨events, polls⟩, fun _ => subscribing.watches⟩
  | drain =>
    refine (ends_drain h).mono ?_
    rintro r h' (⟨-, drains⟩ | ⟨-, -, rfl⟩)
    · exact ⟨delivers_drains drains, fun _ => drains.watches⟩
    · exact ⟨.of_queue rfl rfl rfl, fun _ => id⟩
  | close fault =>
    rw [perform, ends_bind, ends_update]
    refine (ends_close _).mono fun r h' closing => ?_
    obtain ⟨events, polls⟩ := delivers_closing closing
    refine ⟨⟨events, polls⟩, fun gives => closing.watches ?_⟩
    cases fault with
    | none => rfl
    | some f => exact absurd List.mem_cons_self (gives f)

/-- Subscribing, with the faults that a monitor has then. -/
theorem run_subscribe {faults : OpeningFaults} {r : Except Failure Unit}
    (run : (perform (.subscribe faults)).run h = (r, h')) :
    Subscribing { h with state := h.state.withFaults faults } h' r := by
  have subscribing := ends_subscribe { h with state := h.state.withFaults faults }
  rw [perform, run_bind, run_update] at run
  unfold Ends at subscribing
  rwa [show MonitorSource.subscribe.run _ = (r, h') from run] at subscribing

theorem delivers_after (actions : List Action) (h : Host MonitorSource) :
    Delivers (actions.flatMap arrivals) h (after actions h) := by
  induction actions generalizing h with
  | nil => exact .of_queue rfl rfl rfl
  | cons action actions ih => exact (ends_perform action h).1.trans (ih _)

theorem watches_after {actions : List Action} (gives : GiveUp actions) (watches : h.state.Watches) :
    (after actions h).state.Watches := by
  induction actions generalizing h with
  | nil => exact watches
  | cons action actions ih =>
    refine ih (fun f later => gives f (List.mem_cons_of_mem _ later)) ?_
    refine (ends_perform action h).2 (fun f this => gives f ?_) watches
    exact List.mem_cons.2 (.inl (List.mem_singleton.1 this))

end Action

open MonitorSource.Action

/-- What was delivered, and what would be, after some actions. -/
structure IsDelivered (start : Host MonitorSource) (actions : List Action) : Prop where
  /-- What was posted and what still waits are all that arrived, in the order of arrival. -/
  events : (after actions start).queue ++ (after actions start).state.waiting.map telling =
    (start.state.waiting ++ actions.flatMap arrivals).map telling
  /-- A drain ends, and takes one uevent after another until none waits, unless a poll fails. -/
  drains : (after actions start).state.isSubscribed = true →
    ∃ r h', drain.run (after actions start) = (r, h') ∧ Drains (after actions start) r h' ∧
      ((∀ f, some f ∉ start.state.manager.pollFaults) → r = .ok () ∧ h'.state.waiting = [])
  /-- A drain does nothing while no monitor is subscribed to. -/
  idle : (after actions start).state.isSubscribed = false →
    drain.run (after actions start) = (.ok (), after actions start)
  /-- A monitor is watched exactly while one is subscribed to, unless one failed as it was given
  up. -/
  watched_iff : GiveUp actions → ((after actions start).state.watched ≠ [] ↔
    (after actions start).state.isSubscribed = true)
  /-- What is watched is the monitor that is subscribed to, and nothing else. -/
  watched_le : GiveUp actions → (after actions start).state.watched.length ≤ 1 ∧
    ∀ number ∈ (after actions start).state.watched,
    (after actions start).state.monitor = some number
  /-- Subscribing works if a monitor is subscribed to or none of the calls fails; it takes nothing
  and posts nothing. -/
  subscribes : ∀ faults : OpeningFaults,
    ((after actions start).state.isSubscribed = true ∨
      (faults.monitor = none ∧ faults.filter = none ∧ faults.start = none ∧ faults.watch = none)) →
    ∃ h', (perform (.subscribe faults)).run (after actions start) = (.ok (), h') ∧
      h'.state.isSubscribed = true ∧ h'.queue = (after actions start).queue ∧
        h'.state.waiting = (after actions start).state.waiting
  /-- A subscription that fails leaves nothing subscribed to, posted or taken, and nothing else
  watched. -/
  fails : ∀ (faults : OpeningFaults) e h',
    (perform (.subscribe faults)).run (after actions start) = (.error e, h') →
    (faults.monitor = some e.fault ∨ faults.filter = some e.fault ∨ faults.start = some e.fault ∨
      faults.watch = some e.fault) ∧
      h'.state.isSubscribed = false ∧ h'.state.watched = (after actions start).state.watched ∧
      (GiveUp actions → h'.state.watched = []) ∧
      h'.queue = (after actions start).queue ∧
      h'.state.waiting = (after actions start).state.waiting

/-- However uevents arrive and the source is used, they are delivered once each and in order. -/
theorem isDelivered (manager : DeviceManager) (subsystem : Text) (actions : List Action) :
    IsDelivered { state := { manager, subsystem } } actions := by
  have delivers := delivers_after actions { state := { manager, subsystem } }
  have watches (gives : GiveUp actions) :
      (after actions { state := { manager, subsystem } }).state.Watches := watches_after gives rfl
  refine ⟨?_, fun subscribed => ?_, fun unsubscribed => ?_,
    fun gives => (watches gives).watched_ne_nil_iff,
    fun gives => (watches gives).watched_le, ?_, ?_⟩
  · obtain ⟨more, queue, told⟩ := delivers.events
    rw [queue, List.nil_append]
    exact told
  · obtain ⟨-, drains⟩ | ⟨unsubscribed, -⟩ :=
      ends_drain (after actions { state := { manager, subsystem } })
    · refine ⟨_, _, rfl, drains, fun fine => ?_⟩
      obtain ⟨ok, waiting, -⟩ := drains.all fun f there => fine f (delivers.polls _ there)
      exact ⟨ok, waiting⟩
    · exact absurd (subscribed.symm.trans unsubscribed) Bool.noConfusion
  · obtain ⟨subscribed, -⟩ | ⟨-, ok, same⟩ :=
      ends_drain (after actions { state := { manager, subsystem } })
    · exact absurd (subscribed.symm.trans unsubscribed) Bool.noConfusion
    · exact Prod.ext ok same
  · intro faults works
    rcases run : (perform (.subscribe faults)).run _ with ⟨r, h'⟩
    cases run_subscribe run with
    | held subscribed same =>
      subst same
      exact ⟨_, rfl, subscribed, rfl, rfl⟩
    | opened _ _ state queue => exact ⟨_, rfl, by rw [state]; rfl, queue, by rw [state]; rfl⟩
    | failed f fresh fault =>
      exfalso
      rcases works with subscribed | ⟨monitor, filter, start, watch⟩
      · exact absurd (subscribed.symm.trans fresh) (by simp)
      · simp [openingFault, withFaults, monitor, filter, start, watch] at fault
  · intro faults e h' run
    cases run_subscribe run with
    | failed f fresh fault state queue =>
      rw [state]
      refine ⟨?_, fresh, rfl, fun gives => (watches gives).watched_eq_nil fresh, queue, rfl⟩
      simp only [openingFault, withFaults, Option.or_eq_some_iff, or_assoc] at fault
      obtain monitor | ⟨-, filter⟩ | ⟨-, start⟩ | ⟨-, watch⟩ := fault
      · exact .inl monitor
      · exact .inr (.inl filter)
      · exact .inr (.inr (.inl start))
      · exact .inr (.inr (.inr watch))

end MonitorSource

end GpioBroker
