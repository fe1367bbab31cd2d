import GpioBroker.Proofs.Outcome
import GpioBroker.UeventSource.Monitor

/-!
# What the operations on a monitor do

Subscribing, draining and closing, with all that each of them may do and every fault that may end
it.  Subscribing calls for a monitor and watches it if no call fails; a drain takes one uevent after
another until a poll finds none or fails; closing gives the monitor up first, and stops watching it
unless its descriptor cannot be had.
-/

namespace GpioBroker

open Act

namespace MonitorSource

variable {h h' : Host MonitorSource} {r : Except Failure Unit}

/-- A monitor that is subscribed to is all that is watched. -/
def Watches (s : MonitorSource) : Prop := s.watched = s.monitor.toList

/-! ### Subscribing -/

/-- The fault of the first call that fails as a monitor is opened and watched. -/
def openingFault (s : MonitorSource) : Option Fault :=
  ((s.manager.monitorFault.or s.manager.filterFault).or s.manager.startFault).or
    s.manager.watchFault

/-- What subscribing asks for, until something fails. -/
def requests (s : MonitorSource) : List Call :=
  [.openMonitor, .filterMonitor s.subsystem, .startMonitor]

/-- What subscribing may do. -/
inductive Subscribing (h h' : Host MonitorSource) : Except Failure Unit → Prop
  /-- A monitor is subscribed to already. -/
  | held (subscribed : h.state.isSubscribed = true) (same : h' = h) : Subscribing h h' (.ok ())
  /-- A monitor was opened and is watched. -/
  | opened (fresh : h.state.isSubscribed = false) (fault : h.state.openingFault = none)
      (state : h'.state = { h.state with
        watched := h.state.monitors :: h.state.watched
        monitor := some h.state.monitors
        monitors := h.state.monitors + 1 })
      (queue : h'.queue = h.queue) (calls : h'.calls = h.calls ++ h.state.requests) :
      Subscribing h h' (.ok ())
  /-- A call failed, and no monitor is watched. -/
  | failed (f : Fault) (fresh : h.state.isSubscribed = false)
      (fault : h.state.openingFault = some f)
      (state : h'.state = h.state) (queue : h'.queue = h.queue) (asked : List Call)
      (first : asked <+: h.state.requests) (calls : h'.calls = h.calls ++ asked) :
      Subscribing h h' (.error { fault := f })

theorem ends_subscribe (h : Host MonitorSource) :
    subscribe.Ends h fun r h' => Subscribing h h' r := by
  unfold subscribe
  simp only [ends_bind, ends_state]
  refine ends_ite (fun fresh => ?_) fun held => .held (by simpa using held) rfl
  have fresh : h.state.isSubscribed = false := by simpa using fresh
  simp only [ends_bind, ends_note]
  refine ends_failing _ (fun monitor => ?_) fun f monitor =>
    .failed f fresh (by simp [openingFault, monitor]) rfl rfl [.openMonitor]
      (by simp [requests]) rfl
  refine ends_failing _ (fun filter => ?_) fun f filter =>
    .failed f fresh (by simp [openingFault, monitor, filter]) rfl rfl
      [.openMonitor, .filterMonitor h.state.subsystem] (by simp [requests]) (by simp)
  refine ends_failing _ (fun start => ?_) fun f start =>
    .failed f fresh (by simp [openingFault, monitor, filter, start]) rfl rfl
      h.state.requests List.prefix_rfl (by simp [requests])
  refine ends_failing _ (fun watch => ?_) fun f watch =>
    .failed f fresh (by simp [openingFault, monitor, filter, start, watch]) rfl rfl
      h.state.requests List.prefix_rfl (by simp [requests])
  simp only [ends_update, ends_log]
  exact .opened fresh (by simp [openingFault, monitor, filter, start, watch]) rfl rfl
    (by simp [requests])

/-- What was asked for is the beginning of what subscribing asks for. -/
theorem Subscribing.asked (subscribing : Subscribing h h' r) :
    ∃ asked, asked <+: h.state.requests ∧ h'.calls = h.calls ++ asked := by
  cases subscribing with
  | held subscribed same => exact ⟨[], List.nil_prefix, by simp [same]⟩
  | opened fresh fault state queue calls => exact ⟨_, List.prefix_rfl, calls⟩
  | failed f fresh fault state queue asked first calls => exact ⟨asked, first, calls⟩

/-- What is subscribed to is watched. -/
theorem Subscribing.watches (subscribing : Subscribing h h' r) (watches : h.state.Watches) :
    h'.state.Watches := by
  cases subscribing with
  | held _ same => rwa [same]
  | opened fresh _ state =>
    have none : h.state.monitor = none := by simpa [isSubscribed] using fresh
    have unwatched : h.state.watched = [] := by
      rw [watches, none]
      rfl
    rw [state]
    exact congrArg (_ :: ·) unwatched
  | failed f _ _ state => rwa [state]

/-! ### Draining -/

/-- The event that tells of a device. -/
def telling (d : ManagedDevice) : Event := .uevent d.uevent

/-- The uevents that nobody took. -/
def waiting (s : MonitorSource) : List ManagedDevice := s.manager.pending

/-- The fault of the next poll. -/
def pollFault (s : MonitorSource) : Option Fault := s.manager.pollFaults.head?.join

/-- The source after a poll that left these uevents. -/
def polled (s : MonitorSource) (left : List ManagedDevice) : MonitorSource :=
  { s with manager := { s.manager with pending := left, pollFaults := s.manager.pollFaults.tail } }

@[simp] theorem waiting_polled (s : MonitorSource) (left : List ManagedDevice) :
    (s.polled left).waiting = left := rfl

/-- The host after the first uevent that waits was taken and posted. -/
def posted (h : Host MonitorSource) (d : ManagedDevice) (rest : List ManagedDevice) :
    Host MonitorSource :=
  { h with state := h.state.polled rest, queue := h.queue ++ [telling d] }

/-- Uevents are taken and posted, one after another, until a poll finds none or fails. -/
inductive Drains : Host MonitorSource → Except Failure Unit → Host MonitorSource → Prop
  | none {h : Host MonitorSource} (waiting : h.state.waiting = [])
      (fine : h.state.pollFault = none) :
      Drains h (.ok ()) { h with state := h.state.polled [] }
  | next {h h' : Host MonitorSource} {r : Except Failure Unit} {d : ManagedDevice}
      {rest : List ManagedDevice} (first : h.state.waiting = d :: rest)
      (fine : h.state.pollFault = none) (more : Drains (posted h d rest) r h') : Drains h r h'
  /-- A poll that fails takes nothing. -/
  | fails {h : Host MonitorSource} {f : Fault} (fault : h.state.pollFault = some f) :
      Drains h (.error { fault := f }) { h with state := h.state.polled h.state.waiting }

theorem ends_takeFirst (left : List ManagedDevice) (h : Host MonitorSource) :
    (takeFirst left).Ends h fun r h' =>
      (r = .ok () ∧ h.state.pollFault = none ∧ h' = { h with state := h.state.polled left }) ∨
        ∃ f, r = .error { fault := f } ∧ h.state.pollFault = some f ∧
          h' = { h with state := h.state.polled h.state.waiting } := by
  unfold takeFirst
  simp only [ends_bind, ends_state, ends_update]
  exact ends_failing _ (fun fine => .inl ⟨trivial, fine, rfl⟩) fun f fault =>
    .inr ⟨f, rfl, fault, rfl⟩

theorem ends_drainEach {ds : List ManagedDevice} {h : Host MonitorSource}
    (waiting : h.state.waiting = ds) : (drainEach ds).Ends h fun r h' => Drains h r h' := by
  induction ds generalizing h with
  | nil =>
    refine (ends_takeFirst [] h).mono ?_
    rintro r h' (⟨rfl, fine, rfl⟩ | ⟨f, rfl, fault, rfl⟩)
    · exact .none waiting fine
    · exact .fails fault
  | cons d ds ih =>
    refine (ends_takeFirst ds h).bind ?_ ?_
    · rintro _ h₁ (⟨-, fine, rfl⟩ | ⟨f, failed, -⟩)
      · rw [ends_bind, ends_post]
        exact (ih (h := posted h d ds) rfl).mono fun _ _ more => .next waiting fine more
      · cases failed
    · rintro e h₁ (⟨failed, -⟩ | ⟨f, failed, fault, rfl⟩)
      · cases failed
      · cases failed
        exact .fails fault

/-- What a drain does, if a monitor is subscribed to. -/
theorem ends_drain (h : Host MonitorSource) : drain.Ends h fun r h' =>
    (h.state.isSubscribed = true ∧ Drains h r h') ∨
      (h.state.isSubscribed = false ∧ r = .ok () ∧ h' = h) := by
  unfold drain
  rw [ends_bind, ends_state]
  refine ends_ite (fun subscribed => ?_) fun idle => .inr ⟨by simpa using idle, rfl, rfl⟩
  exact (ends_drainEach rfl).mono fun _ _ drains => .inl ⟨subscribed, drains⟩

theorem Drains.watches (drains : Drains h r h') (watches : h.state.Watches) : h'.state.Watches := by
  induction drains with
  | none _ _ => exact watches
  | next _ _ _ ih => exact ih watches
  | fails _ => exact watches

/-- Unless a poll fails, all that waits is taken and posted, in its order. -/
theorem Drains.all (drains : Drains h r h') (fine : ∀ f, some f ∉ h.state.manager.pollFaults) :
    r = .ok () ∧ h'.state.waiting = [] ∧ h'.queue = h.queue ++ h.state.waiting.map telling := by
  induction drains with
  | none waiting _ => exact ⟨rfl, rfl, by simp [waiting]⟩
  | next first _ _ ih =>
    obtain ⟨ok, waiting, queue⟩ := ih fun f later => fine f (List.mem_of_mem_tail later)
    exact ⟨ok, waiting, by simp [queue, posted, first]⟩
  | fails fault =>
    exact absurd (List.mem_of_mem_head? (Option.join_eq_some_iff.1 fault)) (fine _)

/-! ### Closing -/

/-- What closing may do. -/
inductive Closing (h h' : Host MonitorSource) : Except Failure Unit → Prop
  /-- No monitor is subscribed to. -/
  | idle (none : h.state.monitor = none) (same : h' = h) : Closing h h' (.ok ())
  /-- The monitor is given up, and watched no longer. -/
  | closed (number : Nat) (held : h.state.monitor = some number)
      (fault : h.state.manager.unwatchFault = none)
      (made : h' = { h with state := { h.state with
        monitor := none
        watched := h.state.watched.erase number } }) : Closing h h' (.ok ())
  /-- The monitor is given up, but still watched. -/
  | stuck (number : Nat) (f : Fault) (held : h.state.monitor = some number)
      (fault : h.state.manager.unwatchFault = some f)
      (made : h' = { h with state := { h.state with monitor := none } }) :
      Closing h h' (.error { fault := f })

theorem ends_close (h : Host MonitorSource) : close.Ends h fun r h' => Closing h h' r := by
  unfold close
  rw [ends_bind, ends_state]
  dsimp only
  cases held : h.state.monitor with
  | none => exact .idle held rfl
  | some number =>
    simp only [ends_bind, ends_update]
    refine ends_failing _ (fun fault => ?_) fun f fault => .stuck number f held fault rfl
    exact .closed number held fault rfl

/-- Closing calls nobody, and puts nothing into the queue. -/
theorem Closing.quiet (closing : Closing h h' r) : h'.calls = h.calls ∧ h'.queue = h.queue := by
  cases closing with
  | idle none same => rw [same]; exact ⟨rfl, rfl⟩
  | closed number held fault made => rw [made]; exact ⟨rfl, rfl⟩
  | stuck number f held fault made => rw [made]; exact ⟨rfl, rfl⟩

/-- Closing begins to watch nothing. -/
theorem Closing.unwatched (closing : Closing h h' r) (unwatched : h.state.watched = []) :
    h'.state.watched = [] := by
  cases closing with
  | idle none same => rwa [same]
  | closed number held fault made =>
    rw [made]
    exact congrArg (·.erase number) unwatched
  | stuck number f held fault made => rwa [made]

/-- What is given up without a fault is watched no longer. -/
theorem Closing.watches (closing : Closing h h' r) (fine : h.state.manager.unwatchFault = none)
    (watches : h.state.Watches) : h'.state.Watches := by
  cases closing with
  | idle none same => rwa [same]
  | closed number held _ made =>
    unfold Watches at watches ⊢
    rw [made, watches, held]
    exact List.erase_cons_head ..
  | stuck number f held fault made => cases fine.symm.trans fault

end MonitorSource

end GpioBroker
