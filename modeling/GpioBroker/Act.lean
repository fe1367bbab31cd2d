import GpioBroker.Failure
import GpioBroker.Journal

/-!
# Actions

An action of a component runs on a host: the state of the component, the calls made so far, the log
and the queue of events.  It ends with a value or with a failure, and what it did to the host stays
done in both cases.  The combinators say how a component acts through one of its parts, how it deals
with a fault and how a cleanup follows an action however that ended; a fault that arises there has
the one before behind it.
-/

namespace GpioBroker

/-- The world that the actions of a component run in. -/
structure Host (σ : Type) where
  state : σ
  calls : List Call := []
  records : List LogRecord := []
  queue : List Event := []
  /-- The events that reach the queue only when the run goes on. -/
  deferred : List Event := []

/-- The same world around another state. -/
def Host.withState {σ τ : Type} (h : Host σ) (state : τ) : Host τ :=
  { state, calls := h.calls, records := h.records, queue := h.queue, deferred := h.deferred }

/-- An action: it changes the host and ends with a value or a failure. -/
abbrev Act (σ α : Type) := EStateM Failure (Host σ) α

namespace Act

variable {σ τ α : Type}

/-- The state of the component. -/
def state : Act σ σ := fun h => .ok h.state h

/-- Changes the state of the component. -/
def update (f : σ → σ) : Act σ Unit := fun h => .ok () { h with state := f h.state }

/-- Notes a call. -/
def note (c : Call) : Act σ Unit := fun h => .ok () { h with calls := h.calls ++ [c] }

/-- Logs a text. -/
def log (level : Level) (text : Text) : Act σ Unit := fun h =>
  .ok () { h with records := h.records ++ [⟨level.number, text⟩] }

/-- Puts an event at the end of the queue. -/
def post (e : Event) : Act σ Unit := fun h => .ok () { h with queue := h.queue ++ [e] }

/-- Defers an event until the run goes on. -/
def defer (e : Event) : Act σ Unit := fun h => .ok () { h with deferred := h.deferred ++ [e] }

/-- Lets the deferred events into the queue. -/
def deliver : Act σ Unit := fun h =>
  .ok () { h with queue := h.queue ++ h.deferred, deferred := [] }

/-- Takes the first event of the queue. -/
def take? : Act σ (Option Event) := fun h =>
  match h.queue with
  | [] => .ok none h
  | e :: rest => .ok (some e) { h with queue := rest }

/-- How many events wait in the queue. -/
def waiting : Act σ Nat := fun h => .ok h.queue.length h

/-- Fails with a fault that has no other behind it. -/
def fail (f : Fault) : Act σ α := throw { fault := f }

/-- Fails if there is a fault. -/
def failing (fault : Option Fault) : Act σ Unit :=
  match fault with
  | none => pure ()
  | some f => fail f

/-- The value or the fault of a computation without effects. -/
def ofExcept (r : Except Fault α) : Act σ α :=
  match r with
  | .ok a => pure a
  | .error f => fail f

/-- Ends as an earlier action did. -/
def ofOutcome (r : Except Failure α) : Act σ α :=
  match r with
  | .ok a => pure a
  | .error e => throw e

/-- Lets one part of a component act. -/
def within (get : σ → τ) (set : σ → τ → σ) (x : Act τ α) : Act σ α := fun h =>
  match x (h.withState (get h.state)) with
  | .ok a h' => .ok a (h'.withState (set h.state h'.state))
  | .error f h' => .error f (h'.withState (set h.state h'.state))

/-- Cleans up after an action however it ended; a fault of the cleanup wins over its outcome. -/
def ensure (x : Act σ α) (cleanup : Act σ Unit) : Act σ α := fun h =>
  match x h with
  | .ok a h' =>
    match cleanup h' with
    | .ok _ h'' => .ok a h''
    | .error e h'' => .error e h''
  | .error earlier h' =>
    match cleanup h' with
    | .ok _ h'' => .error earlier h''
    | .error e h'' => .error (e.after .during earlier) h''

/-- The outcome of an action as a value. -/
def attempt (x : Act σ α) : Act σ (Except Failure α) := fun h =>
  match x h with
  | .ok a h' => .ok (.ok a) h'
  | .error e h' => .ok (.error e) h'

/-- Deals with the faults of an action that can be dealt with. -/
def recover (handles : Fault → Bool) (x : Act σ α) (handler : Fault → Act σ α) : Act σ α := fun h =>
  match x h with
  | .ok a h' => .ok a h'
  | .error earlier h' =>
    if handles earlier.fault then
      match handler earlier.fault h' with
      | .ok a h'' => .ok a h''
      | .error e h'' => .error (e.after .during earlier) h''
    else .error earlier h'

/-- Cleans up after an action that failed with one of some faults; it fails in any case. -/
def undo (handles : Fault → Bool) (x : Act σ α) (cleanup : Act σ Unit) : Act σ α := fun h =>
  match x h with
  | .ok a h' => .ok a h'
  | .error earlier h' =>
    if handles earlier.fault then
      match cleanup h' with
      | .ok _ h'' => .error earlier h''
      | .error e h'' => .error (e.after .during earlier) h''
    else .error earlier h'

/-- Raises another fault on account of some faults of an action. -/
def explain (handles : Fault → Bool) (x : Act σ α) (explanation : Fault → Fault) : Act σ α :=
  fun h =>
    match x h with
    | .ok a h' => .ok a h'
    | .error earlier h' =>
      if handles earlier.fault then
        .error (Failure.after { fault := explanation earlier.fault } .because earlier) h'
      else .error earlier h'

/-- Runs an action: its outcome and the host it leaves. -/
def run (x : Act σ α) (h : Host σ) : Except Failure α × Host σ :=
  match x h with
  | .ok a h' => (.ok a, h')
  | .error e h' => (.error e, h')

/-! ### What each action does -/

variable {β : Type}

@[simp] theorem run_pure (a : α) (h : Host σ) : (pure a : Act σ α).run h = (.ok a, h) := rfl

@[simp] theorem run_throw (e : Failure) (h : Host σ) :
    (throw e : Act σ α).run h = (.error e, h) := rfl

@[simp] theorem run_fail (f : Fault) (h : Host σ) :
    (fail f : Act σ α).run h = (.error { fault := f }, h) := rfl

theorem run_bind (x : Act σ α) (k : α → Act σ β) (h : Host σ) :
    (x >>= k).run h =
      match x.run h with
      | (.ok a, h') => (k a).run h'
      | (.error e, h') => (.error e, h') := by
  simp only [run, bind, EStateM.bind]
  cases x h <;> rfl

@[simp] theorem run_state (h : Host σ) : (state : Act σ σ).run h = (.ok h.state, h) := rfl

@[simp] theorem run_update (f : σ → σ) (h : Host σ) :
    (update f).run h = (.ok (), { h with state := f h.state }) := rfl

@[simp] theorem run_note (c : Call) (h : Host σ) :
    (note c).run h = (.ok (), { h with calls := h.calls ++ [c] }) := rfl

@[simp] theorem run_log (level : Level) (text : Text) (h : Host σ) :
    (log level text).run h =
      (.ok (), { h with records := h.records ++ [⟨level.number, text⟩] }) := rfl

@[simp] theorem run_post (e : Event) (h : Host σ) :
    (post e).run h = (.ok (), { h with queue := h.queue ++ [e] }) := rfl

@[simp] theorem run_defer (e : Event) (h : Host σ) :
    (defer e).run h = (.ok (), { h with deferred := h.deferred ++ [e] }) := rfl

@[simp] theorem run_deliver (h : Host σ) :
    (deliver : Act σ Unit).run h =
      (.ok (), { h with queue := h.queue ++ h.deferred, deferred := [] }) := rfl

@[simp] theorem run_failing_none (h : Host σ) : (failing none).run h = (.ok (), h) := rfl

@[simp] theorem run_failing_some (f : Fault) (h : Host σ) :
    (failing (some f)).run h = (.error { fault := f }, h) := rfl

@[simp] theorem run_ofExcept (r : Except Fault α) (h : Host σ) :
    (ofExcept r).run h = (r.mapError ({ fault := · }), h) := by
  cases r <;> rfl

theorem run_ofExcept_ok (a : α) (h : Host σ) :
    (ofExcept (.ok a) : Act σ α).run h = (.ok a, h) := rfl

theorem run_ofExcept_error (f : Fault) (h : Host σ) :
    (ofExcept (.error f) : Act σ α).run h = (.error { fault := f }, h) := rfl

@[simp] theorem run_ofOutcome (r : Except Failure α) (h : Host σ) :
    (ofOutcome r).run h = (r, h) := by
  cases r <;> rfl

theorem run_within (get : σ → τ) (set : σ → τ → σ) (x : Act τ α) (h : Host σ) :
    (within get set x).run h =
      ((x.run (h.withState (get h.state))).1,
        (x.run (h.withState (get h.state))).2.withState
          (set h.state (x.run (h.withState (get h.state))).2.state)) := by
  simp only [run, within]
  cases x (h.withState (get h.state)) <;> rfl

/-- The host is what the cleanup leaves behind, and a fault of the cleanup is the outcome. -/
theorem run_ensure (x : Act σ α) (cleanup : Act σ Unit) (h : Host σ) :
    (ensure x cleanup).run h =
      match cleanup.run (x.run h).2 with
      | (.ok _, h') => ((x.run h).1, h')
      | (.error e, h') => (.error (e.following (x.run h).1), h') := by
  simp only [run, ensure]
  cases x h with
  | ok a h' => cases hc : cleanup h' <;> simp [hc, Failure.following]
  | error f h' => cases hc : cleanup h' <;> simp [hc, Failure.following]

/-- A cleanup acts on what the action before it left, whatever its outcome was. -/
theorem snd_run_ensure (x : Act σ α) (cleanup : Act σ Unit) (h : Host σ) :
    ((ensure x cleanup).run h).2 = (cleanup.run (x.run h).2).2 := by
  rw [run_ensure]
  split <;> simp_all

theorem run_recover (handles : Fault → Bool) (x : Act σ α) (handler : Fault → Act σ α)
    (h : Host σ) :
    (recover handles x handler).run h =
      match x.run h with
      | (.ok a, h') => (.ok a, h')
      | (.error earlier, h') =>
        if handles earlier.fault then
          match (handler earlier.fault).run h' with
          | (.ok a, h'') => (.ok a, h'')
          | (.error e, h'') => (.error (e.after .during earlier), h'')
        else (.error earlier, h') := by
  simp only [run, recover]
  cases x h with
  | ok a h' => rfl
  | error earlier h' =>
    cases hh : handles earlier.fault with
    | false => simp [hh]
    | true => cases hc : handler earlier.fault h' <;> simp [hh, hc]

theorem run_undo (handles : Fault → Bool) (x : Act σ α) (cleanup : Act σ Unit) (h : Host σ) :
    (undo handles x cleanup).run h =
      match x.run h with
      | (.ok a, h') => (.ok a, h')
      | (.error earlier, h') =>
        if handles earlier.fault then
          match cleanup.run h' with
          | (.ok _, h'') => (.error earlier, h'')
          | (.error e, h'') => (.error (e.after .during earlier), h'')
        else (.error earlier, h') := by
  simp only [run, undo]
  cases x h with
  | ok a h' => rfl
  | error earlier h' =>
    cases hh : handles earlier.fault with
    | false => simp [hh]
    | true => cases hc : cleanup h' <;> simp [hh, hc]

theorem run_explain (handles : Fault → Bool) (x : Act σ α) (explanation : Fault → Fault)
    (h : Host σ) :
    (explain handles x explanation).run h =
      match x.run h with
      | (.ok a, h') => (.ok a, h')
      | (.error earlier, h') =>
        if handles earlier.fault then
          (.error (Failure.after { fault := explanation earlier.fault } .because earlier), h')
        else (.error earlier, h') := by
  simp only [run, explain]
  cases x h with
  | ok a h' => rfl
  | error earlier h' => cases hh : handles earlier.fault <;> simp [hh]

@[simp] theorem run_attempt (x : Act σ α) (h : Host σ) :
    (attempt x).run h = (.ok (x.run h).1, (x.run h).2) := by
  simp only [run, attempt]
  cases x h <;> rfl

end Act

end GpioBroker
