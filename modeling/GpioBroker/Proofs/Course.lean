import GpioBroker.Proofs.Queueing

/-!
# The course of a run

A run dispatches the events of its queue one by one, up to one that ends it: a signal to quit, the
loss of the name, or an event that cannot be handled.  It then winds up, each part whatever became
of the one before, and the last fault is what it ends with.  What follows holds over any orderly bus
and source, whatever fails.
-/

namespace GpioBroker

open Act

theorem Outcome.map_some_ne (outcome : Outcome) : outcome.map some ≠ .ok none := by
  cases outcome <;> nofun

theorem Outcome.map_some_inj {outcome outcome' : Outcome}
    (same : outcome.map some = outcome'.map some) : outcome = outcome' := by
  cases outcome <;> cases outcome' <;> cases same <;> rfl

/-- Whether an event is a process signal. -/
def Event.isSignal : Event → Bool
  | .signal _ => true
  | _ => false

/-- A host whose log has one text more. -/
def Host.logged {σ : Type} (h : Host σ) (level : Level) (text : Text) : Host σ :=
  { h with records := h.records ++ [⟨level.number, text⟩] }

/-- A host after the first event of its queue was taken. -/
def Host.withQueue {σ : Type} (h : Host σ) (queue : List Event) : Host σ := { h with queue }

namespace Supervisor

variable {β η : Type} [ObjectBus β] [UeventSource η]

/-- The run takes note of an event or handles it, and goes on. -/
inductive GoesOn (h : Host (Broker β η)) : Event → Host (Broker β η) → Prop
  | signal {number : Value} {name : Text} (known : Signal.name? number = some name)
      (stays : Signal.quits number = false) :
      GoesOn h (.signal number) (h.logged .debug (name ++ " received"))
  | handled {e : Event} {h' : Host (Broker β η)} (other : e.isSignal = false)
      (ok : (Broker.handle e).run h = (.ok (), h')) : GoesOn h e h'

/-- The run stops at an event, with what it is to end with. -/
inductive Stops (h : Host (Broker β η)) : Event → Outcome → Host (Broker β η) → Prop
  | quit {number : Value} {name : Text} (known : Signal.name? number = some name)
      (quits : Signal.quits number = true) :
      Stops h (.signal number) (.ok 0) (h.logged .debug (name ++ " received"))
  | unknown {number : Value} (unknown : Signal.name? number = none) :
      Stops h (.signal number) (.error { fault := .unknownSignal number }) h
  | lost (loss : NameLoss) :
      Stops h (.nameLost loss) (.ok 1)
        (({ h.logged .debug ("DBus name lost: '" ++ loss.name.display ++ "'") with
          state := { h.state with ownership := .lost } }).logged .error loss.message)
  /-- Another event is not handled, on account of what counts as a loss of the name. -/
  | lostWith {e : Event} {failure : Failure} {h' : Host (Broker β η)} (other : e.isSignal = false)
      (failed : (Broker.handle e).run h = (.error failure, h'))
      (loss : failure.fault.isNameLoss = true) :
      Stops h e (.ok 1) (h'.logged .error failure.fault.message)
  | failed {e : Event} {failure : Failure} {h' : Host (Broker β η)} (other : e.isSignal = false)
      (failed : (Broker.handle e).run h = (.error failure, h'))
      (noLoss : failure.fault.isNameLoss = false) : Stops h e (.error failure) h'

/-- Some events were taken from the queue in their order, and the run went on after each. -/
inductive Course : Host (Broker β η) → List Event → Host (Broker β η) → Prop
  | nil (h : Host (Broker β η)) : Course h [] h
  | cons {h h₁ h' : Host (Broker β η)} {e : Event} {rest events : List Event}
      (first : h.queue = e :: rest) (goesOn : GoesOn (h.withQueue rest) e h₁)
      (course : Course h₁ events h') :
      Course h (e :: events) h'

/-- After a course of events the run took another and stopped at it. -/
inductive Halts (h : Host (Broker β η)) (before : List Event) (e : Event) (outcome : Outcome)
    (h' : Host (Broker β η)) : Prop
  | after {h₁ : Host (Broker β η)} {rest : List Event} (course : Course h before h₁)
      (first : h₁.queue = e :: rest) (stops : Stops (h₁.withQueue rest) e outcome h')

/-- A run that stopped stops listening for the name, destroys every chip, releases the bus and
closes the source: each of these once, on what the one before left.  The last fault of them is what
the run ends with; without any it ends with what it stopped with. -/
inductive WindsUp (outcome : Outcome) (h : Host (Broker β η)) : Outcome → Host (Broker β η) → Prop
  | done {h₁ h₂ h₃ h₄ : Host (Broker β η)} {destroyed released closed : Except Failure Unit}
      (abandons : (Broker.withinBus ObjectBus.abandon).run h = (.ok (), h₁))
      (destroys : Broker.destroyAll.run h₁ = (destroyed, h₂))
      (releases : (Broker.withinBus ObjectBus.release).run h₂ = (released, h₃))
      (closes : (Broker.withinSource UeventSource.close).run h₃ = (closed, h₄)) :
      WindsUp outcome h (settled (settled (settled outcome destroyed) released) closed) h₄

/-- What a run does before it takes events: it lets the ownership of the name go on, and brings the
uevents and the deferred events. -/
def gather : Act (Broker β η) Unit := do
  Act.log .info (daemonName ++ " started")
  Broker.withinBus ObjectBus.progress
  Broker.withinSource UeventSource.poll
  Act.deliver

/-- The host on which a run takes events. -/
def gathered (h : Host (Broker β η)) : Host (Broker β η) := (gather.run h).2

variable {h h₁ h' : Host (Broker β η)} {e : Event} {outcome : Outcome}

/-! ### One event -/

theorem run_react_signal (number : Value) (h : Host (Broker β η)) :
    (react (.signal number)).run h =
      match Signal.name? number with
      | none => (.error { fault := .unknownSignal number }, h)
      | some name =>
        (.ok (if Signal.quits number then some 0 else none),
          h.logged .debug (name ++ " received")) := by
  change (onSignal number).run h = _
  unfold onSignal
  cases Signal.name? number with
  | none => rfl
  | some name => rfl

theorem run_react_other (other : e.isSignal = false) (h : Host (Broker β η)) :
    (react e).run h =
      match (Broker.handle e).run h with
      | (.ok _, h') => (.ok none, h')
      | (.error failure, h') =>
        if failure.fault.isNameLoss then (.ok (some 1), h'.logged .error failure.fault.message)
        else (.error failure, h') := by
  have same : (react e : Act (Broker β η) (Option Int)) =
      Act.recover Fault.isNameLoss (do Broker.handle e; return none) fun f => do
        Act.log .error f.message
        return some 1 := by
    cases e with
    | signal number => cases other
    | _ => rfl
  rw [same, run_recover, run_bind]
  rcases (Broker.handle e).run h with ⟨failure | _, h'⟩ <;> rfl

/-- The run goes on after an event exactly if its reaction gives no status. -/
theorem goesOn_iff : GoesOn h e h' ↔ (react e).run h = (.ok none, h') := by
  constructor
  · rintro (⟨known, stays⟩ | ⟨other, ok⟩)
    · simp [run_react_signal, known, stays]
    · simp [run_react_other other, ok]
  · intro ran
    by_cases signal : e.isSignal
    · cases e with
      | signal number =>
        rw [run_react_signal] at ran
        cases known : Signal.name? number with
        | none => simp [known] at ran
        | some name =>
          cases quits : Signal.quits number with
          | true => simp [known, quits] at ran
          | false =>
            simp only [known, quits] at ran
            cases ran
            exact .signal known quits
      | _ => cases signal
    · have other : e.isSignal = false := by simpa using signal
      rw [run_react_other other] at ran
      rcases handled : (Broker.handle e).run h with ⟨failure | _, h₁⟩
      · rw [handled] at ran
        by_cases loss : failure.fault.isNameLoss <;> simp [loss] at ran
      · rw [handled] at ran
        cases ran
        exact .handled other handled

/-- The run stops at an event exactly if its reaction gives the status that it is to end with, or
fails. -/
theorem stops_iff : Stops h e outcome h' ↔ (react e).run h = (outcome.map some, h') := by
  constructor
  · rintro (⟨known, quits⟩ | unknown | loss | ⟨other, failed, loss⟩ | ⟨other, failed, noLoss⟩)
    · simp [run_react_signal, known, quits, Except.map]
    · simp [run_react_signal, unknown, Except.map]
    · rfl
    · simp [run_react_other other, failed, loss, Except.map]
    · simp [run_react_other other, failed, noLoss, Except.map]
  · intro ran
    by_cases signal : e.isSignal
    · cases e with
      | signal number =>
        rw [run_react_signal] at ran
        cases known : Signal.name? number with
        | none =>
          simp only [known] at ran
          cases outcome <;> cases ran
          exact .unknown known
        | some name =>
          simp only [known] at ran
          cases quits : Signal.quits number <;> cases outcome <;> simp [quits, Except.map] at ran
          obtain ⟨rfl, rfl⟩ := ran
          exact .quit known quits
      | _ => cases signal
    · have other : e.isSignal = false := by simpa using signal
      rw [run_react_other other] at ran
      rcases handled : (Broker.handle e).run h with ⟨failure | _, h₁⟩
      · rw [handled] at ran
        by_cases loss : failure.fault.isNameLoss
        · cases outcome <;> simp [loss, Except.map] at ran
          obtain ⟨rfl, rfl⟩ := ran
          exact .lostWith other handled loss
        · cases outcome <;> simp [loss, Except.map] at ran
          obtain ⟨rfl, rfl⟩ := ran
          exact .failed other handled (by simpa using loss)
      · rw [handled] at ran
        cases outcome <;> simp [Except.map] at ran

/-- Either the run goes on after an event, or it stops at it. -/
theorem goesOn_or_stops (e : Event) (h : Host (Broker β η)) :
    (react e).Ends h fun r h' => (r = .ok none ∧ GoesOn h e h') ∨
      ∃ outcome : Outcome, r = outcome.map some ∧ Stops h e outcome h' := by
  refine (ends_run (react e) h).mono ?_
  rintro (failure | _ | status) h' ran
  · exact .inr ⟨.error failure, rfl, stops_iff.2 ran⟩
  · exact .inl ⟨rfl, goesOn_iff.2 ran⟩
  · exact .inr ⟨.ok status, rfl, stops_iff.2 ran⟩

/-! ### Many events -/

theorem run_takeEvent_cons {rest : List Event} (first : h.queue = e :: rest) :
    takeEvent.run h = (react e).run (h.withQueue rest) := by
  have taken : take?.run h = (.ok (some e), h.withQueue rest) := by
    simp only [take?, Act.run, first]
    rfl
  rw [takeEvent, run_bind, taken]

theorem run_takeEvents_of_course {events : List Event} (course : Course h events h') (count : Nat) :
    (takeEvents (events.length + count)).run h = (takeEvents count).run h' := by
  induction course with
  | nil => rw [List.length_nil, Nat.zero_add]
  | @cons h h₁ h' e rest events first goesOn course ih =>
    have taken : takeEvent.run h = (.ok none, h₁) :=
      (run_takeEvent_cons first).trans (goesOn_iff.1 goesOn)
    rw [List.length_cons, Nat.add_right_comm, takeEvents, run_bind, taken]
    exact ih

theorem run_takeEvents_of_halts {before : List Event} (halts : Halts h before e outcome h')
    (count : Nat) :
    (takeEvents (before.length + (count + 1))).run h = (outcome.map some, h') := by
  obtain ⟨course, first, stops⟩ := halts
  rename_i h₁ rest
  have taken : takeEvent.run h₁ = (outcome.map some, h') :=
    (run_takeEvent_cons first).trans (stops_iff.1 stops)
  rw [run_takeEvents_of_course course, takeEvents, run_bind, taken]
  cases outcome <;> rfl

/-! ### Winding up -/

theorem run_conclude_of_windsUp {final : Outcome} (windsUp : WindsUp outcome h final h') :
    (conclude outcome).run h = (final, h') := by
  obtain ⟨abandons, destroys, releases, closes⟩ := windsUp
  rename_i h₁ h₂ h₃ destroyed released closed
  have torn : teardown.run h₁ = (settled (settled destroyed released) closed, h') := by
    rw [← settled_settled]
    exact run_ensure_settled destroys (run_ensure_settled releases closes)
  have cleaned : (do Broker.withinBus ObjectBus.abandon; teardown : Act (Broker β η) Unit).run h =
      (settled (settled destroyed released) closed, h') := by
    rw [run_bind, abandons]
    exact torn
  rw [← settled_settled, ← settled_settled, settled_settled destroyed]
  exact run_ensure_settled (run_ofOutcome outcome h) cleaned

/-- However a run stopped, it winds up. -/
theorem windsUp_conclude [ObjectBus.IsOrderly β] (outcome : Outcome) (h : Host (Broker β η)) :
    (conclude outcome).Ends h fun final h' => WindsUp outcome h final h' := by
  have succeeds : (Broker.withinBus ObjectBus.abandon : Act (Broker β η) Unit).Succeeds :=
    Broker.succeeds_withinBus ObjectBus.IsOrderly.abandons
  have abandons := succeeds.run_eq h
  have windsUp : WindsUp outcome h _ _ := .done abandons rfl rfl rfl
  unfold Ends
  rw [run_conclude_of_windsUp windsUp]
  exact windsUp

section Orderly

variable [ObjectBus.IsOrderly β] [UeventSource.IsOrderly η]

theorem posts_react (e : Event) : (react e : Act (Broker β η) (Option Int)).Posts := by
  have other (e : Event) :
      (Act.recover Fault.isNameLoss (do Broker.handle e; return none) fun f => do
      Act.log .error f.message
      return some 1 : Act (Broker β η) (Option Int)).Posts := by
    refine Posts.recover ((Broker.posts_handle e).bind fun _ => (isOblivious_pure _).posts)
      fun _ => ?_
    exact (isOblivious_log _ _).posts.bind fun _ => (isOblivious_pure _).posts
  cases e with
  | signal number =>
    change (onSignal number).Posts
    unfold onSignal
    cases Signal.name? number with
    | none => exact (isOblivious_fail _).posts
    | some name => exact (isOblivious_log _ _).posts.bind fun _ => (isOblivious_pure _).posts
  | uevent u => exact other (.uevent u)
  | busAcquired => exact other .busAcquired
  | nameAcquired name => exact other (.nameAcquired name)
  | nameLost loss => exact other (.nameLost loss)
  | other v => exact other (.other v)

/-- Taking the events that wait, the run goes on after all of them or stops at one; those behind it
stay in the queue. -/
theorem ends_takeEvents (events : List Event) (h : Host (Broker β η))
    (waiting : events <+: h.queue) :
    (takeEvents events.length).Ends h fun r h' => (r = .ok none ∧ Course h events h') ∨
      ∃ before e later, events = before ++ e :: later ∧ ∃ outcome : Outcome, r = outcome.map some ∧
        Halts h before e outcome h' ∧ later <+: h'.queue := by
  induction events generalizing h with
  | nil => exact .inl ⟨rfl, .nil h⟩
  | cons e events ih =>
    obtain ⟨rest, first, waiting⟩ : ∃ rest, h.queue = e :: rest ∧ events <+: rest := by
      obtain ⟨more, queue⟩ := waiting
      exact ⟨events ++ more, queue.symm, List.prefix_append ..⟩
    have reacts : takeEvent.Ends h fun r h' => ((r = .ok none ∧ GoesOn (h.withQueue rest) e h') ∨
        ∃ outcome : Outcome, r = outcome.map some ∧ Stops (h.withQueue rest) e outcome h') ∧
        events <+: h'.queue := by
      unfold Ends
      rw [run_takeEvent_cons first]
      exact (goesOn_or_stops e _).and (posts_react e events (h.withQueue rest) waiting)
    rw [List.length_cons, takeEvents]
    refine reacts.bind ?_ ?_
    · rintro (_ | status) h₁ ⟨⟨ok, goesOn⟩ | ⟨outcome, ok, stops⟩, waiting⟩
      · refine (ih h₁ waiting).mono ?_
        rintro r h' (⟨ok, course⟩ | ⟨before, e', later, split, outcome, ends, halts, left⟩)
        · exact .inl ⟨ok, .cons first goesOn course⟩
        · obtain ⟨course, next, stops⟩ := halts
          refine .inr ⟨e :: before, e', later, ?_, outcome, ends, ?_, left⟩
          · rw [split, List.cons_append]
          · exact .after (.cons first goesOn course) next stops
      · cases outcome <;> cases ok
      · cases ok
      · refine .inr ⟨[], e, events, rfl, outcome, ok, .after (.nil h) first stops, waiting⟩
    · rintro failure h₁ ⟨⟨ok, -⟩ | ⟨outcome, ok, stops⟩, waiting⟩
      · cases ok
      · exact .inr ⟨[], e, events, rfl, outcome, ok, .after (.nil h) first stops, waiting⟩

/-! ### The whole run -/

theorem posts_conclude (outcome : Outcome) : (conclude outcome : Act (Broker β η) Int).Posts := by
  have stays : (ofOutcome outcome : Act (Broker β η) Int).Posts := fun _ => keeps_ofOutcome outcome
  refine stays.ensure ((Broker.posts_withinBus ObjectBus.IsOrderly.abandon).bind fun _ => ?_)
  refine Broker.posts_destroyAll.ensure (Posts.ensure ?_ ?_)
  · exact Broker.posts_withinBus ObjectBus.IsOrderly.release
  · exact Broker.posts_withinSource UeventSource.IsOrderly.close

theorem succeeds_gather : (gather : Act (Broker β η) Unit).Succeeds := by
  refine (succeeds_log _ _).bind fun _ => Succeeds.bind ?_ fun _ => Succeeds.bind ?_ fun _ => ?_
  · exact Broker.succeeds_withinBus ObjectBus.IsOrderly.progresses
  · exact Broker.succeeds_withinSource UeventSource.IsOrderly.polls
  · exact succeeds_deliver

/-- A run takes as many events as are there once it has gathered them. -/
theorem run_start (h : Host (Broker β η)) :
    start.run h = (do
      match ← attempt (takeEvents (gathered h).queue.length) with
      | .ok none => return none
      | .ok (some status) => some <$> attempt (conclude (.ok status))
      | .error e => some <$> attempt (conclude (.error e)) :
        Act (Broker β η) (Option Outcome)).run (gathered h) := by
  have unnest (rest : Act (Broker β η) (Option Outcome)) : (do gather; rest) = (do
      Act.log .info (daemonName ++ " started")
      Broker.withinBus ObjectBus.progress
      Broker.withinSource UeventSource.poll
      Act.deliver
      rest) := by
    simp only [gather, bind_assoc]
  have split : (start : Act (Broker β η) (Option Outcome)) = gather >>= fun _ => (do
      match ← attempt (takeEvents (← waiting)) with
      | .ok none => return none
      | .ok (some status) => some <$> attempt (conclude (.ok status))
      | .error e => some <$> attempt (conclude (.error e))) := (unnest _).symm
  rw [split, run_bind, succeeds_gather.run_eq h]
  rfl

theorem run_of_waiting
    (taken : (takeEvents (gathered h).queue.length).run (gathered h) = (.ok none, h')) :
    Supervisor.run.run h = (.ok none, h') := by
  have started : start.run h = (.ok none, h') := by
    rw [run_start, run_bind, run_attempt, taken]
    rfl
  unfold Supervisor.run
  rw [run_bind, started]
  rfl

theorem run_of_taken
    (taken : (takeEvents (gathered h).queue.length).run (gathered h) = (outcome.map some, h₁)) :
    Supervisor.run.run h =
      (((conclude outcome).run h₁).1.map some, ((conclude outcome).run h₁).2) := by
  have started : start.run h =
      (.ok (some ((conclude outcome).run h₁).1), ((conclude outcome).run h₁).2) := by
    rw [run_start, run_bind, run_attempt, taken]
    cases outcome <;> simp [Except.map, run_map]
  unfold Supervisor.run
  rw [run_bind, started]
  cases ((conclude outcome).run h₁).1 <;> rfl

/-- A run waits exactly if it went on after every event that was there. -/
theorem run_waits_iff (h h' : Host (Broker β η)) :
    Supervisor.run.run h = (.ok none, h') ↔ Course (gathered h) (gathered h).queue h' := by
  constructor
  · intro ran
    obtain ⟨ok, course⟩ | ⟨before, e, later, -, outcome, ends, -⟩ :=
      ends_takeEvents (gathered h).queue (gathered h) (List.prefix_refl _)
    · have waits := run_of_waiting (Prod.ext ok rfl)
      rw [ran] at waits
      cases waits
      exact course
    · have stops := run_of_taken (Prod.ext ends rfl)
      rw [ran] at stops
      exact absurd (congrArg Prod.fst stops).symm (Outcome.map_some_ne _)
  · intro course
    exact run_of_waiting (run_takeEvents_of_course course 0)

/-- A run ends exactly if a terminal event is among those that are there.  The events before the
first such were dispatched once and in order, those behind it are left in the queue, and the run
winds up with what that event stopped it with. -/
theorem run_ends_iff (h h' : Host (Broker β η)) (final : Outcome) :
    Supervisor.run.run h = (final.map some, h') ↔
      ∃ before e later, (gathered h).queue = before ++ e :: later ∧
        ∃ outcome h₁, Halts (gathered h) before e outcome h₁ ∧ WindsUp outcome h₁ final h' ∧
          later <+: h'.queue := by
  constructor
  · intro ran
    obtain ⟨ok, -⟩ | ⟨before, e, later, split, outcome, ends, halts, left⟩ :=
      ends_takeEvents (gathered h).queue (gathered h) (List.prefix_refl _)
    · have waits := run_of_waiting (Prod.ext ok rfl)
      rw [ran] at waits
      exact absurd (congrArg Prod.fst waits) (Outcome.map_some_ne final)
    · have stops := run_of_taken (Prod.ext ends rfl)
      rw [ran] at stops
      have windsUp := windsUp_conclude outcome
        ((takeEvents (gathered h).queue.length).run (gathered h)).2
      have behind := posts_conclude outcome later _ left
      obtain ⟨status, rfl⟩ := Prod.mk.inj stops
      obtain rfl := Outcome.map_some_inj status
      exact ⟨before, e, later, split, outcome, _, halts, windsUp, behind⟩
  · rintro ⟨before, e, later, split, outcome, h₁, halts, windsUp, -⟩
    have taken : (takeEvents (gathered h).queue.length).run (gathered h) =
        (outcome.map some, h₁) := by
      rw [split, List.length_append, List.length_cons]
      exact run_takeEvents_of_halts halts later.length
    rw [run_of_taken taken, run_conclude_of_windsUp windsUp]

end Orderly

/-! ### Scripted runs -/

/-- Over a scripted bus and source, any events may be there: those that the script brings come
between those that were there and the deferred ones. -/
theorem queue_gathered (h : Host (Broker ScriptedBus ScriptedSource)) :
    (gathered h).queue = h.queue ++ h.state.roster.bus.script ++ h.deferred := by
  have posted (events : List Event) (h : Host ScriptedBus) : (events.forM post).Ends h fun r h' =>
      r = .ok () ∧ h'.queue = h.queue ++ events ∧ h'.deferred = h.deferred := by
    induction events generalizing h with
    | nil => exact ⟨rfl, (List.append_nil _).symm, rfl⟩
    | cons e events ih =>
      rw [ends_forM_cons, ends_bind, ends_post]
      refine (ih _).mono ?_
      rintro r h' ⟨ok, queue, deferred⟩
      exact ⟨ok, by rw [queue, List.append_assoc, List.singleton_append], deferred⟩
  have progressed : gather.Ends h fun _ h' =>
      h'.queue = h.queue ++ h.state.roster.bus.script ++ h.deferred := by
    unfold gather Broker.withinBus Broker.withinRoster Roster.withinBus
    rw [ends_bind, ends_log]
    dsimp only
    rw [ends_bind]
    refine Ends.within (Ends.within ?_)
    change (ScriptedBus.progress).Ends _ _
    unfold ScriptedBus.progress
    simp only [ends_bind, ends_state, ends_update]
    refine (posted _ _).mono ?_
    rintro r h' ⟨rfl, queue, deferred⟩
    change h'.queue ++ h'.deferred = _
    rw [queue, deferred]
    rfl
  exact progressed

def sampleLoss : NameLoss := { name := .text "org.gpiod", reason := .connectionClosed }

/-- The name is lost while a signal to quit waits, and neither can the bus be released nor the
source be closed. -/
def sampleHost : Host (Broker ScriptedBus ScriptedSource) where
  state := {
    bindings := {}
    roster := { bus := {
      script := [.busAcquired, .signal (.int 1), .nameLost sampleLoss, .signal (.int 15)]
      releaseFault := some (.raised .runtime "no release") } }
    source := { closeFault := some (.raised .runtime "no close") } }

def sampleFailure : Failure where
  fault := .raised .runtime "no close"
  behind := [(.during, .raised .runtime "no release")]

theorem run_ends_iff_sample :
    (Supervisor.run.run sampleHost).1 = .error sampleFailure ∧
      ∃ before e later, (gathered sampleHost).queue = before ++ e :: later ∧
        ∃ outcome h₁, Halts (gathered sampleHost) before e outcome h₁ ∧
          WindsUp outcome h₁ (.error sampleFailure) (Supervisor.run.run sampleHost).2 ∧
            later <+: (Supervisor.run.run sampleHost).2.queue := by
  have failed : (Supervisor.run.run sampleHost).1 = .error sampleFailure := by
    have kept : (match (Supervisor.run.run sampleHost).1 with
      | .ok _ => none
      | .error e => some e) = some sampleFailure := by decide +kernel
    split at kept
    · cases kept
    · rename_i e ended
      rw [ended, Option.some.inj kept]
  have ran : Supervisor.run.run sampleHost =
      (.error sampleFailure, (Supervisor.run.run sampleHost).2) := by
    rw [← failed]
  exact ⟨failed, (run_ends_iff sampleHost _ (.error sampleFailure)).1 ran⟩

end Supervisor

end GpioBroker
