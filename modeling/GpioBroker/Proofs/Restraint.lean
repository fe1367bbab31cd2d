import GpioBroker.Proofs.Precedence
import Mathlib.Data.List.Induction

/-!
# Nothing before the name

A run of the service makes one move after another, in any order: the attempt to own the name goes
on, a message, a uevent or a signal comes, the run takes an event.  What the run took and what waits
for it is what the attempt told, so the state of the name only goes forward, the devices are asked
for once, and a chip is opened or exported only as the run takes an event while the name is
acquired.
-/

namespace GpioBroker

open Act

variable {name : Text} {script : BusScript}

namespace Supervisor

variable {β η : Type} [ObjectBus β] [UeventSource η] {h h' : Host (Broker β η)} {e : Event}

/-- A run that goes on after an event has handled it, the log apart. -/
theorem GoesOn.unlogged (goesOn : GoesOn h e h') :
    h'.unlogged = ((Broker.handle e).run h).2.unlogged := by
  cases goesOn with
  | signal known stays => rfl
  | handled other ok => rw [ok]

/-- A run that stops at an event has handled it, the log apart. -/
theorem Stops.unlogged {outcome : Outcome} (stops : Stops h e outcome h') :
    h'.unlogged = ((Broker.handle e).run h).2.unlogged := by
  cases stops with
  | lostWith other failed loss =>
    rw [failed]
    rfl
  | failed other failed noLoss => rw [failed]
  | _ => rfl

/-- A run that loses its name does not go on. -/
theorem GoesOn.ne_nameLost (goesOn : GoesOn h e h') (loss : NameLoss) : e ≠ .nameLost loss := by
  rintro rfl
  cases goesOn with
  | handled other ok => cases ok

end Supervisor

/-! ### Runs -/

namespace Run

/-- The event that a move takes. -/
def taking (run : Run) : Move → Option Event
  | .take =>
    match run.phase with
    | .running => run.host.queue.head?
    | _ => none
  | _ => none

/-- The events that a run takes. -/
def taken (run : Run) : List Move → List Event
  | [] => []
  | m :: moves => (run.taking m).toList ++ (run.step m).taken moves

/-- The name was acquired at some time. -/
def WasAcquired (start : Run) (moves : List Move) : Prop :=
  ∃ earlier, earlier <+: moves ∧ (start.after earlier).host.state.ownership = .acquired

/-- A move of the service, which no event comes to from elsewhere. -/
def Move.IsOwn : Move → Prop
  | .post _ => False
  | _ => True

/-- What is done to an event exposes chips: the state of the name is that it is acquired before the
first call, and all chips are opened and exported in what follows from the event. -/
def Exposes (e : Event) (h h' : Host Service) : Prop :=
  ∃ h₁, (Broker.follow e).run h = (.ok (), h₁) ∧ h₁.state.ownership = .acquired ∧
    h₁.calls = h.calls ∧
    h'.calls.filter Call.isExposing = ((Broker.pursue e).run h₁).2.calls.filter Call.isExposing

/-- What a run respects as it makes a move. -/
structure Respects (acquired : Prop) (run : Run) (m : Move) : Prop where
  /-- The state of the name goes forward. -/
  forward : run.host.state.ownership.rank ≤ (run.step m).host.state.ownership.rank
  /-- A uevent is in the queue only after the name was acquired. -/
  uevents : ∀ u, .uevent u ∈ (run.step m).host.queue → acquired
  /-- Only as it takes the acquisition of the name, the run asks for devices. -/
  asks : (run.step m).host.calls.filter Call.isAsking ≠ run.host.calls.filter Call.isAsking →
    ∃ name, run.taking m = some (.nameAcquired name)
  /-- Only a run that takes an event opens and exports chips, and the name was acquired before. -/
  exposes : (run.step m).host.calls.filter Call.isExposing ≠ run.host.calls.filter Call.isExposing →
    m = .take ∧ run.phase = .running ∧ ∃ e rest, run.host.queue = e :: rest ∧
      Exposes e (run.host.withQueue rest) (run.step m).host

/-- Calls that are among others are as they were if those are. -/
theorem filter_of_filter {p r : Call → Bool} (only : Only p r) {cs cs' : List Call}
    (same : cs'.filter r = cs.filter r) : cs'.filter p = cs.filter p := by
  have within (cs : List Call) : cs.filter p = (cs.filter r).filter p := by
    rw [List.filter_filter]
    refine List.filter_congr fun c _ => ?_
    cases meant : p c with
    | false => rfl
    | true => rw [only c meant]; rfl
  rw [within cs', same, ← within]

theorem countP_of_filter {p r : Call → Bool} (only : Only p r) {cs cs' : List Call}
    (same : cs'.filter r = cs.filter r) : cs'.countP p = cs.countP p := by
  rw [List.countP_eq_length_filter, filter_of_filter only same, List.countP_eq_length_filter]

variable {acquired : Prop} {taken : List Event} {run run' : Run} {m : Move}

/-- How a run stands to what it took. -/
structure Restrained (name : Text) (script : BusScript) (acquired : Prop) (taken : List Event)
    (run : Run) : Prop where
  held : Held name script taken acquired (run.phase = .running) run.host.state.ownership
    (run.host.calls.filter Call.isGuarded) run.host
  follows : run.phase = .running → run.host.state.ownership.Follows name (advances taken)
  since : run.phase = .running → acquired → run.host.state.ownership = .acquired
  begun : advances taken <+: allAdvances name
  monitors : run.host.calls.countP Call.isMonitoring ≤ taken.countP Event.isNameAcquired
  listings : run.host.calls.countP Call.isListing ≤ taken.countP Event.isNameAcquired
  unguarded : ¬ acquired → run.host.calls.filter Call.isGuarded = []

/-! ### A run that takes an event -/

theorem phase_stop (outcome : Outcome) (h : Host Service) :
    (stop outcome).Ends h fun r _ => ∀ phase, r = .ok phase → phase ≠ .running := by
  have fails {e : Failure} (phase : Phase) (ok : (.error e : Except Failure Phase) = .ok phase) :
      phase ≠ .running := by cases ok
  refine (ends_run _ h).bind
    (fun _ h₁ _ => (ends_run _ h₁).bind (fun _ h₂ _ => ?_) fun _ _ _ => fails)
    fun _ _ _ => fails
  refine (ends_run _ h₂).bind (fun _ h₃ _ => ?_) fun _ _ _ => fails
  rintro _ ⟨⟩
  nofun

theorem host_goOn (run : Run) (x : Act Service Phase) : (run.goOn x).host = (x.run run.host).2 := by
  unfold goOn
  rcases x.run run.host with ⟨f | phase, h⟩ <;> rfl

theorem phase_goOn {x : Act Service Phase}
    (ends : x.Ends run.host fun r _ => ∀ phase, r = .ok phase → phase ≠ .running) :
    (run.goOn x).phase ≠ .running := by
  unfold Ends at ends
  unfold goOn
  generalize x.run run.host = ran at ends
  obtain ⟨f | phase, h⟩ := ran
  · nofun
  · exact ends phase rfl

theorem phase_finish (outcome : Outcome) (destroyed : Except Failure Unit)
    (request : Connection.Request) (h : Host Service) :
    (finish outcome destroyed request).Ends h fun r _ =>
      ∀ phase, r = .ok phase → phase ≠ .running := by
  unfold finish
  refine ends_bind.2 (Ends.attempt ((ends_run _ h).mono fun _ h₁ _ => ?_))
  refine ends_bind.2 (Ends.attempt ((ends_run _ h₁).mono fun _ h₂ _ => ?_))
  rintro _ ⟨⟩
  nofun

/-- A run without events waits. -/
theorem step_take_nil (running : run.phase = .running) (queue : run.host.queue = []) :
    run.step .take = run := by
  obtain ⟨h, phase⟩ := run
  dsimp only at running queue
  subst running
  have nothing : Supervisor.takeEvent.run h = (.ok none, h) := by
    have none : take?.run h = (.ok none, h) := by
      simp only [take?, Act.run, queue]
    rw [Supervisor.takeEvent, run_bind, none]
    rfl
  change (Run.mk h .running).goOn take = _
  unfold goOn take
  rw [run_bind, run_attempt, nothing]
  rfl

/-- A run that takes an event goes on after it or stops at it. -/
theorem step_take_cons {e : Event} {rest : List Event} (running : run.phase = .running)
    (queue : run.host.queue = e :: rest) :
    (Supervisor.GoesOn (run.host.withQueue rest) e (run.step .take).host ∧
      (run.step .take).phase = .running) ∨
      ∃ outcome h₁, Supervisor.Stops (run.host.withQueue rest) e outcome h₁ ∧
        (run.step .take).host = ((stop outcome).run h₁).2 ∧ (run.step .take).phase ≠ .running := by
  obtain ⟨h, phase⟩ := run
  dsimp only at running queue
  subst running
  have stops (outcome : Outcome) (h₁ : Host Service)
      (stopped : take.run h = (stop outcome).run h₁) :
      ((Run.mk h .running).step .take).host = ((stop outcome).run h₁).2 ∧
        ((Run.mk h .running).step .take).phase ≠ .running := by
    have last : take.Ends h fun r _ => ∀ phase, r = .ok phase → phase ≠ .running := by
      unfold Ends
      rw [stopped]
      exact phase_stop outcome h₁
    change ((Run.mk h .running).goOn take).host = _ ∧ ((Run.mk h .running).goOn take).phase ≠ _
    rw [host_goOn, ← stopped]
    exact ⟨rfl, phase_goOn last⟩
  have decided : take.run h =
      match (Supervisor.react e).run (h.withQueue rest) with
      | (.ok none, h₁) => (.ok .running, h₁)
      | (.ok (some status), h₁) => (stop (.ok status)).run h₁
      | (.error f, h₁) => (stop (.error f)).run h₁ := by
    unfold take
    rw [run_bind, run_attempt, Supervisor.run_takeEvent_cons queue]
    rcases (Supervisor.react e).run (h.withQueue rest) with ⟨f | _ | status, h₁⟩ <;> rfl
  have reacts := Supervisor.goesOn_or_stops e (h.withQueue rest)
  unfold Ends at reacts
  generalize (Supervisor.react e).run (h.withQueue rest) = reaction at reacts decided
  obtain ⟨r, h₁⟩ := reaction
  obtain ⟨ok, goesOn⟩ | ⟨outcome, status, stopped⟩ := reacts
  · dsimp only at ok
    subst ok
    have same : (Run.mk h .running).step .take = ⟨h₁, .running⟩ := by
      change (Run.mk h .running).goOn take = _
      unfold goOn
      rw [show take.run (Run.mk h .running).host = _ from decided]
    rw [same]
    exact .inl ⟨goesOn, rfl⟩
  · refine .inr ⟨outcome, h₁, stopped, stops outcome h₁ ?_⟩
    dsimp only at status
    subst status
    cases outcome <;> exact decided

/-- What becomes of a host as the run takes an event and reacts to it. -/
structure Reaction (name : Text) (script : BusScript) (acquired : Prop) (taken : List Event)
    (e : Event) (h h' : Host Service) : Prop where
  held : Held name script (taken ++ [e])
    (acquired ∨ e.ownership?.getD h.state.ownership = .acquired) True
      (e.ownership?.getD h.state.ownership)
    (h'.calls.filter Call.isGuarded) h'
  queue : h'.queue = h.queue
  /-- The event is no uevent, or the name was acquired. -/
  since : e.isUevent = true → acquired
  pursued : ∃ h₁, (Broker.follow e).run h = (.ok (), h₁) ∧ h₁.calls = h.calls ∧
    h₁.state.ownership = e.ownership?.getD h.state.ownership ∧
    h'.calls = ((Broker.pursue e).run h₁).2.calls

theorem reaction {e : Event} {rest : List Event} {h h' : Host Service} {cs : List Call}
    (held : Held name script taken acquired True h.state.ownership cs h)
    (queue : h.queue = e :: rest)
    (handled : h'.unlogged = ((Broker.handle e).run (h.withQueue rest)).2.unlogged) :
    Reaction name script acquired taken e (h.withQueue rest) h' := by
  have since (isUevent : e.isUevent = true) : acquired := by
    by_contra early
    have none := (held.quiet early).2
    rw [queue, List.filter_cons_of_pos isUevent] at none
    cases none
  have follows := (held.withQueue queue).ends_follow e
  unfold Ends at follows
  generalize followed : (Broker.follow e).run (h.withQueue rest) = ran at follows
  obtain ⟨r, h₁⟩ := ran
  obtain ⟨ok, calls, queue₁, held₁⟩ := follows
  dsimp only at ok calls queue₁ held₁
  subst ok
  have early (soon : ¬ (acquired ∨ e.ownership?.getD h.state.ownership = .acquired)) :
      e.isUevent = false ∧ e.isNameAcquired = false := by
    obtain ⟨notYet, notNow⟩ := not_or.1 soon
    constructor
    · cases isUevent : e.isUevent with
      | false => rfl
      | true => exact absurd (since isUevent) notYet
    · cases e with
      | nameAcquired name => exact absurd rfl notNow
      | _ => rfl
  obtain ⟨queue₂, held₂⟩ := (held₁.mono .inl id).ends_pursue early
  have handle : ((Broker.handle e).run (h.withQueue rest)).2 = ((Broker.pursue e).run h₁).2 := by
    rw [Broker.handle_eq, run_bind, followed]
  rw [handle] at handled
  have calls' : h'.calls = ((Broker.pursue e).run h₁).2.calls := by
    simpa using congrArg Host.calls handled
  have queue' : h'.queue = ((Broker.pursue e).run h₁).2.queue := by
    simpa using congrArg Host.queue handled
  refine ⟨?_, queue'.trans (queue₂.trans queue₁), since, h₁, followed, calls,
    held₁.ownership, calls'⟩
  rw [calls']
  exact held₂.of_unlogged handled

namespace Reaction

variable {e : Event} {h h' : Host Service}

/-- Only the acquisition of the name makes the broker ask for devices. -/
theorem asks (reaction : Reaction name script acquired taken e h h')
    (other : e.isNameAcquired = false) :
    h'.calls.filter Call.isAsking = h.calls.filter Call.isAsking := by
  obtain ⟨h₁, -, calls, -, calls'⟩ := reaction.pursued
  rw [calls', ← calls]
  exact (Broker.abstains_pursue (q := Event.isUevent) other).ends_calls h₁

/-- With each acquisition of the name the broker asks once at most. -/
theorem counts (reaction : Reaction name script acquired taken e h h') :
    h'.calls.countP Call.isMonitoring ≤ h.calls.countP Call.isMonitoring +
      [e].countP Event.isNameAcquired ∧
      h'.calls.countP Call.isListing ≤ h.calls.countP Call.isListing +
        [e].countP Event.isNameAcquired := by
  cases other : e.isNameAcquired with
  | false =>
    have same {p : Call → Bool} (only : Only p Call.isAsking) :
        h'.calls.countP p = h.calls.countP p :=
      countP_of_filter only (reaction.asks other)
    rw [same fun _ => Call.isAsking_of_isMonitoring, same fun _ => Call.isAsking_of_isListing]
    exact ⟨Nat.le_add_right .., Nat.le_add_right ..⟩
  | true =>
    obtain ⟨h₁, -, calls, -, calls'⟩ := reaction.pursued
    cases e with
    | nameAcquired v =>
      rw [calls', ← calls]
      exact Broker.counts_pursue v h₁
    | _ => cases other

/-- Other events expose nothing. -/
theorem idle (reaction : Reaction name script acquired taken e h h') (noUevent : e.isUevent = false)
    (other : e.isNameAcquired = false) : h'.calls = h.calls := by
  obtain ⟨h₁, -, calls, -, calls'⟩ := reaction.pursued
  rw [calls', ← calls]
  exact (Broker.idle_pursue noUevent other h₁).1

end Reaction

/-! ### Every move -/

/-- A run whose state of the name, guarded calls and events taken are as they were. -/
theorem Restrained.of_held (restrained : Restrained name script acquired taken run)
    (held : Held name script taken acquired (run'.phase = .running) run.host.state.ownership
      (run.host.calls.filter Call.isGuarded) run'.host)
    (still : run'.phase = .running → run.phase = .running) :
    Restrained name script acquired taken run' where
  held := by
    rw [held.ownership, held.guarded]
    exact held
  follows running := by
    rw [held.ownership]
    exact restrained.follows (still running)
  since running was := by
    rw [held.ownership]
    exact restrained.since (still running) was
  begun := restrained.begun
  monitors := by
    rw [countP_of_filter (fun _ => Call.isGuarded_of_isMonitoring) held.guarded]
    exact restrained.monitors
  listings := by
    rw [countP_of_filter (fun _ => Call.isGuarded_of_isListing) held.guarded]
    exact restrained.listings
  unguarded early := by
    rw [held.guarded]
    exact restrained.unguarded early

/-- A run knows whether its name is acquired now. -/
theorem Restrained.onward (restrained : Restrained name script acquired taken run) :
    Restrained name script (acquired ∨ run.host.state.ownership = .acquired) taken run where
  held := restrained.held.mono .inl id
  follows := restrained.follows
  since running was := was.elim (restrained.since running) id
  begun := restrained.begun
  monitors := restrained.monitors
  listings := restrained.listings
  unguarded early := restrained.unguarded fun was => early (.inl was)

theorem respects_of_held {running : Prop}
    (held : Held name script taken acquired running run.host.state.ownership
      (run.host.calls.filter Call.isGuarded) (run.step m).host) : Respects acquired run m where
  forward := Nat.le_of_eq (congrArg Ownership.rank held.ownership).symm
  uevents u there := by
    by_contra early
    exact absurd rfl (List.filter_eq_nil_iff.1 (held.quiet early).2 _ there)
  asks changed :=
    absurd (filter_of_filter (fun _ => Call.isGuarded_of_isAsking) held.guarded) changed
  exposes changed :=
    absurd (filter_of_filter (fun _ => Call.isGuarded_of_isExposing) held.guarded) changed

/-- The events that a run took and that wait for it are among those that the attempt told. -/
theorem Restrained.begun_next {e : Event} {rest : List Event}
    (restrained : Restrained name script acquired taken run) (running : run.phase = .running)
    (queue : run.host.queue = e :: rest) : advances (taken ++ [e]) <+: allAdvances name := by
  obtain ⟨told, telling, order⟩ := restrained.held.telling running
  have whole : advances told = advances (taken ++ [e]) ++ advances rest := by
    rw [order, queue, advances_append, List.append_assoc]
    exact congrArg (advances taken ++ ·) (advances_append [e] rest)
  refine List.IsPrefix.trans ?_ telling.begun_advances
  rw [whole]
  exact List.prefix_append ..

/-- A run that takes an event has a host on which it reacted to the event: it goes on there, or
stops and leaves what is held back alone. -/
structure Took (name : Text) (script : BusScript) (acquired : Prop) (taken : List Event) (run : Run)
    (e : Event) (rest : List Event) (h' : Host Service) : Prop where
  reaction : Reaction name script acquired taken e (run.host.withQueue rest) h'
  held : Held name script (taken ++ [e])
    (acquired ∨ e.ownership?.getD run.host.state.ownership = .acquired)
    ((run.step .take).phase = .running) (e.ownership?.getD run.host.state.ownership)
    (h'.calls.filter Call.isGuarded) (run.step .take).host
  uevents : (run.step .take).host.queue.filter Event.isUevent = rest.filter Event.isUevent
  goesOn : (run.step .take).phase = .running → ∀ loss, e ≠ .nameLost loss

theorem Restrained.exists_took {e : Event} {rest : List Event}
    (restrained : Restrained name script acquired taken run) (running : run.phase = .running)
    (queue : run.host.queue = e :: rest) : ∃ h', Took name script acquired taken run e rest h' := by
  have ready := restrained.held.mono id fun _ : True => running
  obtain ⟨goesOn, phase⟩ | ⟨outcome, h₁, stops, host, phase⟩ := step_take_cons running queue
  · have reaction := reaction ready queue goesOn.unlogged
    refine ⟨_, reaction, reaction.held.mono id fun _ => trivial, ?_, fun _ => goesOn.ne_nameLost⟩
    exact congrArg (List.filter Event.isUevent) reaction.queue
  · have reaction := reaction ready queue stops.unlogged
    have stopped : Held name script _ _ False _ _ ((stop outcome).run h₁).2 :=
      Held.keeps_stop outcome h₁ (reaction.held.mono id False.elim)
    refine ⟨h₁, reaction, ?_, ?_, fun running' => absurd running' phase⟩
    · rw [host]
      exact stopped.mono id phase
    · rw [host, ((Held.abstains_stop outcome).ends_parts h₁).2.1]
      exact congrArg (List.filter Event.isUevent) reaction.queue

namespace Took

variable {e : Event} {rest : List Event} {h' : Host Service}

theorem calls (took : Took name script acquired taken run e rest h') {p : Call → Bool}
    (only : Only p Call.isGuarded) : (run.step .take).host.calls.filter p = h'.calls.filter p :=
  filter_of_filter only took.held.guarded

/-- A run that takes an event respects what every run respects. -/
theorem respects (took : Took name script acquired taken run e rest h')
    (running : run.phase = .running) (queue : run.host.queue = e :: rest)
    (since : acquired → run.host.state.ownership = .acquired)
    (forward : run.host.state.ownership.rank ≤ (e.ownership?.getD run.host.state.ownership).rank)
    (early : ¬ acquired → run.host.queue.filter Event.isUevent = []) :
    Respects acquired run .take where
  forward := by
    rw [took.held.ownership]
    exact forward
  uevents u there := by
    by_contra notYet
    have none := early notYet
    have here : Event.uevent u ∈ rest.filter Event.isUevent := by
      rw [← took.uevents]
      exact List.mem_filter.2 ⟨there, rfl⟩
    rw [queue] at none
    exact absurd rfl
      (List.filter_eq_nil_iff.1 none _ (List.mem_cons_of_mem e (List.mem_filter.1 here).1))
  asks changed := by
    cases other : e.isNameAcquired with
    | false =>
      rw [took.calls fun _ => Call.isGuarded_of_isAsking, took.reaction.asks other] at changed
      exact absurd rfl changed
    | true =>
      cases e with
      | nameAcquired name =>
        refine ⟨name, ?_⟩
        simp [taking, running, queue]
      | _ => cases other
  exposes changed := by
    have exposing : e.ownership?.getD run.host.state.ownership = .acquired := by
      cases e with
      | nameAcquired name => rfl
      | uevent u => exact since (took.reaction.since rfl)
      | _ =>
        rw [took.calls fun _ => Call.isGuarded_of_isExposing, took.reaction.idle rfl rfl] at changed
        exact absurd rfl changed
    obtain ⟨h₁, followed, calls, ownership, calls'⟩ := took.reaction.pursued
    refine ⟨rfl, running, e, rest, queue, h₁, followed, ownership.trans exposing, calls, ?_⟩
    rw [took.calls fun _ => Call.isGuarded_of_isExposing, calls']

end Took

/-- A run that takes an event. -/
theorem Restrained.take {e : Event} {rest : List Event}
    (restrained : Restrained name script acquired taken run) (running : run.phase = .running)
    (queue : run.host.queue = e :: rest) :
    Restrained name script
      (acquired ∨ (run.step .take).host.state.ownership = .acquired) (taken ++ [e])
      (run.step .take) ∧ Respects acquired run .take := by
  obtain ⟨h', took⟩ := restrained.exists_took running queue
  have begun := restrained.begun_next running queue
  obtain ⟨forward, follows⟩ := (restrained.follows running).after (advances_append .. ▸ begun)
  have respects := took.respects running queue (restrained.since running) forward fun early =>
    (restrained.held.quiet early).2
  refine ⟨?_, respects⟩
  have counts := took.reaction.counts
  have held := took.held
  have ownership := held.ownership
  rw [← ownership] at held forward follows
  refine ⟨?_, fun running' => ?_, fun running' was => ?_, begun, ?_, ?_, fun early => ?_⟩
  · rw [held.guarded]
    exact held
  · rw [advances_append]
    exact follows (took.goesOn running')
  · obtain was | now := was
    · rw [restrained.since running was] at forward
      exact (follows (took.goesOn running')).eq_acquired forward
    · exact now
  · rw [countP_of_filter (fun _ => Call.isGuarded_of_isMonitoring) held.guarded, List.countP_append]
    exact Nat.le_trans counts.1 (Nat.add_le_add_right restrained.monitors _)
  · rw [countP_of_filter (fun _ => Call.isGuarded_of_isListing) held.guarded, List.countP_append]
    exact Nat.le_trans counts.2 (Nat.add_le_add_right restrained.listings _)
  · obtain ⟨notYet, notNow⟩ := not_or.1 early
    rw [ownership] at notNow
    have same : h'.calls = run.host.calls := by
      cases e with
      | nameAcquired name => exact absurd rfl notNow
      | uevent u => exact absurd (took.reaction.since rfl) notYet
      | _ => exact took.reaction.idle rfl rfl
    rw [held.guarded, same]
    exact restrained.unguarded notYet

/-- Whatever a run does next, it is restrained after it. -/
theorem Restrained.step (restrained : Restrained name script acquired taken run) (own : m.IsOwn) :
    Restrained name script (acquired ∨ (run.step m).host.state.ownership = .acquired)
      (taken ++ (run.taking m).toList) (run.step m) ∧ Respects acquired run m := by
  have still (none : run.taking m = none)
      (phase : (run.step m).phase = .running → run.phase = .running)
      (held : Held name script taken acquired ((run.step m).phase = .running)
        run.host.state.ownership
        (run.host.calls.filter Call.isGuarded) (run.step m).host) :
      Restrained name script (acquired ∨ (run.step m).host.state.ownership = .acquired)
        (taken ++ (run.taking m).toList) (run.step m) ∧ Respects acquired run m := by
    rw [none, Option.toList_none, List.append_nil]
    exact ⟨(restrained.of_held held phase).onward, respects_of_held held⟩
  have held := restrained.held
  cases m with
  | stimulate s => exact still rfl id (Held.keeps_stimulate s _ held)
  | resume attempt => exact still rfl id (Held.keeps_resume attempt _ held)
  | poll => exact still rfl id (Held.keeps_poll _ held)
  | deliver => exact still rfl id (Held.keeps_deliver _ held)
  | post e => exact own.elim
  | take =>
    obtain ⟨h, phase⟩ := run
    cases phase with
    | running =>
      cases queue : h.queue with
      | nil =>
        have same : (Run.mk h .running).step .take = ⟨h, .running⟩ := step_take_nil rfl queue
        have nothing : taking ⟨h, .running⟩ .take = none := by simp [taking, queue]
        refine still nothing (fun _ => rfl) ?_
        rw [same]
        exact held
      | cons e rest =>
        have took : taking ⟨h, .running⟩ .take = some e := by simp [taking, queue]
        rw [took]
        exact restrained.take rfl queue
    | releasing outcome destroyed request => exact still rfl id held
    | ended outcome => exact still rfl id held
  | finish =>
    obtain ⟨h, phase⟩ := run
    cases phase with
    | releasing outcome destroyed request =>
      have last :
          (goOn ⟨h, .releasing outcome destroyed request⟩
            (finish outcome destroyed request)).phase ≠
          .running := phase_goOn (phase_finish outcome destroyed request h)
      refine still rfl (fun running => absurd running last) ?_
      change Held _ _ _ _ _ _ _ (goOn _ _).host
      rw [host_goOn]
      exact Held.mono id last
        (Held.keeps_finish outcome destroyed request h (held.mono id False.elim))
    | running => exact still rfl id held
    | ended outcome => exact still rfl id held

/-! ### Every run -/

theorem after_append_singleton (start : Run) (moves : List Move) (m : Move) :
    start.after (moves ++ [m]) = (start.after moves).step m := List.foldl_append

theorem taken_append_singleton (start : Run) (moves : List Move) (m : Move) :
    start.taken (moves ++ [m]) = start.taken moves ++ ((start.after moves).taking m).toList := by
  induction moves generalizing start with
  | nil => exact List.append_nil _
  | cons first moves ih =>
    rw [List.cons_append, Run.taken, ih, Run.taken, List.append_assoc]
    rfl

theorem wasAcquired_append_singleton (start : Run) (moves : List Move) (m : Move) :
    WasAcquired start (moves ++ [m]) ↔
      WasAcquired start moves ∨ ((start.after moves).step m).host.state.ownership = .acquired := by
  constructor
  · rintro ⟨earlier, before, acquired⟩
    obtain rfl | before := List.prefix_concat_iff.1 before
    · rw [after_append_singleton] at acquired
      exact .inr acquired
    · exact .inl ⟨earlier, before, acquired⟩
  · rintro (⟨earlier, before, acquired⟩ | acquired)
    · exact ⟨earlier, before.trans (List.prefix_append ..), acquired⟩
    · refine ⟨moves ++ [m], List.prefix_refl _, ?_⟩
      rw [after_append_singleton]
      exact acquired

theorem restrained_begin (bindings : Bindings) (manager : DeviceManager) (script : BusScript) :
    Restrained Layout.busName script (WasAcquired (begin bindings manager script) []) []
      (begin bindings manager script) where
  held := ⟨rfl, rfl, nofun, fun _ => ⟨rfl, rfl⟩, fun _ => ⟨[], .starting, rfl⟩⟩
  follows _ := .unowned
  since := by
    rintro - ⟨earlier, before, acquired⟩
    obtain rfl := List.prefix_nil.1 before
    cases acquired
  begun := List.nil_prefix
  monitors := Nat.le_refl _
  listings := Nat.le_refl _
  unguarded _ := rfl

theorem restrained_after (bindings : Bindings) (manager : DeviceManager) (script : BusScript)
    (moves : List Move) (own : ∀ m ∈ moves, m.IsOwn) :
    Restrained Layout.busName script (WasAcquired (begin bindings manager script) moves)
      ((begin bindings manager script).taken moves)
      ((begin bindings manager script).after moves) := by
  induction moves using List.reverseRecOn with
  | nil => exact restrained_begin bindings manager script
  | append_singleton moves m ih =>
    have restrained := ih fun m' there => own m' (List.mem_append_left _ there)
    rw [wasAcquired_append_singleton, taken_append_singleton, after_append_singleton]
    exact (restrained.step (own m (by simp))).1

/-- What every run holds back until its name was acquired, and how it goes on from there. -/
structure IsRestrained (start : Run) (moves : List Move) : Prop where
  respects : ∀ before m later, moves = before ++ m :: later →
    Respects (WasAcquired start before) (start.after before) m
  /-- The acquisition of the name is taken once at most. -/
  acquisitions : (start.taken moves).countP Event.isNameAcquired ≤ 1
  /-- One monitor at most is opened. -/
  monitors : (start.after moves).host.calls.countP Call.isMonitoring ≤ 1
  /-- The devices are listed once at most. -/
  listings : (start.after moves).host.calls.countP Call.isListing ≤ 1
  /-- A chip was opened or exported, a monitor opened or the devices listed only if the name was
  acquired. -/
  guarded : ∀ c ∈ (start.after moves).host.calls, c.isGuarded = true → WasAcquired start moves

/-- In whatever order the attempt to own the name, messages, uevents and signals come, the state of
the name goes forward, the source is asked for devices once, and nothing is exposed before the name
was acquired. -/
theorem isRestrained (bindings : Bindings) (manager : DeviceManager) (script : BusScript)
    (moves : List Move) (own : ∀ m ∈ moves, m.IsOwn) :
    IsRestrained (begin bindings manager script) moves := by
  have restrained := restrained_after bindings manager script moves own
  have once : ((begin bindings manager script).taken moves).countP Event.isNameAcquired ≤ 1 := by
    have advance : ((begin bindings manager script).taken moves).countP Event.isNameAcquired =
        (advances ((begin bindings manager script).taken moves)).countP Event.isNameAcquired := by
      unfold advances
      rw [List.countP_filter]
      refine List.countP_congr fun e _ => ?_
      cases e <;> simp [Event.isNameAcquired, Event.isAdvance]
    rw [advance]
    exact restrained.begun.sublist.countP_le
  refine ⟨fun before m later split => ?_, once, ?_, ?_, fun c there guarded => ?_⟩
  · subst split
    have earlier := restrained_after bindings manager script before fun m' there =>
      own m' (List.mem_append_left _ there)
    exact (earlier.step (own m (by simp))).2
  · exact Nat.le_trans restrained.monitors once
  · exact Nat.le_trans restrained.listings once
  · by_contra early
    have none := restrained.unguarded early
    exact absurd guarded (List.filter_eq_nil_iff.1 none c there)

theorem isRestrained_sample :
    IsRestrained sampleStart sampleMoves ∧ WasAcquired sampleStart sampleMoves := by
  have restrained : IsRestrained sampleStart sampleMoves :=
    isRestrained sampleBindings sampleManager sampleScript sampleMoves
      (by simp [sampleMoves, Move.IsOwn])
  have opened : Call.openMonitor ∈ (sampleStart.after sampleMoves).host.calls := by
    decide +kernel
  exact ⟨restrained, restrained.guarded _ opened rfl⟩

end Run

end GpioBroker
