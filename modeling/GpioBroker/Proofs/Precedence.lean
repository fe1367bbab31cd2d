import GpioBroker.Proofs.Course
import GpioBroker.Proofs.Interleaving
import GpioBroker.Proofs.Pursuit

/-!
# What is held back until the name is acquired

A broker does not look at the state of its name before it opens or exports a chip.  That it does
neither before the name was acquired follows from the order of what it is told: the attempt to own
the name reports the bus before the name and each at most once, the queue keeps the order, and the
monitor is opened when the name is acquired, so that no uevent waits before.
-/

namespace GpioBroker

open Act

variable {name : Text} {script : BusScript}

/-! ### What an attempt adds to what it told -/

/-- What the action puts into the queue continues what the attempt told. -/
def Act.Continues {ρ α : Type} (name : Text) (script : BusScript)
    (x : Act (Connection ρ) α) : Prop :=
  ∀ h told, Telling name script h.state.story told → x.Ends h fun _ h' => ∃ more,
    Telling name script h'.state.story (told ++ more) ∧
      advances h'.queue = advances h.queue ++ advances more

namespace Connection

variable {ρ : Type}

theorem continues_of_silent {x : Act (Connection ρ) Unit} (silent : ∀ h₀, x.Keeps (Silent h₀)) :
    x.Continues name script := by
  intro h told telling
  refine (silent h h ⟨rfl, rfl⟩).mono ?_
  rintro _ h' ⟨story, queue⟩
  refine ⟨[], ?_, ?_⟩
  · rw [story, List.append_nil]
    exact telling
  · rw [queue]
    exact (List.append_nil _).symm

/-- There is one attempt, and what it tells next continues what it told. -/
theorem continues_resume (attempt : Nat) :
    (resume attempt : Act (Connection ρ) Unit).Continues name script := by
  cases attempt with
  | zero =>
    intro h told telling
    refine (ends_resume_tells telling).mono ?_
    rintro _ h' ⟨more, tells⟩
    refine ⟨more, tells.telling, ?_⟩
    rw [tells.queue, advances_append]
  | succ other =>
    intro h told telling
    have none : h.state.attempts[other + 1]? = none := by
      obtain ⟨phase, buses, story⟩ := telling.exists_phase
      have attempts : h.state.attempts = [phase] := congrArg Story.attempts story
      rw [attempts]
      rfl
    unfold resume
    simp only [ends_bind, ends_state, none]
    refine ⟨[], ?_, (List.append_nil _).symm⟩
    rw [List.append_nil]
    exact telling

theorem continues_deliver (m : Message) :
    (deliver m : Act (Connection ρ) Unit).Continues name script := by
  intro h told telling
  refine (ends_deliver_story m telling).mono ?_
  rintro _ h' ⟨story, revoked, ignored⟩
  refine ⟨[], ?_, ?_⟩
  · rw [story, List.append_nil]
    exact telling
  · have none : advances [loss name .nameRevoked ""] = [] := rfl
    by_cases revokes : acquisitions told = 1 ∧ m.Revokes name
    · rw [revoked revokes.1 revokes.2, advances_append, none]
      rfl
    · rw [ignored revokes]
      exact (List.append_nil _).symm

end Connection

/-! ### What is held back -/

/-- At any time the advances that the run took and those in its queue are what the attempt told.  No
uevent is in the queue and no monitor is watched before the name was acquired, and only signals are
deferred. -/
structure Held (name : Text) (script : BusScript) (taken : List Event) (acquired running : Prop)
    (ownership : Ownership) (guarded : List Call) (h : Host Service) : Prop where
  ownership : h.state.ownership = ownership
  guarded : h.calls.filter Call.isGuarded = guarded
  deferred : ∀ e ∈ h.deferred, e.isSignal = true
  quiet : ¬ acquired → h.state.source.watched = [] ∧ h.queue.filter Event.isUevent = []
  telling : running → ∃ told, Telling name script h.state.roster.bus.story told ∧
    advances told = advances taken ++ advances h.queue

/-- A host without its log. -/
def Host.unlogged {σ : Type} (h : Host σ) : Host σ := { h with records := [] }

@[simp] theorem Host.calls_unlogged {σ : Type} (h : Host σ) : h.unlogged.calls = h.calls := rfl

@[simp] theorem Host.queue_unlogged {σ : Type} (h : Host σ) : h.unlogged.queue = h.queue := rfl

namespace Held

variable {taken : List Event} {acquired running : Prop} {o : Ownership} {cs : List Call}
variable {h h' : Host Service} {α : Type}

/-- The log has no part in it. -/
theorem of_unlogged (same : h'.unlogged = h.unlogged)
    (held : Held name script taken acquired running o cs h) :
    Held name script taken acquired running o cs h' := by
  have bare : Held name script taken acquired running o cs h.unlogged :=
    ⟨held.ownership, held.guarded, held.deferred, held.quiet, held.telling⟩
  rw [← same] at bare
  exact ⟨bare.ownership, bare.guarded, bare.deferred, bare.quiet, bare.telling⟩

theorem mono {acquired' running' : Prop} (later : acquired → acquired') (still : running' → running)
    (held : Held name script taken acquired running o cs h) :
    Held name script taken acquired' running' o cs h where
  ownership := held.ownership
  guarded := held.guarded
  deferred := held.deferred
  quiet early := held.quiet fun was => early (later was)
  telling run := held.telling (still run)

theorem keeps_log (level : Level) (text : Text) :
    (log level text).Keeps (Held name script taken acquired running o cs) :=
  fun _ held => ⟨held.ownership, held.guarded, held.deferred, held.quiet, held.telling⟩

theorem keeps_setBindings (f : Bindings → Bindings) :
    (update fun b : Service => { b with bindings := f b.bindings }).Keeps
      (Held name script taken acquired running o cs) :=
  fun _ held => ⟨held.ownership, held.guarded, held.deferred, held.quiet, held.telling⟩

theorem keeps_defer (number : Value) :
    (defer (.signal number)).Keeps (Held name script taken acquired running o cs) := by
  intro h held
  refine ⟨held.ownership, held.guarded, fun e there => ?_, held.quiet, held.telling⟩
  rcases List.mem_append.1 there with old | new
  · exact held.deferred e old
  · obtain rfl := List.mem_singleton.1 new
    rfl

theorem keeps_deliver :
    (Act.deliver : Act Service Unit).Keeps (Held name script taken acquired running o cs) := by
  intro h held
  have none (r : Event → Bool) (other : ∀ e : Event, e.isSignal = true → r e = false) :
      (h.queue ++ h.deferred).filter r = h.queue.filter r := by
    have signals : h.deferred.filter r = [] :=
      List.filter_eq_nil_iff.2 fun e there => by simp [other e (held.deferred e there)]
    rw [List.filter_append, signals, List.append_nil]
  have uevents : (h.queue ++ h.deferred).filter Event.isUevent = h.queue.filter Event.isUevent :=
    none _ fun e signal => by cases e <;> cases signal; rfl
  have same : advances (h.queue ++ h.deferred) = advances h.queue :=
    none _ fun e signal => by cases e <;> cases signal; rfl
  refine ⟨held.ownership, held.guarded, by simp, fun early => ?_, fun run => ?_⟩
  · change _ ∧ (h.queue ++ h.deferred).filter Event.isUevent = []
    rw [uevents]
    exact held.quiet early
  · change ∃ told, _ ∧ advances told = advances taken ++ advances (h.queue ++ h.deferred)
    rw [same]
    exact held.telling run

/-- What leaves the guarded calls alone, brings no uevent before the name was acquired and continues
what the attempt told leaves everything in order. -/
theorem renew (held : Held name script taken acquired running o cs h)
    (ownership : h'.state.ownership = h.state.ownership)
    (guarded : h'.calls.filter Call.isGuarded = h.calls.filter Call.isGuarded)
    (deferred : h'.deferred = h.deferred)
    (quiet : h.state.source.watched = [] → h'.state.source.watched = [] ∧
      h'.queue.filter Event.isUevent = h.queue.filter Event.isUevent)
    (tells : running → ∀ told, Telling name script h.state.roster.bus.story told → ∃ more,
      Telling name script h'.state.roster.bus.story (told ++ more) ∧
        advances h'.queue = advances h.queue ++ advances more) :
    Held name script taken acquired running o cs h' where
  ownership := ownership.trans held.ownership
  guarded := guarded.trans held.guarded
  deferred := by
    rw [deferred]
    exact held.deferred
  quiet early := by
    obtain ⟨unwatched, none⟩ := held.quiet early
    obtain ⟨unwatched', same⟩ := quiet unwatched
    exact ⟨unwatched', same.trans none⟩
  telling run := by
    obtain ⟨told, telling, same⟩ := held.telling run
    obtain ⟨more, telling', queue⟩ := tells run told telling
    refine ⟨told ++ more, telling', ?_⟩
    rw [advances_append, same, queue, List.append_assoc]

theorem keeps_withinRoster {x : Act (Roster (Connection Value)) α}
    (abstains : x.Abstains Call.isGuarded Event.isUevent)
    (tells : running → ∀ h told, Telling name script h.state.bus.story told →
      x.Ends h fun _ h' => ∃ more,
      Telling name script h'.state.bus.story (told ++ more) ∧
        advances h'.queue = advances h.queue ++ advances more) :
    (Broker.withinRoster x : Act Service α).Keeps
      (Held name script taken acquired running o cs) := by
  intro h held
  refine Ends.within ?_
  obtain ⟨calls, uevents, deferred⟩ := abstains.ends_parts (h.withState h.state.roster)
  exact held.renew rfl calls deferred (fun unwatched => ⟨unwatched, uevents⟩)
    fun run told telling =>
    tells run _ told telling

theorem keeps_withinBus {x : Act (Connection Value) α}
    (abstains : x.Abstains Call.isGuarded Event.isUevent)
    (tells : running → x.Continues name script) :
    (Broker.withinBus x : Act Service α).Keeps (Held name script taken acquired running o cs) :=
  keeps_withinRoster (Roster.abstains_withinBus abstains) fun run _ told telling =>
    Ends.within (tells run _ told telling)

/-- What the source does tells nothing of the name; it must bring no uevent while it is not
watched. -/
theorem keeps_withinSource {x : Act MonitorSource α}
    (abstains : x.Abstains Call.isGuarded Event.isAdvance)
    (quiet : ∀ h, h.state.watched = [] → x.Ends h fun _ h' => h'.state.watched = [] ∧
      h'.queue.filter Event.isUevent = h.queue.filter Event.isUevent) :
    (Broker.withinSource x : Act Service α).Keeps
      (Held name script taken acquired running o cs) := by
  intro h held
  refine Ends.within ?_
  obtain ⟨calls, same, deferred⟩ := abstains.ends_parts (h.withState h.state.source)
  refine held.renew rfl calls deferred (quiet (h.withState h.state.source)) fun _ told telling => ?_
  refine ⟨[], ?_, same.trans (List.append_nil _).symm⟩
  rw [List.append_nil]
  exact telling

theorem keeps_poll : (Broker.withinSource MonitorSource.poll : Act Service Unit).Keeps
    (Held name script taken acquired running o cs) := by
  refine keeps_withinSource (MonitorSource.abstains_poll fun _ => rfl) fun h unwatched => ?_
  unfold MonitorSource.poll
  simp only [ends_bind, ends_state, unwatched]
  exact ⟨unwatched, rfl⟩

/-! ### What goes on beside the run -/

mutual

theorem keeps_stimulate (s : Stimulus) :
    (Service.stimulate s).Keeps (Held name script taken acquired running o cs) := by
  cases s with
  | uevents devices =>
    unfold Service.stimulate
    refine Keeps.bind (keeps_withinSource (abstains_update _) fun _ unwatched => ?_)
      fun _ => keeps_pure _
    exact ⟨unwatched, rfl⟩
  | signal number =>
    unfold Service.stimulate
    refine (keeps_ofExcept _).discard.bind fun _ => Keeps.ite ?_ (keeps_pure _)
    exact (keeps_defer number).bind fun _ => keeps_pure _
  | message m =>
    unfold Service.stimulate
    refine (keeps_ofExcept _).bind fun _ => Keeps.bind ?_ fun _ => keeps_pure _
    exact keeps_withinBus (Connection.abstains_deliver (fun _ is => is) m) fun _ =>
      Connection.continues_deliver m
  | hangup fault =>
    unfold Service.stimulate
    refine Keeps.bind (keeps_withinBus (abstains_update _) fun _ => ?_) fun _ => keeps_pure _
    exact Connection.continues_of_silent fun _ => Connection.silent_hangUp fault
  | read path property =>
    unfold Service.stimulate
    exact Run.keeps_readObject keeps_log path property
  | putDevice device =>
    unfold Service.stimulate
    exact (keeps_setBindings fun b => b.put device).bind fun _ => keeps_pure _
  | dropDevice path =>
    unfold Service.stimulate
    exact (keeps_setBindings fun b => b.drop path).bind fun _ => keeps_pure _
  | present devices =>
    unfold Service.stimulate
    refine Keeps.bind (keeps_withinSource (abstains_update _) fun _ unwatched => ?_)
      fun _ => keeps_pure _
    exact ⟨unwatched, rfl⟩
  | together stimuli =>
    unfold Service.stimulate
    exact (keeps_stimulateEach stimuli).bind fun _ => keeps_pure _

theorem keeps_stimulateEach (stimuli : List Stimulus) :
    (Service.stimulateEach stimuli).Keeps (Held name script taken acquired running o cs) := by
  cases stimuli with
  | nil =>
    unfold Service.stimulateEach
    exact keeps_pure ()
  | cons s rest =>
    unfold Service.stimulateEach
    exact (keeps_stimulate s).discard.bind fun _ => keeps_stimulateEach rest

end

theorem keeps_resume (attempt : Nat) :
    (Broker.withinBus (Connection.resume attempt) : Act Service Unit).Keeps
    (Held name script taken acquired running o cs) :=
  keeps_withinBus (Connection.abstains_resume (fun _ is => is) (fun _ is => is) attempt) fun _ =>
    Connection.continues_resume attempt

/-! ### What a run does as it stops -/

theorem abstains_stop (outcome : Outcome) :
    (Run.stop outcome).Abstains Call.isGuarded Event.isUevent := by
  have guarded : Only Call.isGuarded Call.isGuarded := fun _ is => is
  refine Abstains.bind (Broker.abstains_withinBus Connection.abstains_abandon) fun _ => ?_
  refine (Broker.abstains_destroyAll guarded).attempt.bind fun _ => ?_
  refine Abstains.bind (Broker.abstains_withinBus (Connection.abstains_beginRelease guarded))
    fun _ => ?_
  exact abstains_pure _

theorem keeps_stop (outcome : Outcome) :
    (Run.stop outcome).Keeps (Held name script taken acquired False o cs) := by
  have clears : (Broker.withinRoster Roster.clear : Act Service Unit).Keeps
      (Held name script taken acquired False o cs) :=
    keeps_withinRoster (Roster.abstains_clear fun _ is => is) False.elim
  have destroys :
      (Broker.destroyAll : Act Service Unit).Keeps (Held name script taken acquired False o cs) :=
    keeps_state.bind fun _ => Keeps.ite ((keeps_log _ _).bind fun _ => clears) clears
  refine Keeps.bind (keeps_withinBus Connection.abstains_abandon False.elim) fun _ => ?_
  refine destroys.attempt.bind fun _ => Keeps.bind ?_ fun _ => keeps_pure _
  exact keeps_withinBus (Connection.abstains_beginRelease fun _ is => is) False.elim

theorem keeps_finish (outcome : Outcome) (destroyed : Except Failure Unit)
    (request : Connection.Request) :
    (Run.finish outcome destroyed request).Keeps (Held name script taken acquired False o cs) := by
  have quiet (h : Host MonitorSource) (unwatched : h.state.watched = []) :
      MonitorSource.close.Ends h fun _ h' =>
        h'.state.watched = [] ∧ h'.queue.filter Event.isUevent = h.queue.filter Event.isUevent :=
    (MonitorSource.ends_close h).mono fun _ _ closing =>
      ⟨closing.unwatched unwatched, by rw [closing.quiet.2]⟩
  refine Keeps.bind (Keeps.attempt (keeps_withinBus ?_ False.elim)) fun _ => ?_
  · exact Connection.abstains_finishRelease (fun _ is => is) request
  · refine Keeps.bind (Keeps.attempt ?_) fun _ => keeps_pure _
    exact keeps_withinSource (x := MonitorSource.close) MonitorSource.abstains_close quiet

/-! ### What a run does to an event -/

/-- The run took the first event of its queue. -/
theorem withQueue {e : Event} {rest : List Event} (queue : h.queue = e :: rest)
    (held : Held name script taken acquired running o cs h) :
    Held name script (taken ++ [e]) acquired running o cs (h.withQueue rest) where
  ownership := held.ownership
  guarded := held.guarded
  deferred := held.deferred
  quiet early := by
    obtain ⟨unwatched, none⟩ := held.quiet early
    rw [queue] at none
    exact ⟨unwatched, List.filter_eq_nil_iff.2 fun u there =>
      List.filter_eq_nil_iff.1 none u (List.mem_cons_of_mem e there)⟩
  telling run := by
    obtain ⟨told, telling, same⟩ := held.telling run
    refine ⟨told, telling, ?_⟩
    rw [same, queue, advances_append, List.append_assoc]
    exact congrArg (advances taken ++ ·) (advances_append [e] rest)

/-- A state of the name that an event tells of. -/
theorem ends_follow (held : Held name script taken acquired running o cs h) (e : Event) :
    (Broker.follow e).Ends h fun r h₁ => r = .ok () ∧ h₁.calls = h.calls ∧ h₁.queue = h.queue ∧
      Held name script taken acquired running (e.ownership?.getD o) cs h₁ := by
  obtain ⟨records, followed⟩ := Broker.run_follow e h
  unfold Ends
  rw [followed]
  refine ⟨rfl, rfl, rfl, ?_, held.guarded, held.deferred, held.quiet, held.telling⟩
  exact congrArg e.ownership?.getD held.ownership

/-- Before the name was acquired no uevent is there to be handled. -/
theorem ends_pursue {e : Event} (held : Held name script taken acquired running o cs h)
    (early : ¬ acquired → e.isUevent = false ∧ e.isNameAcquired = false) :
    (Broker.pursue e).Ends h fun _ h' => h'.queue = h.queue ∧
      Held name script taken acquired running o (h'.calls.filter Call.isGuarded) h' := by
  have stays : Broker.Stays h ((Broker.pursue e).run h).2 := Broker.stays_pursue e h
  refine ⟨stays.queue, stays.ownership.trans held.ownership, rfl, ?_, fun soon => ?_, fun run => ?_⟩
  · rw [stays.deferred]
    exact held.deferred
  · obtain ⟨noUevent, other⟩ := early soon
    obtain ⟨-, source⟩ := Broker.idle_pursue noUevent other h
    rw [source, stays.queue]
    exact held.quiet soon
  · rw [stays.story, stays.queue]
    exact held.telling run

end Held

end GpioBroker
