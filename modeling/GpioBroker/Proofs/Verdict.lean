import GpioBroker.Proofs.Murmurs
import GpioBroker.Proofs.Schedule
import GpioBroker.Session

/-!
# What the records tell of an outcome

While a run takes events nothing loud is logged.  A run that ends with status one has told of the
loss of its name as an error; one that ends with status zero has told nothing; and one that fails
may have done either, since the teardown may fail after any outcome.  There are no other statuses.
This holds in whatever order the run and the world go on, and of a session, which goes on in the
service's own order.
-/

namespace GpioBroker

open Act

/-- The loud records of a run with an outcome, after the first ones. -/
inductive Attests (first : List LogRecord) : Outcome → List LogRecord → Prop
  /-- The run was asked to end. -/
  | quits : Attests first (.ok 0) first
  /-- The run lost its name. -/
  | loses (text : Text) : Attests first (.ok 1) (first ++ [⟨Level.error.number, text⟩])
  | raises (e : Failure) : Attests first (.error e) first
  /-- A failure took the place of another outcome. -/
  | fails {outcome : Outcome} {loud : List LogRecord} (told : Attests first outcome loud)
      (e : Failure) :
      Attests first (.error e) loud

namespace Attests

variable {first loud : List LogRecord} {outcome : Outcome}

theorem settled (told : Attests first outcome loud) (r : Except Failure Unit) :
    Attests first (settled outcome r) loud := by
  cases r with
  | ok _ => exact told
  | error e => exact .fails told _

/-- What was told before may be told with it. -/
theorem append (before : List LogRecord) (told : Attests first outcome loud) :
    Attests (before ++ first) outcome (before ++ loud) := by
  induction told with
  | quits => exact .quits
  | loses text =>
    rw [← List.append_assoc]
    exact .loses text
  | raises e => exact .raises e
  | fails _ e ih => exact .fails ih e

/-- Nothing is told but errors. -/
theorem mem (told : Attests first outcome loud) {r : LogRecord} (there : r ∈ loud) :
    r ∈ first ∨ r.level = Level.error.number := by
  induction told with
  | quits => exact .inl there
  | loses text =>
    rcases List.mem_append.1 there with before | said
    · exact .inl before
    · rw [List.mem_singleton.1 said]
      exact .inr rfl
  | raises e => exact .inl there
  | fails _ _ ih => exact ih there

theorem status {n : Int} (told : Attests first (.ok n) loud) : n = 0 ∨ n = 1 := by
  cases told with
  | quits => exact .inl rfl
  | loses text => exact .inr rfl

theorem eq_of_zero (told : Attests first (.ok 0) loud) : loud = first := by
  cases told with
  | quits => rfl

theorem exists_error_of_one (told : Attests first (.ok 1) loud) :
    ∃ r ∈ loud, r.level = Level.error.number := by
  cases told with
  | loses text => exact ⟨_, List.mem_append_right _ List.mem_cons_self, rfl⟩

end Attests

/-! ### Taking events -/

/-- What taking events comes to, with the loud records that are left. -/
inductive Taking (first : List LogRecord) : Except Failure (Option Int) → List LogRecord → Prop
  | goesOn : Taking first (.ok none) first
  | stops {status : Int} {loud : List LogRecord} (told : Attests first (.ok status) loud) :
      Taking first (.ok (some status)) loud
  | fails {e : Failure} {loud : List LogRecord} (told : Attests first (.error e) loud) :
      Taking first (.error e) loud

theorem Taking.loud_eq {first loud : List LogRecord} (taking : Taking first (.ok none) loud) :
    loud = first := by
  cases taking with
  | goesOn => rfl

namespace Supervisor

theorem ends_onSignal_taking (number : Value) (h : Host Service) :
    (onSignal number).Ends h fun r h' => Taking h.loud r h'.loud := by
  unfold onSignal
  cases Signal.name? number with
  | none => exact .fails (.raises _)
  | some name =>
    refine ((murmurs_log rfl _).ends_loud h).bind ?_ ?_
    · intro _ h' same
      rw [ends_pure, same]
      split
      · exact .stops .quits
      · exact .goesOn
    · intro e h' same
      rw [same]
      exact .fails (.raises e)

/-- Only the loss of the name is told as an error, and it ends the run with status one. -/
theorem ends_react_taking (e : Event) (h : Host Service) :
    (react e).Ends h fun r h' => Taking h.loud r h'.loud := by
  have handled (e : Event) :
      (Act.recover Fault.isNameLoss (do Broker.handle e; return none) fun f => do
      Act.log .error f.message
      return some 1 : Act Service (Option Int)).Ends h fun r h' => Taking h.loud r h'.loud := by
    have taken : (do Broker.handle e; return none : Act Service (Option Int)).Ends h fun r h' =>
        h'.loud = h.loud ∧ ∀ a, r = .ok a → a = none :=
      ((Broker.murmurs_handle e).ends_loud h).bind (fun _ h' same => ⟨same, by simp⟩)
        fun _ h' same => ⟨same, by simp⟩
    refine taken.recover ?_ ?_ ?_
    · rintro a h' ⟨same, none⟩
      rw [none a rfl, same]
      exact .goesOn
    · rintro e h' ⟨same, -⟩ -
      rw [same]
      exact .fails (.raises e)
    · rintro e h' ⟨same, -⟩ -
      refine (ends_log_loud rfl e.fault.message h').bind ?_ (by simp)
      rintro _ h'' ⟨-, said⟩
      rw [ends_pure, said, same]
      exact .stops (.loses _)
  cases e with
  | signal number => exact ends_onSignal_taking number h
  | uevent e => exact handled (.uevent e)
  | busAcquired => exact handled .busAcquired
  | nameAcquired name => exact handled (.nameAcquired name)
  | nameLost loss => exact handled (.nameLost loss)
  | other v => exact handled (.other v)

theorem ends_takeEvent_taking (h : Host Service) :
    takeEvent.Ends h fun r h' => Taking h.loud r h'.loud := by
  unfold takeEvent
  rw [ends_bind, ends_take?]
  split
  · exact .goesOn
  · exact ends_react_taking _ _

theorem ends_takeEvents_taking (count : Nat) (h : Host Service) :
    (takeEvents count).Ends h fun r h' => Taking h.loud r h'.loud := by
  induction count generalizing h with
  | zero => exact .goesOn
  | succ count ih =>
    refine (ends_takeEvent_taking h).bind ?_ ?_
    · rintro (_ | status) h' taking
      · rw [← taking.loud_eq]
        exact ih h'
      · exact taking
    · intro e h' taking
      cases taking with
      | fails told => exact .fails told

end Supervisor

/-! ### Runs -/

namespace Run

/-- What the loud records tell fits how far a run has come. -/
def Phase.IsTold (first loud : List LogRecord) : Phase → Prop
  | .running => loud = first
  | .releasing outcome _ _ | .ended outcome => Attests first outcome loud

/-- The loud records of a run tell how far it has come. -/
def IsTold (first : List LogRecord) (run : Run) : Prop := run.phase.IsTold first run.host.loud

variable {first : List LogRecord} {run : Run}

theorem isTold_beside {α : Type} {x : Act Service α} (murmurs : x.Murmurs)
    (told : run.IsTold first) :
    (run.beside x).IsTold first := by
  unfold IsTold beside
  rw [show (x.run run.host).2.loud = run.host.loud from murmurs.ends_loud run.host]
  exact told

theorem isTold_goOn {x : Act Service Phase}
    (ends : x.Ends run.host fun r h' => ∃ phase, r = .ok phase ∧ phase.IsTold first h'.loud) :
    (run.goOn x).IsTold first := by
  unfold Ends at ends
  unfold goOn
  obtain ⟨phase, ok, told⟩ := ends
  generalize x.run run.host = ran at ok told
  obtain ⟨r, h'⟩ := ran
  cases ok
  exact told

theorem murmurs_stop (outcome : Outcome) : (stop outcome).Murmurs := by
  refine (Broker.murmurs_withinBus Connection.murmurs_abandon).bind fun _ => ?_
  refine Broker.murmurs_destroyAll.attempt.bind fun _ => ?_
  exact (Broker.murmurs_withinBus Connection.murmurs_beginRelease).bind fun _ => murmurs_pure _

theorem ends_stop_isTold {outcome : Outcome} {h : Host Service}
    (told : Attests first outcome h.loud) :
    (stop outcome).Ends h fun r h' => ∃ phase, r = .ok phase ∧ phase.IsTold first h'.loud := by
  -- What the run stops for was told when the event was taken; to stop adds nothing to it.
  obtain ⟨destroyed, request, h₁, -, -, stopped, -, -⟩ := run_conclude outcome h
  have same := (murmurs_stop outcome).ends_loud h
  unfold Ends at same ⊢
  rw [stopped] at same ⊢
  refine ⟨_, rfl, ?_⟩
  rw [same]
  exact told

/-- However the teardown ends, it does not say so. -/
theorem ends_finish_attests {outcome : Outcome} {h : Host Service}
    (told : Attests first outcome h.loud) (destroyed : Except Failure Unit)
    (request : Connection.Request) :
    (finish outcome destroyed request).Ends h fun r h' =>
      ∃ final, r = .ok (.ended final) ∧ Attests first final h'.loud := by
  unfold finish
  rw [ends_bind]
  refine Ends.attempt
    (((Broker.murmurs_withinBus (Connection.murmurs_finishRelease request)).ends_loud h).mono ?_)
  intro released h₁ same₁
  dsimp only
  rw [ends_bind]
  have closing := (Broker.murmurs_withinSource MonitorSource.murmurs_close).ends_loud h₁
  refine Ends.attempt (closing.mono fun closed h₂ same₂ => ?_)
  rw [← same₁, ← same₂] at told
  exact ⟨_, rfl, told.settled _⟩

theorem ends_take_isTold {h : Host Service} (told : h.loud = first) :
    take.Ends h fun r h' => ∃ phase, r = .ok phase ∧ phase.IsTold first h'.loud := by
  unfold take
  rw [ends_bind]
  refine Ends.attempt ((Supervisor.ends_takeEvent_taking h).mono ?_)
  rw [told]
  rintro (e | _ | status) h' taking
  · cases taking with
    | fails told => exact ends_stop_isTold told
  · exact ⟨.running, rfl, taking.loud_eq⟩
  · cases taking with
    | stops told => exact ends_stop_isTold told

/-- Every move leaves loud records that tell how far the run has come. -/
theorem isTold_step (told : run.IsTold first) (move : Move) : (run.step move).IsTold first := by
  cases move with
  | stimulate s => exact isTold_beside (Service.murmurs_stimulate s) told
  | resume attempt =>
    exact isTold_beside (Broker.murmurs_withinBus (Connection.murmurs_resume attempt)) told
  | poll => exact isTold_beside (Broker.murmurs_withinSource MonitorSource.murmurs_poll) told
  | deliver => exact isTold_beside murmurs_deliver told
  | post e => exact isTold_beside (murmurs_post e) told
  | take =>
    obtain ⟨h, phase⟩ := run
    cases phase with
    | running => exact isTold_goOn (ends_take_isTold told)
    | releasing => exact told
    | ended => exact told
  | finish =>
    obtain ⟨h, phase⟩ := run
    cases phase with
    | running => exact told
    | releasing outcome destroyed request =>
      refine isTold_goOn ((ends_finish_attests told destroyed request).mono ?_)
      rintro r h' ⟨final, ok, told'⟩
      exact ⟨_, ok, told'⟩
    | ended => exact told

theorem isTold_after (told : run.IsTold first) (moves : List Move) :
    (run.after moves).IsTold first := by
  induction moves generalizing run with
  | nil => exact told
  | cons move moves ih => exact ih (isTold_step told move)

/-- A run that is launched from a host, with an attempt to own the name over a bus with a script. -/
def launch (script : BusScript) (h : Host Service) : Run where
  host := ((do
    Broker.withinBus (Connection.begin script)
    Act.log .info (daemonName ++ " started") : Act Service Unit).run h).2

/-- The record of a run that is launched. -/
def launching : LogRecord := ⟨Level.info.number, daemonName ++ " started"⟩

theorem isTold_launch (script : BusScript) (h : Host Service) :
    (launch script h).IsTold (h.loud ++ [launching]) := by
  have records : (launch script h).host.records = h.records ++ [launching] := rfl
  change (launch script h).host.loud = _
  rw [Host.loud, records, List.filter_append]
  rfl

end Run

/-! ### Sessions -/

namespace Session

open Run

variable {first : List LogRecord}

theorem ends_conclude_attests {outcome : Outcome} {h : Host Service}
    (told : Attests first outcome h.loud) :
    (Supervisor.conclude outcome).Ends h fun r h' => Attests first r h'.loud := by
  obtain ⟨destroyed, request, h₁, final, h₂, stopped, finished, concluded⟩ := run_conclude outcome h
  have stops := (murmurs_stop outcome).ends_loud h
  unfold Ends at stops ⊢
  rw [stopped] at stops
  rw [← stops] at told
  have finishes := ends_finish_attests told destroyed request
  unfold Ends at finishes
  rw [finished] at finishes
  obtain ⟨_, ok, told⟩ := finishes
  cases ok
  rw [concluded]
  exact told

/-- What the loud records tell fits how a session stands. -/
def IsTold (first loud : List LogRecord) : Option Outcome → Prop
  | none => loud = first
  | some outcome => Attests first outcome loud

/-- What only murmurs does not change what is told, unless it fails. -/
theorem isTold_bind {α : Type} {x : Act Service α} (murmurs : x.Murmurs)
    {k : α → Act Service (Option Outcome)} {h : Host Service} (told : h.loud = first)
    (next : ∀ a h', h'.loud = first →
      (k a).Ends h' fun r h'' => IsTold first h''.loud (outcomeOf r)) :
    (x >>= k).Ends h fun r h' => IsTold first h'.loud (outcomeOf r) := by
  refine (murmurs.ends_loud h).bind (fun a h' same => next a h' (same.trans told))
    fun e h' same => ?_
  rw [same, told]
  exact .raises e

/-- What is told when the service goes on. -/
theorem ends_advance_isTold {h : Host Service} (told : h.loud = first) :
    Service.advance.Ends h fun r h' => IsTold first h'.loud (outcomeOf r) := by
  unfold Service.advance Supervisor.advance
  refine isTold_bind (Broker.murmurs_withinBus Connection.murmurs_progress) told
    fun _ h₁ told₁ => ?_
  refine isTold_bind (Broker.murmurs_withinSource MonitorSource.murmurs_poll) told₁
    fun _ h₂ told₂ => ?_
  refine isTold_bind murmurs_deliver told₂ fun _ h₃ told₃ => ?_
  rw [ends_bind, ends_waiting]
  dsimp only
  rw [ends_bind]
  refine Ends.attempt ((Supervisor.ends_takeEvents_taking _ h₃).mono ?_)
  rw [told₃]
  have concludes {outcome : Outcome} {h : Host Service} (told : Attests first outcome h.loud) :
      (some <$> Act.attempt (Supervisor.conclude outcome) : Act Service (Option Outcome)).Ends h
        fun r h' => IsTold first h'.loud (outcomeOf r) :=
    ends_map.2 (Ends.attempt (ends_conclude_attests told))
  rintro (e | _ | status) h' taking
  · cases taking with
    | fails told => exact concludes told
  · exact taking.loud_eq
  · cases taking with
    | stops told => exact concludes told

theorem IsTold.append {loud : List LogRecord} {outcome : Option Outcome}
    (told : IsTold first loud outcome) (before : List LogRecord) :
    IsTold (before ++ first) (before ++ loud) outcome := by
  cases outcome with
  | none =>
    obtain rfl := told
    rfl
  | some outcome => exact Attests.append before told

end Session

/-- All that was logged up to the end of serving, in the steps that were seen and after them. -/
def Served.records (s : Served) : List LogRecord :=
  (s.steps.flatMap fun step => step.host.records) ++ s.host.records

def Served.loud (s : Served) : List LogRecord := s.records.filter LogRecord.isLoud

namespace Session

open Run

variable {first : List LogRecord}

/-- The loud records of the steps that were seen of a session. -/
def seen (s : Session) : List LogRecord := s.steps.flatMap fun step => step.host.loud

theorem loud_served (s : Session) : s.served.loud = s.seen ++ s.host.loud := by
  simp [Served.loud, Served.records, served, seen, Host.loud, List.filter_flatMap]

/-- What a session goes on to tell after what was seen of it. -/
theorem isTold_advance {s : Session} {h : Host Service} (told : s.seen ++ h.loud = first) :
    Service.advance.Ends h fun r h' => IsTold first (s.seen ++ h'.loud) (outcomeOf r) := by
  rw [← told]
  exact (ends_advance_isTold rfl).mono fun r h' told => told.append s.seen

/-- What a session tells that stood at a host when the service went on. -/
theorem isTold_stepped {s : Session} {h : Host Service} (told : s.seen ++ h.loud = first)
    (response : Option (Except Failure Response)) :
    let went := Service.advance.run h
    let stepped : Session :=
      { host := cleared went.2
        steps := s.steps ++ [{ response, isAssembled := true, host := went.2 }]
        outcome := outcomeOf went.1 }
    IsTold first stepped.served.loud stepped.outcome := by
  intro went stepped
  -- The host is cleared, and its records are those of the step that was added.
  have all : stepped.served.loud = s.seen ++ went.2.loud := by
    rw [loud_served]
    simp [seen, stepped, cleared, Host.loud]
  rw [all]
  exact isTold_advance told

theorem isTold_stimulate {s : Session} (told : IsTold first s.served.loud s.outcome)
    (stimulus : Stimulus) :
    IsTold first (s.stimulate stimulus).served.loud (s.stimulate stimulus).outcome := by
  unfold stimulate
  split
  · exact told
  · rename_i going
    rw [going, loud_served] at told
    -- The stimulus itself is murmured, so only the going on counts.
    have same : ((Service.stimulate stimulus).run s.host).2.loud = s.host.loud :=
      (Service.murmurs_stimulate stimulus).ends_loud s.host
    rw [← same] at told
    exact isTold_stepped told _

theorem isTold_terminate {s : Session} (told : IsTold first s.served.loud s.outcome) :
    IsTold first s.terminate.served.loud s.terminate.outcome := by
  unfold terminate
  split
  · exact told
  · rename_i going
    rw [going, loud_served] at told
    have same :
        ((Service.stimulate (.signal (.int Signal.terminate))).run s.host).2.loud = s.host.loud :=
      (Service.murmurs_stimulate _).ends_loud s.host
    rw [← same] at told
    rw [loud_served]
    exact isTold_advance told

theorem isTold_start (script : BusScript) (h : Host Service) : ∃ first,
    (first = h.loud ∨ first = h.loud ++ [launching]) ∧
      IsTold first (start script h).served.loud (start script h).outcome := by
  have assembled : Service.assemble.Ends h fun _ h' => h'.loud = h.loud :=
    (Broker.murmurs_withinSource MonitorSource.murmurs_connect).ends_loud h
  unfold Ends at assembled
  unfold start
  generalize Service.assemble.run h = ran at assembled
  obtain ⟨e | _, h₁⟩ := ran
  · refine ⟨h.loud, .inl rfl, ?_⟩
    have all : (seen { host := cleared h₁, steps := [⟨none, false, h₁⟩] }) ++
      (cleared h₁).loud = h.loud := by
      rw [← assembled]
      simp [seen, cleared, Host.loud]
    rw [loud_served, ← all]
    exact .raises e
  · have launched : (launch script h₁).host.loud = h.loud ++ [launching] := by
      rw [← assembled]
      exact isTold_launch script h₁
    exact ⟨_, .inr rfl, isTold_stepped (s := { host := h₁ }) launched none⟩

/-- Whatever a session was stimulated with, its loud records tell how it stands. -/
theorem isTold_serve (script : BusScript) (stimuli : List Stimulus) (h : Host Service) : ∃ first,
    (first = h.loud ∨ first = h.loud ++ [launching]) ∧
      IsTold first (serve script stimuli h).served.loud (serve script stimuli h).outcome := by
  obtain ⟨first, begins, told⟩ := isTold_start script h
  refine ⟨first, begins, isTold_terminate ?_⟩
  generalize start script h = s at told ⊢
  induction stimuli generalizing s with
  | nil => exact told
  | cons stimulus stimuli ih => exact ih _ (isTold_stimulate told stimulus)

end Session

end GpioBroker
