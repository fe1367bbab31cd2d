import GpioBroker.Proofs.Verdict

/-!
# How a program ends

A program with bindings serves once, and ends with the status of the run or on account of its
failure; one without bindings does not serve.  Its status and the severity of what it logged agree:
one that ends with status zero logged no error and bids farewell at last, and one that ends with
status one logged an error and does not bid farewell.
-/

namespace GpioBroker

open Act

/-- Whether a record tells that something went wrong for good. -/
def LogRecord.IsGrave (r : LogRecord) : Prop :=
  r.level = Level.error.number ∨ r.level = Level.critical.number

theorem LogRecord.IsGrave.isLoud {r : LogRecord} (grave : r.IsGrave) : r.isLoud = true := by
  rcases grave with level | level <;> simp [LogRecord.isLoud, level, Level.number]

/-- A fault that a program reports itself: of the layout, of a system call, or of the roster. -/
def Fault.IsReported (f : Fault) : Prop := f.kind = .setup ∨ f.kind = .system ∨ f.kind = .roster

/-- How a service may serve from a host: it is not assembled, or its run ends after some moves in
whatever order they come, or a session of it ends that is seen step by step. -/
inductive Serves (script : BusScript) (h : Host Service) : Served → Prop
  | unassembled {e : Failure} {h' : Host Service}
      (failed : Service.assemble.run h = (.error e, h')) :
      Serves script h { host := h', outcome := .error e }
  | run {h' : Host Service} (moves : List Run.Move) {outcome : Outcome}
      (assembled : Service.assemble.run h = (.ok (), h'))
      (ended : ((Run.launch script h').after moves).phase = .ended outcome) :
      Serves script h
        { host := ((Run.launch script h').after moves).host, outcome := outcome.map .int }
  | session (stimuli : List Stimulus)
      (ended : (Session.serve script stimuli h).outcome.isSome = true) :
      Serves script h (Session.serve script stimuli h).served

/-- The loud records of a service that served tell of its outcome. -/
theorem Serves.attests {script : BusScript} {h : Host Service} {served : Served}
    (serves : Serves script h served) : ∃ first outcome,
      (first = h.loud ∨ first = h.loud ++ [Run.launching]) ∧ served.outcome = outcome.map .int ∧
        Attests first outcome served.loud := by
  have assembling : Service.assemble.Ends h fun _ h' => h'.loud = h.loud :=
    (Broker.murmurs_withinSource MonitorSource.murmurs_connect).ends_loud h
  unfold Ends at assembling
  cases serves with
  | @unassembled e h' failed =>
    rw [failed] at assembling
    refine ⟨h.loud, .error e, .inl rfl, rfl, ?_⟩
    rw [← assembling]
    exact .raises e
  | @run h' moves outcome assembled ended =>
    rw [assembled] at assembling
    have told := Run.isTold_after (Run.isTold_launch script h') moves
    unfold Run.IsTold at told
    rw [ended] at told
    refine ⟨_, outcome, .inr rfl, rfl, ?_⟩
    rw [← assembling]
    exact told
  | session stimuli ended =>
    obtain ⟨first, begins, told⟩ := Session.isTold_serve script stimuli h
    obtain ⟨outcome, is⟩ := Option.isSome_iff_exists.1 ended
    rw [is] at told
    refine ⟨first, outcome, begins, ?_, told⟩
    simp [Session.served, is]

namespace Program

/-- The record of a program that ends as it was asked to. -/
def farewell : LogRecord := ⟨Level.info.number, daemonName ++ " exiting cleanly"⟩

/-- The bindings, set up to open the devices of the device directory. -/
def installed (b : Bindings) : Bindings := { b with directory := .text deviceDirectory }

/-- The host from which a program serves. -/
def threshold (b : Bindings) (manager : DeviceManager) : Host Service :=
  ((do begin; reportBindings (installed b) : Act Service Unit).run
    { state := Service.initial (installed b) manager }).2

/-- What a program has in the end that has served. -/
def finished (served : Served) : Served where
  host := ((finish served.outcome).run served.host).2
  steps := served.steps
  outcome := ((finish served.outcome).run served.host).1

/-- What a program has in the end. -/
def concluded (bindings : Option Bindings) (manager : DeviceManager)
    (serve : Host Service → Served) : Served :=
  match bindings with
  | none =>
    let ended :=
      (do begin; withoutBindings : Act Service Value).run { state := Service.initial {} manager }
    { host := ended.2, outcome := ended.1 }
  | some b => finished (serve (threshold b manager))

/-- The report of a program that takes its command line. -/
theorem run_eq {argv : List Text} {debug : Bool}
    (accepted : Start.ofCommandLine argv = .running debug) (bindings : Option Bindings)
    (manager : DeviceManager) (serve : Host Service → Served) :
    run argv bindings manager serve =
      reportOf (LogSetup.configured debug) (concluded bindings manager serve).steps
        ((concluded bindings manager serve).outcome, (concluded bindings manager serve).host) := by
  unfold run
  rw [accepted]
  cases bindings <;> rfl

/-- What finishing after an outcome comes to: what the program ends with, and what it logs. -/
inductive Finishing (outcome : Outcome) : Except Failure Value → List LogRecord → Prop
  | cleanly (ok : outcome = .ok 0) : Finishing outcome (.ok (.int 0)) [farewell]
  | plainly {status : Int} (ok : outcome = .ok status) (other : status ≠ 0) :
      Finishing outcome (.ok (.int status)) []
  | reported {e : Failure} {r : LogRecord} (failed : outcome = .error e)
      (reported : e.fault.IsReported)
      (grave : r.IsGrave) : Finishing outcome (.ok (.int 1)) [r]
  | raised {e : Failure} (failed : outcome = .error e) (unreported : ¬ e.fault.IsReported) :
      Finishing outcome (.error e) []

theorem ends_finish {σ : Type} (outcome : Outcome) (h : Host σ) :
    (finish (outcome.map .int)).Ends h fun r h' =>
      ∃ more, Finishing outcome r more ∧ h'.records = h.records ++ more := by
  cases outcome with
  | ok status =>
    by_cases zero : status = 0
    · subst zero
      exact ⟨_, .cleanly rfl, rfl⟩
    · have other : (Value.int status).wholeNumber? ≠ some 0 := by
        simpa [Value.wholeNumber?] using zero
      have plain : (finish ((.ok status : Outcome).map .int)).run h = (.ok (.int status), h) := by
        simp only [finish, Except.map, if_neg other]
        rfl
      unfold Ends
      rw [plain]
      exact ⟨[], .plainly rfl zero, (List.append_nil _).symm⟩
  | error e =>
    change (if _ then _ else _ : Act σ Value).Ends h _
    refine ends_ite (fun setup => ?_) fun setup => ends_ite (fun system => ?_) fun system =>
      ends_ite (fun roster => ?_) fun roster => ?_
    · exact ⟨_, .reported rfl (.inl setup) (.inl rfl), rfl⟩
    · exact ⟨_,
        .reported rfl (.inr (.inl (by simpa [Fault.isSystem] using system))) (.inl rfl), rfl⟩
    · exact ⟨_, .reported rfl (.inr (.inr roster)) (.inr rfl), rfl⟩
    · refine ⟨[], .raised rfl ?_, (List.append_nil _).symm⟩
      rintro (is | is | is)
      · exact setup is
      · exact system (by simp [Fault.isSystem, is])
      · exact roster is

theorem finishing_of_served {served : Served} {outcome : Outcome}
    (is : served.outcome = outcome.map .int) :
    ∃ more, Finishing outcome (finished served).outcome more ∧
      (finished served).records = served.records ++ more := by
  have ends := ends_finish outcome served.host
  rw [← is] at ends
  obtain ⟨more, finishing, said⟩ := ends
  refine ⟨more, finishing, ?_⟩
  unfold Served.records finished
  rw [said, List.append_assoc]

/-! ### Status and severity -/

/-- Records that open a run: none is grave, and none bids farewell. -/
def IsOpening (first : List LogRecord) : Prop :=
  ∀ r ∈ first, r.level = Level.info.number ∧ r ≠ farewell

/-- What is loud of a program when it begins to serve. -/
theorem loud_threshold (b : Bindings) (manager : DeviceManager) :
    (threshold b manager).loud = [⟨Level.info.number, "initiating " ++ daemonName⟩] := rfl

theorem isOpening_of_threshold {b : Bindings} {manager : DeviceManager} {first : List LogRecord}
    (begins : first = (threshold b manager).loud ∨
      first = (threshold b manager).loud ++ [Run.launching]) :
    IsOpening first := by
  rw [loud_threshold] at begins
  unfold IsOpening
  rcases begins with rfl | rfl
  · decide
  · decide

section Served

variable {first : List LogRecord} {served : Served}

theorem farewell_notMem_records {outcome : Outcome} (opening : IsOpening first)
    (told : Attests first outcome served.loud) : farewell ∉ served.records := by
  intro there
  have loud : farewell ∈ served.loud := List.mem_filter.2 ⟨there, by decide⟩
  rcases told.mem loud with first | error
  · exact (opening _ first).2 rfl
  · cases error

theorem not_isGrave_of_zero (opening : IsOpening first) (told : Attests first (.ok 0) served.loud) :
    ∀ r ∈ served.records, ¬ r.IsGrave := by
  intro r there grave
  have loud : r ∈ served.loud := List.mem_filter.2 ⟨there, grave.isLoud⟩
  rw [told.eq_of_zero] at loud
  have info := (opening r loud).1
  rcases grave with level | level
  · rw [info] at level
    cases level
  · rw [info] at level
    cases level

theorem exists_isGrave_of_one (told : Attests first (.ok 1) served.loud) :
    ∃ r ∈ served.records, r.IsGrave := by
  obtain ⟨r, loud, error⟩ := told.exists_error_of_one
  exact ⟨r, (List.mem_filter.1 loud).1, .inl error⟩

end Served

/-- The outcome that a program served with; without bindings it has none. -/
def servedOutcome? (bindings : Option Bindings) (manager : DeviceManager)
    (serve : Host Service → Served) :
    Option (Except Failure Value) := bindings.map fun b => (serve (threshold b manager)).outcome

/-- What a program ends with agrees with the outcome that it served with, if any, and with the
severity of its records. -/
structure IsCoherent (outcome? : Option (Except Failure Value)) (ended : Served) : Prop where
  /-- Status zero is that of the run. -/
  zero : ended.outcome = .ok (.int 0) ↔ outcome? = some (.ok (.int 0))
  /-- Status one is that of the run, or stands for missing bindings or for a failure that is
  reported. -/
  one : ended.outcome = .ok (.int 1) ↔
    outcome? = none ∨ outcome? = some (.ok (.int 1)) ∨ ∃ e, outcome? = some (.error e) ∧
      e.fault.IsReported
  /-- There is no other status. -/
  status : ∀ v, ended.outcome = .ok v → v = .int 0 ∨ v = .int 1
  /-- Any other failure leaves the program as it is. -/
  raised : ∀ e, outcome? = some (.error e) → ¬ e.fault.IsReported → ended.outcome = .error e
  /-- A program that ends with status zero logged nothing grave, and bids farewell at last. -/
  quiet : ended.outcome = .ok (.int 0) →
    (∀ r ∈ ended.records, ¬ r.IsGrave) ∧ ended.records.getLast? = some farewell
  /-- A program that ends with status one logged something grave, and does not bid farewell. -/
  grave : ended.outcome = .ok (.int 1) → (∃ r ∈ ended.records, r.IsGrave) ∧ farewell ∉ ended.records

namespace IsCoherent

variable {outcome? : Option (Except Failure Value)} {ended : Served}

theorem of_zero (same : outcome? = some (.ok (.int 0))) (is : ended.outcome = .ok (.int 0))
    (quiet : (∀ r ∈ ended.records, ¬ r.IsGrave) ∧ ended.records.getLast? = some farewell) :
    IsCoherent outcome? ended where
  zero := iff_of_true is same
  one := by simp [is, same]
  status v ok := .inl (Except.ok.inj (ok.symm.trans is))
  raised e failed _ := by simp [same] at failed
  quiet _ := quiet
  grave one := by simp [is] at one

theorem of_one (why : outcome? = none ∨ outcome? = some (.ok (.int 1)) ∨
      ∃ e, outcome? = some (.error e) ∧ e.fault.IsReported)
    (is : ended.outcome = .ok (.int 1))
    (grave : (∃ r ∈ ended.records, r.IsGrave) ∧ farewell ∉ ended.records) :
    IsCoherent outcome? ended where
  zero := by
    rw [is]
    refine iff_of_false (by simp) ?_
    rcases why with none | one | ⟨e, failed, -⟩
    · simp [none]
    · simp [one]
    · simp [failed]
  one := iff_of_true is why
  status v ok := .inr (Except.ok.inj (ok.symm.trans is))
  raised e failed unreported := by
    rcases why with none | one | ⟨e', failed', reported⟩
    · simp [none] at failed
    · simp [one] at failed
    · rw [failed'] at failed
      cases failed
      exact absurd reported unreported
  quiet zero := by simp [is] at zero
  grave _ := grave

theorem of_error {e : Failure} (failed : outcome? = some (.error e))
    (unreported : ¬ e.fault.IsReported) (is : ended.outcome = .error e) :
    IsCoherent outcome? ended where
  zero := by simp [is, failed]
  one := by simp [is, failed, unreported]
  status v ok := by simp [is] at ok
  raised e' failed' _ := by
    rw [failed] at failed'
    cases failed'
    exact is
  quiet zero := by simp [is] at zero
  grave one := by simp [is] at one

end IsCoherent

theorem isCoherent_finished {first : List LogRecord} {outcome : Outcome} {served : Served}
    (opening : IsOpening first) (told : Attests first outcome served.loud)
    (is : served.outcome = outcome.map .int) :
    IsCoherent (some served.outcome) (finished served) := by
  obtain ⟨more, finishing, records⟩ := finishing_of_served is
  have unsaid := farewell_notMem_records opening told
  rw [is]
  generalize ended : (finished served).outcome = r at finishing
  cases finishing with
  | cleanly ok =>
    subst ok
    refine .of_zero rfl ended ?_
    rw [records]
    refine ⟨fun r there => ?_, List.getLast?_concat⟩
    rcases List.mem_append.1 there with before | last
    · exact not_isGrave_of_zero opening told r before
    · rw [List.mem_singleton.1 last]
      rintro (level | level) <;> cases level
  | @plainly status ok other =>
    subst ok
    -- A run has no third status, so this is the loss of the name, which was told as an error.
    obtain rfl := told.status.resolve_left other
    refine .of_one (.inr (.inl rfl)) ended ?_
    rw [records, List.append_nil]
    exact ⟨exists_isGrave_of_one told, unsaid⟩
  | @reported e r failed reported grave =>
    subst failed
    refine .of_one (.inr (.inr ⟨e, rfl, reported⟩)) ended ?_
    rw [records]
    refine ⟨⟨r, List.mem_append_right _ List.mem_cons_self, grave⟩, fun there => ?_⟩
    rcases List.mem_append.1 there with before | last
    · exact unsaid before
    · rw [← List.mem_singleton.1 last] at grave
      rcases grave with level | level <;> cases level
  | raised failed unreported =>
    subst failed
    exact .of_error rfl unreported ended

/-- A program without bindings says so as an error. -/
theorem isCoherent_none (manager : DeviceManager) (serve : Host Service → Served) :
    IsCoherent none (concluded none manager serve) := by
  have records : (concluded none manager serve).records =
      [⟨Level.info.number, "initiating " ++ daemonName⟩,
        ⟨Level.error.number, Fault.noBindings.message⟩] := rfl
  refine .of_one (.inl rfl) rfl ?_
  rw [records]
  exact ⟨⟨_, List.mem_cons_of_mem _ List.mem_cons_self, .inl rfl⟩, by decide⟩

/-- Moves of a run that acquires its name, exposes two chips and is asked to end. -/
def sampleMoves : List Run.Move := [
  .resume 0, .resume 0, .resume 0, .take, .take, .stimulate (.signal (.int Signal.terminate)),
  .deliver, .take,
  .finish]

/-- Serves a run of those moves. -/
def serveSample (h : Host Service) : Served where
  host := ((Run.launch {} (Service.assemble.run h).2).after sampleMoves).host
  outcome := .ok (.int 0)

/-- A bus that refuses to give a name. -/
def refusingScript : BusScript where
  requestFault := some (.bus "org.freedesktop.DBus.Error.Failed" "")

/-- Serves a session over that bus. -/
def serveRefused (h : Host Service) : Served := (Session.serve refusingScript [] h).served

theorem serves_sample : Serves {} (threshold Run.sampleBindings Run.sampleManager)
    (serveSample (threshold Run.sampleBindings Run.sampleManager)) := by
  have assembled : Service.assemble.run (threshold Run.sampleBindings Run.sampleManager) =
      (.ok (), (Service.assemble.run (threshold Run.sampleBindings Run.sampleManager)).2) :=
    Prod.ext (by rfl) rfl
  have ended :
      ((Run.launch {}
        (Service.assemble.run (threshold Run.sampleBindings Run.sampleManager)).2).after
      sampleMoves).phase.outcome? = some (.ok 0) := by
    decide +kernel
  exact .run sampleMoves assembled (Run.Phase.eq_ended ended)

end Program

end GpioBroker
