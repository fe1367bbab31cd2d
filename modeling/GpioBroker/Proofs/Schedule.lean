import GpioBroker.Proofs.Interleaving

/-!
# The order of the service

The service goes on in an order of its own: the attempts to own the name, the uevents, the deferred
events, and then one event after another until the run stops and ends at one go.  That is one of the
orders in which its run may go on, so what holds of a run in every order holds of the service.
-/

namespace GpioBroker

open Act

theorem Broker.run_withinBus {α : Type} (x : Act (Connection Value) α) (h : Host Service) :
    (Broker.withinBus x : Act Service α).run h =
      ((x.run (h.withState h.state.roster.bus)).1,
        (x.run (h.withState h.state.roster.bus)).2.withState { h.state with
          roster :=
        { h.state.roster with bus := (x.run (h.withState h.state.roster.bus)).2.state } }) := by
  unfold Broker.withinBus Broker.withinRoster Roster.withinBus
  rw [run_within, run_within]
  rfl

namespace Connection

variable {ρ : Type} {h : Host (Connection ρ)}

theorem ends_abandon_ok : abandon.Ends h fun r _ => r = .ok () := by
  unfold abandon cancel
  simp only [ends_bind, ends_state]
  cases h.state.attempts[h.state.attempts.length - 1]? with
  | none => rfl
  | some phase => exact ends_ite (fun _ => rfl) fun _ => rfl

theorem ends_beginRelease_ok : beginRelease.Ends h fun r _ => ∃ request, r = .ok request := by
  unfold beginRelease
  simp only [ends_bind, ends_state]
  cases h.state.link with
  | none => exact ⟨_, rfl⟩
  | some number =>
    simp only [ends_bind, ends_update]
    refine ends_ite (fun _ => ?_) fun _ => ⟨_, rfl⟩
    rw [ends_bind]
    exact Ends.attempt ⟨_, rfl⟩

end Connection

namespace Run

/-- A release is its two halves also within the service. -/
theorem run_release {h h₁ h₂ : Host Service} {request : Connection.Request}
    {r : Except Failure Unit}
    (begun : (Broker.withinBus Connection.beginRelease).run h = (.ok request, h₁))
    (finished : (Broker.withinBus (Connection.finishRelease request)).run h₁ = (r, h₂)) :
    (Broker.withinBus Connection.release).run h = (r, h₂) := by
  rw [Broker.run_withinBus] at begun finished ⊢
  rw [Connection.run_release, run_bind]
  generalize Connection.beginRelease.run (h.withState h.state.roster.bus) = asked at begun ⊢
  obtain ⟨answer, h'⟩ := asked
  cases begun
  exact finished

/-- To conclude a run is to stop it and to end it at one go. -/
theorem run_conclude (outcome : Outcome) (h : Host Service) :
    ∃ destroyed request h₁ final h₂,
      (stop outcome).run h = (.ok (.releasing outcome destroyed request), h₁) ∧
        (finish outcome destroyed request).run h₁ = (.ok (.ended final), h₂) ∧
        (Supervisor.conclude outcome).run h = (final, h₂) := by
  obtain ⟨h₁, abandoned⟩ : ∃ h₁, (Broker.withinBus Connection.abandon : Act Service Unit).run h =
      (.ok (), h₁) := by
    rw [Broker.run_withinBus]
    exact ⟨_, Prod.ext Connection.ends_abandon_ok rfl⟩
  obtain ⟨destroyed, h₂, emptied⟩ : ∃ destroyed h₂, Broker.destroyAll.run h₁ = (destroyed, h₂) :=
    ⟨_, _, rfl⟩
  obtain ⟨request, h₃, begun⟩ : ∃ request h₃,
      (Broker.withinBus Connection.beginRelease : Act Service _).run h₂ = (.ok request, h₃) := by
    rw [Broker.run_withinBus]
    obtain ⟨request, ok⟩ := Connection.ends_beginRelease_ok (h := h₂.withState h₂.state.roster.bus)
    exact ⟨request, _, Prod.ext ok rfl⟩
  obtain ⟨released, h₄, finished⟩ : ∃ released h₄,
      (Broker.withinBus (Connection.finishRelease request)).run h₃ = (released, h₄) := ⟨_, _, rfl⟩
  obtain ⟨closed, h₅, shut⟩ : ∃ closed h₅,
      (Broker.withinSource UeventSource.close).run h₄ = (closed, h₅) := ⟨_, _, rfl⟩
  refine ⟨destroyed, request, h₃, settled outcome (settled destroyed (settled released closed)),
    h₅, ?_, ?_, ?_⟩
  · unfold stop
    simp only [run_bind, abandoned, run_attempt, emptied, begun, run_pure]
  · unfold finish
    simp only [run_bind, run_attempt, finished, shut, run_pure]
  · have torn : Supervisor.teardown.run h₁ = (settled destroyed (settled released closed), h₅) :=
      run_ensure_settled emptied (run_ensure_settled (run_release begun finished) shut)
    unfold Supervisor.conclude
    refine run_ensure_settled (run_ofOutcome outcome h) ?_
    have abandoned : (Broker.withinBus ObjectBus.abandon : Act Service Unit).run h = (.ok (), h₁) :=
      abandoned
    rw [run_bind, abandoned]
    exact torn

/-! ### Going on -/

/-- The moves of the run itself, and not of the world. -/
def Move.isOwn : Move → Bool
  | .stimulate _ | .post _ => false
  | _ => true

/-- A run comes to another by moves of its own. -/
def Reaches (run run' : Run) : Prop :=
  ∃ moves : List Move, (∀ m ∈ moves, m.isOwn = true) ∧ run.after moves = run'

variable {run run' run'' : Run}

theorem Reaches.refl (run : Run) : Reaches run run := ⟨[], by simp, rfl⟩

theorem Reaches.step (reaches : Reaches run run') (move : Move) (own : move.isOwn = true) :
    Reaches run (run'.step move) := by
  obtain ⟨moves, owned, rfl⟩ := reaches
  refine ⟨moves ++ [move], fun m hm => ?_, ?_⟩
  · rcases List.mem_append.1 hm with old | new
    · exact owned m old
    · obtain rfl := List.mem_singleton.1 new
      exact own
  · exact List.foldl_append ..

/-- What a move does beside the run comes to where the move comes to. -/
theorem keeps_reaches {x : Act Service Unit} (run : Run) (phase : Phase) (move : Move)
    (own : move.isOwn = true) (same : ∀ run : Run, run.step move = run.beside x) :
    x.Keeps fun h => Reaches run ⟨h, phase⟩ := by
  intro h reaches
  have moved := reaches.step move own
  rw [same] at moved
  exact moved

theorem keeps_reaches_resume (run : Run) (attempt : Nat) (b : Service) (phase : Phase) :
    (Connection.resume attempt).Keeps fun h => Reaches run
      ⟨h.withState { b with roster := { b.roster with bus := h.state } }, phase⟩ := by
  intro h reaches
  have moved := keeps_reaches run phase (.resume attempt) rfl (fun _ => rfl) _ reaches
  unfold Ends at moved
  rw [Broker.run_withinBus] at moved
  exact moved

/-- Letting the attempts go on is a number of moves. -/
theorem keeps_reaches_progress (run : Run) (phase : Phase) :
    (Broker.withinBus Connection.progress : Act Service Unit).Keeps fun h =>
      Reaches run ⟨h, phase⟩ := by
  intro h reaches
  have progress : (Connection.progress : Act (Connection Value) Unit).Keeps fun h' => Reaches run
      ⟨h'.withState { h.state with roster := { h.state.roster with bus := h'.state } }, phase⟩ := by
    have resume (attempt : Nat) := keeps_reaches_resume run attempt h.state phase
    refine keeps_state.bind fun c => Keeps.forM (fun attempt => ?_) _
    refine (resume attempt).bind fun _ => (resume attempt).bind fun _ => ?_
    exact (resume attempt).bind fun _ => resume attempt
  have ends := progress (h.withState h.state.roster.bus) reaches
  unfold Ends at ends ⊢
  rw [Broker.run_withinBus]
  exact ends

/-- How some events were taken, up to one at which the run stops. -/
inductive Taken (run : Run) (h : Host Service) : Except Failure (Option Int) → Prop
  | going (reaches : Reaches run ⟨h, .running⟩) : Taken run h (.ok none)
  | stopping (outcome : Outcome) {before : Host Service} (reaches : Reaches run ⟨before, .running⟩)
      (taken : Supervisor.takeEvent.run before = (outcome.map some, h)) :
      Taken run h (outcome.map some)

theorem ends_takeEvents (count : Nat) {h : Host Service} (reaches : Reaches run ⟨h, .running⟩) :
    (Supervisor.takeEvents count).Ends h fun r h' => Taken run h' r := by
  induction count generalizing h with
  | zero => exact .going reaches
  | succ count ih =>
    unfold Supervisor.takeEvents
    refine (ends_run Supervisor.takeEvent h).bind ?_ ?_
    · rintro (_ | status) h' taken
      · refine ih ?_
        have moved := reaches.step .take rfl
        change Reaches run (goOn ⟨h, .running⟩ take) at moved
        unfold goOn take at moved
        simp only [run_bind, run_attempt, taken, run_pure] at moved
        exact moved
      · exact .stopping (.ok status) reaches taken
    · intro e h' taken
      exact .stopping (.error e) reaches taken

/-- A run that takes the event at which it stops comes to what concluding it comes to. -/
theorem reaches_conclude {h h' : Host Service} {outcome : Outcome}
    (reaches : Reaches run ⟨h, .running⟩)
    (taken : Supervisor.takeEvent.run h = (outcome.map some, h')) :
    Reaches run ⟨((Supervisor.conclude outcome).run h').2,
      .ended ((Supervisor.conclude outcome).run h').1⟩ := by
  obtain ⟨destroyed, request, h₁, final, h₂, stopped, finished, concluded⟩ :=
    run_conclude outcome h'
  have stopping : take.run h = (.ok (.releasing outcome destroyed request), h₁) := by
    unfold take
    cases outcome with
    | ok status => simpa [run_bind, taken, Except.map] using stopped
    | error e => simpa [run_bind, taken, Except.map] using stopped
  have moved := (reaches.step .take rfl).step .finish rfl
  change Reaches run ((goOn ⟨h, .running⟩ take).step .finish) at moved
  unfold goOn at moved
  rw [stopping] at moved
  change Reaches run (goOn ⟨h₁, _⟩ (finish outcome destroyed request)) at moved
  unfold goOn at moved
  rw [finished] at moved
  rw [concluded]
  exact moved

/-- How far a run has come that was let go on. -/
def Phase.following : Option Outcome → Phase
  | none => .running
  | some outcome => .ended outcome

/-- Where the service goes on to is where its run may come to by itself. -/
theorem ends_advance (h : Host Service) :
    Service.advance.Ends h fun r h' => ∀ outcome, r = .ok outcome →
      Reaches ⟨h, .running⟩ ⟨h', .following outcome⟩ := by
  have polls : (Broker.withinSource UeventSource.poll : Act Service Unit).Keeps fun h' =>
      Reaches ⟨h, .running⟩ ⟨h', .running⟩ :=
    keeps_reaches _ _ .poll rfl fun _ => rfl
  have delivers : (Act.deliver : Act Service Unit).Keeps fun h' =>
      Reaches ⟨h, .running⟩ ⟨h', .running⟩ :=
    keeps_reaches _ _ .deliver rfl fun _ => rfl
  unfold Service.advance Supervisor.advance
  refine (keeps_reaches_progress _ .running h (.refl _)).bind ?_
    fun e h' _ _ failed => by cases failed
  rintro _ h₁ reaches
  refine (polls h₁ reaches).bind ?_ fun e h' _ _ failed => by cases failed
  rintro _ h₂ reaches
  refine (delivers h₂ reaches).bind ?_ fun e h' _ _ failed => by cases failed
  rintro _ h₃ reaches
  rw [ends_bind, ends_waiting]
  dsimp only
  rw [ends_bind]
  refine Ends.attempt ((ends_takeEvents _ reaches).mono ?_)
  rintro r h₄ taken
  have concluded (outcome : Outcome) {before : Host Service}
      (reaches : Reaches ⟨h, .running⟩ ⟨before, .running⟩)
      (taken : Supervisor.takeEvent.run before = (outcome.map some, h₄)) :
      (some <$> Act.attempt (Supervisor.conclude outcome) : Act Service (Option Outcome)).Ends h₄
        fun r h' =>
          ∀ outcome, r = .ok outcome → Reaches ⟨h, .running⟩ ⟨h', .following outcome⟩ := by
    refine ends_map.2 (Ends.attempt fun outcome ok => ?_)
    cases ok
    exact reaches_conclude reaches taken
  cases taken with
  | going reaches =>
    intro outcome ok
    cases ok
    exact reaches
  | stopping outcome reaches taken =>
    cases outcome with
    | ok status => exact concluded (.ok status) reaches taken
    | error e => exact concluded (.error e) reaches taken

theorem Move.isTame_of_isOwn {move : Move} (own : move.isOwn = true) : move.IsTame := by
  cases move with
  | stimulate s => cases own
  | _ => trivial

/-- The accounts are in order whenever the service waits, and when its run has ended. -/
theorem isSound_advance {first : Nat} {fault : Option Fault} {custody : Custody} {h : Host Service}
    (sound : IsSound first fault custody ⟨h, .running⟩) :
    Service.advance.Ends h fun r h' => ∀ outcome, r = .ok outcome → ∃ custody',
      IsSound first fault custody' ⟨h', .following outcome⟩ ∧
        (custody.wasHeld → custody'.wasHeld) := by
  refine (ends_advance h).mono ?_
  rintro r h' reaches outcome ok
  obtain ⟨moves, own, same⟩ := reaches outcome ok
  rw [← same]
  exact isSound_after sound moves fun m hm => Move.isTame_of_isOwn (own m hm)

end Run

end GpioBroker
