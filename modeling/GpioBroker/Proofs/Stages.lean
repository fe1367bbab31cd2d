import GpioBroker.Proofs.Ownership

/-!
# The stages of owning the name

A run makes one attempt to own its name, and so it has one bus at most.  From the start of the
attempt to the end of the run the bus is to come, or stays away, or is held, or was given up; a bus
that was given up is disconnected once.
-/

namespace GpioBroker

open Act

variable {ρ : Type}

/-- What there is of a connection besides its objects and the state of its buses. -/
structure Outline where
  attempts : List OwnershipPhase
  link : Option Nat
  /-- The script of each bus, and how often it was disconnected. -/
  buses : List (BusScript × Nat)

/-- What has become of the bus of an attempt. -/
inductive Custody where
  /-- The attempt goes on and holds no bus yet. -/
  | coming
  /-- The attempt is over and never held a bus. -/
  | absent
  | held
  /-- The bus was given up, and was disconnected so many times. -/
  | released (disconnects : Nat)

/-- Whether a bus was ever held. -/
def Custody.wasHeld : Custody → Prop
  | .coming | .absent => False
  | .held | .released _ => True

/-- What may become of a bus while the run takes events: one that is to come may be held or stay
away. -/
inductive Custody.Leads : Custody → Custody → Prop
  | same (custody : Custody) : Leads custody custody
  | absent : Leads .coming .absent
  | held : Leads .coming .held

theorem Custody.Leads.wasHeld {custody custody' : Custody} (leads : custody.Leads custody')
    (held : custody.wasHeld) : custody'.wasHeld := by
  cases leads with
  | same => exact held
  | absent => exact held
  | held => trivial

/-- Once an attempt is over, a bus that was not given up is held or stays away. -/
theorem Custody.Leads.settled {custody custody' : Custody} (leads : custody.Leads custody')
    (taken : ∀ count, custody ≠ .released count) (late : custody' ≠ .coming) :
    custody' = .absent ∨ custody' = .held := by
  cases leads with
  | absent => exact .inl rfl
  | held => exact .inr rfl
  | same =>
    cases custody with
    | coming => exact absurd rfl late
    | absent => exact .inl rfl
    | held => exact .inr rfl
    | released count => exact absurd rfl (taken count)

/-- Whether the attempt is past the point where it holds its bus. -/
def OwnershipPhase.isPastLink : OwnershipPhase → Bool
  | .starting _ | .connecting _ => false
  | _ => true

/-- The stages of a connection with one attempt to own the name. -/
inductive Stage : Outline → Custody → Prop
  | starting {script : BusScript} (tame : script.IsTame) :
      Stage ⟨[.starting script], none, []⟩ .coming
  | connecting {script : BusScript} (tame : script.IsTame) :
      Stage ⟨[.connecting 0], none, [(script, 0)]⟩ .coming
  | absent {phase : OwnershipPhase} {buses} (spent : phase.isLive = false)
      (tame : ∀ b ∈ buses, BusScript.IsTame b.1) : Stage ⟨[phase], none, buses⟩ .absent
  | held {script : BusScript} {phase} (past : phase.isPastLink = true) (tame : script.IsTame) :
      Stage ⟨[phase], some 0, [(script, 0)]⟩ .held
  | released {script : BusScript} {phase : OwnershipPhase} {count} (spent : phase.isLive = false)
      (tame : script.IsTame) : Stage ⟨[phase], none, [(script, count)]⟩ (.released count)

/-- No attempt goes on. -/
def Outline.IsOver (o : Outline) : Prop := ∀ phase ∈ o.attempts, phase.isLive = false

theorem Stage.tame {o : Outline} {custody : Custody} (stage : Stage o custody) :
    ∀ b ∈ o.buses, b.1.IsTame := by
  cases stage with
  | starting tame => simp
  | absent spent tame => exact tame
  | connecting tame => simpa using tame
  | held past tame => simpa using tame
  | released spent tame => simpa using tame

/-- A bus that is in use is held. -/
theorem Stage.wasHeld {o : Outline} {custody : Custody} (stage : Stage o custody) {number : Nat}
    (link : o.link = some number) : custody.wasHeld ∧ number = 0 := by
  cases stage with
  | held past tame =>
    cases link
    exact ⟨trivial, rfl⟩
  | starting => cases link
  | connecting => cases link
  | absent => cases link
  | released => cases link

namespace Connection

def outline (c : Connection ρ) : Outline :=
  ⟨c.attempts, c.link, c.buses.map fun b => (b.script, b.disconnects)⟩

variable {c c' : Connection ρ} {custody : Custody}

theorem outline_of_line (line : c'.line = c.line) : c'.outline = c.outline := by
  have bare (c : Connection ρ) : c.line.outline = c.outline := by
    simp [Connection.line, Connection.outline, MessageBus.bare]
  rw [← bare c', line, bare]

theorem isTame_of_stage (stage : Stage c.outline custody) : ∀ b ∈ c.buses, b.script.IsTame := by
  intro b hb
  exact stage.tame (b.script, b.disconnects) (List.mem_map_of_mem hb)

/-- A connection with a single bus. -/
theorem exists_bus_of_outline {attempts : List OwnershipPhase} {link : Option Nat}
    {script : BusScript} {count : Nat} (outline : c.outline = ⟨attempts, link, [(script, count)]⟩) :
    ∃ b, c.buses = [b] ∧ b.script = script ∧ b.disconnects = count := by
  have buses := congrArg Outline.buses outline
  obtain ⟨b, single, same⟩ := List.map_eq_singleton_iff.1 buses
  cases same
  exact ⟨b, single, rfl, rfl⟩

theorem outline_changeBus (c : Connection ρ) (number : Nat) {f : MessageBus ρ → MessageBus ρ}
    (same : ∀ b, (f b).script = b.script ∧ (f b).disconnects = b.disconnects) :
    (c.changeBus number f).outline = c.outline := by
  have buses : (c.buses.modify number f).map (fun b => (b.script, b.disconnects)) =
      c.buses.map fun b => (b.script, b.disconnects) := by
    refine List.ext_getElem? fun i => ?_
    rw [List.getElem?_map, List.getElem?_map, List.getElem?_modify]
    cases c.buses[i]? with
    | none => rfl
    | some b =>
      by_cases here : number = i
      · simp [here, same]
      · simp [here]
  exact congrArg (Outline.mk c.attempts c.link) buses

/-! ### What leaves the stage as it is -/

theorem isLoose_outline (o : Outline) :
    IsLoose fun h : Host (Connection ρ) => h.state.outline = o :=
  isLoose_of_state fun c : Connection ρ => c.outline = o

theorem keeps_outline_postLoss (o : Outline) (reason : LossReason) (detail : Text) :
    (postLoss reason detail).Keeps fun h : Host (Connection ρ) => h.state.outline = o :=
  keeps_state.bind fun _ => keeps_post (isLoose_outline o) _

theorem keeps_outline_hear (o : Outline) (m : Message) :
    (hear m).Keeps fun h : Host (Connection ρ) => h.state.outline = o := by
  refine keeps_state.bind fun c => (keeps_ofExcept _).bind fun _ => Keeps.ite ?_ (keeps_pure ())
  exact Keeps.bind (fun _ same => same) fun _ => keeps_outline_postLoss o _ _

theorem keeps_outline_deliver (o : Outline) (m : Message) :
    (deliver m).Keeps fun h : Host (Connection ρ) => h.state.outline = o :=
  keeps_state.bind fun _ => Keeps.forM (keeps_outline_hear o) _

theorem keeps_outline_hangUp (o : Outline) (fault : Option Fault) :
    (hangUp fault).Keeps fun h : Host (Connection ρ) => h.state.outline = o := by
  rintro h rfl
  refine outline_changeBus h.state _ fun b => ?_
  unfold MessageBus.hungUp
  cases b.hangup with
  | none => exact ⟨rfl, rfl⟩
  | some _ => exact ⟨rfl, rfl⟩

theorem isPastLink_of_over {phase : OwnershipPhase} (spent : phase.isLive = false) :
    phase.isPastLink = true := by
  cases phase with
  | starting script => cases spent
  | connecting bus => cases spent
  | _ => rfl

/-- A stage whose attempt ends now: its bus is held or stays away. -/
theorem exists_over_of_stage {o : Outline} (stage : Stage o custody) :
    ∃ phase link buses, o = ⟨[phase], link, buses⟩ ∧ ∃ custody', custody' ≠ .coming ∧
      custody.Leads custody' ∧
      ∀ last : OwnershipPhase, last.isLive = false → Stage ⟨[last], link, buses⟩ custody' := by
  cases stage with
  | starting tame =>
    exact ⟨_, _, _, rfl, .absent, nofun, .absent, fun _ spent => .absent spent (by simp)⟩
  | connecting tame =>
    exact ⟨_, _, _, rfl, .absent, nofun, .absent,
      fun _ spent => .absent spent (by simpa using tame)⟩
  | absent _ tame =>
    exact ⟨_, _, _, rfl, .absent, nofun, .same _, fun _ spent => .absent spent tame⟩
  | held _ tame =>
    exact ⟨_, _, _, rfl, .held, nofun, .same _,
      fun _ spent => .held (isPastLink_of_over spent) tame⟩
  | @released _ _ count _ tame =>
    exact ⟨_, _, _, rfl, .released count, nofun, .same _, fun _ spent => .released spent tame⟩

/-! ### The attempt goes on -/

variable {h : Host (Connection ρ)}

/-- An attempt that is over stays where it is. -/
theorem ends_resume_over {phase : OwnershipPhase} (attempts : h.state.attempts = [phase])
    (spent : phase.isLive = false) : (resume 0).Ends h fun _ h' => h'.state = h.state := by
  unfold resume
  simp only [ends_bind, ends_state, attempts]
  cases phase with
  | ended => rfl
  | cancelled => rfl
  | starting script => cases spent
  | connecting bus => cases spent
  | requesting bus => cases spent
  | waiting bus => cases spent

/-- An attempt that ends changes nothing else. -/
theorem ends_end {phase : OwnershipPhase} {link : Option Nat} {buses : List (BusScript × Nat)}
    (reason : LossReason) (detail : Text)
    (outline : h.state.outline = ⟨[phase], link, buses⟩) :
    (do postLoss reason detail; setPhase 0 .ended).Ends h fun _ h' =>
      h'.state.outline = Outline.mk [.ended] link buses := by
  have attempts := congrArg Outline.attempts outline
  unfold postLoss setPhase
  simp only [ends_bind, ends_state, ends_post, ends_update]
  change Outline.mk (h.state.attempts.set 0 .ended) h.state.outline.link h.state.outline.buses = _
  rw [outline]
  congr 1
  change h.state.attempts = [phase] at attempts
  rw [attempts]
  rfl

theorem ends_makeBus {script : BusScript} (tame : script.IsTame)
    (outline : h.state.outline = ⟨[.starting script], none, []⟩) :
    (makeBus 0 script).Ends h fun _ h' => ∃ custody, Stage h'.state.outline custody ∧
      Custody.coming.Leads custody := by
  unfold makeBus
  cases script.createFault with
  | some f =>
    refine (ends_end _ _ outline).mono ?_
    rintro _ h' same
    exact ⟨.absent, by rw [same]; exact .absent rfl (by simp), .absent⟩
  | none =>
    have attempts : h.state.attempts = [.starting script] := congrArg Outline.attempts outline
    have link : h.state.link = none := congrArg Outline.link outline
    have buses : h.state.buses = [] := List.map_eq_nil_iff.1 (congrArg Outline.buses outline)
    unfold setPhase
    simp only [ends_bind, ends_state, ends_note, ends_update, Connection.outline,
      attempts, link, buses]
    exact ⟨.coming, .connecting tame, .same _⟩

theorem ends_afterConnect {script : BusScript} (tame : script.IsTame)
    (outline : h.state.outline = ⟨[.connecting 0], none, [(script, 0)]⟩) :
    (afterConnect 0 0 script).Ends h fun _ h' => ∃ custody, Stage h'.state.outline custody ∧
      Custody.coming.Leads custody := by
  unfold afterConnect
  cases script.connectFault with
  | some f =>
    refine (ends_end _ _ outline).mono ?_
    rintro _ h' same
    exact ⟨.absent, by rw [same]; exact .absent rfl (by simpa using tame), .absent⟩
  | none =>
    have attempts : h.state.attempts = [.connecting 0] := congrArg Outline.attempts outline
    obtain ⟨b, single, rfl, unused⟩ := exists_bus_of_outline outline
    unfold setPhase
    simp only [ends_bind, ends_state, ends_note, ends_update, ends_post]
    refine ⟨.held, ?_, .held⟩
    simp only [Connection.outline, Connection.changeBus, attempts, single, List.modify_zero_cons,
      List.map_cons, List.map_nil, unused, List.set_cons_zero]
    exact .held rfl tame

theorem ends_afterRequest {script : BusScript} {phase : OwnershipPhase} (request : BusScript)
    (tame : script.IsTame) (outline : h.state.outline = ⟨[phase], some 0, [(script, 0)]⟩) :
    (afterRequest 0 request).Ends h fun _ h' => Stage h'.state.outline .held := by
  have ending {h : Host (Connection ρ)} (reason : LossReason) (detail : Text)
      (outline : h.state.outline = ⟨[phase], some 0, [(script, 0)]⟩) :
      (do postLoss reason detail; setPhase 0 .ended).Ends h fun _ h' =>
        Stage h'.state.outline .held :=
    (ends_end reason detail outline).mono fun _ _ same => by rw [same]; exact .held rfl tame
  have link : h.state.link = some 0 := congrArg Outline.link outline
  have attempts : h.state.attempts = [phase] := congrArg Outline.attempts outline
  have buses : h.state.buses.map (fun b => (b.script, b.disconnects)) = [(script, 0)] :=
    congrArg Outline.buses outline
  unfold afterRequest
  cases request.requestFault with
  | some f => exact ending _ _ outline
  | none =>
    refine ends_ite (fun _ => ?_) fun _ => ending _ _ outline
    unfold setPhase
    simp only [ends_bind, ends_update, ends_state, ends_post, link, ends_note, Connection.outline,
      attempts, buses]
    exact .held rfl tame

/-- Once the bus is held, an attempt that goes on or ends leaves it in use. -/
theorem ends_resume_held {script : BusScript} {phase : OwnershipPhase} (tame : script.IsTame)
    (past : phase.isPastLink = true)
    (outline : h.state.outline = ⟨[phase], some 0, [(script, 0)]⟩) :
    (resume 0).Ends h fun _ h' => Stage h'.state.outline .held := by
  have attempts : h.state.attempts[0]? = some phase := by
    have attempts : h.state.attempts = [phase] := congrArg Outline.attempts outline
    rw [attempts]
    rfl
  have still : Stage h.state.outline .held := by
    rw [outline]
    exact .held past tame
  unfold resume
  simp only [ends_bind, ends_state, attempts]
  cases phase with
  | starting script => cases past
  | connecting bus => cases past
  | requesting bus =>
    dsimp only
    cases h.state.bus? bus with
    | none => exact still
    | some b => exact ends_afterRequest _ tame outline
  | waiting bus =>
    dsimp only
    cases (h.state.bus? bus).bind MessageBus.hangup with
    | none => exact still
    | some fault =>
      have ended (reason : LossReason) (detail : Text) :=
        (ends_end reason detail outline).mono fun _ h' same =>
          (by rw [same]; exact .held rfl tame : Stage h'.state.outline .held)
      unfold afterHangup
      cases fault with
      | none => exact ended _ _
      | some f => exact ended _ _
  | ended => exact still
  | cancelled => exact still

/-- The attempt goes on from one stage to another. -/
theorem ends_resume_first (stage : Stage h.state.outline custody) :
    (resume 0).Ends h fun _ h' => ∃ custody', Stage h'.state.outline custody' ∧
      custody.Leads custody' := by
  generalize outline : h.state.outline = o at stage
  have attempts := congrArg Outline.attempts outline
  cases stage with
  | starting tame =>
    change h.state.attempts = _ at attempts
    unfold resume
    simp only [ends_bind, ends_state, attempts]
    exact ends_makeBus tame outline
  | connecting tame =>
    change h.state.attempts = _ at attempts
    obtain ⟨b, single, rfl, unused⟩ := exists_bus_of_outline outline
    unfold resume
    simp only [ends_bind, ends_state, attempts, Connection.bus?, single]
    exact ends_afterConnect tame outline
  | absent spent tame =>
    refine (ends_resume_over attempts spent).mono ?_
    rintro _ h' same
    rw [same, outline]
    exact ⟨.absent, .absent spent tame, .same _⟩
  | held past tame =>
    refine (ends_resume_held tame past outline).mono ?_
    rintro _ h' stage'
    exact ⟨.held, stage', .same _⟩
  | released spent tame =>
    refine (ends_resume_over attempts spent).mono ?_
    rintro _ h' same
    rw [same, outline]
    exact ⟨_, .released spent tame, .same _⟩

/-- Whichever attempt is to go on, there is only one, and it goes on from one stage to another. -/
theorem ends_resume (stage : Stage h.state.outline custody) (attempt : Nat) :
    (resume attempt).Ends h fun _ h' => ∃ custody', Stage h'.state.outline custody' ∧
      custody.Leads custody' := by
  cases attempt with
  | zero => exact ends_resume_first stage
  | succ other =>
    have none : h.state.attempts[other + 1]? = none := by
      obtain ⟨phase, link, buses, outline, -⟩ := exists_over_of_stage stage
      have attempts : h.state.attempts = [phase] := congrArg Outline.attempts outline
      rw [attempts]
      rfl
    unfold resume
    simp only [ends_bind, ends_state, none]
    exact ⟨custody, stage, .same _⟩

/-! ### Giving the bus up -/

theorem ends_abandon_phase {phase : OwnershipPhase} {link : Option Nat}
    {buses : List (BusScript × Nat)} (outline : h.state.outline = ⟨[phase], link, buses⟩) :
    abandon.Ends h fun r h' => r = .ok () ∧ ∃ last : OwnershipPhase, last.isLive = false ∧
      h'.state.outline = ⟨[last], link, buses⟩ := by
  have attempts : h.state.attempts = [phase] := congrArg Outline.attempts outline
  unfold abandon cancel
  simp only [ends_bind, ends_state, attempts]
  change Ends (if phase.isLive = true then setPhase 0 .cancelled else pure ()) h _
  refine ends_ite (fun _ => ?_) fun spent => ⟨rfl, phase, by simpa using spent, outline⟩
  unfold setPhase
  rw [ends_update]
  refine ⟨rfl, .cancelled, rfl, ?_⟩
  change Outline.mk (h.state.attempts.set 0 .cancelled) h.state.outline.link
    h.state.outline.buses = _
  rw [outline, attempts]
  rfl

/-- The attempt is cancelled: it is over, and its bus is held or stays away. -/
theorem ends_abandon (stage : Stage h.state.outline custody) :
    abandon.Ends h fun r h' => r = .ok () ∧ h'.state.outline.IsOver ∧ ∃ custody',
      Stage h'.state.outline custody' ∧ custody' ≠ .coming ∧ custody.Leads custody' := by
  obtain ⟨phase, link, buses, outline, custody', late, leads, ended⟩ := exists_over_of_stage stage
  refine (ends_abandon_phase outline).mono ?_
  rintro r h' ⟨rfl, last, spent, outline'⟩
  rw [outline']
  exact ⟨rfl, by simpa [Outline.IsOver] using spent, custody', ended last spent, late, leads⟩

/-- What is asked fits what has become of the bus. -/
inductive Asked : Request → Custody → Prop
  | nothing : Asked none .absent
  | asked {reply : Except Failure Unit} (expected : ∀ e, reply = .error e → e.fault.isBus = true) :
      Asked (some (0, reply)) (.released 0)

theorem ends_releaseName (number : Nat) (name : Text) :
    (withinBus number (MessageBus.releaseName name)).Ends h fun r h' => h'.state = h.state ∧
      ∀ e, r = .error e → ((h.state.bus? number).getD {}).script.releaseFault = some e.fault := by
  have same := setBus_self h.state number
  refine Ends.within ?_
  refine MessageBus.ends_releaseName_of (fun _ => ⟨same, fun e failed => ?_⟩)
    fun f fault => ⟨same, fun e failed => ?_⟩
  · cases failed
  · cases failed
    exact fault

/-- The first half of a release gives up the bus that is held, and asks it if it may. -/
theorem ends_beginRelease (stage : Stage h.state.outline custody) (spent : h.state.outline.IsOver)
    (settled : custody = .absent ∨ custody = .held) :
    beginRelease.Ends h fun r h' => ∃ request custody', r = .ok request ∧
      Stage h'.state.outline custody' ∧ Asked request custody' ∧
      (custody.wasHeld ↔ custody'.wasHeld) := by
  generalize outline : h.state.outline = o at stage spent
  have link := congrArg Outline.link outline
  cases stage with
  | starting => simp at settled
  | connecting => simp at settled
  | released => simp at settled
  | absent ended tame =>
    change h.state.link = none at link
    unfold beginRelease
    simp only [ends_bind, ends_state, link, ends_pure]
    exact ⟨none, .absent, rfl, by rw [outline]; exact .absent ended tame, .nothing, Iff.rfl⟩
  | @held script phase past tame =>
    change h.state.link = some 0 at link
    have ended : phase.isLive = false := spent phase (by simp)
    obtain ⟨b, single, rfl, unused⟩ := exists_bus_of_outline outline
    have given : Stage (Connection.outline { h.state with link := none }) (.released 0) := by
      change Stage ⟨h.state.outline.attempts, none, h.state.outline.buses⟩ _
      rw [outline]
      exact .released ended tame
    unfold beginRelease
    simp only [ends_bind, ends_state, link, ends_update]
    refine ends_ite (fun _ => ?_) fun _ => ?_
    · rw [ends_bind]
      refine Ends.attempt ((ends_releaseName 0 _).mono ?_)
      rintro reply h' ⟨same, fault⟩
      have given' : Stage h'.state.outline (.released 0) := by
        rw [same]
        exact given
      refine ⟨some (0, reply), .released 0, rfl, given', .asked ?_, Iff.rfl⟩
      intro e failed
      refine tame.release e.fault ?_
      rw [← fault e failed]
      simp [Connection.bus?, single]
    · refine ⟨some (0, .ok ()), .released 0, rfl, given, .asked fun e failed => ?_, Iff.rfl⟩
      cases failed

theorem ends_disconnect {phase : OwnershipPhase} {link : Option Nat} {script : BusScript}
    {count : Nat} (outline : h.state.outline = ⟨[phase], link, [(script, count)]⟩) :
    (withinBus 0 MessageBus.disconnect).Ends h fun r h' => r = .ok () ∧
      h'.state.outline = Outline.mk [phase] link [(script, count + 1)] := by
  obtain ⟨b, single, rfl, rfl⟩ := exists_bus_of_outline outline
  refine Ends.within ?_
  unfold MessageBus.disconnect
  simp only [ends_bind, ends_note, ends_update]
  refine ⟨trivial, ?_⟩
  have attempts : h.state.attempts = [phase] := congrArg Outline.attempts outline
  have link := congrArg Outline.link outline
  change h.state.link = _ at link
  simp only [Connection.outline, Host.withState, attempts, link, single, Connection.bus?]
  unfold MessageBus.hungUp
  cases h : b.hangup <;> simp [h]

/-- The second half of a release disconnects the bus that was given up. -/
theorem ends_finishRelease {request : Request} (asked : Asked request custody)
    (stage : Stage h.state.outline custody) :
    (finishRelease request).Ends h fun r h' => r = .ok () ∧ ∃ custody',
      Stage h'.state.outline custody' ∧ (custody' = .absent ∨ custody' = .released 1) ∧
      (custody.wasHeld ↔ custody'.wasHeld) := by
  cases asked with
  | nothing => exact ⟨rfl, .absent, stage, .inl rfl, Iff.rfl⟩
  | @asked reply expected =>
    generalize eq : h.state.outline = o at stage
    cases stage with
    | released spent tame =>
      unfold finishRelease
      simp only [ends_bind, ends_state]
      refine (ends_recover_ofOutcome expected fun f h' => ⟨rfl, rfl⟩).mono ?_
      rintro r h' ⟨rfl, same⟩
      have given : (outline { h'.state with isOwner := false }) = _ :=
        (congrArg outline same).trans eq
      simp only [ends_update]
      refine (ends_disconnect
        (h := { h' with state := { h'.state with isOwner := false } }) given).mono ?_
      rintro r h'' ⟨rfl, disconnected⟩
      rw [disconnected]
      exact ⟨rfl, .released 1, .released spent tame, .inr rfl, Iff.rfl⟩

end Connection

end GpioBroker
