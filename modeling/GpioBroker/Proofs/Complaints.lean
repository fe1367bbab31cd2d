import GpioBroker.Proofs.Ledger
import GpioBroker.Proofs.Neutrality
import GpioBroker.Proofs.Reading
import GpioBroker.UeventSource.Monitor

/-!
# Complaints of the broker

The broker complains that a chip was added twice or removed while absent.  As long as nothing around
it fails with such a complaint or with a missing key, every complaint that comes out of an operation
is true: the device is exposed when it is to be added, whether it was asked for, reported or listed,
and it is not when it is to be removed.  No addition finds the path of its object taken, or its
device exposed when it comes to enter the record.
-/

namespace GpioBroker

open Act

/-! ### The scripts of the buses -/

theorem MessageBus.script_hungUp {ρ : Type} (b : MessageBus ρ) (fault : Option Fault) :
    (b.hungUp fault).script = b.script := by
  unfold hungUp
  cases b.hangup <;> rfl

namespace Connection

variable {ρ : Type}

/-- The buses that were made and those to be made have only neutral faults. -/
structure HasNeutralScripts (c : Connection ρ) : Prop where
  buses : ∀ b ∈ c.buses, b.script.IsNeutral
  starting : ∀ script, .starting script ∈ c.attempts → script.IsNeutral

theorem HasNeutralScripts.of_line {c c' : Connection ρ} (neutral : c.HasNeutralScripts)
    (line : c'.line = c.line) : c'.HasNeutralScripts where
  buses b hb := by
    obtain ⟨b', hb', same⟩ := exists_script_of_line line hb
    rw [← same]
    exact neutral.buses b' hb'
  starting script there := by
    have attempts : c'.attempts = c.attempts := congrArg (fun c => c.attempts) line
    rw [attempts] at there
    exact neutral.starting script there

/-- The scripts stay neutral when nothing but buses with the same scripts changes. -/
theorem HasNeutralScripts.changeBus {c : Connection ρ} (neutral : c.HasNeutralScripts)
    (number : Nat) {f : MessageBus ρ → MessageBus ρ}
    (keeps : ∀ b, b.script.IsNeutral → (f b).script.IsNeutral) :
    (c.changeBus number f).HasNeutralScripts where
  buses b hb := by
    obtain ⟨i, there⟩ := List.mem_iff_getElem?.1 hb
    change (c.buses.modify number f)[i]? = some b at there
    rw [List.getElem?_modify] at there
    obtain ⟨b', found, rfl⟩ := Option.map_eq_some_iff.1 there
    have old := neutral.buses b' (List.mem_of_getElem? found)
    split
    · exact keeps b' old
    · exact old
  starting := neutral.starting

theorem neutral_setPhase (attempt : Nat) {phase : OwnershipPhase}
    (later : ∀ script, phase ≠ .starting script) :
    (setPhase attempt phase : Act (Connection ρ) Unit).Keeps fun h =>
      h.state.HasNeutralScripts := by
  intro h neutral
  refine ⟨neutral.buses, fun script there => ?_⟩
  rcases List.mem_or_eq_of_mem_set there with old | new
  · exact neutral.starting script old
  · exact absurd new.symm (later script)

/-- What leaves the buses and the attempts alone leaves the scripts alone. -/
theorem neutral_update {f : Connection ρ → Connection ρ} (buses : ∀ c, (f c).buses = c.buses)
    (attempts : ∀ c, (f c).attempts = c.attempts) :
    (update f).Keeps fun h => h.state.HasNeutralScripts := by
  intro h neutral
  refine ⟨?_, ?_⟩
  · change ∀ b ∈ (f h.state).buses, _
    rw [buses]
    exact neutral.buses
  · change ∀ script, _ ∈ (f h.state).attempts → _
    rw [attempts]
    exact neutral.starting

theorem neutral_changeBus (number : Nat) {f : MessageBus ρ → MessageBus ρ}
    (keeps : ∀ b, b.script.IsNeutral → (f b).script.IsNeutral) :
    (update fun c : Connection ρ => c.changeBus number f).Keeps fun h =>
      h.state.HasNeutralScripts :=
  fun _ neutral => neutral.changeBus number keeps

theorem upholds_neutralScripts :
    Upholds fun h : Host (Connection ρ) => h.state.HasNeutralScripts where
  loose := isLoose_of_state _
  note _ _ := fun _ neutral => neutral
  ended attempt phase spent := neutral_setPhase attempt fun script same => by
    rw [same] at spent
    cases spent

theorem neutral_makeBus (attempt : Nat) {script : BusScript} (neutral : script.IsNeutral) :
    (makeBus attempt script : Act (Connection ρ) Unit).Keeps fun h =>
      h.state.HasNeutralScripts := by
  unfold makeBus
  cases script.createFault with
  | some f => exact upholds_neutralScripts.finish attempt _ _
  | none =>
    refine keeps_state.bind fun c => (upholds_neutralScripts.note _ fun _ => rfl).bind fun _ => ?_
    refine (upholds_neutralScripts.note _ fun _ => rfl).bind fun _ => Keeps.bind ?_ fun _ => ?_
    · intro h scripts
      refine ⟨fun b hb => ?_, scripts.starting⟩
      rcases List.mem_append.1 hb with old | new
      · exact scripts.buses b old
      · obtain rfl := List.mem_singleton.1 new
        exact neutral
    · exact neutral_setPhase attempt (by simp)

theorem neutral_begin {script : BusScript} (neutral : script.IsNeutral) :
    (begin script : Act (Connection ρ) Unit).Keeps fun h => h.state.HasNeutralScripts := by
  intro h scripts
  refine ⟨scripts.buses, fun script' there => ?_⟩
  rcases List.mem_append.1 there with old | new
  · exact scripts.starting script' old
  · cases List.mem_singleton.1 new
    exact neutral

/-- An attempt makes its bus with the script that it began with. -/
theorem neutral_resume (attempt : Nat) :
    (resume attempt : Act (Connection ρ) Unit).Keeps fun h => h.state.HasNeutralScripts := by
  intro h scripts
  unfold resume
  simp only [ends_bind, ends_state]
  split
  · rename_i script there
    exact neutral_makeBus attempt (scripts.starting script (List.mem_of_getElem? there)) h scripts
  · split
    · refine upholds_neutralScripts.afterConnect attempt _ _ ?_ ?_ ?_ h scripts
      · exact neutral_update (fun _ => rfl) fun _ => rfl
      · exact neutral_changeBus _ fun _ neutral => neutral
      · exact neutral_setPhase attempt (by simp)
    · exact scripts
  · split
    · refine upholds_neutralScripts.afterRequest attempt _ ?_ (fun bus => ?_) h scripts
      · exact neutral_update (fun _ => rfl) fun _ => rfl
      · exact neutral_setPhase attempt (by simp)
    · exact scripts
  · split
    · exact upholds_neutralScripts.afterHangup attempt _ h scripts
    · exact scripts
  · exact scripts

theorem neutral_deliver (m : Message) :
    (deliver m : Act (Connection ρ) Unit).Keeps fun h => h.state.HasNeutralScripts :=
  upholds_neutralScripts.deliver m (neutral_update (fun _ => rfl) fun _ => rfl)

theorem neutral_hangUp (fault : Option Fault) :
    (hangUp fault : Act (Connection ρ) Unit).Keeps fun h => h.state.HasNeutralScripts := by
  intro h scripts
  refine scripts.changeBus _ fun b neutral => ?_
  rwa [MessageBus.script_hungUp]

theorem neutral_withinBus {α : Type} {number : Nat} {x : Act (MessageBus ρ) α}
    (keeps : x.Keeps fun h => h.state.script.IsNeutral) :
    (withinBus number x).Keeps fun h => h.state.HasNeutralScripts := by
  intro h scripts
  have bus : ((h.state.bus? number).getD {}).script.IsNeutral := by
    cases there : h.state.bus? number with
    | none => exact ⟨nofun, nofun⟩
    | some b => exact scripts.buses b (List.mem_of_getElem? there)
  refine Ends.within ((keeps (h.withState ((h.state.bus? number).getD {})) bus).mono ?_)
  refine fun r h' neutral => ⟨fun b hb => ?_, scripts.starting⟩
  rcases List.mem_or_eq_of_mem_set hb with old | rfl
  · exact scripts.buses b old
  · exact neutral

theorem neutral_release :
    (release : Act (Connection ρ) Unit).Keeps fun h => h.state.HasNeutralScripts := by
  refine keeps_release_of ?_ fun request => ?_
  · refine keeps_beginRelease_of (neutral_update (fun _ => rfl) fun _ => rfl) fun number name => ?_
    refine neutral_withinBus
      (Keeps.bind (fun _ neutral => neutral) fun _ => keeps_state.bind fun _ => ?_)
    exact keeps_failing _
  · refine keeps_finishRelease_of (keeps_log (isLoose_of_state _)) ?_ (fun number => ?_) request
    · exact neutral_update (fun _ => rfl) fun _ => rfl
    · refine neutral_withinBus (Keeps.bind (fun _ neutral => neutral) fun _ b neutral => ?_)
      change (b.state.hungUp none).script.IsNeutral
      rwa [MessageBus.script_hungUp]

end Connection

/-- The source has only neutral faults as long as it satisfies `P`, and it goes on satisfying it. -/
structure UeventSource.IsNeutral {η : Type} [UeventSource η] (P : η → Prop) : Prop where
  subscribe : ∀ h : Host η, P h.state →
    (UeventSource.subscribe (η := η)).Ends h fun r h' => P h'.state ∧ Neutral r
  enumerate : ∀ h : Host η, P h.state →
    (UeventSource.enumerate (η := η)).Ends h fun r h' => P h'.state ∧ Neutral r ∧
      ∀ listing, r = .ok listing → ∀ f, listing.failure = some f → f.IsNeutral

namespace Broker

variable {η : Type} {h : Host (Broker (Connection Value) η)}

/-- The roster shows some exposures, and nothing around it has a fault that is not neutral. -/
def IsQuiet (b : Broker (Connection Value) η) : Prop := ∃ xs, b.roster.Shows xs ∧ b.IsNeutral xs

/-! ### What the broker complains of -/

/-- A failure is the complaint that a device is added which is exposed already. -/
def IsDuplicate (b : Broker (Connection Value) η) (deviceId : Value) (e : Failure) : Prop :=
  ∃ key, deviceId.toKey = .ok key ∧ b.roster.contains key = true ∧
    e = { fault := .duplicateAdd deviceId.display }

/-- A failure is the complaint that a device is removed which is absent. -/
def IsAbsent (b : Broker (Connection Value) η) (deviceId : Value) (e : Failure) : Prop :=
  ∃ key, deviceId.toKey = .ok key ∧ b.roster.contains key = false ∧
    e = { fault := .notRegistered deviceId.display }

theorem ends_addChip_complaint (quiet : h.state.IsQuiet) (deviceId : Value) :
    (addChip deviceId).Ends h fun r _ => ∀ e, r = .error e →
      e.IsNeutral ∨ h.state.IsDuplicate deviceId e := by
  obtain ⟨xs, -, neutral⟩ := quiet
  exact ends_addChip_neutral neutral deviceId

theorem ends_removeChip_complaint (quiet : h.state.IsQuiet) (deviceId : Value) :
    (removeChip deviceId).Ends h fun r _ => ∀ e, r = .error e →
      e.IsNeutral ∨ h.state.IsAbsent deviceId e := by
  obtain ⟨xs, shows, neutral⟩ := quiet
  unfold removeChip
  simp only [ends_bind, ends_log]
  exact Ends.within (Roster.ends_remove_neutral neutral.buses shows neutral.held deviceId)

/-- Adding a listed device fails neutrally unless it is exposed already. -/
theorem ends_addEntry_complaint (quiet : h.state.IsQuiet) (event : Event) :
    (addEntry event).Ends h fun r _ => ∀ e, r = .error e → e.IsNeutral ∨
      ∃ u, event = .uevent u ∧ u.isChipDevice = true ∧ h.state.IsDuplicate u.deviceId e := by
  have foreign (typeName : Text) :
      Failure.IsNeutral { fault := .noPart typeName "is_chip_device" } :=
    (Failure.isNeutral_iff _).2 ⟨nofun, nofun⟩
  cases event with
  | uevent u =>
    refine ends_ite (fun chip => ends_discard.2 ?_) fun _ e he => by cases he
    refine (ends_addChip_complaint quiet u.deviceId).mono fun r _ complaint e he => ?_
    cases r with
    | ok _ => cases he
    | error e =>
      cases he
      exact (complaint e rfl).imp_right fun duplicate => ⟨u, rfl, chip, duplicate⟩
  | _ =>
    rintro _ ⟨⟩
    exact .inl (foreign _)

theorem ends_getProperty_neutral (deviceId name : Value) :
    (getProperty deviceId name).Ends h fun r _ => Neutral r := by
  unfold getProperty
  simp only [ends_bind, ends_log, ends_state]
  refine ends_ofExcept _ (fun device _ => ?_) fun f unnamed =>
    neutral_fault (Value.isNeutral_of_toKey unnamed)
  exact ends_ofExcept _ (fun property _ => neutral_ok _) fun f unnamed =>
    neutral_fault (Value.isNeutral_of_toKey unnamed)

theorem ends_destroyAll_neutral (quiet : h.state.IsQuiet) :
    destroyAll.Ends h fun r _ => Neutral r := by
  obtain ⟨xs, shows, neutral⟩ := quiet
  unfold destroyAll
  simp only [ends_bind, ends_state]
  refine ends_ite (fun _ => ?_) fun _ => ?_
  · rw [ends_bind, ends_log]
    exact Ends.within (Roster.ends_clear_neutral neutral.buses shows neutral.held)
  · exact Ends.within (Roster.ends_clear_neutral neutral.buses shows neutral.held)

variable [UeventSource η]

/-! ### Following uevents and the name -/

/-- What is logged of an action on a chip device. -/
def announce (u : Uevent) : Act (Broker (Connection Value) η) Unit :=
  Act.log .debug
    ("uevent: " ++ u.action.display ++ " action on " ++ u.deviceId.display ++ " device")

theorem keeps_isQuiet_of_shown {α : Type} {x : Act (Broker (Connection Value) η) α}
    (keeps : ∀ h₀ xs₀, x.Keeps (Shown h₀ xs₀)) : x.Keeps fun h => h.state.IsQuiet := by
  rintro h ⟨xs, shows, neutral⟩
  refine (keeps h xs h ⟨xs, .refl shows⟩).mono ?_
  rintro r h' ⟨xs', passes⟩
  exact ⟨xs', passes.shows, passes.isNeutral neutral⟩

theorem keeps_isQuiet_addEntry (e : Event) :
    (addEntry e).Keeps fun h : Host (Broker (Connection Value) η) => h.state.IsQuiet :=
  keeps_addEntry (fun deviceId => keeps_isQuiet_of_shown fun _ _ => isKept_shown.addChip deviceId) e

/-- Listing what is there fails neutrally, and so does what is listed. -/
theorem ends_list_neutral {P : η → Prop} (source : UeventSource.IsNeutral P)
    (holds : P h.state.source) (name : Value) : (list name).Ends h fun r _ => Neutral r ∧
      ∀ listing, r = .ok listing → ∀ f, listing.failure = some f → f.IsNeutral := by
  unfold list setOwnership
  simp only [ends_bind, ends_log, ends_update]
  refine Ends.within (Ends.mono (source.subscribe _ (by exact holds)) ?_)
  rintro (e | _) h₁ ⟨holds₁, subscribed⟩
  · exact ⟨neutral_error subscribed.isNeutral, fun listing he => by cases he⟩
  · exact Ends.within ((source.enumerate h₁ holds₁).mono fun _ _ enumerated => enumerated.2)

theorem keeps_isQuiet_list (name : Value) :
    (list name).Keeps fun h : Host (Broker (Connection Value) η) => h.state.IsQuiet := by
  refine keeps_isQuiet_of_shown fun _ _ => ?_
  refine (keeps_log isLoose_shown _ _).bind fun _ => (keeps_setOwnership _).bind fun _ => ?_
  exact isKept_shown.subscribe.bind fun _ => isKept_shown.enumerate

/-- Adding what is listed fails neutrally unless a device is exposed when its turn has come. -/
theorem ends_addEntries_complaint (quiet : h.state.IsQuiet) (events : List Event) :
    (events.forM addEntry).Ends h fun r _ => ∀ e, r = .error e → e.IsNeutral ∨
      ∃ front u back h₀, events = front ++ .uevent u :: back ∧ u.isChipDevice = true ∧
        (front.forM addEntry).run h = (.ok (), h₀) ∧ h₀.state.IsDuplicate u.deviceId e := by
  induction events generalizing h with
  | nil => exact fun e he => by cases he
  | cons event events ih =>
    have first := ends_addEntry_complaint quiet event
    rw [ends_forM_cons]
    refine ((first.and (keeps_isQuiet_addEntry event h quiet)).and (ends_run _ h)).bind ?_ ?_
    · rintro _ h₁ ⟨⟨-, quiet₁⟩, run⟩
      refine (ih quiet₁).mono fun r h' rest e he => (rest e he).imp_right ?_
      rintro ⟨front, u, back, h₀, rfl, chip, before, duplicate⟩
      refine ⟨event :: front, u, back, h₀, rfl, chip, ?_, duplicate⟩
      change (addEntry event >>= fun _ => front.forM addEntry).run h = _
      rw [run_bind, run]
      exact before
    · rintro e h₁ ⟨⟨complaint, -⟩, -⟩ _ ⟨⟩
      refine (complaint e rfl).imp_right ?_
      rintro ⟨u, rfl, chip, duplicate⟩
      exact ⟨[], u, events, h, rfl, chip, rfl, duplicate⟩

end Broker

/-! ### Turns -/

namespace Turn

variable {η : Type} [UeventSource η]

/-- What the broker is asked to do, as opposed to what happens to the bus and around it. -/
def IsOperation : Turn η → Prop
  | .handle _ | .add _ | .remove _ | .read _ _ | .destroyAll => True
  | _ => False

/-- The turn brings no fault that is not neutral. -/
def IsNeutral (P : η → Prop) : Turn η → Prop
  | .begin script => script.IsNeutral
  | .changeBus _ f => ∀ b, b.script.IsNeutral → (f b).script.IsNeutral
  | .setDevices devices => ∀ d ∈ devices, d.IsNeutral
  | .changeSource f => ∀ s, P s → P (f s)
  | _ => True

/-- A device begins to be added on a host, in a turn that is taken on a host. -/
inductive Adds (h : Host (Broker (Connection Value) η)) :
    Turn η → Value → Host (Broker (Connection Value) η) → Prop
  /-- The addition was asked for. -/
  | asked (deviceId : Value) : Adds h (.add deviceId) deviceId h
  /-- The device was reported. -/
  | reported (u : Uevent) (h₀ : Host (Broker (Connection Value) η)) (chip : u.isChipDevice = true)
      (action : u.action = .text "add") (announced : (Broker.announce u).run h = (.ok (), h₀)) :
      Adds h (.handle (.uevent u)) u.deviceId h₀
  /-- The device was listed, and those before it were added. -/
  | listed (name : Value) (listing : Listing) (front : List Event) (u : Uevent) (back : List Event)
      (h₁ h₀ : Host (Broker (Connection Value) η))
      (given : (Broker.list name).run h = (.ok listing, h₁))
      (events : listing.events = front ++ .uevent u :: back) (chip : u.isChipDevice = true)
      (before : (front.forM Broker.addEntry).run h₁ = (.ok (), h₀)) :
      Adds h (.handle (.nameAcquired name)) u.deviceId h₀

/-- A device is removed in a turn. -/
inductive Removes : Turn η → Value → Prop
  | asked (deviceId : Value) : Removes (.remove deviceId) deviceId
  | reported (u : Uevent) (chip : u.isChipDevice = true) (action : u.action = .text "remove") :
      Removes (.handle (.uevent u)) u.deviceId

/-- A failure of a turn is a true complaint: a device is added that is exposed already, or one is
removed that is not exposed. -/
def IsTrue (h : Host (Broker (Connection Value) η)) (turn : Turn η) (e : Failure) : Prop :=
  (∃ deviceId h₀, Adds h turn deviceId h₀ ∧ h₀.state.IsDuplicate deviceId e) ∨
    ∃ deviceId, Removes turn deviceId ∧ h.state.IsAbsent deviceId e

/-- What is around the broker has only neutral faults, and goes on so. -/
structure IsCalm (P : η → Prop) (h : Host (Broker (Connection Value) η)) : Prop where
  quiet : h.state.IsQuiet
  scripts : h.state.roster.bus.HasNeutralScripts
  source : P h.state.source

theorem IsCalm.of_shown {P : η → Prop} {h h' : Host (Broker (Connection Value) η)}
    (calm : IsCalm P h) (shown : ∀ xs, h.state.roster.Shows xs → ∃ xs', Broker.Passes h xs h' xs')
    (source : P h'.state.source) :
    IsCalm P h' := by
  obtain ⟨xs, shows, neutral⟩ := calm.quiet
  obtain ⟨xs', passes⟩ := shown xs shows
  exact ⟨⟨xs', passes.shows, passes.isNeutral neutral⟩, calm.scripts.of_line passes.line, source⟩

/-- All that the broker does keeps what holds of its source. -/
theorem isKept_source {P : η → Prop} (source : UeventSource.IsNeutral P) :
    Broker.IsKept fun h : Host (Broker (Connection Value) η) => P h.state.source where
  loose := isLoose_of_state fun b : Broker (Connection Value) η => P b.source
  setOwnership _ := fun _ holds => holds
  addChip deviceId := fun h holds => (Broker.ends_addChip deviceId).mono fun _ h' ⟨spares, _⟩ => by
    change P h'.state.source
    rwa [spares.source]
  removeChip deviceId := Keeps.bind (fun _ holds => holds) fun _ _ holds => Ends.within holds
  subscribe := fun h holds => Ends.within
    ((source.subscribe (h.withState h.state.source) holds).mono fun _ _ kept => kept.1)
  enumerate := fun h holds => Ends.within
    ((source.enumerate (h.withState h.state.source) holds).mono fun _ _ kept => kept.1)

omit [UeventSource η] in
theorem keeps_destroyAll {P : η → Prop}
    (loose : IsLoose fun h : Host (Broker (Connection Value) η) => P h.state.source) :
    Broker.destroyAll.Keeps fun h : Host (Broker (Connection Value) η) => P h.state.source := by
  have clears : (Broker.withinRoster Roster.clear).Keeps
      fun h : Host (Broker (Connection Value) η) =>
        P h.state.source := fun _ holds => Ends.within holds
  refine keeps_state.bind fun b => Keeps.ite ?_ clears
  exact (keeps_log loose _ _).bind fun _ => clears

omit [UeventSource η] in
/-- Whatever concerns the bus alone keeps the surroundings calm if it keeps the scripts neutral. -/
theorem keeps_isCalm_of_apart {P : η → Prop} {x : Act (Connection Value) Unit}
    (apart : ∀ h₀, x.Keeps (Connection.Apart h₀))
    (scripts : x.Keeps fun h => h.state.HasNeutralScripts) :
    (Broker.withinBus (η := η) x).Keeps (IsCalm P) := by
  rintro h ⟨⟨xs, shows, neutral⟩, neutralScripts, source⟩
  unfold Broker.withinBus Broker.withinRoster Roster.withinBus
  refine Ends.within (Ends.within ?_)
  refine ((apart (h.withState h.state.roster.bus) _ ⟨rfl, rfl, fun _ => rfl⟩).and
    (scripts (h.withState h.state.roster.bus) neutralScripts)).mono ?_
  rintro r h' ⟨⟨objects, next, -⟩, scripts⟩
  refine ⟨⟨xs, shows.same rfl objects next fun _ _ => rfl, ?_⟩, scripts, source⟩
  exact ⟨neutral.devices, neutral.held, scripts.buses⟩

/-- Every turn that brings no fault leaves the surroundings calm. -/
theorem keeps_isCalm {P : η → Prop} (source : UeventSource.IsNeutral P) {turn : Turn η}
    (neutral : turn.IsNeutral P) : turn.perform.Keeps (IsCalm P) := by
  have broker {x : Act (Broker (Connection Value) η) Unit}
      (shown : ∀ h₀ xs₀, x.Keeps (Broker.Shown h₀ xs₀))
      (sourced : x.Keeps fun h => P h.state.source) : x.Keeps (IsCalm P) := by
    intro h calm
    have holds : P (x.run h).2.state.source := sourced h calm.source
    exact calm.of_shown (fun xs shows => shown h xs h ⟨xs, .refl shows⟩) holds
  have kept := isKept_source source
  cases turn with
  | handle e => exact broker (fun _ _ => Broker.isKept_shown.handle e) (kept.handle e)
  | add deviceId =>
    exact broker (fun _ _ => (Broker.isKept_shown.addChip deviceId).discard)
      (kept.addChip deviceId).discard
  | remove deviceId =>
    exact broker (fun _ _ => Broker.isKept_shown.removeChip deviceId) (kept.removeChip deviceId)
  | read deviceId property =>
    exact broker
      (fun _ _ =>
        (Broker.keeps_getProperty (keeps_log Broker.isLoose_shown) deviceId property).discard)
      (Broker.keeps_getProperty (keeps_log kept.loose) deviceId property).discard
  | destroyAll =>
    exact broker (fun _ _ => Broker.keeps_destroyAll) (keeps_destroyAll kept.loose)
  | begin script =>
    exact keeps_isCalm_of_apart (fun _ => Connection.keeps_begin script)
      (Connection.neutral_begin neutral)
  | resume attempt =>
    exact keeps_isCalm_of_apart (fun _ => Connection.keeps_resume attempt)
      (Connection.neutral_resume attempt)
  | cancel attempt =>
    exact keeps_isCalm_of_apart (fun _ => Connection.keeps_cancel attempt)
      (Connection.upholds_neutralScripts.cancel attempt)
  | release =>
    exact keeps_isCalm_of_apart (fun _ => Connection.keeps_release) Connection.neutral_release
  | hear m =>
    exact keeps_isCalm_of_apart (fun _ => Connection.keeps_deliver m) (Connection.neutral_deliver m)
  | hangUp fault =>
    exact keeps_isCalm_of_apart (fun _ => Connection.keeps_hangUp fault)
      (Connection.neutral_hangUp fault)
  | changeBus number f =>
    exact keeps_isCalm_of_apart (fun _ => Connection.keeps_update)
      (Connection.neutral_changeBus number neutral)
  | setDevices devices =>
    rintro h ⟨⟨xs, shows, around⟩, scripts, source⟩
    exact ⟨⟨xs, shows, neutral, around.held, around.buses⟩, scripts, source⟩
  | changeSource f =>
    rintro h ⟨⟨xs, shows, around⟩, scripts, source⟩
    exact ⟨⟨xs, shows, around.devices, around.held, around.buses⟩, scripts, neutral _ source⟩

/-! ### Complaints -/

section Complaints

variable {h : Host (Broker (Connection Value) η)}

/-- A device that is reported is complained of only if the report does not fit the roster. -/
theorem ends_onUevent_complaint (quiet : h.state.IsQuiet) (u : Uevent) :
    (Broker.onUevent u).Ends h fun r _ => ∀ e, r = .error e →
      e.IsNeutral ∨ IsTrue h (.handle (.uevent u)) e := by
  unfold Broker.onUevent
  refine ends_ite (fun chip => ?_) fun _ e he => by cases he
  rw [ends_bind, ends_log]
  refine ends_ite (fun action => ?_) fun _ => ends_ite (fun action => ?_) fun _ e he => by cases he
  · refine ends_discard.2 (Ends.mono (Broker.ends_addChip_complaint (by exact quiet) u.deviceId) ?_)
    rintro (e | _) h₁ complaint _ ⟨⟩
    exact (complaint e rfl).imp_right fun duplicate =>
      .inl ⟨u.deviceId, _, .reported u _ chip action rfl, duplicate⟩
  · refine Ends.mono (Broker.ends_removeChip_complaint (by exact quiet) u.deviceId) ?_
    exact fun r _ complaint e he => (complaint e he).imp_right fun absent =>
      .inr ⟨u.deviceId, .reported u chip action, absent⟩

/-- When the name is acquired, a device is complained of only if it is listed while exposed. -/
theorem ends_onNameAcquired_complaint {P : η → Prop} (source : UeventSource.IsNeutral P)
    (calm : IsCalm P h) (name : Value) :
    (Broker.onNameAcquired name).Ends h fun r _ => ∀ e, r = .error e →
      e.IsNeutral ∨ IsTrue h (.handle (.nameAcquired name)) e := by
  rw [Broker.onNameAcquired_eq_list]
  refine (((Broker.ends_list_neutral source calm.source name).and
    (Broker.keeps_isQuiet_list name h calm.quiet)).and (ends_run _ h)).bind ?_ ?_
  · rintro listing h₁ ⟨⟨⟨-, ends⟩, quiet⟩, given⟩
    refine (Broker.ends_addEntries_complaint quiet listing.events).bind ?_ ?_
    · intro _ h₂ _
      exact (ends_failing_neutral (ends listing rfl)).mono fun r _ neutral e he =>
        .inl (neutral e he)
    · rintro e h₂ complaint _ ⟨⟩
      refine (complaint e rfl).imp_right ?_
      rintro ⟨front, u, back, h₀, events, chip, before, duplicate⟩
      exact .inl ⟨u.deviceId, h₀,
        .listed name listing front u back h₁ h₀ given events chip before, duplicate⟩
  · rintro e h₁ ⟨⟨⟨neutral, -⟩, -⟩, -⟩ _ ⟨⟩
    exact .inl neutral.isNeutral

/-- An operation fails neutrally or with a true complaint. -/
theorem ends_perform_complaint {P : η → Prop} (source : UeventSource.IsNeutral P)
    (calm : IsCalm P h) {turn : Turn η} (operation : turn.IsOperation) :
    turn.perform.Ends h fun r _ => ∀ e, r = .error e → e.IsNeutral ∨ IsTrue h turn e := by
  cases turn with
  | handle e =>
    cases e with
    | uevent u => exact ends_onUevent_complaint calm.quiet u
    | nameAcquired name => exact ends_onNameAcquired_complaint source calm name
    | nameLost loss =>
      rintro _ ⟨⟩
      exact .inl ((Failure.isNeutral_iff _).2 ⟨nofun, nofun⟩)
    | _ => exact fun e he => by cases he
  | add deviceId =>
    refine ends_discard.2 ((Broker.ends_addChip_complaint calm.quiet deviceId).mono ?_)
    rintro (e | _) h₁ complaint _ ⟨⟩
    exact (complaint e rfl).imp_right fun duplicate =>
      .inl ⟨deviceId, h, .asked deviceId, duplicate⟩
  | remove deviceId =>
    refine (Broker.ends_removeChip_complaint calm.quiet deviceId).mono ?_
    exact fun r _ complaint e he => (complaint e he).imp_right fun absent =>
      .inr ⟨deviceId, .asked deviceId, absent⟩
  | read deviceId property =>
    refine ends_discard.2 (Ends.mono (Broker.ends_getProperty_neutral deviceId property) ?_)
    exact fun r _ neutral e he => .inl (neutral.map _ e he)
  | destroyAll =>
    exact (Broker.ends_destroyAll_neutral calm.quiet).mono fun r _ neutral e he =>
      .inl (neutral e he)
  | _ => exact operation.elim

end Complaints

/-- Every addition finds the path of its object free, and its device still absent when it comes to
enter the record. -/
def IsUnhindered (deviceId : Value) (h : Host (Broker (Connection Value) η)) : Prop :=
  (Broker.prepare deviceId).Ends h fun r h₁ => ∀ number record, r = .ok (some (number, record)) →
    (∀ o ∈ h₁.state.roster.bus.objects, o.path ≠ objectPath deviceId.display) ∧
    (Broker.registerRecord number record).Ends h₁ fun r h₂ =>
      ∀ registration, r = .ok (some registration) →
      (Broker.enter number record registration).Ends h₂ fun r _ => r = .ok ()

omit [UeventSource η] in
theorem isUnhindered_of_shows {h : Host (Broker (Connection Value) η)} {xs : List Exposure}
    (shows : h.state.roster.Shows xs) (deviceId : Value) : IsUnhindered deviceId h := by
  refine (Broker.ends_prepare deviceId).mono ?_
  rintro r h₁ prepares number record rfl
  obtain ⟨t, device, info, rfl, same, opened⟩ := prepares (number, record) rfl
  cases same
  have bus : h₁.state.roster.bus = h.state.roster.bus := by rw [opened.state]
  exact ⟨bus ▸ shows.path_ne_of_absent opened.absent, Broker.ends_registerRecord_enters opened⟩

/-- Only true complaints come out of a turn, nobody misses a key, and no addition is hindered. -/
structure IsGenuine (h : Host (Broker (Connection Value) η)) (turn : Turn η) : Prop where
  complaint : turn.perform.Ends h fun r _ => ∀ e, r = .error e → e.IsNeutral ∨ IsTrue h turn e
  unhindered : ∀ deviceId h₀, Adds h turn deviceId h₀ → IsUnhindered deviceId h₀

theorem isUnhindered_of_adds {h h₀ : Host (Broker (Connection Value) η)} (quiet : h.state.IsQuiet)
    {turn : Turn η} {deviceId : Value} (adds : Adds h turn deviceId h₀) :
    IsUnhindered deviceId h₀ := by
  have unhindered {h₀ : Host (Broker (Connection Value) η)} (quiet : h₀.state.IsQuiet)
      (deviceId : Value) :
      IsUnhindered deviceId h₀ := by
    obtain ⟨xs, shows, -⟩ := quiet
    exact isUnhindered_of_shows shows deviceId
  cases adds with
  | asked => exact unhindered quiet _
  | reported u _ chip action announced =>
    cases announced
    exact unhindered (by exact quiet) _
  | listed name listing front u back h₁ _ given events chip before =>
    have listed := Broker.keeps_isQuiet_list name h quiet
    unfold Ends at listed
    rw [given] at listed
    have added := Keeps.forM Broker.keeps_isQuiet_addEntry front h₁ listed
    unfold Ends at added
    rw [before] at added
    exact unhindered added _

theorem isCalm_after {P : η → Prop} (source : UeventSource.IsNeutral P) (turns : List (Turn η))
    (neutral : ∀ turn ∈ turns, turn.IsNeutral P) (h : Host (Broker (Connection Value) η))
    (calm : IsCalm P h) :
    IsCalm P (after turns h) := by
  induction turns generalizing h with
  | nil => exact calm
  | cons turn turns ih =>
    have next := keeps_isCalm source (neutral turn List.mem_cons_self) h calm
    exact ih (fun turn' there => neutral turn' (List.mem_cons_of_mem turn there)) _ next

omit [UeventSource η] in
/-- A fresh broker shows nothing, so that nothing around it fails but its devices and its source. -/
theorem isCalm_fresh {P : η → Prop} {bindings : Bindings}
    (devices : ∀ d ∈ bindings.devices, d.IsNeutral) (name : Text) {source : η} (holds : P source) :
    IsCalm P { state := { bindings, roster := { bus := { name } }, source } } where
  quiet := by
    refine ⟨[], .nil rfl rfl, devices, ?_, ?_⟩
    · exact fun _ there => absurd there List.not_mem_nil
    · exact fun _ there => absurd there List.not_mem_nil
  scripts := by
    constructor
    · exact fun _ there => absurd there List.not_mem_nil
    · exact fun _ there => absurd there List.not_mem_nil
  source := holds

/-- However a broker was used whose devices, buses and source failed only neutrally, every operation
of it complains only of what is so. -/
theorem isGenuine {P : η → Prop} (calm : UeventSource.IsNeutral P) (bindings : Bindings)
    (name : Text) (source : η) (devices : ∀ d ∈ bindings.devices, d.IsNeutral) (holds : P source)
    (turns : List (Turn η)) (neutral : ∀ turn ∈ turns, turn.IsNeutral P) (turn : Turn η)
    (operation : turn.IsOperation) :
    IsGenuine
      (after turns { state := { bindings, roster := { bus := { name } }, source } }) turn := by
  have calm₁ := isCalm_after calm turns neutral _ (isCalm_fresh devices name holds)
  exact ⟨ends_perform_complaint calm calm₁ operation,
    fun _ _ adds => isUnhindered_of_adds calm₁.quiet adds⟩

end Turn

/-! ### The device manager -/

/-- All faults of subscribing to the device manager and of listing its devices are neutral. -/
structure DeviceManager.IsNeutral (m : DeviceManager) : Prop where
  monitor : ∀ f, m.monitorFault = some f → f.IsNeutral
  filter : ∀ f, m.filterFault = some f → f.IsNeutral
  start : ∀ f, m.startFault = some f → f.IsNeutral
  watch : ∀ f, m.watchFault = some f → f.IsNeutral
  list : ∀ f, m.listFault = some f → f.IsNeutral

/-- A source over a device manager whose faults are neutral fails neutrally. -/
theorem MonitorSource.isNeutral :
    UeventSource.IsNeutral fun s : MonitorSource => s.manager.IsNeutral where
  subscribe h neutral := by
    change MonitorSource.subscribe.Ends h _
    unfold subscribe
    simp only [ends_bind, ends_state]
    refine ends_ite (fun _ => ?_) fun _ => ⟨neutral, neutral_ok ()⟩
    simp only [ends_bind, ends_note, ends_update, ends_log]
    refine ends_failing _ (fun _ => ?_) fun f fault =>
      ⟨neutral, neutral_fault (neutral.monitor f fault)⟩
    refine ends_failing _ (fun _ => ?_) fun f fault =>
      ⟨neutral, neutral_fault (neutral.filter f fault)⟩
    refine ends_failing _ (fun _ => ?_) fun f fault =>
      ⟨neutral, neutral_fault (neutral.start f fault)⟩
    refine ends_failing _ (fun _ => ?_) fun f fault =>
      ⟨neutral, neutral_fault (neutral.watch f fault)⟩
    exact ⟨neutral, neutral_ok ()⟩
  enumerate h neutral := by
    refine ⟨neutral, neutral_ok _, ?_⟩
    rintro listing ⟨⟩
    exact neutral.list

namespace Turn

/-- A chip, and a device manager that lists it. -/
def sampleDevice : Device := { path := "/dev/gpiochip0", numLines := .int 8 }

def sampleSource : MonitorSource where
  manager := { devices := [{ name := .text "gpiochip0", node := some (.text "/dev/gpiochip0") }] }

/-- The name is owned, and the chip that is there is added. -/
def sampleTurns : List (Turn MonitorSource) :=
  [.begin {}, .resume 0, .resume 0, .resume 0, .handle (.nameAcquired (.text Layout.busName))]

/-- The broker after these turns. -/
def sampleBroker : Host (Broker (Connection Value) MonitorSource) :=
  after sampleTurns { state := {
    bindings := { devices := [sampleDevice] }
    roster := { bus := { name := Layout.busName } }
    source := sampleSource } }

theorem isNeutral_sampleTurns (turn : Turn MonitorSource) (there : turn ∈ sampleTurns) :
    turn.IsNeutral fun s => s.manager.IsNeutral := by
  simp only [sampleTurns, List.mem_cons, List.not_mem_nil, or_false] at there
  rcases there with rfl | rfl | rfl | rfl | rfl
  · exact ⟨fun _ there => absurd there List.not_mem_nil,
      fun _ there => absurd there List.not_mem_nil⟩
  all_goals trivial

/-- A chip that was listed and is added again is complained of, and rightly. -/
theorem isGenuine_twice : IsGenuine sampleBroker (.add (.text "gpiochip0")) ∧
    ((perform (.add (.text "gpiochip0"))).run sampleBroker).1 =
      .error { fault := .duplicateAdd "gpiochip0" } := by
  refine ⟨isGenuine MonitorSource.isNeutral _ _ _ ?_ ?_ _ isNeutral_sampleTurns _ trivial, ?_⟩
  · intro d hd
    obtain rfl := List.mem_singleton.1 hd
    exact ⟨nofun, fun c f fault => by cases c <;> cases fault⟩
  · exact ⟨nofun, nofun, nofun, nofun, nofun⟩
  · decide +kernel

end Turn

end GpioBroker
