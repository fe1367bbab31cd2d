import GpioBroker.Proofs.Opening
import GpioBroker.Proofs.Passage
import GpioBroker.Proofs.Rejection

/-!
# Neutral failures

A fault is neutral if it finds no fault with the roster and misses no key.  As long as the devices
and the scripts of the buses have only neutral faults, all that the broker does to its chips and
objects fails neutrally, in front and behind: a registration is unregistered once, so that it is
there when it is.  Whatever else comes out of the broker is then its own complaint.
-/

namespace GpioBroker

/-- The fault neither finds fault with the roster nor misses a key. -/
def Fault.IsNeutral (f : Fault) : Prop := f.kind ≠ .roster ∧ f.kind ≠ .missingKey

instance : DecidablePred Fault.IsNeutral := fun f =>
  inferInstanceAs (Decidable (f.kind ≠ .roster ∧ f.kind ≠ .missingKey))

namespace Failure

/-- The faults of a failure, the latest first. -/
def faults (e : Failure) : List Fault := e.fault :: e.behind.map Prod.snd

theorem faults_after (e : Failure) (link : Link) (earlier : Failure) :
    (e.after link earlier).faults = e.faults ++ earlier.faults := by
  simp [faults, after]

/-- All faults of the failure are neutral. -/
def IsNeutral (e : Failure) : Prop := ∀ f ∈ e.faults, f.IsNeutral

theorem isNeutral_iff (f : Fault) : IsNeutral { fault := f } ↔ f.IsNeutral := by
  simp [IsNeutral, faults]

theorem IsNeutral.after {e earlier : Failure} (late : e.IsNeutral) (link : Link)
    (early : earlier.IsNeutral) : (e.after link earlier).IsNeutral := by
  intro f hf
  rw [faults_after] at hf
  exact (List.mem_append.1 hf).elim (late f) (early f)

end Failure

namespace Act

variable {σ τ α β : Type} {h : Host σ} {r : Except Failure α}

/-- The outcome is no failure, or a neutral one. -/
def Neutral (r : Except Failure α) : Prop := ∀ e, r = .error e → e.IsNeutral

theorem neutral_ok (a : α) : Neutral (.ok a) := nofun

theorem neutral_error {e : Failure} (neutral : e.IsNeutral) :
    Neutral (.error e : Except Failure α) := by
  rintro _ ⟨⟩
  exact neutral

theorem neutral_fault {f : Fault} (neutral : f.IsNeutral) :
    Neutral (.error { fault := f } : Except Failure α) :=
  neutral_error ((Failure.isNeutral_iff f).2 neutral)

theorem Neutral.isNeutral {e : Failure} (neutral : Neutral (.error e : Except Failure α)) :
    e.IsNeutral :=
  neutral e rfl

theorem Neutral.map (neutral : Neutral r) (f : α → β) : Neutral (r.map f) := by
  cases r with
  | ok a => exact neutral_ok _
  | error e => exact neutral_error neutral.isNeutral

theorem Neutral.settled {c : Except Failure Unit} (neutral : Neutral r) (cleaned : Neutral c) :
    Neutral (settled r c) := by
  cases c with
  | ok _ => exact neutral
  | error e =>
    cases r with
    | ok a => exact neutral_error cleaned.isNeutral
    | error earlier => exact neutral_error (cleaned.isNeutral.after .during neutral.isNeutral)

theorem ends_failing_neutral {fault : Option Fault} (neutral : ∀ f, fault = some f → f.IsNeutral) :
    (failing fault).Ends h fun r _ => Neutral r :=
  ends_failing fault (fun _ => neutral_ok ()) fun f hf => neutral_fault (neutral f hf)

end Act

open Act

/-! ### Chips -/

/-- All faults of the device are neutral. -/
structure Device.IsNeutral (d : Device) : Prop where
  opening : ∀ f, d.faults.opening = some f → f.IsNeutral
  calls : ∀ c f, d.fault? c = some f → f.IsNeutral

theorem Value.isNeutral_of_toInteger {v : Value} {f : Fault} (fault : v.toInteger = .error f) :
    f.IsNeutral := by
  unfold toInteger at fault
  split at fault
  case h_3 => split at fault <;> [skip; split at fault] <;> cases fault <;> decide
  case h_4 => split at fault <;> cases fault <;> exact ⟨nofun, nofun⟩
  all_goals cases fault <;> exact ⟨nofun, nofun⟩

theorem Value.isNeutral_of_toKey {v : Value} {f : Fault} (fault : v.toKey = .error f) :
    f.IsNeutral := by
  unfold toKey at fault
  split at fault
  · cases fault
  · cases fault
    exact ⟨nofun, nofun⟩

theorem Device.IsNeutral.reading {d : Device} (neutral : d.IsNeutral) {g : Generation} {f : Fault}
    (fault : d.reading g = .error f) : f.IsNeutral := by
  unfold Device.reading at fault
  cases first : g.items.findSome? d.fault? with
  | some f' =>
    rw [first] at fault
    cases fault
    obtain ⟨c, -, failed⟩ := List.exists_of_findSome?_eq_some first
    exact neutral.calls c f failed
  | none =>
    rw [first] at fault
    unfold info? at fault
    cases lines : d.numLines.toInteger with
    | ok n =>
      rw [lines] at fault
      cases fault
    | error f' =>
      rw [lines] at fault
      cases fault
      exact Value.isNeutral_of_toInteger lines

/-- Closing a handle fails as its chip does. -/
theorem Handle.neutral_closeOutcome {x : Handle}
    (neutral : ∀ chip, x.chip = some chip → chip.device.IsNeutral) : Neutral x.closeOutcome := by
  unfold closeOutcome
  cases stray : x.stray? with
  | none => exact neutral_ok ()
  | some f =>
    obtain ⟨chip, open_, failed, -⟩ := exists_chip_of_stray? stray
    exact neutral_fault ((neutral chip open_).calls .close f failed)

namespace Bindings

variable {h : Host Bindings} {b : Bindings} {deviceId : Value}

theorem isNeutral_of_pathOf {f : Fault} (fault : b.pathOf deviceId = .error f) : f.IsNeutral := by
  unfold pathOf at fault
  split at fault <;> cases fault <;> exact ⟨nofun, nofun⟩

/-- The bindings give a chip of one of the devices, or fail as the device does. -/
theorem chipOf_neutral (neutral : ∀ d ∈ b.devices, d.IsNeutral) (deviceId : Value) :
    match b.chipOf deviceId with
    | .ok chip => chip.device.IsNeutral
    | .error f => f.IsNeutral := by
  unfold chipOf
  cases named : b.pathOf deviceId with
  | error f => exact isNeutral_of_pathOf named
  | ok path =>
    dsimp only
    cases found : b.find? path with
    | none => exact (by decide : Fault.noSuchFile.IsNeutral)
    | some device =>
      have device_neutral := neutral device (List.mem_of_find?_eq_some found)
      dsimp only
      cases opening : device.faults.opening with
      | none => exact device_neutral
      | some f => exact device_neutral.opening f opening

theorem ends_openDevice_neutral (neutral : ∀ d ∈ h.state.devices, d.IsNeutral) (deviceId : Value) :
    (openDevice deviceId).Ends h fun r _ => Neutral r := by
  refine (ends_openDevice_attempted deviceId).mono ?_
  intro r h' attempted
  have given' := chipOf_neutral neutral deviceId
  cases attempted with
  | refused f given _ =>
    rw [given] at given'
    exact neutral_fault given'
  | abandoned chip f given read _ _ =>
    rw [given] at given'
    exact neutral_fault (Device.IsNeutral.reading given' read)
  | undone chip f given read _ _ =>
    rw [given] at given'
    have first := (Failure.isNeutral_iff f).2 (Device.IsNeutral.reading given' read)
    unfold undoing
    cases closed : chip.device.faults.close with
    | none => exact neutral_error first
    | some g =>
      have last := (Failure.isNeutral_iff g).2 (Device.IsNeutral.calls given' .close g closed)
      exact neutral_error (last.after .during first)
  | opened => exact neutral_ok _

end Bindings

/-! ### Objects -/

/-- All faults of exporting and unexporting are neutral. -/
structure BusScript.IsNeutral (s : BusScript) : Prop where
  exports : ∀ e ∈ s.exportFaults, e.2.IsNeutral
  unexports : ∀ e ∈ s.unexportFaults, e.2.IsNeutral

theorem Fault.isNeutral_of_isRegistration {f : Fault} (registration : f.isRegistration = true) :
    f.IsNeutral := by
  unfold isRegistration at registration
  unfold IsNeutral
  constructor <;> intro kind <;> simp [kind] at registration

theorem Fault.isNeutral_of_refusesExport {f : Fault} (refuses : f.refusesExport = true) :
    f.IsNeutral := by
  unfold refusesExport at refuses
  unfold IsNeutral
  constructor <;> intro kind <;> simp [kind, FaultKind.isValue] at refuses

theorem MessageBus.ends_exportObject_neutral {ρ : Type} {h : Host (MessageBus ρ)}
    (neutral : h.state.script.IsNeutral) (path : Text) (object : ChipObject ρ) :
    (exportObject path object).Ends h fun r _ => Neutral r := by
  refine (ends_exportObject_fault path object).mono ?_
  intro r _ exported
  cases fault : h.state.script.exportFault? (.text path) with
  | some f =>
    simp only [fault] at exported
    obtain ⟨p, found, rfl⟩ := Option.map_eq_some_iff.1 fault
    rw [exported]
    exact neutral_fault (neutral.exports p (List.mem_of_find?_eq_some found))
  | none =>
    simp only [fault] at exported
    rintro e rfl
    obtain ⟨f, rfl, refuses⟩ := exported e rfl
    exact (Failure.isNeutral_iff f).2 (Fault.isNeutral_of_refusesExport refuses)

namespace Connection

variable {ρ : Type} {h : Host (Connection ρ)}

theorem ends_register_neutral (neutral : ∀ b ∈ h.state.buses, b.script.IsNeutral) (path : Text)
    (reader : ρ) : (register path reader).Ends h fun r _ => Neutral r := by
  unfold register
  simp only [ends_bind, ends_state]
  cases up : h.state.live? with
  | none => exact neutral_fault (Fault.isNeutral_of_isRegistration rfl)
  | some number =>
    obtain ⟨b, live⟩ := live?_eq_some_iff.1 up
    refine ends_ite (fun _ => neutral_fault (Fault.isNeutral_of_isRegistration rfl)) fun _ => ?_
    simp only [ends_bind, ends_update, ends_pure]
    refine Ends.explain (R := fun r _ => Neutral r)
      (ends_withinBus_of_bus? (b := b) live.bus ?_) ?_ ?_ ?_
    · exact MessageBus.ends_exportObject_neutral (neutral b (List.mem_of_getElem? live.bus)) path _
    · exact fun _ _ _ => neutral_ok _
    · exact fun _ _ failed _ => neutral_error failed.isNeutral
    · intro e _ failed _
      have refused : Failure.IsNeutral { fault := .exportRefused path e.fault.message } :=
        (Failure.isNeutral_iff _).2 (Fault.isNeutral_of_isRegistration rfl)
      exact neutral_error (refused.after .because failed.isNeutral)

/-- A registration that is there is found, so that no key is missed. -/
theorem ends_unregister_neutral (neutral : ∀ b ∈ h.state.buses, b.script.IsNeutral)
    {registration : Int} {o : RegisteredObject ρ} (found : h.state.find? registration = some o) :
    (unregister (.int registration)).Ends h fun r _ => Neutral r := by
  have lookedUp : (Value.int registration).wholeNumber?.bind h.state.find? = some o := found
  have keyed : (Value.int registration).toKey = .ok (.whole registration) := rfl
  unfold unregister
  simp only [keyed, ends_bind, ends_discard, ends_ofExcept_ok, Except.map, ends_state,
    lookedUp, ends_update]
  cases up : h.state.live? with
  | none => exact neutral_ok ()
  | some number =>
    obtain ⟨b, live⟩ := live?_eq_some_iff.1 up
    refine ends_withinBus_of_bus? (b := b) live.bus ?_
    refine MessageBus.ends_unexportObject_of (fun _ => neutral_ok ()) fun f fault => ?_
    have there : (o.path, f) ∈ b.script.unexportFaults := by
      change b.script.unexportFaults.lookup o.path = some f at fault
      obtain ⟨front, back, split, -⟩ := List.lookup_eq_some_iff.1 fault
      simp [split]
    exact neutral_fault ((neutral b (List.mem_of_getElem? live.bus)).unexports _ there)

end Connection

/-! ### Records -/

namespace Roster

variable {h : Host (Roster (Connection Value))} {xs : List Exposure} {x : Exposure}

/-- The buses under the roster have only neutral faults. -/
def HasNeutralBuses (r : Roster (Connection Value)) : Prop := ∀ b ∈ r.bus.buses, b.script.IsNeutral

theorem HasNeutralBuses.of_line {r r' : Roster (Connection Value)} (neutral : r.HasNeutralBuses)
    (line : r'.bus.line = r.bus.line) : r'.HasNeutralBuses := by
  intro b hb
  obtain ⟨b', hb', same⟩ := Connection.exists_script_of_line line hb
  rw [← same]
  exact neutral b' hb'

/-- A record is destroyed neutrally if its registration, where it has one, is that of an object. -/
theorem ends_destroy_neutral {number : Nat} {record : Record} {handle : Handle}
    (neutral : h.state.HasNeutralBuses) (there : h.state.records[number]? = some record)
    (held : record.handle = some handle)
    (chips : ∀ chip, handle.chip = some chip → chip.device.IsNeutral)
    (registered : ∀ id, record.registration = some id →
      ∃ n o, id = .int n ∧ h.state.bus.find? n = some o) :
    (destroy number).Ends h fun r _ => Neutral r := by
  unfold destroy
  simp only [ends_bind, ends_state, there, ends_update, held]
  refine Ends.ensure handle.ends_closeChip ?_
  rintro r h₁ ⟨state, -, outcome⟩
  have closed : Neutral r := by
    rw [outcome]
    exact Handle.neutral_closeOutcome chips
  cases registration : record.registration with
  | none => exact closed.settled (neutral_ok ())
  | some id =>
    obtain ⟨n, o, rfl, found⟩ := registered id registration
    have bus : h₁.state.bus = h.state.bus := by
      rw [state]
      rfl
    have neutral₁ : h₁.state.HasNeutralBuses := by
      unfold HasNeutralBuses
      rw [bus]
      exact neutral
    have found₁ : h₁.state.bus.find? n = some o := by
      rw [bus]
      exact found
    have unregistered : (unregister (some (.int n))).Ends h₁ fun c _ => Neutral c := by
      unfold unregister withinBus
      exact Ends.within
        (Connection.ends_unregister_neutral (h := h₁.withState h₁.state.bus) neutral₁ found₁)
    exact unregistered.mono fun _ _ unregistered => closed.settled unregistered

/-- Removing the entry of an exposed chip unregisters an object that is there. -/
theorem ends_removeEntry_neutral (neutral : h.state.HasNeutralBuses) (shows : h.state.Shows xs)
    (hx : x ∈ xs) (device : x.chip.device.IsNeutral) :
    (removeEntry (.text x.id) x.number).Ends h fun r _ => Neutral r := by
  refine Ends.ensure (R := fun r _ => Neutral r) ?_ fun r _ destroyed =>
    destroyed.settled (neutral_ok ())
  refine ends_destroy_neutral neutral (shows.records x hx) rfl ?_ ?_
  · rintro chip ⟨⟩
    exact device
  · rintro id ⟨⟩
    exact ⟨x.registration, x.object, rfl, shows.find?_object hx⟩

theorem ends_clear_neutral (neutral : h.state.HasNeutralBuses) (shows : h.state.Shows xs)
    (held : ∀ x ∈ xs, x.chip.device.IsNeutral) : clear.Ends h fun r _ => Neutral r := by
  unfold clear
  simp only [ends_bind, ends_state, shows.entries]
  induction xs generalizing h with
  | nil => exact neutral_ok ()
  | cons x xs ih =>
    have others : ((x :: xs).filter fun y => y.id != x.id) = xs :=
      Exposure.filter_id (f := []) shows.ids
    have removed := (ends_removeEntry shows List.mem_cons_self).and
      (ends_removeEntry_neutral neutral shows List.mem_cons_self (held x List.mem_cons_self))
    rw [List.map_cons, ends_forM_cons]
    refine removed.bind ?_ fun _ _ failed => failed.2
    rintro _ h₁ ⟨⟨shows₁, line, -⟩, -⟩
    rw [others] at shows₁
    exact ih (neutral.of_line line) shows₁ fun y hy => held y (List.mem_cons_of_mem x hy)

/-- Removing a device fails neutrally unless it is absent. -/
theorem ends_remove_neutral (neutral : h.state.HasNeutralBuses) (shows : h.state.Shows xs)
    (held : ∀ x ∈ xs, x.chip.device.IsNeutral) (deviceId : Value) :
    (remove deviceId).Ends h fun r _ => ∀ e, r = .error e → e.IsNeutral ∨
      ∃ key, deviceId.toKey = .ok key ∧ h.state.contains key = false ∧
        e = { fault := .notRegistered deviceId.display } := by
  unfold remove
  simp only [ends_bind, ends_state]
  refine ends_ofExcept _ (fun key named => ?_) fun f unnamed => ?_
  · dsimp only
    cases found : h.state.find? key with
    | none =>
      rintro _ ⟨⟩
      exact .inr ⟨key, named, by simp [contains, found], rfl⟩
    | some number =>
      obtain ⟨x, hx, rfl, rfl⟩ := shows.exists_of_find? found
      refine (ends_removeEntry_neutral neutral shows hx (held x hx)).mono fun r _ removed e he => ?_
      exact .inl (removed e he)
  · rintro _ ⟨⟩
    exact .inl ((Failure.isNeutral_iff f).2 (Value.isNeutral_of_toKey unnamed))

end Roster

/-! ### The broker -/

namespace Broker

variable {η : Type} {h h' : Host (Broker (Connection Value) η)} {xs xs' : List Exposure}

/-- The devices, those of the exposed chips, and the buses have only neutral faults. -/
structure IsNeutral (b : Broker (Connection Value) η) (xs : List Exposure) : Prop where
  devices : ∀ d ∈ b.bindings.devices, d.IsNeutral
  held : ∀ x ∈ xs, x.chip.device.IsNeutral
  buses : b.roster.HasNeutralBuses

/-- What is neutral stays so. -/
theorem Passes.isNeutral [UeventSource η] (passes : Passes h xs h' xs')
    (neutral : h.state.IsNeutral xs) :
    h'.state.IsNeutral xs' where
  devices := by
    rw [passes.devices]
    exact neutral.devices
  held x hx := (passes.held x hx).elim (neutral.held x) (neutral.devices _)
  buses := neutral.buses.of_line passes.line

theorem ends_openChip_neutral (devices : ∀ d ∈ h.state.bindings.devices, d.IsNeutral)
    (deviceId : Value) :
    (openChip deviceId).Ends h fun r _ => Neutral r := by
  have opened : (withinBindings (Bindings.openDevice deviceId)).Ends h fun r _ => Neutral r :=
    Ends.within
      (Bindings.ends_openDevice_neutral (h := h.withState h.state.bindings) devices deviceId)
  refine opened.map.recover ?_ ?_ ?_
  · exact fun _ _ _ => neutral_ok _
  · rintro e _ ⟨inner, made, neutral⟩ -
    rw [made]
    exact neutral.map _
  · exact fun _ _ _ _ => neutral_ok _

/-- The first steps of an addition fail neutrally unless the device is exposed already. -/
theorem ends_prepare_neutral (devices : ∀ d ∈ h.state.bindings.devices, d.IsNeutral)
    (deviceId : Value) :
    (prepare deviceId).Ends h fun r _ => ∀ e, r = .error e → e.IsNeutral ∨
      ∃ key, deviceId.toKey = .ok key ∧ h.state.roster.contains key = true ∧
        e = { fault := .duplicateAdd deviceId.display } := by
  unfold prepare
  simp only [ends_bind, ends_state]
  refine ends_ofExcept _ (fun key named => ?_) fun f unnamed => ?_
  · refine ends_ite (fun there => ?_) fun absent => ?_
    · rintro _ ⟨⟩
      exact .inr ⟨key, named, there, rfl⟩
    · simp only [ends_bind, ends_log]
      refine Ends.mono (R := fun r _ => Neutral r)
        (ends_openChip_neutral (by exact devices) deviceId) ?_
      rintro (e | _ | handle) h₁ opened
      · rintro _ ⟨⟩
        exact .inl opened.isNeutral
      · intro e he
        cases he
      · simp only [ends_bind, ends_keep, ends_pure]
        intro e he
        cases he
  · rintro _ ⟨⟩
    exact .inl ((Failure.isNeutral_iff f).2 (Value.isNeutral_of_toKey unnamed))

/-- Registering a new record fails neutrally, in giving it up too. -/
theorem ends_registerRecord_neutral {number : Nat} {record : Record} {handle : Handle}
    (neutral : h.state.roster.HasNeutralBuses)
    (there : h.state.roster.records[number]? = some record) (held : record.handle = some handle)
    (unregistered : record.registration = none)
    (chips : ∀ chip, handle.chip = some chip → chip.device.IsNeutral) :
    (registerRecord number record).Ends h fun r _ => Neutral r := by
  have registered : (withinBus (ObjectBus.register (objectPath record.deviceId.display)
      record.deviceId)).Ends h fun r _ => Neutral r := by
    unfold withinBus withinRoster Roster.withinBus
    exact Ends.within (Ends.within
      (Connection.ends_register_neutral (h := h.withState h.state.roster.bus) neutral _ _))
  refine ((ends_withinBus_register _ _).and registered).map.recover ?_ ?_ ?_
  · exact fun _ _ _ => neutral_ok _
  · rintro e _ ⟨inner, made, -, failed⟩ -
    rw [made]
    exact failed.map _
  · rintro e h₁ ⟨inner, made, ⟨state, line, -⟩, failed⟩ -
    have failed : e.IsNeutral := Neutral.isNeutral (made ▸ failed.map _)
    have destroyed : (withinRoster (Roster.destroy number)).Ends h₁ fun r _ => Neutral r := by
      refine Ends.within (Roster.ends_destroy_neutral ?_ ?_ held chips ?_)
      · exact neutral.of_line line
      · change h₁.state.roster.records[number]? = some record
        rw [state]
        exact there
      · rw [unregistered]
        exact nofun
    refine destroyed.bind ?_ fun e' _ failed' => ?_
    · intro _ _ _
      exact neutral_ok _
    · exact neutral_error (failed'.isNeutral.after .during failed)

/-- A record that was opened and registered is entered: its device is still absent. -/
theorem ends_registerRecord_enters {t : Text} {device : Device} {info : ChipInfo}
    (opened : Opened t device info h h') :
    (registerRecord h.state.roster.records.length
      (newRecord t ⟨h.state.bindings.nextSerial, device⟩ info)).Ends h' fun r h₂ =>
        ∀ registration, r = .ok (some registration) →
          (enter h.state.roster.records.length
            (newRecord t ⟨h.state.bindings.nextSerial, device⟩ info)
            registration).Ends h₂ fun r _ => r = .ok () := by
  have there : h'.state.roster.records[h.state.roster.records.length]? =
      some (newRecord t ⟨h.state.bindings.nextSerial, device⟩ info) := by simp [opened.state]
  refine (ends_registerRecord there rfl rfl).mono ?_
  rintro _ h₂ ⟨-, entries, -, -, enrolling⟩ registration rfl
  cases enrolling with
  | taken serial takes records objects next kept =>
    have inside : h.state.roster.records.length < h₂.state.roster.records.length := by
      rw [records]
      exact (List.getElem?_eq_some_iff.1 there).1
    have absent : h₂.state.roster.contains (.text t) = false := by
      rw [Roster.contains_congr (entries.trans (by rw [opened.state]))]
      exact opened.absent
    exact Ends.mono (ends_enter inside (Value.toKey_text t) absent) fun _ _ entered => entered.1
  | dropped _ takes dropped records objects next closed =>
    obtain ⟨_, failed⟩ | ⟨skipped, -⟩ := dropped
    · cases failed
    · cases skipped

/-- An addition fails neutrally unless the device is exposed already. -/
theorem ends_addChip_neutral (neutral : h.state.IsNeutral xs) (deviceId : Value) :
    (addChip deviceId).Ends h fun r _ => ∀ e, r = .error e → e.IsNeutral ∨
      ∃ key, deviceId.toKey = .ok key ∧ h.state.roster.contains key = true ∧
        e = { fault := .duplicateAdd deviceId.display } := by
  rw [addChip_eq]
  refine ((ends_prepare deviceId).and (ends_prepare_neutral neutral.devices deviceId)).bind ?_ ?_
  · rintro (_ | prepared) h₁ ⟨prepares, -⟩
    · exact nofun
    obtain ⟨t, device, info, rfl, rfl, opened⟩ := prepares prepared rfl
    have there : h₁.state.roster.records[h.state.roster.records.length]? =
        some (newRecord t ⟨h.state.bindings.nextSerial, device⟩ info) := by simp [opened.state]
    have neutral₁ : h₁.state.roster.HasNeutralBuses := by
      rw [opened.state]
      exact neutral.buses
    have registered := ends_registerRecord_neutral neutral₁ there rfl rfl (by
      rintro chip ⟨⟩
      exact neutral.devices device opened.mem)
    have enrolled : (enroll h.state.roster.records.length
        (newRecord t ⟨h.state.bindings.nextSerial, device⟩ info)).Ends h₁ fun r _ => Neutral r := by
      refine (registered.and (ends_registerRecord_enters opened)).bind ?_ fun _ _ failed =>
        neutral_error failed.1.isNeutral
      rintro (_ | registration) h₂ ⟨-, enters⟩
      · exact neutral_ok none
      · refine (enters registration rfl).bind (fun _ _ _ => neutral_ok _) ?_
        rintro _ _ ⟨⟩
    exact enrolled.mono fun _ _ neutral e he => .inl (neutral e he)
  · exact fun e _ failed e' he => by cases he; exact failed.2 e rfl

end Broker

end GpioBroker
