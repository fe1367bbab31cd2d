import GpioBroker.Proofs.Addition
import GpioBroker.Proofs.Objects

/-!
# Additions that the bus rejects

Nobody but the addition itself knows of the chip that it opened, until the record is in the roster.
If the object of the chip is not registered, the record is given up and the chip closed, whatever
fails in that.  But a fault of the bus that is no refusal, and that is not said to be one of
registering either, passes by, and leaves the chip open for good.
-/

namespace GpioBroker

open Act

/-! ### The bus -/

/-- Exporting fails as the script says, and else only because the bus does not take the object. -/
theorem MessageBus.ends_exportObject_fault {ρ : Type} {h : Host (MessageBus ρ)} (path : Text)
    (object : ChipObject ρ) :
    (exportObject path object).Ends h fun r _ =>
      match h.state.script.exportFault? (.text path) with
      | some f => r = .error { fault := f }
      | none => ∀ e, r = .error e → ∃ f, e = { fault := f } ∧ f.refusesExport = true := by
  unfold exportObject
  simp only [ends_bind, ends_note, ends_state]
  refine ends_failing _ (fun quiet => ?_) fun f fault => ?_
  · simp only [quiet]
    refine ends_ofExcept _ (fun _ _ => ?_) fun f misnamed => ?_
    · exact ends_ite (fun _ e he => by cases he; exact ⟨_, rfl, rfl⟩) fun _ e he => by cases he
    · intro e he
      cases he
      unfold Names.checkText at misnamed
      split at misnamed
      · cases misnamed
      · cases misnamed
        exact ⟨_, rfl, rfl⟩
  · simp only [fault]

namespace Connection

variable {ρ : Type} {h : Host (Connection ρ)}

/-- The bus balks at an object at a path: it is asked to export it, and fails in a way that is
neither a refusal of the object nor said to be a fault of registering. -/
structure Balks (c : Connection ρ) (path : Text) (number : Nat) (b : MessageBus ρ)
    (f : Fault) : Prop where
  live : c.IsLive number b
  free : ∀ o ∈ c.objects, o.path ≠ path
  fails : b.script.exportFault? (.text path) = some f
  accepted : f.refusesExport = false
  unnamed : f.isRegistration = false

/-- Whether the bus balks at an object at a path. -/
def IsBalky (c : Connection ρ) (path : Text) : Prop := ∃ number b f, c.Balks path number b f

theorem ends_withinBus_exportObject {number : Nat} {b : MessageBus ρ}
    (bus : h.state.bus? number = some b) (path : Text) (object : ChipObject ρ) :
    (withinBus number (MessageBus.exportObject path object)).Ends h fun r _ =>
      match b.script.exportFault? (.text path) with
      | some f => r = .error { fault := f }
      | none => ∀ e, r = .error e → ∃ f, e = { fault := f } ∧ f.refusesExport = true :=
  ends_withinBus_of_bus? bus (MessageBus.ends_exportObject_fault (h := h.withState b) path object)

/-- A fault that is not one of registering comes out of a registration exactly if the bus balks. -/
theorem ends_register_isBalky (path : Text) (reader : ρ) :
    (register path reader).Ends h fun r _ =>
      (∃ e, r = .error e ∧ e.fault.isRegistration = false) ↔ h.state.IsBalky path := by
  unfold register
  simp only [ends_bind, ends_state]
  cases up : h.state.live? with
  | none =>
    refine iff_of_false ?_ ?_
    · rintro ⟨e, he, unnamed⟩
      cases he
      cases unnamed
    · rintro ⟨_, _, _, balks⟩
      rw [balks.live.live?] at up
      cases up
  | some number =>
    obtain ⟨b, live⟩ := live?_eq_some_iff.1 up
    refine ends_ite (fun taken => ?_) fun free => ?_
    · refine iff_of_false ?_ ?_
      · rintro ⟨e, he, unnamed⟩
        cases he
        cases unnamed
      · rintro ⟨_, _, _, balks⟩
        obtain ⟨o, ho, same⟩ := List.any_eq_true.1 taken
        exact balks.free o ho (by simpa using same)
    have free : ∀ o ∈ h.state.objects, o.path ≠ path := by simpa using free
    -- The bus in use decides: it is the only one that can balk.
    have balky : h.state.IsBalky path ↔ ∃ f, b.script.exportFault? (.text path) = some f ∧
        f.refusesExport = false ∧ f.isRegistration = false := by
      constructor
      · rintro ⟨_, b', f, balks⟩
        obtain ⟨-, rfl⟩ := live.unique balks.live
        exact ⟨f, balks.fails, balks.accepted, balks.unnamed⟩
      · rintro ⟨f, fails, accepted, unnamed⟩
        exact ⟨number, b, f, live, free, fails, accepted, unnamed⟩
    rw [balky]
    simp only [ends_bind, ends_update, ends_pure]
    have exported := ends_withinBus_exportObject
      (h := { h with state := { h.state with nextSerial := h.state.nextSerial + 1 } }) live.bus path
      ⟨h.state.nextSerial, reader⟩
    cases fault : b.script.exportFault? (.text path) with
    | none =>
      simp only [fault] at exported
      refine exported.explain ?_ ?_ ?_
      · exact fun _ _ _ => by simp
      · intro e _ refused accepted
        obtain ⟨f, rfl, refuses⟩ := refused e rfl
        rw [refuses] at accepted
        cases accepted
      · intro e _ _ _
        refine iff_of_false ?_ (by simp)
        rintro ⟨_, he, unnamed⟩
        cases he
        cases unnamed
    | some f =>
      simp only [fault] at exported
      refine exported.explain ?_ ?_ ?_
      · intro _ _ he
        cases he
      · intro e _ he accepted
        cases he
        simp [accepted]
      · intro e _ he refuses
        cases he
        refine iff_of_false ?_ ?_
        · rintro ⟨_, he, unnamed⟩
          cases he
          cases unnamed
        · rintro ⟨_, same, accepted, -⟩
          cases same
          rw [refuses] at accepted
          cases accepted

end Connection

namespace Broker

/-! ### The steps of an addition -/

section Steps

variable {β η : Type} [ObjectBus β]

/-- The first steps of an addition: gives the number of the new record and the record, or nothing if
the chip was not opened. -/
def prepare (deviceId : Value) : Act (Broker β η) (Option (Nat × Record)) := do
  let b ← Act.state
  let key ← Act.ofExcept deviceId.toKey
  if b.roster.contains key then Act.fail (.duplicateAdd deviceId.display)
  Act.log .debug ("creating a dbus object for " ++ deviceId.display)
  match ← openChip deviceId with
  | none => return none
  | some handle =>
    let record : Record := { deviceId, handle := some handle }
    let number ← withinRoster (Roster.keep record)
    return some (number, record)

/-- Completes a record with its registration and enters it. -/
def enter (number : Nat) (record : Record) (registration : Int) : Act (Broker β η) Unit :=
  withinRoster do
    Act.update fun r => r.setRecord number { record with registration := some (.int registration) }
    Roster.insert number

/-- The last steps of an addition: registers the new record and enters it. -/
def enroll (number : Nat) (record : Record) : Act (Broker β η) (Option Nat) := do
  match ← registerRecord number record with
  | none => return none
  | some registration =>
    enter number record registration
    return some number

/-- An addition takes the first steps, and the last ones if there is a record. -/
theorem addChip_eq (deviceId : Value) :
    (addChip deviceId : Act (Broker β η) (Option Nat)) =
      prepare deviceId >>= fun prepared =>
        match prepared with
        | none => pure none
        | some (number, record) => enroll number record := by
  unfold addChip prepare enroll enter
  rw [bind_assoc]
  refine bind_congr fun b => ?_
  rw [bind_assoc]
  refine bind_congr fun key => ?_
  dsimp only
  split
  · rfl
  · rw [bind_assoc]
    refine bind_congr fun _ => ?_
    rw [bind_assoc]
    refine bind_congr fun opened => ?_
    cases opened with
    | none => rfl
    | some handle =>
      dsimp only
      rw [bind_assoc]
      rfl

end Steps

variable {η : Type} {h h' : Host (Broker (Connection Value) η)}

/-- A record that was prepared is the new one of a device that was absent, and its chip was
opened. -/
theorem ends_prepare (deviceId : Value) :
    (prepare deviceId).Ends h fun r h' => ∀ prepared, r = .ok (some prepared) →
      ∃ t device info, deviceId = .text t ∧ prepared = (h.state.roster.records.length,
        newRecord t ⟨h.state.bindings.nextSerial, device⟩ info) ∧ Opened t device info h h' := by
  unfold prepare
  simp only [ends_bind, ends_state]
  refine ends_ofExcept _ (fun key named => ?_) fun f _ prepared he => by cases he
  refine ends_ite (fun _ prepared he => by cases he) fun absent => ?_
  have absent : h.state.roster.contains key = false := by simpa using absent
  simp only [ends_bind, ends_log]
  refine (ends_openChip deviceId).mono ?_
  rintro r h₁
    ⟨state, log, outcome, opening, isOk, ⟨handle, rfl, rfl⟩ | ⟨e, rfl, ⟨e', rfl⟩ | ⟨rfl, -⟩⟩⟩
  · cases opening with
    | opened t device info text mem advanced kept =>
      subst text
      cases named
      simp only [ends_bind, ends_keep, ends_pure]
      rintro prepared ⟨⟩
      have number : h₁.state.roster.records.length = h.state.roster.records.length := by rw [state]
      refine ⟨t, device, info, rfl, Prod.ext number rfl, absent, isOk.symm, mem, ?_, ?_, kept⟩
      · rw [state, advanced]
        rfl
      · exact (List.prefix_append ..).trans log
  · intro prepared he
    cases he
  · intro prepared he
    cases he

/-- A record is prepared for an absent device whose chip can be opened. -/
theorem ends_prepare_some {deviceId : Value} {key : Key} (named : deviceId.toKey = .ok key)
    (absent : h.state.roster.contains key = false)
    (opens : h.state.bindings.opens deviceId = true) :
    (prepare deviceId).Ends h fun r _ => ∃ prepared, r = .ok (some prepared) := by
  unfold prepare
  simp only [ends_bind, ends_state, named, ends_ofExcept_ok, absent, Bool.false_eq_true,
    if_false, ends_log]
  refine (ends_openChip deviceId).mono ?_
  rintro r h₁ ⟨-, -, outcome, -, isOk, ⟨handle, -, rfl⟩ | ⟨e, rfl, -⟩⟩
  · simp only [ends_bind, ends_keep, ends_pure]
    exact ⟨_, rfl⟩
  · cases isOk.trans opens

/-! ### Registering -/

theorem ends_withinBus_register_isBalky (path : Text) (reader : Value) :
    (withinBus (ObjectBus.register path reader)).Ends h fun r _ =>
      (∃ e, r = .error e ∧ e.fault.isRegistration = false) ↔ h.state.roster.bus.IsBalky path := by
  unfold withinBus withinRoster Roster.withinBus
  exact Ends.within (Ends.within
    (Connection.ends_register_isBalky (h := h.withState h.state.roster.bus) path reader))

/-- What registering a new record does with its chip. -/
inductive Filing (number : Nat) (record : Record) (handle : Handle)
    (h h' : Host (Broker (Connection Value) η)) : Except Failure (Option Int) → Prop
  /-- The record has a registration. -/
  | filed (registration : Int)
      (steady : ¬ h.state.roster.bus.IsBalky (objectPath record.deviceId.display))
      (records : h'.state.roster.records = h.state.roster.records) :
      Filing number record handle h h' (.ok (some registration))
  /-- The record was given up. -/
  | discarded (r : Except Failure (Option Int))
      (steady : ¬ h.state.roster.bus.IsBalky (objectPath record.deviceId.display))
      (unfiled : ∀ registration, r ≠ .ok (some registration))
      (records : h'.state.roster.records = h.state.roster.records.set number record.emptied)
      (closed : ∀ s, closes h'.calls s = closes (h.calls ++ handle.closing) s) :
      Filing number record handle h h' r
  /-- The record was left as it is. -/
  | stranded (e : Failure)
      (balky : h.state.roster.bus.IsBalky (objectPath record.deviceId.display))
      (records : h'.state.roster.records = h.state.roster.records)
      (kept : ∀ s, closes h'.calls s = closes h.calls s) :
        Filing number record handle h h' (.error e)

theorem ends_registerRecord_filing {number : Nat} {record : Record} {handle : Handle}
    (there : h.state.roster.records[number]? = some record) (held : record.handle = some handle)
    (unregistered : record.registration = none) :
    (registerRecord number record).Ends h fun r h' =>
      h'.state.roster.entries = h.state.roster.entries ∧ Filing number record handle h h' r := by
  have registering := (ends_withinBus_register (h := h) (objectPath record.deviceId.display)
    record.deviceId).and (ends_withinBus_register_isBalky (objectPath record.deviceId.display)
    record.deviceId)
  refine registering.map.recover ?_ ?_ ?_
  · rintro _ h₁ ⟨_ | registration, made, ⟨state, -⟩, balky⟩
    · cases made
    · cases made
      refine ⟨by rw [state], .filed registration (fun balks => ?_) (by rw [state])⟩
      obtain ⟨e, he, -⟩ := balky.2 balks
      cases he
  · rintro e h₁ ⟨_ | _, made, ⟨state, -, -, kept, -⟩, balky⟩ unnamed
    · cases made
      exact ⟨by rw [state], .stranded e (balky.1 ⟨e, rfl, unnamed⟩) (by rw [state]) kept⟩
    · cases made
  · rintro e h₁ ⟨_ | _, made, ⟨state, -, -, kept, -⟩, balky⟩ named
    · cases made
      have steady : ¬ h.state.roster.bus.IsBalky (objectPath record.deviceId.display) :=
        fun balks => by
        obtain ⟨_, he, unnamed⟩ := balky.2 balks
        cases he
        rw [named] at unnamed
        cases unnamed
      have there₁ : h₁.state.roster.records[number]? = some record := by rw [state]; exact there
      refine (ends_giveUp there₁ held unregistered _).mono ?_
      rintro r h₂ ⟨state₂, -, calls, givenUp⟩
      refine ⟨?_, .discarded _ steady (fun registration same => ?_) ?_ fun s => ?_⟩
      · rw [state₂, state]
        rfl
      · rcases givenUp.dropped with ⟨e', rfl⟩ | ⟨rfl, -⟩ <;> cases same
      · rw [state₂, state]
        rfl
      · rw [calls, closes_append, closes_append, kept]
    · cases made

/-! ### What becomes of the chip -/

/-- The chip that was opened for a device is accounted for: its record is in the roster under the
key of the device, or the record holds no handle and the chip was closed once. -/
def IsSecured (key : Key) (h h' : Host (Broker (Connection Value) η)) : Prop :=
  h'.state.roster.find? key = some h.state.roster.records.length ∨
    (∃ record, h'.state.roster.records[h.state.roster.records.length]? = some record ∧
      record.handle = none) ∧
    closes h'.calls h.state.bindings.nextSerial = closes h.calls h.state.bindings.nextSerial + 1

/-- A record that was entered under a key that was absent is found under it. -/
theorem find?_entered {r : Roster (Connection Value)} {key : Key} (absent : r.contains key = false)
    (number : Nat) : (r.entries ++ [(key, number)]).lookup key = some number := by
  have missing : r.entries.lookup key = none := by
    simpa [Roster.contains, Roster.find?] using absent
  simp [List.lookup_append, missing, List.lookup_cons_self]

/-- An addition that opened a chip accounts for it exactly if the bus does not balk at its
object. -/
theorem isSecured_iff {deviceId : Value} {key : Key} (named : deviceId.toKey = .ok key)
    (absent : h.state.roster.contains key = false)
    (opens : h.state.bindings.opens deviceId = true) :
    (addChip deviceId).Ends h (fun _ h' => IsSecured key h h') ↔
      ¬ h.state.roster.bus.IsBalky (objectPath deviceId.display) := by
  change (addChip deviceId).Ends h fun _ h' => (IsSecured key h h' ↔
      ¬ h.state.roster.bus.IsBalky (objectPath deviceId.display))
  rw [addChip_eq]
  simp only [ends_bind]
  refine ((ends_prepare deviceId).and (ends_prepare_some named absent opens)).mono ?_
  rintro _ h₁ ⟨prepares, prepared, rfl⟩
  obtain ⟨t, device, info, rfl, rfl, opened⟩ := prepares prepared rfl
  cases named
  have bus : h₁.state.roster.bus = h.state.roster.bus := by rw [opened.state]
  have entries₁ : h₁.state.roster.entries = h.state.roster.entries := by rw [opened.state]
  have records₁ : h₁.state.roster.records = h.state.roster.records ++
      [newRecord t ⟨h.state.bindings.nextSerial, device⟩ info] := by rw [opened.state]
  have there : h₁.state.roster.records[h.state.roster.records.length]? =
      some (newRecord t ⟨h.state.bindings.nextSerial, device⟩ info) := by simp [records₁]
  have inside : h.state.roster.records.length < h₁.state.roster.records.length := by simp [records₁]
  unfold enroll
  simp only [ends_bind]
  refine (ends_registerRecord_filing there rfl rfl).mono ?_
  rintro r h₂ ⟨entries, filing⟩
  rw [← bus]
  have entries := entries.trans entries₁
  have absent₂ : h₂.state.roster.contains (.text t) = false := by
    rw [Roster.contains_congr entries]
    exact absent
  have unentered : h₂.state.roster.find? (.text t) ≠ some h.state.roster.records.length :=
    fun found => by
    simp [Roster.contains, found] at absent₂
  cases filing with
  | filed registration steady records =>
    dsimp only
    simp only [ends_bind]
    refine Ends.mono (ends_enter (by rw [records]; exact inside) (Value.toKey_text t) absent₂) ?_
    rintro _ h₃ ⟨rfl, rfl⟩
    simp only [ends_pure]
    exact iff_of_true (.inl (find?_entered absent₂ _)) steady
  | discarded _ steady unfiled records closed =>
    have secured : IsSecured (.text t) h h₂ := by
      refine .inr ⟨⟨(newRecord t ⟨h.state.bindings.nextSerial, device⟩ info).emptied, ?_, rfl⟩, ?_⟩
      · rw [records]
        exact List.getElem?_set_self inside
      · rw [closed, closes_append, opened.kept]
        exact congrArg _ ((closes_close ..).trans (if_pos rfl))
    rcases r with e | _ | registration
    · exact iff_of_true secured steady
    · exact iff_of_true secured steady
    · exact absurd rfl (unfiled registration)
  | stranded e balky records kept =>
    refine iff_of_false ?_ (not_not_intro balky)
    rintro (entered | ⟨⟨record, found, empty⟩, -⟩)
    · exact unentered entered
    · rw [records, there] at found
      cases found
      cases empty

/-- A broker over a bus that may fail to export an object, and a device that can be opened. -/
def offering (fault : Option Fault) : Host (Broker (Connection Value) Unit) where
  state := {
    bindings := { devices := [{ path := "/dev/gpiochip0", numLines := .int 8 }] }
    roster := { bus := {
      link := some 0
      buses := [{
        script := { exportFaults := (fault.map (.text (objectPath "gpiochip0"), ·)).toList }
        isConnected := true }] } }
    source := () }

/-- A bus that refuses an object lets its chip be closed. -/
theorem isSecured_iff_refused :
    (addChip (.text "gpiochip0")).Ends (offering (some (.raised .value "refused"))) fun _ h' =>
      IsSecured (.text "gpiochip0") (offering (some (.raised .value "refused"))) h' := by
  refine (isSecured_iff (Value.toKey_text _) (by decide) (by decide +kernel)).2 ?_
  rintro ⟨number, b, f, balks⟩
  cases balks.live.link
  cases balks.live.bus
  have fault : some (Fault.raised .value "refused") = some f := balks.fails
  have accepted := balks.accepted
  cases fault
  revert accepted
  decide

/-- A bus that fails otherwise leaves the chip open. -/
theorem not_isSecured :
    ¬ ∀ (h : Host (Broker (Connection Value) Unit)) (deviceId : Value) (key : Key),
    deviceId.toKey = .ok key → h.state.roster.contains key = false →
      h.state.bindings.opens deviceId = true →
    (addChip deviceId).Ends h fun _ h' => IsSecured key h h' := by
  intro all
  have secured :=
    all (offering (some (.raised .runtime "boom"))) (.text "gpiochip0") (.text "gpiochip0") rfl
    (by decide) (by decide +kernel)
  rcases secured with entered | ⟨-, closed⟩
  · revert entered
    decide +kernel
  · revert closed
    decide +kernel

end Broker

end GpioBroker
