import GpioBroker.Broker
import GpioBroker.Proofs.Oblivious
import GpioBroker.Proofs.Removal

/-!
# Adding chips

Adding a chip is refused if the device is known already; else the device is opened, kept as a
record, registered and entered.  Whichever step fails, what the steps before it made is given up
again, and the roster shows what it showed before; only a fault that nobody expects leaves a chip
open.
-/

namespace GpioBroker

open Act

/-- Whether records were added to a log, one of them a warning. -/
def Warned (old new : List LogRecord) : Prop :=
  ∃ more, new = old ++ more ∧ ∃ l ∈ more, l.level = Level.warning.number

theorem Warned.since {a b c d : List LogRecord} (warned : Warned b c) (before : a <+: b)
    (after : c <+: d) : Warned a d := by
  obtain ⟨first, rfl⟩ := before
  obtain ⟨more, rfl, l, hl, level⟩ := warned
  obtain ⟨last, rfl⟩ := after
  exact ⟨first ++ more ++ last, by simp, l, by simp [hl], level⟩

theorem Warned.log (old : List LogRecord) (text : Text) :
    Warned old (old ++ [⟨Level.warning.number, text⟩]) :=
  ⟨_, rfl, _, List.mem_singleton_self _, rfl⟩

/-- How an addition that comes to nothing ends: it fails, or it has warned. -/
def Dropped {α : Type} (old new : List LogRecord) (r : Except Failure (Option α)) : Prop :=
  (∃ e, r = .error e) ∨ r = .ok none ∧ Warned old new

theorem Dropped.since {α : Type} {a b c : List LogRecord} {r : Except Failure (Option α)}
    (dropped : Dropped b c r) (before : a <+: b) : Dropped a c r := by
  rcases dropped with failed | ⟨rfl, warned⟩
  · exact .inl failed
  · exact .inr ⟨rfl, warned.since before (List.prefix_refl c)⟩

theorem Dropped.mapError {α : Type} {a b : List LogRecord} {r : Except Failure (Option α)}
    (dropped : Dropped a b r) (f : Failure → Failure) : Dropped a b (r.mapError f) := by
  rcases dropped with ⟨e, rfl⟩ | ⟨rfl, warned⟩
  · exact .inl ⟨f e, rfl⟩
  · exact .inr ⟨rfl, warned⟩

theorem Roster.contains_congr {β : Type} {r r' : Roster β} (entries : r'.entries = r.entries)
    (key : Key) : r'.contains key = r.contains key := by
  unfold Roster.contains Roster.find?
  rw [entries]

namespace Broker

variable {η : Type} {h h' : Host (Broker (Connection Value) η)}

/-! ### Opening -/

theorem ends_withinBindings_openDevice (deviceId : Value) :
    (withinBindings (Bindings.openDevice deviceId)).Ends h fun r h' =>
      h'.state = { h.state with bindings := h'.state.bindings } ∧ h.records <+: h'.records ∧
        Bindings.Opening deviceId h.state.bindings h.calls h'.state.bindings h'.calls r ∧
        r.isOk = h.state.bindings.opens deviceId := by
  refine Ends.within ?_
  have opening := Bindings.ends_openDevice (h := h.withState h.state.bindings) deviceId
  have records :=
    (Bindings.isOblivious_openDevice deviceId).ends_records (h.withState h.state.bindings)
  have isOk := Bindings.isOk_run_openDevice deviceId (h.withState h.state.bindings)
  exact ⟨rfl, records, opening, isOk⟩

theorem ends_openChip (deviceId : Value) :
    (openChip deviceId).Ends h fun r h' =>
      h'.state = { h.state with bindings := h'.state.bindings } ∧ h.records <+: h'.records ∧
        ∃ opened, Bindings.Opening deviceId h.state.bindings h.calls h'.state.bindings
          h'.calls opened ∧
          opened.isOk = h.state.bindings.opens deviceId ∧
          ((∃ handle, opened = .ok handle ∧ r = .ok (some handle)) ∨
            ∃ e, opened = .error e ∧ Dropped h.records h'.records r) := by
  refine (ends_withinBindings_openDevice deviceId).map.recover ?_ ?_ ?_
  · rintro _ h₁ ⟨_ | handle, made, state, records, opening, isOk⟩
    · cases made
    · cases made
      exact ⟨state, records, _, opening, isOk, .inl ⟨handle, rfl, rfl⟩⟩
  · rintro e h₁ ⟨_ | handle, made, state, records, opening, isOk⟩ -
    · exact ⟨state, records, _, opening, isOk, .inr ⟨_, rfl, .inl ⟨e, rfl⟩⟩⟩
    · cases made
  · rintro e h₁ ⟨_ | handle, made, state, records, opening, isOk⟩ -
    · simp only [ends_bind, ends_log, ends_pure]
      refine ⟨state, records.trans (List.prefix_append ..), _, opening, isOk,
        .inr ⟨_, rfl, .inr ?_⟩⟩
      exact ⟨rfl, (Warned.log _ _).since records (List.prefix_refl _)⟩
    · cases made

/-! ### Registering -/

/-- What registering a new record may do to the roster. -/
inductive Enrolling (number : Nat) (record : Record) (handle : Handle)
    (h h' : Host (Broker (Connection Value) η)) : Except Failure (Option Int) → Prop
  | taken (serial : Nat)
      (takes : h.state.roster.bus.takes (objectPath record.deviceId.display) record.deviceId = true)
      (records : h'.state.roster.records = h.state.roster.records)
      (objects : h'.state.roster.bus.objects = h.state.roster.bus.objects ++
        [⟨h.state.roster.bus.nextRegistration, objectPath record.deviceId.display,
          ⟨serial, record.deviceId⟩⟩])
      (next : h'.state.roster.bus.nextRegistration = h.state.roster.bus.nextRegistration + 1)
      (kept : ∀ s, closes h'.calls s = closes h.calls s) :
      Enrolling number record handle h h' (.ok (some h.state.roster.bus.nextRegistration))
  | dropped (r : Except Failure (Option Int))
      (takes : h.state.roster.bus.takes (objectPath record.deviceId.display)
        record.deviceId = false)
      (dropped : Dropped h.records h'.records r)
      (records : ∀ n, n ≠ number → h'.state.roster.records[n]? = h.state.roster.records[n]?)
      (objects : h'.state.roster.bus.objects = h.state.roster.bus.objects)
      (next : h'.state.roster.bus.nextRegistration = h.state.roster.bus.nextRegistration)
      (closed : (∀ s, closes h'.calls s = closes (h.calls ++ handle.closing) s) ∨
        h.state.roster.HasWildBus) :
      Enrolling number record handle h h' r

theorem ends_withinBus_register (path : Text) (reader : Value) :
    (withinBus (ObjectBus.register path reader)).Ends h fun r h' =>
      h'.state = { h.state with roster := { h.state.roster with bus := h'.state.roster.bus } } ∧
        h'.state.roster.bus.line = h.state.roster.bus.line ∧ h.records <+: h'.records ∧
        (∀ s, closes h'.calls s = closes h.calls s) ∧
        Connection.Registering path reader (h.withState h.state.roster.bus)
          (h'.withState h'.state.roster.bus) r ∧
        r.isOk = h.state.roster.bus.takes path reader := by
  unfold withinBus withinRoster Roster.withinBus
  refine Ends.within (Ends.within ?_)
  have registering := Connection.ends_register (h := h.withState h.state.roster.bus) path reader
  have records :=
    (Connection.isOblivious_register path reader).ends_records (h.withState h.state.roster.bus)
  have isOk := Connection.isOk_run_register path reader (h.withState h.state.roster.bus)
  obtain ⟨kept, line, registering⟩ := registering
  exact ⟨rfl, line, records, kept, registering, isOk⟩

/-- What comes of giving up a record with a handle: a warning, or what comes out of closing the
chip. -/
structure GivenUp (handle : Handle) (text : Text) (old new : List LogRecord)
    (r : Except Failure (Option Int)) : Prop where
  warned : handle.stray? = none →
    r = .ok none ∧ ∃ more, new = old ++ more ++ [⟨Level.warning.number, text⟩]
  failed : ∀ f, handle.stray? = some f → r = .error { fault := f }

theorem GivenUp.dropped {handle : Handle} {text : Text} {old new : List LogRecord}
    {r : Except Failure (Option Int)} (givenUp : GivenUp handle text old new r) :
    Dropped old new r := by
  cases stray : handle.stray? with
  | none =>
    obtain ⟨ok, more, log⟩ := givenUp.warned stray
    rw [log]
    exact .inr ⟨ok, (Warned.log (old ++ more) text).since (List.prefix_append ..) List.prefix_rfl⟩
  | some f => exact .inl ⟨_, givenUp.failed f stray⟩

/-- Giving up a record that was not registered closes its chip. -/
theorem ends_giveUp {number : Nat} {record : Record} {handle : Handle}
    (there : h.state.roster.records[number]? = some record) (held : record.handle = some handle)
    (unregistered : record.registration = none) (text : Text) :
    (do
      withinRoster (Roster.destroy number)
      Act.log .warning text
      return none : Act (Broker (Connection Value) η) (Option Int)).Ends h fun r h' =>
      h'.state = { h.state with roster := h.state.roster.setRecord number record.emptied } ∧
        h.records <+: h'.records ∧ h'.calls = h.calls ++ handle.closing ∧
        GivenUp handle text h.records h'.records r := by
  have destroyed : (withinRoster (Roster.destroy number)).Ends h fun r h' =>
      h'.state = { h.state with roster := h.state.roster.setRecord number record.emptied } ∧
        h.records <+: h'.records ∧ h'.calls = h.calls ++ handle.closing ∧
        r = handle.closeOutcome := by
    refine Ends.within ?_
    refine (Roster.ends_destroy_unregistered (h := h.withState h.state.roster) there held
      unregistered).mono ?_
    rintro r h' ⟨state, calls, records, outcome⟩
    exact ⟨congrArg (fun roster => { h.state with roster }) state, records, calls, outcome⟩
  refine destroyed.bind ?_ ?_
  · rintro _ h₁ ⟨state, records, calls, outcome⟩
    simp only [ends_bind, ends_log, ends_pure]
    refine ⟨state, records.trans (List.prefix_append ..), calls, fun _ => ⟨rfl, ?_⟩, ?_⟩
    · obtain ⟨more, log⟩ := records
      exact ⟨more, by rw [log]⟩
    · intro f stray
      rw [Handle.closeOutcome, stray] at outcome
      cases outcome
  · rintro e h₁ ⟨state, records, calls, outcome⟩
    have stray := Handle.stray?_of_closeOutcome outcome.symm
    refine ⟨state, records, calls, fun none => ?_, fun f some => ?_⟩
    · cases stray.symm.trans none
    · rw [Handle.closeOutcome, some] at outcome
      cases outcome
      rfl

theorem ends_registerRecord {number : Nat} {record : Record} {handle : Handle}
    (there : h.state.roster.records[number]? = some record) (held : record.handle = some handle)
    (unregistered : record.registration = none) :
    (registerRecord number record).Ends h fun r h' =>
      h'.state = { h.state with roster := h'.state.roster } ∧
        h'.state.roster.entries = h.state.roster.entries ∧
        h'.state.roster.bus.line = h.state.roster.bus.line ∧ h.records <+: h'.records ∧
        Enrolling number record handle h h' r := by
  have registering := ends_withinBus_register (h := h) (objectPath record.deviceId.display)
    record.deviceId
  refine registering.map.recover ?_ ?_ ?_
  · rintro _ h₁ ⟨_ | registration, made, state, line, records, kept, registering, isOk⟩
    · cases made
    · cases made
      refine ⟨by rw [state], by rw [state], line, records, ?_⟩
      cases registering with
      | registered serial objects next =>
        exact .taken serial isOk.symm (by rw [state]) objects next kept
  · rintro e h₁ ⟨_ | registration, made, state, line, records, kept, registering, isOk⟩ notExpected
    · cases made
      refine ⟨by rw [state], by rw [state], line, records, ?_⟩
      cases registering with
      | refused _ objects next expected =>
        have wild : h.state.roster.HasWildBus := expected.resolve_left (by simp [notExpected])
        exact .dropped _ isOk.symm (.inl ⟨_, rfl⟩) (fun _ _ => by rw [state]) objects
          next (.inr wild)
    · cases made
  · rintro e h₁ ⟨_ | registration, made, state, line, records, kept, registering, isOk⟩ -
    · cases registering with
      | refused _ objects next expected =>
        have there₁ : h₁.state.roster.records[number]? = some record := by
          rw [state]
          exact there
        refine (ends_giveUp there₁ held unregistered _).mono ?_
        rintro r h₂ ⟨state₂, records₂, calls, givenUp⟩
        rw [state] at state₂
        refine ⟨by rw [state₂], by rw [state₂]; rfl, by rw [state₂]; exact line,
          records.trans records₂, ?_⟩
        refine .dropped _ isOk.symm ((givenUp.dropped.since records).mapError _) ?_ ?_ ?_ (.inl ?_)
        · intro n different
          rw [state₂]
          exact List.getElem?_set_ne different.symm
        · rw [state₂]
          exact objects
        · rw [state₂]
          exact next
        · intro s
          rw [calls, closes_append, closes_append, kept]
    · cases made

/-! ### Adding -/

/-- A device or a bus is not tame. -/
def IsWild (b : Broker (Connection Value) η) : Prop :=
  (∃ d ∈ b.bindings.devices, ¬ d.IsTame) ∨ b.roster.HasWildBus

/-- As many chips were closed again as were opened. -/
def Evens (h h' : Host (Broker (Connection Value) η)) : Prop :=
  ∀ s, (closes h'.calls s + if s < h.state.bindings.nextSerial then 1 else 0) =
    closes h.calls s + if s < h'.state.bindings.nextSerial then 1 else 0

/-- An opening that fails closes what it opened, or the device is not tame. -/
theorem evens_of_opening {deviceId : Value} {e : Failure}
    (opening : Bindings.Opening deviceId h.state.bindings h.calls h'.state.bindings
      h'.calls (.error e)) :
    Evens h h' ∨ h.state.IsWild := by
  cases opening with
  | refused _ state kept => exact .inl fun s => by rw [kept, state]
  | undone _ state closed =>
    refine .inl fun s => ?_
    rw [closed, state, Bindings.given_advanced]
    omega
  | abandoned _ state kept wild => exact .inr (.inl wild)

theorem devices_of_opening {deviceId : Value} {b b' : Bindings} {calls calls' : List Call}
    {r : Except Failure Handle} (opening : Bindings.Opening deviceId b calls b' calls' r) :
    b'.devices = b.devices := by
  cases opening <;> simp_all

/-- What adding a chip may do. -/
inductive Adding (deviceId : Value) (h h' : Host (Broker (Connection Value) η)) :
    Except Failure (Option Nat) → Prop
  /-- The device has no key, or is exposed already. -/
  | refused (e : Failure) (same : h' = h)
      (known : ∀ key, deviceId.toKey = .ok key →
        h.state.roster.contains key = true ∧ e.fault = .duplicateAdd deviceId.display) :
      Adding deviceId h h' (.error e)
  /-- The device was not opened, or its object was not registered. -/
  | dropped (r : Except Failure (Option Nat)) (key : Key) (named : deviceId.toKey = .ok key)
      (absent : h.state.roster.contains key = false)
      (misses : (h.state.bindings.opens deviceId &&
        h.state.roster.bus.takes (objectPath deviceId.display) deviceId) = false)
      (dropped : Dropped h.records h'.records r)
      (entries : h'.state.roster.entries = h.state.roster.entries)
      (objects : h'.state.roster.bus.objects = h.state.roster.bus.objects)
      (next : h'.state.roster.bus.nextRegistration = h.state.roster.bus.nextRegistration)
      (records : ∀ n < h.state.roster.records.length,
        h'.state.roster.records[n]? = h.state.roster.records[n]?)
      (evens : Evens h h' ∨ h.state.IsWild) : Adding deviceId h h' r
  /-- The chip is exposed. -/
  | exposed (x : Exposure) (named : deviceId = .text x.id)
      (absent : h.state.roster.contains (.text x.id) = false)
      (meets : (h.state.bindings.opens deviceId &&
        h.state.roster.bus.takes (objectPath deviceId.display) deviceId) = true)
      (number : x.number = h.state.roster.records.length)
      (registration : x.registration = h.state.roster.bus.nextRegistration)
      (serial : x.chip.serial = h.state.bindings.nextSerial)
      (device : x.chip.device ∈ h.state.bindings.devices)
      (entries : h'.state.roster.entries = h.state.roster.entries ++ [x.entry])
      (objects : h'.state.roster.bus.objects = h.state.roster.bus.objects ++ [x.object])
      (records : h'.state.roster.records = h.state.roster.records ++ [x.record])
      (next : h'.state.roster.bus.nextRegistration = h.state.roster.bus.nextRegistration + 1)
      (opened : h'.state.bindings = h.state.bindings.advanced)
      (kept : ∀ s, closes h'.calls s = closes h.calls s) :
        Adding deviceId h h' (.ok (some x.number))

/-- What an addition leaves alone. -/
structure Spares (h h' : Host (Broker (Connection Value) η)) : Prop where
  devices : h'.state.bindings.devices = h.state.bindings.devices
  line : h'.state.roster.bus.line = h.state.roster.bus.line
  source : h'.state.source = h.state.source
  ownership : h'.state.ownership = h.state.ownership

@[simp] theorem ends_keep (record : Record)
    {Q : Except Failure Nat → Host (Broker (Connection Value) η) → Prop} :
    (withinRoster (Roster.keep record)).Ends h Q ↔
      Q (.ok h.state.roster.records.length)
        { h with state := { h.state with roster :=
          { h.state.roster with records := h.state.roster.records ++ [record] } } } := Iff.rfl

/-- Entering a record that was completed just before. -/
theorem ends_enter {number : Nat} {record : Record} {key : Key}
    (inside : number < h.state.roster.records.length) (named : record.deviceId.toKey = .ok key)
    (absent : h.state.roster.contains key = false) :
    (withinRoster (η := η) do
      Act.update fun r => r.setRecord number record
      Roster.insert number).Ends h fun r h' => r = .ok () ∧
        h' = { h with state := { h.state with roster :=
          { h.state.roster with
            records := h.state.roster.records.set number record
            entries := h.state.roster.entries ++ [(key, number)] } } } := by
  refine Ends.within ?_
  unfold Roster.insert
  have there : (h.state.roster.records.set number record)[number]? = some record := by
    simp [inside]
  simp only [ends_bind, ends_update, ends_state, Host.withState, Roster.setRecord, there, named,
    ends_ofExcept_ok]
  have absent' : Roster.contains { h.state.roster with
      records := h.state.roster.records.set number record } key = false := absent
  simp only [absent', Bool.false_eq_true, if_false, ends_update]
  simp

/-- An addition whose device was not opened. -/
theorem adding_of_unopened {deviceId : Value} {key : Key} {e : Failure}
    {r : Except Failure (Option Nat)} (named : deviceId.toKey = .ok key)
    (absent : h.state.roster.contains key = false)
    (state : h'.state = { h.state with bindings := h'.state.bindings })
    (opening : Bindings.Opening deviceId h.state.bindings h.calls h'.state.bindings
      h'.calls (.error e))
    (unopened : h.state.bindings.opens deviceId = false)
    (dropped : Dropped h.records h'.records r) :
    Spares h h' ∧ Adding deviceId h h' r := by
  refine ⟨⟨devices_of_opening opening, by rw [state], by rw [state], by rw [state]⟩, ?_⟩
  refine .dropped r key named absent ?_ dropped ?_ ?_ ?_ (fun _ _ => ?_) (evens_of_opening opening)
  · rw [unopened]
    rfl
  · rw [state]
  · rw [state]
  · rw [state]
  · rw [state]

/-- The record of a device whose chip was just opened. -/
def newRecord (t : Text) (chip : OpenChip) (info : ChipInfo) : Record :=
  { deviceId := .text t, handle := some { deviceId := .text t, chip := some chip, info } }

/-- The chip of an absent device was opened, and its record is kept. -/
structure Opened (t : Text) (device : Device) (info : ChipInfo)
    (h h' : Host (Broker (Connection Value) η)) : Prop where
  absent : h.state.roster.contains (.text t) = false
  opens : h.state.bindings.opens (.text t) = true
  mem : device ∈ h.state.bindings.devices
  state : h'.state = { h.state with
    bindings := h.state.bindings.advanced
    roster := { h.state.roster with
      records :=
        h.state.roster.records ++ [newRecord t ⟨h.state.bindings.nextSerial, device⟩ info] } }
  log : h.records <+: h'.records
  kept : ∀ s, closes h'.calls s = closes h.calls s

namespace Opened

variable {t : Text} {device : Device} {info : ChipInfo} {h₁ h₂ : Host (Broker (Connection Value) η)}

theorem spares (opened : Opened t device info h h₁)
    (state : h₂.state = { h₁.state with roster := h₂.state.roster })
    (line : h₂.state.roster.bus.line = h₁.state.roster.bus.line) : Spares h h₂ where
  devices := by
    rw [state, opened.state]
    exact Bindings.devices_advanced _
  line := by rw [line, opened.state]
  source := by rw [state, opened.state]
  ownership := by rw [state, opened.state]

/-- The chip is closed again if its object is not registered. -/
theorem evens (opened : Opened t device info h h₁)
    (bindings : h₂.state.bindings = h₁.state.bindings)
    (closed : ∀ s, closes h₂.calls s =
      closes (h₁.calls ++ [.chip h.state.bindings.nextSerial device.path .close]) s) :
        Evens h h₂ := by
  intro s
  have serials : h₂.state.bindings = h.state.bindings.advanced := by
    rw [bindings, opened.state]
  rw [closed, closes_append, opened.kept, closes_close, serials, Bindings.given_advanced]
  omega

/-- An addition whose object was not registered. -/
theorem adding_of_dropped {r : Except Failure (Option Nat)} (opened : Opened t device info h h₁)
    (state : h₂.state = { h₁.state with roster := h₂.state.roster })
    (entries : h₂.state.roster.entries = h₁.state.roster.entries)
    (takes : h₁.state.roster.bus.takes (objectPath t) (.text t) = false)
    (dropped : Dropped h₁.records h₂.records r)
    (records : ∀ n, n ≠ h.state.roster.records.length →
      h₂.state.roster.records[n]? = h₁.state.roster.records[n]?)
    (objects : h₂.state.roster.bus.objects = h₁.state.roster.bus.objects)
    (next : h₂.state.roster.bus.nextRegistration = h₁.state.roster.bus.nextRegistration)
    (closed : (∀ s, closes h₂.calls s =
        closes (h₁.calls ++ [.chip h.state.bindings.nextSerial device.path .close]) s) ∨
      h₁.state.roster.HasWildBus) : Adding (.text t) h h₂ r := by
  have bindings : h₂.state.bindings = h₁.state.bindings := by rw [state]
  have evens : Evens h h₂ ∨ h.state.IsWild := by
    rcases closed with closed | wild
    · exact .inl (opened.evens bindings closed)
    · rw [opened.state] at wild
      exact .inr (.inr wild)
  rw [opened.state] at entries takes records objects next
  refine .dropped r (.text t) rfl opened.absent ?_ (dropped.since opened.log) entries objects next
    (fun n old => ?_) evens
  · rw [Bool.and_eq_false_iff]
    exact .inr takes
  · rw [records n (by omega)]
    exact List.getElem?_append_left old

/-- An addition whose object was registered and whose record was entered. -/
theorem adding_of_taken {serial : Nat} {h₃ : Host (Broker (Connection Value) η)}
    (opened : Opened t device info h h₁)
    (bindings : h₃.state.bindings = h₁.state.bindings)
    (takes : h₁.state.roster.bus.takes (objectPath t) (.text t) = true)
    (entries : h₃.state.roster.entries =
      h₁.state.roster.entries ++ [(.text t, h.state.roster.records.length)])
    (records : h₃.state.roster.records = h₁.state.roster.records.set h.state.roster.records.length
      { newRecord t ⟨h.state.bindings.nextSerial, device⟩ info with
        registration := some (.int h₁.state.roster.bus.nextRegistration) })
    (objects : h₃.state.roster.bus.objects = h₁.state.roster.bus.objects ++
      [⟨h₁.state.roster.bus.nextRegistration, objectPath t, ⟨serial, .text t⟩⟩])
    (next : h₃.state.roster.bus.nextRegistration = h₁.state.roster.bus.nextRegistration + 1)
    (kept : ∀ s, closes h₃.calls s = closes h₁.calls s) :
    Adding (.text t) h h₃ (.ok (some h.state.roster.records.length)) := by
  rw [opened.state] at bindings takes entries records objects next
  refine .exposed ⟨t, h.state.roster.records.length, ⟨h.state.bindings.nextSerial, device⟩, info,
    h.state.roster.bus.nextRegistration, serial⟩ rfl opened.absent ?_ rfl rfl rfl opened.mem entries
    objects ?_ next bindings fun s => (kept s).trans (opened.kept s)
  · rw [opened.opens]
    exact takes
  · rw [records]
    simp [Exposure.record, Exposure.handle, newRecord]

end Opened

theorem ends_addChip (deviceId : Value) :
    (addChip deviceId).Ends h fun r h' => Spares h h' ∧ Adding deviceId h h' r := by
  unfold addChip
  simp only [ends_bind, ends_state]
  refine ends_ofExcept _ (fun key named => ?_) fun f unnamed => ?_
  · dsimp only
    refine ends_ite (fun there => ?_) fun absent => ?_
    · refine ⟨⟨rfl, rfl, rfl, rfl⟩, .refused _ rfl fun key' named' => ?_⟩
      rw [named] at named'
      cases named'
      exact ⟨there, rfl⟩
    · have absent : h.state.roster.contains key = false := by simpa using absent
      simp only [ends_bind, ends_log]
      refine (ends_openChip deviceId).mono ?_
      rintro r h₁ ⟨state, log, outcome, opening, isOk, ⟨handle, rfl, rfl⟩ | ⟨e, rfl, dropped⟩⟩
      · cases opening with
        | opened t device info text mem advanced kept =>
        subst text
        cases named
        simp only [ends_bind, ends_keep]
        have opened : Opened t device info h { h₁ with state := { h₁.state with roster :=
            { h₁.state.roster with records := h₁.state.roster.records ++
              [newRecord t ⟨h.state.bindings.nextSerial, device⟩ info] } } } := by
          refine ⟨absent, isOk.symm, mem, ?_, (List.prefix_append ..).trans log, kept⟩
          rw [state, advanced]
        have number : h₁.state.roster.records.length =
            h.state.roster.records.length := by rw [state]
        rw [number]
        refine (ends_registerRecord (by simp [number]) rfl rfl).mono ?_
        rintro r h₂ ⟨state₂, entries, line, -, enrolling⟩
        have spares := opened.spares state₂ line
        cases enrolling with
        | taken serial takes records objects next kept =>
          have inside : h.state.roster.records.length < h₂.state.roster.records.length := by
            simp [records, number]
          have absent₂ : h₂.state.roster.contains (.text t) = false := by
            rw [Roster.contains_congr entries]
            change h₁.state.roster.contains (.text t) = false
            rw [state]
            exact absent
          dsimp only
          simp only [ends_bind]
          refine Ends.mono (ends_enter inside (Value.toKey_text t) absent₂) ?_
          rintro _ h₃ ⟨rfl, rfl⟩
          simp only [ends_pure]
          have bindings := congrArg Broker.bindings state₂
          refine ⟨⟨spares.devices, spares.line, spares.source, spares.ownership⟩, ?_⟩
          refine opened.adding_of_taken bindings takes ?_ ?_ objects next kept
          · exact congrArg (· ++ [(Key.text t, h.state.roster.records.length)]) entries
          · exact congrArg (List.set · h.state.roster.records.length _) records
        | dropped _ takes dropped records objects next closed =>
          have adding (r : Except Failure (Option Nat)) (dropped : Dropped _ h₂.records r) :=
            opened.adding_of_dropped state₂ entries takes dropped records objects next closed
          rcases dropped with ⟨e', rfl⟩ | ⟨rfl, warned⟩
          · exact ⟨spares, adding _ (.inl ⟨e', rfl⟩)⟩
          · exact ⟨spares, adding _ (.inr ⟨rfl, warned⟩)⟩
      · have dropped := dropped.since (List.prefix_append h.records _)
        have unopened : h.state.bindings.opens deviceId = false := isOk.symm
        rcases dropped with ⟨e', rfl⟩ | ⟨rfl, warned⟩
        · exact adding_of_unopened named absent state opening unopened (.inl ⟨e', rfl⟩)
        · exact adding_of_unopened named absent state opening unopened (.inr ⟨rfl, warned⟩)
  · refine ⟨⟨rfl, rfl, rfl, rfl⟩, .refused _ rfl fun key named => ?_⟩
    rw [unnamed] at named
    cases named

end Broker

end GpioBroker
