import GpioBroker.MessageBus.Interface
import GpioBroker.Proofs.Capture
import GpioBroker.Proofs.Linkage
import Mathlib.Data.List.Induction

/-!
# Reading properties

A read asks for a property of a device by its name.  It is answered from the metadata that were
captured when the record was made under which the device is exposed now, whatever became of the
device since, and no read calls a device.  An object answers for the name it is bound to, so one
that outlived its record answers as a new one does, and says that the chip is gone only if no device
of the name is exposed.
-/

namespace GpioBroker

open Act

theorem objectPath_injective {d d' : Text} (same : objectPath d = objectPath d') : d = d' := by
  obtain ⟨points⟩ := d
  obtain ⟨points'⟩ := d'
  have same : (Layout.rootPath ++ "/" : Text).toList ++ points =
      (Layout.rootPath ++ "/" : Text).toList ++ points' := congrArg Text.toList same
  rw [List.append_cancel_left same]

/-- The object path of an absent device is free in the table. -/
theorem Roster.Shows.path_ne_of_absent {r : Roster (Connection Value)} {xs : List Exposure}
    {t : Text} (shows : r.Shows xs) (absent : r.contains (.text t) = false) :
    ∀ o ∈ r.bus.objects, o.path ≠ objectPath t := by
  intro o ho path
  rw [shows.objects] at ho
  obtain ⟨x, hx, rfl⟩ := List.mem_map.1 ho
  exact shows.id_ne_of_absent absent hx (objectPath_injective path)

namespace ChipProperty

@[simp] theorem ofText?_text (p : ChipProperty) : ofText? p.text = some p := by
  cases p <;> decide

theorem ofText?_eq_none {name : Text} (other : ∀ p : ChipProperty, p.text ≠ name) :
    ofText? name = none := by
  unfold ofText?
  rw [List.find?_eq_none]
  intro p _
  simpa using other p

end ChipProperty

@[simp] theorem ReadTarget.ofName_text (p : ChipProperty) :
    ofName (.text p.text) = .ok (.reader p) := by
  simp [ofName]

/-- The names by which properties are asked for. -/
def propertyNames : List Text := ["Name", "Label", "NumLines"]

/-- What is to be read of a device with so many lines, by the names of its properties: the texts of
its name and of its label, and the number of its lines. -/
def Device.readings (d : Device) (lines : Int) : List (Text × Value) :=
  [("Name", .text d.name.display), ("Label", .text d.label.display), ("NumLines", .int lines)]

theorem mem_propertyNames_iff {name : Text} :
    name ∈ propertyNames ↔ ∃ p : ChipProperty, p.text = name := by
  constructor
  · intro there
    simp only [propertyNames, List.mem_cons, List.not_mem_nil, or_false] at there
    rcases there with rfl | rfl | rfl
    · exact ⟨.name, rfl⟩
    · exact ⟨.label, rfl⟩
    · exact ⟨.numLines, rfl⟩
  · rintro ⟨p, rfl⟩
    cases p <;> simp [propertyNames, ChipProperty.text]

/-- The metadata that are read from a device have the values that are to be read of it, each a text
or a number, however empty. -/
theorem Device.exists_lines {d : Device} {info : ChipInfo} (read : d.info? = .ok info) :
    ∃ lines, d.numLines.toInteger = .ok lines ∧ ∀ e ∈ d.readings lines,
      ∃ p : ChipProperty, p.text = e.1 ∧ p.value info = e.2 ∧ e.2 ≠ .null := by
  unfold info? at read
  cases count : d.numLines.toInteger with
  | error f =>
    rw [count] at read
    cases read
  | ok lines =>
    rw [count] at read
    cases read
    refine ⟨lines, rfl, fun e there => ?_⟩
    simp only [readings, List.mem_cons, List.not_mem_nil, or_false] at there
    rcases there with rfl | rfl | rfl
    · exact ⟨.name, rfl, rfl, nofun⟩
    · exact ⟨.label, rfl, rfl, nofun⟩
    · exact ⟨.numLines, rfl, rfl, nofun⟩

theorem answerProperty_some {v : Value} (value : v ≠ .null) : answerProperty (some v) = .ok v := by
  cases v <;> first | rfl | exact absurd rfl value

namespace Broker

variable {η : Type} {h : Host (Broker (Connection Value) η)} {d : Text}

/-- How an object answers when a property is read from it by its name. -/
def answer (object : ChipObject Value) (name : Text) : Act (Broker (Connection Value) η) Value :=
  readProperty (fun asked => getProperty object.reader (.text asked)) (.text name)

theorem property?_of_record? {b : Broker (Connection Value) η} {record : Record} {handle : Handle}
    (found : b.roster.record? (.text d) = some record) (held : record.handle = some handle)
    (p : ChipProperty) :
    b.property? (.text d) (.text p.text) = some (p.value handle.info) := by
  simp [property?, found, held, ChipProperty.ofKey?]

theorem property?_of_absent {b : Broker (Connection Value) η}
    (absent : b.roster.find? (.text d) = none) (property : Key) :
    b.property? (.text d) property = none := by
  simp [property?, Roster.record?, absent]

theorem property?_foreign (b : Broker (Connection Value) η) (device : Key) {name : Text}
    (other : ∀ p : ChipProperty, p.text ≠ name) : b.property? device (.text name) = none := by
  simp [property?, ChipProperty.ofKey?, ChipProperty.ofText?_eq_none other]

/-- The value of a property of a device changes nothing when it is read, and nobody is called for
it. -/
theorem ends_getProperty (d p : Text) : (getProperty (.text d) (.text p)).Ends h fun r h' =>
    r = .ok (h.state.property? (.text d) (.text p)) ∧ h'.state = h.state ∧ h'.calls = h.calls := by
  unfold getProperty
  simp only [ends_bind, ends_log, ends_state, Value.toKey_text, ends_ofExcept_ok,
    ends_pure, and_self]

/-- An object answers with the value of the property of its device. -/
theorem ends_answer {object : ChipObject Value} (bound : object.reader = .text d)
    (p : ChipProperty) :
    (answer object p.text).Ends h fun r h' => h'.state = h.state ∧ h'.calls = h.calls ∧
      r = match answerProperty (h.state.property? (.text d) (.text p.text)) with
        | .ok v => .ok v
        | .error f => .error { fault := f } := by
  unfold answer readProperty
  rw [bound, ReadTarget.ofName_text]
  simp only [ends_bind, ends_ofExcept_ok]
  refine (ends_getProperty d p.text).mono ?_
  rintro _ h' ⟨rfl, state, calls⟩
  refine ends_ofExcept _ (fun v answered => ?_) fun f answered => ?_
  · exact ⟨state, calls, by rw [answered]⟩
  · exact ⟨state, calls, by rw [answered]⟩

end Broker

/-! ### The history of a record -/

namespace Turn

variable {η : Type} [UeventSource η] {start : Host (Broker (Connection Value) η)}

theorem after_append (xs ys : List (Turn η)) (h : Host (Broker (Connection Value) η)) :
    after (xs ++ ys) h = after ys (after xs h) :=
  List.foldl_append

theorem follows_perform {turn : Turn η} (steady : ∀ devices, turn ≠ .setDevices devices)
    (foreign : ∀ number f, turn ≠ .changeBus number f) (h₀ : Host (Broker (Connection Value) η)) :
    turn.perform.Keeps (Broker.Follows h₀) := by
  cases turn with
  | handle e => exact Broker.isKept_follows.handle e
  | add deviceId => exact (Broker.isKept_follows.addChip deviceId).discard
  | remove deviceId => exact Broker.isKept_follows.removeChip deviceId
  | read deviceId property =>
    exact (Broker.keeps_getProperty (keeps_log Broker.isLoose_follows) deviceId property).discard
  | destroyAll => exact Broker.follows_destroyAll
  | begin script => exact Broker.follows_withinBus Connection.bears_update
  | resume attempt => exact Broker.follows_withinBus (Connection.bears_resume attempt)
  | cancel attempt => exact Broker.follows_withinBus (Connection.upholds_stillBears.cancel attempt)
  | release => exact Broker.follows_withinBus Connection.bears_release
  | hear m =>
    exact Broker.follows_withinBus (Connection.upholds_stillBears.deliver m Connection.bears_update)
  | hangUp fault => exact Broker.follows_withinBus (Connection.bears_hangUp fault)
  | changeBus number f => exact absurd rfl (foreign number f)
  | setDevices devices => exact absurd rfl (steady devices)
  | changeSource f => exact fun _ follows => ⟨follows.devices, follows.directory, follows.roster⟩

/-- A turn of the world puts no objects on the buses. -/
def PutsNothing (turn : Turn η) : Prop :=
  ∀ number f, turn = .changeBus number f →
    ∀ b : MessageBus Value, ∀ e ∈ (f b).exported, e ∈ b.exported

/-- Every turn leaves the handles it finds or captures them anew, and leaves the objects at the
paths of what they read. -/
theorem ends_perform_follows (turn : Turn η) (h : Host (Broker (Connection Value) η)) :
    turn.perform.Ends h fun _ h' =>
      Recorded h.state.bindings h.state.roster.records h'.state.roster.records ∧
        (turn.PutsNothing → h.state.roster.bus.Bears → h'.state.roster.bus.Bears) := by
  have others (steady : ∀ devices, turn ≠ .setDevices devices)
      (foreign : ∀ number f, turn ≠ .changeBus number f) : turn.perform.Ends h fun _ h' =>
        Recorded h.state.bindings h.state.roster.records h'.state.roster.records ∧
          (turn.PutsNothing → h.state.roster.bus.Bears → h'.state.roster.bus.Bears) :=
    (follows_perform steady foreign h h (.refl h)).mono fun _ _ follows =>
      ⟨follows.roster.recorded, fun _ => follows.roster.bears⟩
  cases turn with
  | changeBus number f =>
    exact ⟨.refl _ _, fun nothing => Connection.bears_changeBus _ number (nothing number f rfl)⟩
  | setDevices devices => exact ⟨.refl _ _, fun _ => id⟩
  | _ => exact others nofun nofun

/-- The device was there at the path of a name, as it was then, in the turn in which the record was
made. -/
def Captured (start : Host (Broker (Connection Value) η)) (turns : List (Turn η)) (d : Text)
    (number : Nat) (device : Device) : Prop :=
  ∃ before turn later path, turns = before ++ turn :: later ∧
    (after before start).state.roster.records.length ≤ number ∧
    number < (after (before ++ [turn]) start).state.roster.records.length ∧
    (after before start).state.bindings.pathOf (.text d) = .ok path ∧
    (after before start).state.bindings.find? path = some device

/-- Every handle that a record holds was captured as the record was made. -/
theorem captured_of_handle {turns : List (Turn η)} {number : Nat} {record : Record}
    {handle : Handle} {d : Text} (fresh : start.state.roster.records = [])
    (there : (after turns start).state.roster.records[number]? = some record)
    (held : record.handle = some handle) (named : handle.deviceId = .text d) :
    ∃ device, Captured start turns d number device ∧ device.info? = .ok handle.info := by
  induction turns using List.reverseRecOn generalizing record with
  | nil =>
    change start.state.roster.records[number]? = _ at there
    rw [fresh] at there
    cases there
  | append_singleton turns turn ih =>
    obtain ⟨recorded, -⟩ := ends_perform_follows turn (after turns start)
    have last : after (turns ++ [turn]) start = (turn.perform.run (after turns start)).2 :=
      after_append turns [turn] start
    rw [last] at there
    -- Either the record was there before the last turn and holds the handle since, or this turn
    -- made it.
    obtain early | late := Nat.lt_or_ge number (after turns start).state.roster.records.length
    · obtain ⟨record₀, there₀, held₀⟩ := recorded.kept number early record handle there held
      obtain ⟨device, ⟨before, first, later, path, rfl, captured⟩, read⟩ := ih there₀ held₀
      exact ⟨device, ⟨before, first, later ++ [turn], path, by simp, captured⟩, read⟩
    · obtain ⟨t, path, device, same, at_, found, read⟩ :=
        recorded.captured number late record handle there held
      cases same.symm.trans named
      refine ⟨device, ⟨turns, turn, [], path, rfl, late, ?_, at_, found⟩, read⟩
      rw [last]
      exact (List.getElem?_eq_some_iff.1 there).1

theorem bears_after {turns : List (Turn η)} (nothing : ∀ turn ∈ turns, turn.PutsNothing)
    (bears : start.state.roster.bus.Bears) : (after turns start).state.roster.bus.Bears := by
  induction turns generalizing start with
  | nil => exact bears
  | cons turn turns ih =>
    refine ih (fun turn there => nothing turn (List.mem_cons_of_mem _ there)) ?_
    exact (ends_perform_follows turn start).2 (nothing turn List.mem_cons_self) bears

/-! ### Answers -/

/-- How reads of a device are answered after some turns. -/
structure IsAnswered (start : Host (Broker (Connection Value) η)) (turns : List (Turn η))
    (d : Text) : Prop where
  /-- If the device is exposed, each of its properties is read as it was when the record was made
  under which the device is exposed now, and any object that is bound to the device answers with
  that. -/
  exposed : .text d ∈ (after turns start).state.roster.keys → ∃ number device lines,
    (after turns start).state.roster.find? (.text d) = some number ∧
      Captured start turns d number device ∧ device.numLines.toInteger = .ok lines ∧
        ∀ e ∈ device.readings lines,
          ((Broker.getProperty (.text d) (.text e.1)).run (after turns start)).1 = .ok (some e.2) ∧
            ∀ object, object.reader = .text d →
              ((Broker.answer object e.1).run (after turns start)).1 = .ok e.2
  /-- If it is not exposed, nothing is read, and any object that is bound to it says that the chip
  is gone. -/
  absent : .text d ∉ (after turns start).state.roster.keys →
    (∀ name : Text,
      ((Broker.getProperty (.text d) (.text name)).run (after turns start)).1 = .ok none) ∧
      ∀ object, object.reader = .text d → ∀ name ∈ propertyNames, ∃ gone : Fault,
        gone.busErrorName? = some "org.freedesktop.DBus.Error.UnknownObject" ∧
          gone.message = "chip is no longer available" ∧
          ((Broker.answer object name).run (after turns start)).1 = .error { fault := gone }
  /-- What is not one of the properties is not read. -/
  foreign : ∀ name ∉ propertyNames,
    ((Broker.getProperty (.text d) (.text name)).run (after turns start)).1 = .ok none
  /-- A read changes nothing, and calls no device and nobody else. -/
  untouched : ∀ name : Text,
    ((Broker.getProperty (.text d) (.text name)).run (after turns start)).2.state =
        (after turns start).state ∧
      ((Broker.getProperty (.text d) (.text name)).run (after turns start)).2.calls =
        (after turns start).calls
  /-- Nor does an object when it answers. -/
  inert : ∀ object, object.reader = .text d → ∀ name ∈ propertyNames,
    ((Broker.answer object name).run (after turns start)).2.state = (after turns start).state ∧
      ((Broker.answer object name).run (after turns start)).2.calls = (after turns start).calls
  /-- Any object on a bus at the path of the device is bound to it, unless the world put one
  there. -/
  bound : (∀ turn ∈ turns, turn.PutsNothing) → ∀ number b object,
    (after turns start).state.roster.bus.bus? number = some b →
      (objectPath d, object) ∈ b.exported →
      object.reader = .text d

theorem isAnswered_of_shows {turns : List (Turn η)} {xs : List Exposure}
    (fresh : start.state.roster.records = []) (bears : start.state.roster.bus.Bears)
    (shows : (after turns start).state.roster.Shows xs) (d : Text) : IsAnswered start turns d := by
  refine ⟨fun there => ?_, fun absent => ?_, fun name other => ?_, fun name => ?_,
    fun object reads name there => ?_, fun nothing number b object bus there => ?_⟩
  · obtain ⟨x, hx, same⟩ := (shows.mem_keys_iff _).1 there
    cases same
    obtain ⟨device, captured, read⟩ := captured_of_handle fresh (shows.records x hx) rfl rfl
    obtain ⟨lines, count, readings⟩ := Device.exists_lines read
    refine ⟨x.number, device, lines, shows.find?_eq_some hx, captured, count, fun e listed => ?_⟩
    obtain ⟨p, name, stated, value_ne⟩ := readings e listed
    have value := Broker.property?_of_record? (shows.record?_eq_some hx) rfl p
    rw [stated] at value
    rw [← name]
    refine ⟨?_, fun object reads => ?_⟩
    · rw [(Broker.ends_getProperty x.id p.text).1, value]
    · rw [(Broker.ends_answer reads p).2.2, value, answerProperty_some value_ne]
  · have gone : (after turns start).state.roster.find? (.text d) = none :=
      (Roster.find?_eq_none_iff _ _).2 absent
    refine ⟨fun name => ?_, fun object reads name there => ⟨.chipGone, rfl, rfl, ?_⟩⟩
    · rw [(Broker.ends_getProperty d name).1, Broker.property?_of_absent gone]
    · obtain ⟨p, rfl⟩ := mem_propertyNames_iff.1 there
      rw [(Broker.ends_answer reads p).2.2, Broker.property?_of_absent gone]
      rfl
  · have foreign : ∀ p : ChipProperty, p.text ≠ name := fun p same =>
      other (mem_propertyNames_iff.2 ⟨p, same⟩)
    rw [(Broker.ends_getProperty d name).1, Broker.property?_foreign _ _ foreign]
  · exact (Broker.ends_getProperty d name).2
  · obtain ⟨p, rfl⟩ := mem_propertyNames_iff.1 there
    obtain ⟨state, calls, -⟩ := Broker.ends_answer (h := after turns start) reads p
    exact ⟨state, calls⟩
  · obtain ⟨t, path, reads⟩ := bears_after nothing bears number b bus _ there
    rw [reads, objectPath_injective path]

/-- Whatever a fresh broker does and whatever happens around it, reads are answered as they should
be. -/
theorem isAnswered (bindings : Bindings) (name : Text) (source : η) (turns : List (Turn η))
    (d : Text) :
    IsAnswered { state := { bindings, roster := { bus := { name } }, source } } turns d := by
  obtain ⟨xs, shows⟩ := isShown_after turns
    { state := { bindings, roster := { bus := { name } }, source } } ⟨[], .nil rfl rfl⟩
  refine isAnswered_of_shows rfl ?_ shows d
  intro number b bus
  simp [Connection.bus?] at bus

end Turn

end GpioBroker
