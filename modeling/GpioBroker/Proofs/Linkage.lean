import GpioBroker.Proofs.Ownership
import GpioBroker.Proofs.Passage

/-!
# The link between roster and bus

A broker over its own connection is used in any order: its operations, the steps of owning the name,
and whatever the world does to the bus, to the devices and to the source between them.  After every
turn the roster and the table of objects are linked one to one, however the turns before it ended.
-/

namespace GpioBroker

open Act

variable {η : Type}

namespace Roster

/-- Every entry has a record of its device, an open handle, and an object at the device's path that
reads the device's properties. -/
def EntriesAreServed (r : Roster (Connection Value)) : Prop :=
  ∀ key ∈ r.keys, ∃ device record handle registration object,
    key = .text device ∧ r.record? key = some record ∧ record.deviceId = .text device ∧
      record.handle = some handle ∧ handle.isClosed = false ∧
      record.registration = some (.int registration) ∧
      r.bus.find? registration = some object ∧ object.path = objectPath device ∧
      object.object.reader = .text device

/-- Every object on the bus is that of exactly one entry. -/
def ObjectsAreOwned (r : Roster (Connection Value)) : Prop :=
  ∀ object ∈ r.bus.objects, ∃! key, key ∈ r.keys ∧
    ∃ record, r.record? key = some record ∧ record.registration = some (.int object.registration)

/-- The entries and the objects belong together one to one. -/
structure IsLinked (r : Roster (Connection Value)) : Prop where
  keys : r.keys.Nodup
  registrations : (r.bus.objects.map RegisteredObject.registration).Nodup
  served : r.EntriesAreServed
  owned : r.ObjectsAreOwned

variable {r : Roster (Connection Value)} {xs : List Exposure}

/-- What shows a list of exposures is linked. -/
theorem Shows.isLinked (shows : r.Shows xs) : r.IsLinked where
  keys := by
    have injective : Function.Injective Key.text := fun _ _ same => by cases same; rfl
    have := shows.ids.map injective
    rw [shows.keys]
    simpa [Function.comp_def] using this
  registrations := by
    rw [shows.objects, List.map_map]
    exact shows.registrations
  served key hkey := by
    obtain ⟨x, hx, rfl⟩ := (shows.mem_keys_iff key).1 hkey
    exact ⟨x.id, x.record, x.handle, x.registration, x.object, rfl,
      shows.record?_eq_some hx, rfl, rfl,
      rfl, rfl, shows.find?_object hx, rfl, rfl⟩
  owned object hobject := by
    rw [shows.objects] at hobject
    obtain ⟨x, hx, rfl⟩ := List.mem_map.1 hobject
    refine ⟨.text x.id,
      ⟨(shows.mem_keys_iff _).2 ⟨x, hx, rfl⟩, x.record, shows.record?_eq_some hx, rfl⟩, ?_⟩
    rintro key ⟨hkey, record, found, same⟩
    obtain ⟨y, hy, rfl⟩ := (shows.mem_keys_iff key).1 hkey
    rw [shows.record?_eq_some hy] at found
    cases found
    have same : y.registration = x.registration := by
      simpa [Exposure.record, Exposure.object] using same
    rw [shows.eq_of_registration hy hx same]

end Roster

/-! ### Turns -/

/-- A turn of a broker or of the world around it. -/
inductive Turn (η : Type) where
  | handle (e : Event)
  | add (deviceId : Value)
  | remove (deviceId : Value)
  | read (deviceId property : Value)
  | destroyAll
  /-- Begins an attempt to own the name. -/
  | begin (script : BusScript)
  /-- Lets an attempt go on. -/
  | resume (attempt : Nat)
  | cancel (attempt : Nat)
  | release
  | hear (m : Message)
  | hangUp (fault : Option Fault)
  /-- A bus changes in any way: it goes up or down, or fails otherwise than before. -/
  | changeBus (number : Nat) (f : MessageBus Value → MessageBus Value)
  /-- The devices that are there are others, or fail otherwise than before. -/
  | setDevices (devices : List Device)
  | changeSource (f : η → η)

namespace Turn

/-- The roster shows some exposures. -/
def IsShown (h : Host (Broker (Connection Value) η)) : Prop := ∃ xs, h.state.roster.Shows xs

/-- What has no part in the objects of the connection changes nothing of what is shown. -/
theorem keeps_of_apart {α : Type} {x : Act (Connection Value) α}
    (keeps : ∀ h₀, x.Keeps (Connection.Apart h₀)) :
    (Broker.withinBus (η := η) x).Keeps IsShown := by
  rintro h ⟨xs, shows⟩
  unfold Broker.withinBus Broker.withinRoster Roster.withinBus
  refine Ends.within (Ends.within ?_)
  refine (keeps (h.withState h.state.roster.bus) _ ⟨rfl, rfl, fun _ => rfl⟩).mono ?_
  rintro r h' ⟨objects, next, -⟩
  exact ⟨xs, shows.same rfl objects next fun _ _ => rfl⟩

variable [UeventSource η]

/-- What happens in a turn. -/
def perform : Turn η → Act (Broker (Connection Value) η) Unit
  | .handle e => Broker.handle e
  | .add deviceId => discard (Broker.addChip deviceId)
  | .remove deviceId => Broker.removeChip deviceId
  | .read deviceId property => discard (Broker.getProperty deviceId property)
  | .destroyAll => Broker.destroyAll
  | .begin script => Broker.withinBus (Connection.begin script)
  | .resume attempt => Broker.withinBus (Connection.resume attempt)
  | .cancel attempt => Broker.withinBus (Connection.cancel attempt)
  | .release => Broker.withinBus Connection.release
  | .hear m => Broker.withinBus (Connection.deliver m)
  | .hangUp fault => Broker.withinBus (Connection.hangUp fault)
  | .changeBus number f => Broker.withinBus (update fun c => c.changeBus number f)
  | .setDevices devices => update fun b => { b with bindings := { b.bindings with devices } }
  | .changeSource f => update fun b => { b with source := f b.source }

/-- The host after some turns, each taken however the one before it ended. -/
def after (turns : List (Turn η)) (h : Host (Broker (Connection Value) η)) :
    Host (Broker (Connection Value) η) :=
  turns.foldl (fun h turn => (turn.perform.run h).2) h

theorem keeps_of_shown {α : Type} {x : Act (Broker (Connection Value) η) α}
    (keeps : ∀ h₀ xs₀, x.Keeps (Broker.Shown h₀ xs₀)) : x.Keeps IsShown := by
  rintro h ⟨xs, shows⟩
  refine (keeps h xs h ⟨xs, .refl shows⟩).mono ?_
  rintro r h' ⟨xs', passes⟩
  exact ⟨xs', passes.shows⟩

/-- Every turn leads from what is shown to what is shown. -/
theorem keeps_perform (turn : Turn η) : turn.perform.Keeps IsShown := by
  cases turn with
  | handle e => exact keeps_of_shown fun _ _ => Broker.isKept_shown.handle e
  | add deviceId => exact keeps_of_shown fun _ _ => (Broker.isKept_shown.addChip deviceId).discard
  | remove deviceId => exact keeps_of_shown fun _ _ => Broker.isKept_shown.removeChip deviceId
  | read deviceId property =>
    exact keeps_of_shown fun _ _ =>
      (Broker.keeps_getProperty (keeps_log Broker.isLoose_shown) deviceId property).discard
  | destroyAll => exact keeps_of_shown fun _ _ => Broker.keeps_destroyAll
  | begin script => exact keeps_of_apart fun _ => Connection.keeps_begin script
  | resume attempt => exact keeps_of_apart fun _ => Connection.keeps_resume attempt
  | cancel attempt => exact keeps_of_apart fun _ => Connection.keeps_cancel attempt
  | release => exact keeps_of_apart fun _ => Connection.keeps_release
  | hear m => exact keeps_of_apart fun _ => Connection.keeps_deliver m
  | hangUp fault => exact keeps_of_apart fun _ => Connection.keeps_hangUp fault
  | changeBus number f => exact keeps_of_apart fun _ => Connection.keeps_update
  | setDevices devices =>
    rintro h ⟨xs, shows⟩
    exact ⟨xs, shows⟩
  | changeSource f =>
    rintro h ⟨xs, shows⟩
    exact ⟨xs, shows⟩

theorem isShown_after (turns : List (Turn η)) (h : Host (Broker (Connection Value) η))
    (shown : IsShown h) : IsShown (after turns h) := by
  induction turns generalizing h with
  | nil => exact shown
  | cons turn turns ih => exact ih _ (keeps_perform turn h shown)

/-- After every turn of a fresh broker its roster and the objects on the bus are linked. -/
theorem isLinked_after (bindings : Bindings) (name : Text) (source : η) (turns : List (Turn η)) :
    (after turns
      { state := { bindings, roster := { bus := { name } }, source } }).state.roster.IsLinked := by
  obtain ⟨xs, shows⟩ := isShown_after turns
    { state := { bindings, roster := { bus := { name } }, source } } ⟨[], .nil rfl rfl⟩
  exact shows.isLinked

end Turn

end GpioBroker
