import GpioBroker.Proofs.Complaints
import GpioBroker.Proofs.Confinement

/-!
# Events that two brokers take in the same way

Two brokers whose bindings differ in the device at one path, and whose buses differ at the path of
its object, are twins: of everything else they show the same, and the same was asked of every other
device.  An event on another device ends in the same way on both and leaves them twins.
-/

namespace GpioBroker

open Act

/-- Two sets of bindings that differ at most in the device at a path, and in the numbers they
give. -/
structure Bindings.DifferAt (path : Text) (b b' : Bindings) : Prop where
  generation : b'.generation = b.generation
  directory : b'.directory = b.directory
  found : ∀ p ≠ path, b'.find? p = b.find? p

theorem Bindings.DifferAt.pathOf {path : Text} {b b' : Bindings} (differ : DifferAt path b b')
    (deviceId : Value) : b'.pathOf deviceId = b.pathOf deviceId := by
  unfold Bindings.pathOf
  rw [differ.directory]

theorem Bindings.DifferAt.alike {path : Text} {b b' : Bindings} (differ : DifferAt path b b')
    {deviceId : Value} (other : b.pathOf deviceId ≠ .ok path) : AlikeAt deviceId b b' := by
  unfold AlikeAt outlook
  rw [differ.generation, differ.pathOf]
  cases named : b.pathOf deviceId with
  | error f => rfl
  | ok p =>
    have apart : p ≠ path := fun same => other (same ▸ named)
    simp only [Except.map, differ.found p apart]

/-! ### The roster -/

namespace Roster

variable {path q : Text} {h h' : Host (Roster (Connection Value))} {xs zs : List Exposure}
    {x z : Exposure}

/-- Two rosters over connections of which the same is seen at the path of an object. -/
def AlikeAt (q : Text) (r r' : Roster (Connection Value)) : Prop := r.bus.AlikeAt q r'.bus

/-- Records that were not registered are given up in the same way if they have the same device
open. -/
theorem abreast_destroy_unregistered {number number' : Nat} {record record' : Record}
    {handle handle' : Handle} (there : h.state.records[number]? = some record)
    (held : record.handle = some handle) (unregistered : record.registration = none)
    (there' : h'.state.records[number']? = some record') (held' : record'.handle = some handle')
    (unregistered' : record'.registration = none) (device : handle.device? = handle'.device?)
    (inStep : InStep path (AlikeAt q) h h') :
    Abreast (destroy number) (destroy number') h h' (fun _ _ => InStep path (AlikeAt q))
      (InStep path (AlikeAt q)) := by
  unfold destroy
  refine abreast_state_bind ?_
  simp only [there, there']
  refine abreast_update_bind ?_
  rw [held, held', unregistered, unregistered']
  have emptied : InStep path (AlikeAt q) { h with state := h.state.setRecord number record.emptied }
      { h' with state := h'.state.setRecord number' record'.emptied } :=
    ⟨inStep.calls, inStep.state⟩
  exact (Handle.abreast_closeChip device emptied).ensure (fun _ _ _ _ inStep => abreast_pure inStep)
    fun _ _ inStep => abreast_pure inStep

/-- Two exposures of one device are destroyed in the same way. -/
theorem abreast_destroy_exposed (shows : h.state.Shows xs) (hx : x ∈ xs)
    (shows' : h'.state.Shows zs)
    (hz : z ∈ zs) (id : z.id = x.id) (device : x.chip.device = z.chip.device)
    (leave : Connection.LeaveAlike (objectPath x.id) h.state.bus h'.state.bus x.object.object
      z.object.object)
    (inStep : InStep path (AlikeAt (objectPath x.id)) h h') :
    Abreast (destroy x.number) (destroy z.number) h h'
      (fun _ _ => InStep path (AlikeAt (objectPath x.id)))
      (InStep path (AlikeAt (objectPath x.id))) := by
  unfold destroy
  refine abreast_state_bind ?_
  simp only [shows.records x hx, shows'.records z hz]
  refine abreast_update_bind ?_
  have unregisters (k k' : Host (Roster (Connection Value)))
      (inStep : InStep path (AlikeAt (objectPath x.id)) k k')
      (bus : k.state.bus = h.state.bus) (bus' : k'.state.bus = h'.state.bus) :
      Abreast (unregister (some (.int x.registration)))
        (unregister (some (.int z.registration))) k k'
        (fun _ _ => InStep path (AlikeAt (objectPath x.id)))
        (InStep path (AlikeAt (objectPath x.id))) := by
    have found : k.state.bus.find? x.registration = some x.object := bus ▸ shows.find?_object hx
    have found' : k'.state.bus.find? z.registration = some z.object := bus' ▸ shows'.find?_object hz
    have at_ : z.object.path = objectPath x.id := congrArg objectPath id
    have under : InStep path (Connection.AlikeAt (objectPath x.id)) (k.withState k.state.bus)
        (k'.withState k'.state.bus) := ⟨inStep.calls, inStep.state⟩
    unfold unregister withinBus
    refine Abreast.within ((Connection.abreast_unregister under found rfl found' at_ ?_).mono ?_ ?_)
    · exact bus ▸ bus' ▸ leave
    · exact fun _ _ _ _ inStep => ⟨inStep.calls, inStep.state⟩
    · exact fun _ _ inStep => ⟨inStep.calls, inStep.state⟩
  have emptied : InStep path (AlikeAt (objectPath x.id))
      { h with state := h.state.setRecord x.number x.record.emptied }
      { h' with state := h'.state.setRecord z.number z.record.emptied } :=
    ⟨inStep.calls, inStep.state⟩
  have same : x.handle.device? = z.handle.device? := congrArg some device
  have closed :=
    (Handle.abreast_closeChip same emptied).and x.handle.ends_closeChip z.handle.ends_closeChip
  refine Abreast.ensure closed ?_ ?_
  · rintro _ _ k k' ⟨inStep, ⟨state, -⟩, state', -⟩
    exact unregisters k k' inStep (by rw [state]; rfl) (by rw [state']; rfl)
  · rintro k k' ⟨inStep, -, ⟨state, -⟩, state', -⟩
    exact unregisters k k' inStep (by rw [state]; rfl) (by rw [state']; rfl)

/-- Of two rosters that both know a device, or both do not, both find nothing or each finds an
exposure of it. -/
theorem find?_cases {r r' : Roster (Connection Value)} (shows : r.Shows xs) (shows' : r'.Shows zs)
    {key : Key} (known : r.contains key = r'.contains key) :
    (r.find? key = none ∧ r'.find? key = none) ∨
      ∃ x ∈ xs, ∃ z ∈ zs, key = .text x.id ∧ z.id = x.id ∧
        r.find? key = some x.number ∧ r'.find? key = some z.number := by
  cases there : r.contains key with
  | false => exact .inl ⟨find?_of_absent there, find?_of_absent (known ▸ there)⟩
  | true =>
    obtain ⟨x, hx, rfl⟩ := shows.contains_iff.1 there
    obtain ⟨z, hz, same⟩ := shows'.contains_iff.1 (known ▸ there)
    have id : z.id = x.id := (Key.text.inj same).symm
    have found := shows'.find?_eq_some hz
    rw [id] at found
    exact .inr ⟨x, hx, z, hz, rfl, id, shows.find?_eq_some hx, found⟩

/-- A device is removed in the same way from two rosters that both know it, or both do not. -/
theorem abreast_remove (shows : h.state.Shows xs) (shows' : h'.state.Shows zs) {deviceId : Value}
    (known : ∀ key, deviceId.toKey = .ok key → h.state.contains key = h'.state.contains key)
    (alike : ∀ x ∈ xs, ∀ z ∈ zs, deviceId = .text x.id → z.id = x.id →
      x.chip.device = z.chip.device ∧
      Connection.LeaveAlike (objectPath x.id) h.state.bus h'.state.bus x.object.object
        z.object.object)
    (inStep : InStep path
      (fun r r' => ∀ t, deviceId = .text t → AlikeAt (objectPath t) r r') h h') :
    Abreast (remove deviceId) (remove deviceId) h h'
      (fun _ _ => InStep path fun r r' => ∀ t, deviceId = .text t → AlikeAt (objectPath t) r r')
      (InStep path fun r r' => ∀ t, deviceId = .text t → AlikeAt (objectPath t) r r') := by
  unfold remove
  refine abreast_state_bind (abreast_ofExcept_bind _ (fun key named => ?_) fun _ _ => inStep)
  obtain ⟨found, found'⟩ | ⟨x, hx, z, hz, rfl, id, found, found'⟩ :=
    find?_cases shows shows' (known key named)
  · rw [found, found']
    exact abreast_fail _ inStep
  · rw [found, found']
    obtain rfl := Value.eq_text_of_toKey named
    obtain ⟨device, leave⟩ := alike x hx z hz rfl id
    have destroyed := abreast_destroy_exposed shows hx shows' hz id device leave
      ⟨inStep.calls, inStep.state x.id rfl⟩
    have back (k k' : Host (Roster (Connection Value)))
        (inStep : InStep path (AlikeAt (objectPath x.id)) k k') :
        InStep path (fun r r' => ∀ t, Value.text x.id = .text t → AlikeAt (objectPath t) r r')
          { k with state := k.state.erase (.text x.id) }
          { k' with state := k'.state.erase (.text x.id) } := by
      refine ⟨inStep.calls, ?_⟩
      rintro _ ⟨⟩
      exact inStep.state
    exact destroyed.ensure (fun _ _ k k' inStep => abreast_update (back k k' inStep))
      fun k k' inStep => abreast_update (back k k' inStep)

end Roster

/-! ### The broker -/

namespace Broker

variable {η : Type} {x path : Text} {deviceId : Value} {b b' : Bindings}
variable {h h' : Host (Broker (Connection Value) η)}

/-- Two brokers of which the same is seen but at the path of the device `x` and at the path of its
object. -/
structure Twins (x path : Text) (b b' : Bindings)
    (h h' : Host (Broker (Connection Value) η)) : Prop where
  differ : b.DifferAt path b'
  one : IsSettled b h
  other : IsSettled b' h'
  calls : SameCalls path h.calls h'.calls
  bus : ∀ q ≠ objectPath x, h.state.roster.bus.AlikeAt q h'.state.roster.bus
  known : ∀ key ≠ .text x, h.state.roster.contains key = h'.state.roster.contains key
  apart : ∀ y ≠ x, h.state.roster.contains (.text y) = true → b.pathOf (.text y) ≠ .ok path

/-- A device name that is neither the one of a device nor leads to its path. -/
structure IsApart (x path : Text) (b : Bindings) (deviceId : Value) : Prop where
  name : deviceId ≠ .text x
  path : b.pathOf deviceId ≠ .ok path

namespace Twins

/-- Brokers stay twins when nothing changes but what twins do not see. -/
theorem still {k k' : Host (Broker (Connection Value) η)} (twins : Twins x path b b' h h')
    (bindings : k.state.bindings = h.state.bindings) (roster : k.state.roster = h.state.roster)
    (bindings' : k'.state.bindings = h'.state.bindings)
    (roster' : k'.state.roster = h'.state.roster) (calls : SameCalls path k.calls k'.calls) :
    Twins x path b b' k k' where
  differ := twins.differ
  one := twins.one.still bindings roster
  other := twins.other.still bindings' roster'
  calls := calls
  bus q other := by
    rw [roster, roster']
    exact twins.bus q other
  known key other := by
    rw [roster, roster']
    exact twins.known key other
  apart y other there := by
    rw [roster] at there
    exact twins.apart y other there

/-- A device that is apart sees the same of the bindings of twins. -/
theorem alike (twins : Twins x path b b' h h') (apart : IsApart x path b deviceId) :
    Bindings.AlikeAt deviceId h.state.bindings h'.state.bindings := by
  unfold Bindings.AlikeAt
  rw [Bindings.outlook_of_rest twins.one.rest, Bindings.outlook_of_rest twins.other.rest]
  exact twins.differ.alike apart.path

theorem known_of_toKey (twins : Twins x path b b' h h') (other : deviceId ≠ .text x) {key : Key}
    (named : deviceId.toKey = .ok key) :
    h.state.roster.contains key = h'.state.roster.contains key := by
  refine twins.known key ?_
  rintro rfl
  exact other (Value.eq_text_of_toKey named)

/-- Twins expose every other device with the same chip and the same metadata. -/
theorem exposed (twins : Twins x path b b' h h') {xs zs : List Exposure}
    (shows : h.state.roster.Shows xs) (shows' : h'.state.roster.Shows zs) {y z : Exposure}
    (hy : y ∈ xs) (hz : z ∈ zs) (id : z.id = y.id) (elsewhere : y.id ≠ x) :
    y.chip.device = z.chip.device ∧ y.info = z.info := by
  have apart : b.pathOf (.text y.id) ≠ .ok path :=
    twins.apart y.id elsewhere (shows.contains_iff.2 ⟨y, hy, rfl⟩)
  obtain ⟨p, chip, held, named, found, read⟩ := twins.one.gives shows hy
  obtain ⟨p', chip', held', named', found', read'⟩ := twins.other.gives shows' hz
  cases held
  cases held'
  change b.pathOf (.text y.id) = .ok p at named
  change b'.pathOf (.text z.id) = .ok p' at named'
  rw [id, twins.differ.pathOf, named] at named'
  cases named'
  have other : p ≠ path := fun same => apart (same ▸ named)
  rw [twins.differ.found p other, found] at found'
  have device : y.chip.device = z.chip.device := Option.some.inj found'
  rw [device, read'] at read
  exact ⟨device, (Except.ok.inj read).symm⟩

end Twins

/-! ### Reading -/

/-- A read is answered alike where the device has the same properties, or fails alike. -/
theorem outcome_getProperty (property : Value)
    (same : ∀ key, deviceId.toKey = .ok key →
      ∀ p, h.state.property? key p = h'.state.property? key p) :
    ((getProperty deviceId property).run h).1 = ((getProperty deviceId property).run h').1 := by
  have reads : Abreast (getProperty deviceId property) (getProperty deviceId property) h h'
      (fun v v' _ _ => v = v') fun _ _ => True := by
    refine abreast_log_bind (abreast_state_bind ?_)
    refine abreast_ofExcept_bind _ (fun key named => ?_) fun _ _ => trivial
    exact abreast_ofExcept_bind _ (fun p _ => abreast_pure (same key named p)) fun _ _ => trivial
  exact reads.outcome fun _ _ _ _ same => same

/-! ### Adding -/

/-- The same was asked of every device but one, and the same is seen of the bus by a device. -/
structure Agrees (path : Text) (deviceId : Value)
    (h h' : Host (Broker (Connection Value) η)) : Prop where
  calls : SameCalls path h.calls h'.calls
  bus : ∀ t, deviceId = .text t → h.state.roster.bus.AlikeAt (objectPath t) h'.state.roster.bus

theorem abreast_openChip (alike : Bindings.AlikeAt deviceId h.state.bindings h'.state.bindings)
    (calls : SameCalls path h.calls h'.calls) :
    Abreast (openChip deviceId) (openChip deviceId) h h'
      (fun r r' k k' =>
        r.map Handle.device? = r'.map Handle.device? ∧ SameCalls path k.calls k'.calls)
      fun k k' => SameCalls path k.calls k'.calls := by
  have opening : Abreast (withinBindings (Bindings.openDevice deviceId))
      (withinBindings (Bindings.openDevice deviceId)) h h'
      (fun handle handle' k k' =>
        handle.device? = handle'.device? ∧ SameCalls path k.calls k'.calls)
      fun k k' => SameCalls path k.calls k'.calls := by
    have under : InStep path (Bindings.AlikeAt deviceId) (h.withState h.state.bindings)
        (h'.withState h'.state.bindings) := ⟨calls, alike⟩
    exact Abreast.within ((Bindings.abreast_openDevice under).mono
      (fun _ _ _ _ opened => ⟨opened.1, opened.2.calls⟩) fun _ _ inStep => inStep.calls)
  have somes : Abreast (some <$> withinBindings (Bindings.openDevice deviceId))
      (some <$> withinBindings (Bindings.openDevice deviceId)) h h'
      (fun r r' k k' =>
        r.map Handle.device? = r'.map Handle.device? ∧ SameCalls path k.calls k'.calls)
      fun k k' => SameCalls path k.calls k'.calls :=
    (opening.mono (fun _ _ _ _ opened => ⟨congrArg some opened.1, opened.2⟩)
      fun _ _ failed => failed).map
  refine somes.recover (fun _ _ _ _ opened => opened) (fun _ _ failed => failed)
    fun f k k' failed _ => ?_
  exact abreast_log_bind (abreast_pure ⟨rfl, failed⟩)

theorem abreast_prepare (alike : Bindings.AlikeAt deviceId h.state.bindings h'.state.bindings)
    (known : ∀ key, deviceId.toKey = .ok key →
      h.state.roster.contains key = h'.state.roster.contains key)
    (calls : SameCalls path h.calls h'.calls) :
    Abreast (prepare deviceId) (prepare deviceId) h h'
      (fun r r' k k' => r.map (fun p => p.2.handle.bind Handle.device?) =
        r'.map (fun p => p.2.handle.bind Handle.device?) ∧ SameCalls path k.calls k'.calls)
      fun k k' => SameCalls path k.calls k'.calls := by
  unfold prepare
  refine abreast_state_bind (abreast_ofExcept_bind _ (fun key named => ?_) fun _ _ => calls)
  rw [known key named]
  refine abreast_ite (fun _ => abreast_fail_bind _ calls) fun _ => abreast_log_bind ?_
  refine Abreast.bind (abreast_openChip (by exact alike) (by exact calls)) ?_
    fun _ _ failed => failed
  rintro (_ | handle) (_ | handle') k k' ⟨device, calls⟩
  · exact abreast_pure ⟨rfl, calls⟩
  · cases device
  · cases device
  · exact .value rfl rfl ⟨device, calls⟩

theorem agrees_text {t : Text} : Agrees path (.text t) h h' ↔
    SameCalls path h.calls h'.calls ∧
      h.state.roster.bus.AlikeAt (objectPath t) h'.state.roster.bus :=
  ⟨fun agrees => ⟨agrees.calls, agrees.bus t rfl⟩,
    fun agrees => ⟨agrees.1, fun _ same => by cases same; exact agrees.2⟩⟩

section Enrolling

variable {number number' : Nat} {record record' : Record} {handle handle' : Handle}

theorem abreast_registerRecord (prepared : Prepared deviceId h number record handle)
    (prepared' : Prepared deviceId h' number' record' handle')
    (device : handle.device? = handle'.device?) (agrees : Agrees path deviceId h h')
    (free : ∀ o ∈ h.state.roster.bus.objects, o.path ≠ objectPath deviceId.display)
    (free' : ∀ o ∈ h'.state.roster.bus.objects, o.path ≠ objectPath deviceId.display) :
    Abreast (registerRecord number record) (registerRecord number' record') h h'
      (fun r r' k k' => r.isSome = r'.isSome ∧ Agrees path deviceId k k')
      (Agrees path deviceId) := by
  obtain ⟨t, rfl⟩ := prepared.exists_text
  have registering : Abreast (withinBus (ObjectBus.register (objectPath t) (.text t)))
      (withinBus (ObjectBus.register (objectPath t) (.text t))) h h'
      (fun _ _ => Agrees path (.text t)) (Agrees path (.text t)) := by
    have under : InStep path (Connection.AlikeAt (objectPath t)) (h.withState h.state.roster.bus)
        (h'.withState h'.state.roster.bus) := ⟨agrees.calls, agrees.bus t rfl⟩
    unfold withinBus withinRoster Roster.withinBus
    refine Abreast.within
      (Abreast.within ((Connection.abreast_register under free free').mono ?_ ?_))
    · exact fun _ _ _ _ inStep => agrees_text.2 ⟨inStep.calls, inStep.state⟩
    · exact fun _ _ inStep => agrees_text.2 ⟨inStep.calls, inStep.state⟩
  unfold registerRecord
  rw [prepared.named, prepared'.named]
  have somes : Abreast (some <$> withinBus (ObjectBus.register (objectPath t) (.text t)))
      (some <$> withinBus (ObjectBus.register (objectPath t) (.text t))) h h'
      (fun r r' k k' => r.isSome = r'.isSome ∧ Agrees path (.text t) k k')
      (fun k k' => Agrees path (.text t) k k' ∧ k.state.roster.records = h.state.roster.records ∧
        k'.state.roster.records = h'.state.roster.records) := by
    refine Abreast.map ((registering.and (ends_withinBus_register (objectPath t) (.text t))
      (ends_withinBus_register (objectPath t) (.text t))).mono ?_ ?_)
    · exact fun _ _ _ _ registered => ⟨rfl, registered.1⟩
    · rintro k k' ⟨agrees, _, ⟨state, -⟩, state', -⟩
      exact ⟨agrees, by rw [state], by rw [state']⟩
  refine somes.recover (fun _ _ _ _ registered => registered) (fun _ _ failed => failed.1) ?_
  rintro f k k' ⟨agrees, records, records'⟩ -
  have under : InStep path (Roster.AlikeAt (objectPath t)) (k.withState k.state.roster)
      (k'.withState k'.state.roster) := ⟨agrees.calls, agrees.bus t rfl⟩
  have there : (k.withState k.state.roster).state.records[number]? = some record := by
    change k.state.roster.records[number]? = _
    rw [records, prepared.there]
  have there' : (k'.withState k'.state.roster).state.records[number']? = some record' := by
    change k'.state.roster.records[number']? = _
    rw [records', prepared'.there]
  have destroyed :
      Abreast (withinRoster (Roster.destroy number)) (withinRoster (Roster.destroy number')) k k'
      (fun _ _ => Agrees path (.text t)) (Agrees path (.text t)) := by
    refine Abreast.within
      ((Roster.abreast_destroy_unregistered there prepared.held prepared.unregistered there'
      prepared'.held prepared'.unregistered device under).mono ?_ ?_)
    · exact fun _ _ _ _ inStep => agrees_text.2 ⟨inStep.calls, inStep.state⟩
    · exact fun _ _ inStep => agrees_text.2 ⟨inStep.calls, inStep.state⟩
  refine destroyed.bind (fun _ _ k₁ k₁' agrees => ?_) fun _ _ failed => failed
  exact abreast_log_bind (abreast_pure ⟨rfl, agrees.calls, agrees.bus⟩)

theorem ends_enter_ok {registration : Int}
    (enters : (enter number record registration).Ends h fun r _ => r = .ok ()) :
    (enter number record registration).Ends h fun r h' => ∃ u, r = .ok u ∧ h'.calls = h.calls ∧
      h'.state.roster.bus = h.state.roster.bus :=
  (enters.and (ends_enter_spares number record registration)).mono
    fun _ _ ⟨ok, calls, _, bus, _⟩ => ⟨(), ok, calls, bus⟩

theorem abreast_enroll (prepared : Prepared deviceId h number record handle)
    (prepared' : Prepared deviceId h' number' record' handle')
    (device : handle.device? = handle'.device?)
    (agrees : Agrees path deviceId h h')
    (free : ∀ o ∈ h.state.roster.bus.objects, o.path ≠ objectPath deviceId.display)
    (free' : ∀ o ∈ h'.state.roster.bus.objects, o.path ≠ objectPath deviceId.display)
    (enters : (registerRecord number record).Ends h
      fun r h₁ => ∀ registration, r = .ok (some registration) →
      (enter number record registration).Ends h₁ fun r _ => r = .ok ())
    (enters' : (registerRecord number' record').Ends h'
      fun r h₁ => ∀ registration, r = .ok (some registration) →
      (enter number' record' registration).Ends h₁ fun r _ => r = .ok ()) :
    Abreast (enroll number record) (enroll number' record') h h'
      (fun r r' k k' => r.isSome = r'.isSome ∧ Agrees path deviceId k k')
      (Agrees path deviceId) := by
  unfold enroll
  refine ((abreast_registerRecord prepared prepared' device agrees free free').and enters
    enters').bind ?_
    fun _ _ failed => failed.1
  rintro (_ | registration) (_ | registration') k k' ⟨⟨same, agrees⟩, enters, enters'⟩
  · exact abreast_pure ⟨rfl, agrees⟩
  · cases same
  · cases same
  have entering :
      Abreast (enter number record registration) (enter number' record' registration') k k'
      (fun _ _ => Agrees path deviceId) (Agrees path deviceId) := by
    refine abreast_of_ends (ends_enter_ok (enters registration rfl))
      (ends_enter_ok (enters' registration' rfl)) ?_
    rintro _ _ k₁ k₁' ⟨calls, bus⟩ ⟨calls', bus'⟩
    refine ⟨?_, fun t named => ?_⟩
    · rw [calls, calls']
      exact agrees.calls
    · rw [bus, bus']
      exact agrees.bus t named
  exact entering.bind (fun _ _ _ _ agrees => abreast_pure ⟨rfl, agrees⟩) fun _ _ failed => failed

end Enrolling

/-- Twins after an event on a device that is apart, on which they agree. -/
theorem Twins.step {k k' : Host (Broker (Connection Value) η)} (twins : Twins x path b b' h h')
    (agrees : Agrees path deviceId k k') (one : IsSettled b k) (other : IsSettled b' k')
    (confined : Confined deviceId h k) (confined' : Confined deviceId h' k')
    (known : ∀ key ≠ .text x, k.state.roster.contains key = k'.state.roster.contains key)
    (apart : ∀ y ≠ x, k.state.roster.contains (.text y) = true → b.pathOf (.text y) ≠ .ok path) :
    Twins x path b b' k k' where
  differ := twins.differ
  one := one
  other := other
  calls := agrees.calls
  bus q elsewhere := by
    by_cases here : ∃ t, deviceId = .text t ∧ objectPath t = q
    · obtain ⟨t, named, rfl⟩ := here
      exact agrees.bus t named
    · have apart (t : Text) (named : deviceId = .text t) : objectPath t ≠ q :=
        fun same => here ⟨t, named, same⟩
      unfold Connection.AlikeAt
      rw [confined.bus q apart, confined'.bus q apart]
      exact twins.bus q elsewhere
  known := known
  apart := apart

theorem Twins.agrees (twins : Twins x path b b' h h') (other : deviceId ≠ .text x) :
    Agrees path deviceId h h' where
  calls := twins.calls
  bus t named := twins.bus _ fun same => other (by rw [named, objectPath_injective same])

/-- A device is added in the same way by two brokers of which it sees the same, if both know it or
both do not. -/
theorem agrees_addChip {xs zs : List Exposure} (shows : h.state.roster.Shows xs)
    (shows' : h'.state.roster.Shows zs)
    (alike : Bindings.AlikeAt deviceId h.state.bindings h'.state.bindings)
    (known : ∀ key, deviceId.toKey = .ok key →
      h.state.roster.contains key = h'.state.roster.contains key)
    (agrees : Agrees path deviceId h h') :
    Abreast (addChip deviceId) (addChip deviceId) h h'
      (fun r r' k k' => r.isSome = r'.isSome ∧ Agrees path deviceId k k')
      (Agrees path deviceId) := by
  have prepares {l : Host (Broker (Connection Value) η)} {ys : List Exposure}
      (shows : l.state.roster.Shows ys) :=
    (ends_prepare_confined deviceId).and (Turn.isUnhindered_of_shows shows deviceId)
  have still {k k' : Host (Broker (Connection Value) η)} (calls : SameCalls path k.calls k'.calls)
      (bus : k.state.roster.bus = h.state.roster.bus)
      (bus' : k'.state.roster.bus = h'.state.roster.bus) :
      Agrees path deviceId k k' := by
    refine ⟨calls, fun t named => ?_⟩
    rw [bus, bus']
    exact agrees.bus t named
  rw [addChip_eq]
  refine ((abreast_prepare alike known agrees.calls).and (prepares shows)
    (prepares shows')).bind ?_ ?_
  · rintro (_ | ⟨number, record⟩) (_ | ⟨number', record'⟩) k k' ⟨⟨device, calls⟩,
      ⟨⟨bus, -, prepared⟩, unhindered⟩,
      ⟨bus', -, prepared'⟩, unhindered'⟩
    · exact abreast_pure ⟨rfl, still calls bus bus'⟩
    · cases device
    · cases device
    obtain ⟨handle, prepared⟩ := prepared number record rfl
    obtain ⟨handle', prepared'⟩ := prepared' number' record' rfl
    obtain ⟨free, enters⟩ := unhindered number record rfl
    obtain ⟨free', enters'⟩ := unhindered' number' record' rfl
    have device : handle.device? = handle'.device? := by
      simpa [prepared.held, prepared'.held] using device
    exact abreast_enroll prepared prepared' device (still calls bus bus') free free' enters enters'
  · rintro k k' ⟨calls, _, ⟨⟨bus, -⟩, -⟩, ⟨bus', -⟩, -⟩
    exact still calls bus bus'

/-- A device is removed in the same way by two brokers of which it sees the same, if both know it or
both do not. -/
theorem agrees_removeChip {xs zs : List Exposure} (shows : h.state.roster.Shows xs)
    (shows' : h'.state.roster.Shows zs)
    (known : ∀ key, deviceId.toKey = .ok key →
      h.state.roster.contains key = h'.state.roster.contains key)
    (alike : ∀ y ∈ xs, ∀ z ∈ zs, deviceId = .text y.id → z.id = y.id →
      y.chip.device = z.chip.device ∧
      Connection.LeaveAlike (objectPath y.id) h.state.roster.bus h'.state.roster.bus y.object.object
        z.object.object)
    (agrees : Agrees path deviceId h h') :
    Abreast (removeChip deviceId) (removeChip deviceId) h h' (fun _ _ => Agrees path deviceId)
      (Agrees path deviceId) := by
  unfold removeChip
  refine abreast_log_bind
    (Abreast.within ((Roster.abreast_remove (by exact shows) (by exact shows') known alike
    ⟨agrees.calls, by exact agrees.bus⟩).mono ?_ ?_))
  · exact fun _ _ _ _ inStep => ⟨inStep.calls, inStep.state⟩
  · exact fun _ _ inStep => ⟨inStep.calls, inStep.state⟩

/-- Twins agree on a device that is apart when it has been added to both. -/
theorem Twins.agrees_addChip (twins : Twins x path b b' h h') (apart : IsApart x path b deviceId) :
    Abreast (addChip deviceId) (addChip deviceId) h h'
      (fun r r' k k' => r.isSome = r'.isSome ∧ Agrees path deviceId k k')
      (Agrees path deviceId) := by
  obtain ⟨xs, shows⟩ := twins.one.shown
  obtain ⟨zs, shows'⟩ := twins.other.shown
  exact Broker.agrees_addChip shows shows' (twins.alike apart)
    (fun _ => twins.known_of_toKey apart.name)
    (twins.agrees apart.name)

/-- Twins agree on every other device when it has been removed from both. -/
theorem Twins.agrees_removeChip (twins : Twins x path b b' h h') (other : deviceId ≠ .text x) :
    Abreast (removeChip deviceId) (removeChip deviceId) h h' (fun _ _ => Agrees path deviceId)
      (Agrees path deviceId) := by
  obtain ⟨xs, shows⟩ := twins.one.shown
  obtain ⟨zs, shows'⟩ := twins.other.shown
  refine Broker.agrees_removeChip shows shows' (fun _ => twins.known_of_toKey other) ?_
    (twins.agrees other)
  intro y hy z hz named id
  have there : y.object ∈ h.state.roster.bus.objects := shows.objects ▸ List.mem_map_of_mem hy
  have there' : z.object ∈ h'.state.roster.bus.objects := shows'.objects ▸ List.mem_map_of_mem hz
  exact ⟨(twins.exposed shows shows' hy hz id fun same => other (by rw [named, same])).1,
    twins.one.faithful.leaveAlike twins.other.faithful there rfl there' (congrArg objectPath id)⟩

section Events

variable [UeventSource η]

/-- A device that is apart is added in the same way by twins. -/
theorem abreast_addChip (twins : Twins x path b b' h h') (apart : IsApart x path b deviceId) :
    Abreast (addChip deviceId) (addChip deviceId) h h'
      (fun r r' k k' => r.isSome = r'.isSome ∧ Twins x path b b' k k') (Twins x path b b') := by
  have alone {c : Bindings} {l : Host (Broker (Connection Value) η)} (settled : IsSettled c l) :=
    ((isKept_settled c).addChip deviceId l settled).and
      ((ends_addChip_confined deviceId).and (ends_addChip_contains deviceId))
  refine ((twins.agrees_addChip apart).and (alone twins.one) (alone twins.other)).mono ?_ ?_
  · rintro r r' k k' ⟨⟨same, agrees⟩, ⟨one, confined, known⟩, other, confined', known'⟩
    refine ⟨same, twins.step agrees one other confined confined' (fun key elsewhere => ?_)
      fun y elsewhere there => ?_⟩
    · rw [Bool.eq_iff_iff, known, known', twins.known key elsewhere]
      simp only [Except.ok.injEq, ← Option.isSome_iff_exists, same]
    · rcases (known _).1 there with old | ⟨-, added⟩
      · exact twins.apart y elsewhere old
      · rw [← Value.eq_text_of_toKey added]
        exact apart.path
  · rintro k k' ⟨agrees, e, ⟨one, confined, known⟩, other, confined', known'⟩
    refine twins.step agrees one other confined confined' (fun key elsewhere => ?_)
      fun y elsewhere there => ?_
    · rw [Bool.eq_iff_iff, known, known', twins.known key elsewhere]
    · rcases (known _).1 there with old | ⟨⟨_, failed⟩, -⟩
      · exact twins.apart y elsewhere old
      · cases failed

/-- Every other device is removed in the same way by twins. -/
theorem abreast_removeChip (twins : Twins x path b b' h h') (other : deviceId ≠ .text x) :
    Abreast (removeChip deviceId) (removeChip deviceId) h h' (fun _ _ => Twins x path b b')
      (Twins x path b b') := by
  obtain ⟨xs, shows⟩ := twins.one.shown
  obtain ⟨zs, shows'⟩ := twins.other.shown
  have alone {c : Bindings} {l : Host (Broker (Connection Value) η)} {ys : List Exposure}
      (settled : IsSettled c l) (shows : l.state.roster.Shows ys) :=
    ((isKept_settled c).removeChip deviceId l settled).and
      ((ends_removeChip_confined shows settled.given_bindings deviceId).and
        (ends_removeChip_contains deviceId))
  have back (k k' : Host (Broker (Connection Value) η)) (agrees : Agrees path deviceId k k')
      (one : IsSettled b k)
      (other : IsSettled b' k') (confined : Confined deviceId h k)
      (confined' : Confined deviceId h' k')
      (known : ∀ key, k.state.roster.contains key = true ↔
        h.state.roster.contains key = true ∧ deviceId.toKey ≠ .ok key)
      (known' : ∀ key, k'.state.roster.contains key = true ↔
        h'.state.roster.contains key = true ∧ deviceId.toKey ≠ .ok key) : Twins x path
          b b' k k' := by
    refine twins.step agrees one other confined confined' (fun key elsewhere => ?_)
      fun y elsewhere there => ?_
    · rw [Bool.eq_iff_iff, known, known', twins.known key elsewhere]
    · exact twins.apart y elsewhere ((known _).1 there).1
  refine ((twins.agrees_removeChip other).and (alone twins.one shows)
    (alone twins.other shows')).mono ?_ ?_
  · rintro _ _ k k' ⟨agrees, ⟨one, confined, known⟩, other, confined', known'⟩
    exact back k k' agrees one other confined confined' known known'
  · rintro k k' ⟨agrees, _, ⟨one, confined, known⟩, other, confined', known'⟩
    exact back k k' agrees one other confined confined' known known'

theorem abreast_discard_addChip (twins : Twins x path b b' h h')
    (apart : IsApart x path b deviceId) :
    Abreast (discard (addChip deviceId)) (discard (addChip deviceId)) h h'
      (fun _ _ => Twins x path b b')
      (Twins x path b b') :=
  ((abreast_addChip twins apart).mono (fun _ _ _ _ added => added.2)
    fun _ _ failed => failed).discard

/-- Twins follow an action on every other device in the same way. -/
theorem abreast_onUevent (twins : Twins x path b b' h h') {u : Uevent}
    (other : u.deviceId ≠ .text x)
    (opens : u.isChipDevice = true → u.action = .text "add" → b.pathOf u.deviceId ≠ .ok path) :
    Abreast (onUevent u) (onUevent u) h h' (fun _ _ => Twins x path b b') (Twins x path b b') := by
  unfold onUevent
  refine abreast_ite (fun chip => abreast_log_bind ?_) fun _ => abreast_pure twins
  refine abreast_ite (fun add => ?_) fun _ => abreast_ite (fun _ => ?_) fun _ => ?_
  · exact abreast_discard_addChip (twins.still rfl rfl rfl rfl twins.calls) ⟨other, opens chip add⟩
  · exact abreast_removeChip (twins.still rfl rfl rfl rfl twins.calls) other
  · exact abreast_log (twins.still rfl rfl rfl rfl twins.calls)

theorem abreast_addEntry (twins : Twins x path b b' h h') {e : Event}
    (apart : ∀ u, e = .uevent u → u.isChipDevice = true → IsApart x path b u.deviceId) :
    Abreast (addEntry e) (addEntry e) h h' (fun _ _ => Twins x path b b') (Twins x path b b') := by
  cases e with
  | uevent u =>
    exact abreast_ite (fun chip => abreast_discard_addChip twins (apart u rfl chip)) fun _ =>
      abreast_pure twins
  | _ => exact abreast_fail _ twins

/-! ### Events on the device itself -/

/-- What happens to the device `x` stays with it. -/
structure StaysWith (x : Text) (b : Bindings)
    (h h' : Host (Broker (Connection Value) η)) : Prop where
  settled : IsSettled b h'
  confined : Confined (.text x) h h'
  known : ∀ key ≠ .text x, h'.state.roster.contains key = h.state.roster.contains key

omit [UeventSource η] in
theorem StaysWith.refl (settled : IsSettled b h) : StaysWith x b h h :=
  ⟨settled, .refl _ h, fun _ _ => rfl⟩

omit [UeventSource η] in
/-- Twins stay twins whatever happens to the device itself, on either side. -/
theorem Twins.unseen {k k' : Host (Broker (Connection Value) η)} (twins : Twins x path b b' h h')
    (named : b.pathOf (.text x) = .ok path) (one : StaysWith x b h k)
    (other : StaysWith x b' h' k') :
    Twins x path b b' k k' where
  differ := twins.differ
  one := one.settled
  other := other.settled
  calls p elsewhere := by
    have apart : h.state.bindings.pathOf (.text x) ≠ .ok p := by
      rw [Bindings.pathOf_of_rest twins.one.rest, named]
      exact fun same => elsewhere (Except.ok.inj same).symm
    have apart' : h'.state.bindings.pathOf (.text x) ≠ .ok p := by
      rw [Bindings.pathOf_of_rest twins.other.rest, twins.differ.pathOf, named]
      exact fun same => elsewhere (Except.ok.inj same).symm
    rw [one.confined.calls p apart, other.confined.calls p apart']
    exact twins.calls p elsewhere
  bus q elsewhere := by
    have apart (t : Text) (same : Value.text x = .text t) : objectPath t ≠ q := by
      cases same
      exact elsewhere.symm
    unfold Connection.AlikeAt
    rw [one.confined.bus q apart, other.confined.bus q apart]
    exact twins.bus q elsewhere
  known key elsewhere := by
    rw [one.known key elsewhere, other.known key elsewhere]
    exact twins.known key elsewhere
  apart y elsewhere there := by
    rw [one.known (.text y) fun same => elsewhere (Key.text.inj same)] at there
    exact twins.apart y elsewhere there

theorem ends_addChip_staysWith (settled : IsSettled b h) (x : Text) :
    (addChip (.text x)).Ends h fun _ h' => StaysWith x b h h' := by
  refine (((isKept_settled b).addChip (.text x) h settled).and
    ((ends_addChip_confined (.text x)).and (ends_addChip_contains (.text x)))).mono ?_
  rintro r h' ⟨settled', confined, known⟩
  refine ⟨settled', confined, fun key elsewhere => ?_⟩
  rw [Bool.eq_iff_iff, known]
  refine or_iff_left fun added => elsewhere ?_
  exact (Except.ok.inj added.2).symm

theorem ends_removeChip_staysWith (settled : IsSettled b h) (x : Text) :
    (removeChip (.text x)).Ends h fun _ h' => StaysWith x b h h' := by
  obtain ⟨xs, shows⟩ := settled.shown
  refine (((isKept_settled b).removeChip (.text x) h settled).and
    ((ends_removeChip_confined shows settled.given_bindings (.text x)).and
      (ends_removeChip_contains (.text x)))).mono ?_
  rintro r h' ⟨settled', confined, known⟩
  refine ⟨settled', confined, fun key elsewhere => ?_⟩
  rw [Bool.eq_iff_iff, known]
  exact and_iff_left fun same => elsewhere (Except.ok.inj same).symm

omit [UeventSource η] in
theorem StaysWith.since {h₁ : Host (Broker (Connection Value) η)} (stays : StaysWith x b h₁ h')
    (state : h₁.state = h.state) (calls : h₁.calls = h.calls) : StaysWith x b h h' where
  settled := stays.settled
  confined := stays.confined.since state calls
  known key elsewhere := by rw [stays.known key elsewhere, state]

theorem ends_onUevent_staysWith (settled : IsSettled b h) {u : Uevent}
    (about : u.deviceId = .text x) :
    (onUevent u).Ends h fun _ h' => StaysWith x b h h' := by
  have logged (level : Level) (text : Text) (k : Host (Broker (Connection Value) η))
      (stays : StaysWith x b h k) :
      StaysWith x b h { k with records := k.records ++ [⟨level.number, text⟩] } :=
    ⟨(isKept_settled b).loose k _ rfl rfl stays.settled, stays.confined.logged rfl rfl, stays.known⟩
  have start := logged .debug
    ("uevent: " ++ u.action.display ++ " action on " ++ u.deviceId.display ++ " device") h
      (.refl settled)
  unfold onUevent
  refine ends_ite (fun _ => ?_) fun _ => .refl settled
  simp only [ends_bind, ends_log]
  rw [about] at start ⊢
  refine ends_ite (fun _ => ?_) fun _ => ends_ite (fun _ => ?_) fun _ => logged _ _ _ start
  · exact ends_discard.2
      ((ends_addChip_staysWith start.settled x).mono fun _ _ stays => stays.since rfl rfl)
  · exact (ends_removeChip_staysWith start.settled x).mono fun _ _ stays => stays.since rfl rfl

end Events

end Broker

end GpioBroker
