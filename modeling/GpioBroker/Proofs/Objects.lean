import GpioBroker.Proofs.Ownership

/-!
# The objects of a connection

What registering and unregistering do, to the last detail.  An object is registered exactly if the
bus in use is up, the path is free in the table, and the bus takes the object: it does not fail
there, and the path is valid and free.  A registration that fails leaves everything but the serial
number of the next object as it is.  What is unregistered is taken out of the table, and off the bus
that is in use.
-/

namespace GpioBroker

open Act

variable {ρ : Type}

/-- Only a text is a name of any sort. -/
theorem Names.check_ne_ok {v : Value} (other : ∀ t, v ≠ .text t) (sort : NameSort) (u : Unit) :
    Names.check sort v ≠ .ok u := by
  cases v with
  | text t => exact absurd rfl (other t)
  | _ => nofun

/-- A whole number has a key. -/
theorem Value.toKey_of_wholeNumber? {v : Value} {n : Int} (whole : v.wholeNumber? = some n) :
    v.toKey = .ok (.whole n) := by
  unfold wholeNumber? at whole
  unfold toKey
  split at whole
  · rename_i keyed
    cases whole
    rw [keyed]
  · cases whole

namespace MessageBus

variable {h : Host (MessageBus ρ)} {path : Text}

/-- Whether a bus exports an object at a path: it does not fail there, and the path is valid and
free. -/
structure Takes (b : MessageBus ρ) (path : Text) : Prop where
  faultless : b.script.exportFault? (.text path) = none
  valid : Names.isObjectPath path = true
  free : b.find? path = none

theorem checkText_objectPath :
    Names.checkText .objectPath path = .ok () ↔ Names.isObjectPath path = true := by
  change (if Names.isObjectPath path = true then _ else _) = _ ↔ _
  split
  · exact iff_of_true rfl ‹_›
  · exact iff_of_false nofun ‹_›

theorem ends_exportObject_ok (takes : h.state.Takes path) (object : ChipObject ρ) :
    (exportObject path object).Ends h fun r h' => r = .ok () ∧
      h'.state = { h.state with exported := h.state.exported ++ [(path, object)] } := by
  unfold exportObject
  have valid := checkText_objectPath.2 takes.valid
  simp only [ends_bind, ends_note, ends_state, takes.faultless, valid, ends_ofExcept_ok, takes.free]
  exact ⟨rfl, rfl⟩

theorem ends_exportObject_error (refuses : ¬ h.state.Takes path) (object : ChipObject ρ) :
    (exportObject path object).Ends h fun r h' => (∃ e, r = .error e) ∧ h'.state = h.state := by
  unfold exportObject
  simp only [ends_bind, ends_note, ends_state]
  refine ends_failing _ (fun faultless => ?_) fun f _ => ⟨⟨_, rfl⟩, rfl⟩
  refine ends_ofExcept _ (fun _ valid => ?_) fun f _ => ⟨⟨_, rfl⟩, rfl⟩
  refine ends_ite (fun _ => ⟨⟨_, rfl⟩, rfl⟩) fun free => ?_
  exact absurd ⟨faultless, checkText_objectPath.1 valid, by simpa using free⟩ refuses

end MessageBus

namespace Connection

variable {h : Host (Connection ρ)} {c : Connection ρ} {number : Nat}
    {b : MessageBus ρ} {path : Text}

/-- A bus that is up is in use under a number. -/
structure IsLive (c : Connection ρ) (number : Nat) (b : MessageBus ρ) : Prop where
  link : c.link = some number
  bus : c.bus? number = some b
  up : b.isConnected = true

theorem live?_eq_some_iff : c.live? = some number ↔ ∃ b, c.IsLive number b := by
  unfold live?
  rw [Option.filter_eq_some_iff]
  constructor
  · rintro ⟨link, up⟩
    obtain ⟨b, there, connected⟩ := (Option.any_eq_true _ _).1 up
    exact ⟨b, link, there, connected⟩
  · rintro ⟨b, live⟩
    exact ⟨live.link, by simp [live.bus, live.up]⟩

theorem IsLive.live? (live : c.IsLive number b) : c.live? = some number :=
  live?_eq_some_iff.2 ⟨b, live⟩

/-- One bus is in use. -/
theorem IsLive.unique {number' : Nat} {b' : MessageBus ρ} (live : c.IsLive number b)
    (live' : c.IsLive number' b') : number' = number ∧ b' = b := by
  obtain rfl : number' = number := Option.some.inj (live'.link.symm.trans live.link)
  exact ⟨rfl, Option.some.inj (live'.bus.symm.trans live.bus)⟩

/-- An object can be registered at a path: the path is free in the table, and the bus in use is up
and takes the object. -/
structure Admits (c : Connection ρ) (path : Text) (number : Nat) (b : MessageBus ρ) : Prop where
  live : c.IsLive number b
  free : ∀ o ∈ c.objects, o.path ≠ path
  takes : b.Takes path

theorem set_of_bus? (bus : c.bus? number = some b) : c.buses.set number b = c.buses := by
  obtain ⟨inside, rfl⟩ := List.getElem?_eq_some_iff.1 bus
  exact List.set_getElem_self inside

theorem ends_withinBus_of_bus? {α : Type} {x : Act (MessageBus ρ) α}
    {Q : Except Failure α → Host (Connection ρ) → Prop} (bus : h.state.bus? number = some b)
    (hx : x.Ends (h.withState b) fun r h' =>
      Q r (h'.withState { h.state with buses := h.state.buses.set number h'.state })) :
    (withinBus number x).Ends h Q :=
  Ends.within (by rw [bus]; exact hx)

/-- An object that can be registered gets the next number. -/
theorem ends_register_ok (admits : h.state.Admits path number b) (reader : ρ) :
    (register path reader).Ends h fun r h' => r = .ok h.state.nextRegistration ∧ ∃ object,
      h'.state = { h.state with
        nextSerial := h.state.nextSerial + 1
        nextRegistration := h.state.nextRegistration + 1
        objects := h.state.objects ++ [⟨h.state.nextRegistration, path, object⟩]
        buses :=
          h.state.buses.set number { b with exported := b.exported ++ [(path, object)] } } := by
  have free : h.state.objects.any (fun o => o.path == path) = false := by
    simpa using admits.free
  unfold register
  simp only [ends_bind, ends_state, admits.live.live?, free, Bool.false_eq_true,
    if_false, ends_update]
  refine Ends.explain (R := fun r h' => r = .ok () ∧ h'.state = { h.state with
    nextSerial := h.state.nextSerial + 1
    buses := h.state.buses.set number
      { b with exported := b.exported ++ [(path, ⟨h.state.nextSerial, reader⟩)] } }) ?_ ?_
      (fun _ _ ends => by cases ends.1) fun _ _ ends => by cases ends.1
  · refine ends_withinBus_of_bus? (b := b) admits.live.bus ?_
    refine (MessageBus.ends_exportObject_ok (h := Host.withState _ b) admits.takes _).mono ?_
    rintro r h' ⟨ok, state⟩
    exact ⟨ok, by rw [Host.withState, state]; rfl⟩
  · rintro _ ⟨state, calls, records, queue, deferred⟩ ⟨-, rfl⟩
    exact ⟨rfl, _, rfl⟩

/-- Otherwise nothing changes but the serial number of the next object. -/
theorem ends_register_error (refuses : ∀ number b, ¬ h.state.Admits path number b) (reader : ρ) :
    (register path reader).Ends h fun r h' =>
      (∃ e, r = .error e) ∧ ∃ nextSerial, h'.state = { h.state with nextSerial } := by
  unfold register
  simp only [ends_bind, ends_state]
  cases up : h.state.live? with
  | none => exact ⟨⟨_, rfl⟩, _, rfl⟩
  | some number =>
    obtain ⟨b, live⟩ := live?_eq_some_iff.1 up
    refine ends_ite (fun _ => ⟨⟨_, rfl⟩, _, rfl⟩) fun free => ?_
    have free : ∀ o ∈ h.state.objects, o.path ≠ path := by simpa using free
    have refuses : ¬ b.Takes path := fun takes => refuses number b ⟨live, free, takes⟩
    simp only [ends_bind, ends_update]
    refine Ends.explain (R := fun r h' => (∃ e, r = .error e) ∧
      ∃ nextSerial, h'.state = { h.state with nextSerial }) ?_ ?_ ?_ ?_
    · refine ends_withinBus_of_bus? (b := b) live.bus ?_
      refine (MessageBus.ends_exportObject_error (h := Host.withState _ b) refuses _).mono ?_
      rintro r h' ⟨error, state⟩
      refine ⟨error, h.state.nextSerial + 1, ?_⟩
      simp only [Host.withState, state, set_of_bus? live.bus]
    · rintro _ h' ⟨⟨e, error⟩, -⟩
      cases error
    · exact fun e h' ends _ => ⟨⟨e, rfl⟩, ends.2⟩
    · exact fun e h' ends _ => ⟨⟨_, rfl⟩, ends.2⟩

/-- A path that is no text is refused.  Nothing changes. -/
theorem ends_refusePath (path : Value) : (refusePath path).Ends h fun r h' =>
    h'.state = h.state ∧ ((∀ t, path ≠ .text t) → ∃ e, r = .error e) := by
  unfold refusePath
  simp only [ends_bind, ends_state]
  cases up : h.state.live? with
  | none => exact ⟨rfl, fun _ => ⟨_, rfl⟩⟩
  | some number =>
    obtain ⟨b, live⟩ := live?_eq_some_iff.1 up
    have refused : (MessageBus.refusePath path).Ends (h.withState b) fun r h' =>
        h'.state = b ∧ ((∀ t, path ≠ .text t) → ∃ e, r = .error e) := by
      unfold MessageBus.refusePath
      simp only [ends_bind, ends_note, ends_state]
      refine ends_failing _ (fun _ => ?_) fun f _ => ⟨rfl, fun _ => ⟨_, rfl⟩⟩
      refine ends_ofExcept _ (fun _ valid => ⟨rfl, fun other => ?_⟩) fun f _ =>
        ⟨rfl, fun _ => ⟨_, rfl⟩⟩
      exact absurd valid (Names.check_ne_ok other _ _)
    refine Ends.explain
      (R := fun r h' => h'.state = h.state ∧ ((∀ t, path ≠ .text t) → ∃ e, r = .error e))
      (ends_withinBus_of_bus? live.bus (refused.mono ?_)) (fun _ _ ends => ends)
      (fun _ _ ends _ => ends)
      fun _ _ ends _ => ⟨ends.1, fun _ => ⟨_, rfl⟩⟩
    rintro r h' ⟨same, error⟩
    exact ⟨by simp only [Host.withState, same, set_of_bus? live.bus], error⟩

/-- A registration that is unknown changes nothing. -/
theorem ends_unregister_unknown {registration : Value}
    (unknown : registration.wholeNumber?.bind h.state.find? = none) :
    (unregister registration).Ends h fun r h' => h' = h ∧ ∃ e, r = .error e ∧
      ∀ key, registration.toKey = .ok key → e.fault = .unknownRegistration registration := by
  unfold unregister
  simp only [ends_bind, ends_discard, ends_state]
  cases keyed : registration.toKey with
  | error f =>
    refine ⟨rfl, _, rfl, fun key ok => ?_⟩
    cases ok
  | ok key =>
    simp only [ends_ofExcept_ok, Except.map, unknown]
    exact ⟨rfl, _, rfl, fun _ _ => rfl⟩

/-- The table without an object that is unregistered, and the bus without it if it is up. -/
structure Unregistered (c c' : Connection ρ) (o : RegisteredObject ρ)
    (buses : List (MessageBus ρ)) :
    Prop where
  state :
    c' = { c with objects := c.objects.filter fun o' => o'.registration != o.registration, buses }
  live : ∀ number b, c.IsLive number b → buses = c.buses.set number { b with
    exported := b.exported.filter fun e => !(e.1 == o.path && e.2.serial == o.object.serial) }
  down : (∀ number b, ¬ c.IsLive number b) → buses = c.buses

/-- An object that is registered is unregistered. -/
theorem ends_unregister_known {registration : Value} {o : RegisteredObject ρ}
    (known : registration.wholeNumber?.bind h.state.find? = some o)
    (sturdy : ∀ number b, h.state.bus? number = some b → b.script.unexportFaults = []) :
    (unregister registration).Ends h fun r h' =>
      r = .ok () ∧ ∃ buses, Unregistered h.state h'.state o buses := by
  obtain ⟨n, whole, -⟩ := Option.bind_eq_some_iff.1 known
  have keyed := Value.toKey_of_wholeNumber? whole
  unfold unregister
  simp only [ends_bind, ends_discard, keyed, ends_ofExcept_ok, Except.map, ends_state,
    known, ends_update]
  cases up : h.state.live? with
  | none =>
    have down (number : Nat) (b : MessageBus ρ) : ¬ h.state.IsLive number b := fun live => by
      rw [live.live?] at up
      cases up
    exact ⟨rfl, h.state.buses, rfl, fun number b live => absurd live (down number b), fun _ => rfl⟩
  | some number =>
    obtain ⟨b, live⟩ := live?_eq_some_iff.1 up
    refine ends_withinBus_of_bus? (b := b) live.bus ?_
    have faultless : b.script.unexportFaults.lookup o.path = none := by
      rw [sturdy number b live.bus, List.lookup_nil]
    refine MessageBus.ends_unexportObject_of (fun _ => ?_) fun f fault => ?_
    · refine ⟨rfl, _, rfl, fun number' b' live' => ?_, fun down => absurd live (down number b)⟩
      obtain ⟨rfl, rfl⟩ := live.unique live'
      rfl
    · cases faultless.symm.trans fault

end Connection

end GpioBroker
