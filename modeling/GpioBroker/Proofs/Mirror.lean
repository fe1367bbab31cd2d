import GpioBroker.Proofs.Objects
import GpioBroker.Proofs.Reports
import GpioBroker.Proofs.Stages
import Mathlib.Data.List.Nodup

/-!
# The table of objects and the bus

While a connection is up, the objects in its table are the objects on the bus, in the order of their
registrations.  A registration succeeds exactly if the connection is up, the path is free and valid,
and the bus does not refuse it; it gets the next number, which nothing but a success takes.  The
connection is used in any order, with one attempt to own the name, on a bus that may refuse to
export anything but never fails to take an object away.
-/

namespace GpioBroker

open Act

variable {ρ : Type}

/-- A bus that exports what it exported, takes objects away as it did, and did not come up. -/
structure MessageBus.Fades (b b' : MessageBus ρ) : Prop where
  exported : b'.exported = b.exported
  unexports : b'.script.unexportFaults = b.script.unexportFaults
  up : b'.isConnected = true → b.isConnected = true

theorem MessageBus.fades_hungUp (b : MessageBus ρ) (fault : Option Fault) :
    b.Fades (b.hungUp fault) := by
  unfold hungUp
  cases b.hangup with
  | none => exact ⟨rfl, rfl, nofun⟩
  | some _ => exact ⟨rfl, rfl, nofun⟩

/-- What is exported of a registered object. -/
def RegisteredObject.entry (o : RegisteredObject ρ) : Text × ChipObject ρ := (o.path, o.object)

namespace Connection

variable {h : Host (Connection ρ)} {c c' c₀ : Connection ρ} {number : Nat} {b : MessageBus ρ}
  {path : Text}

/-! ### What fades -/

/-- A connection with the objects it had, which took no bus into use: it may have lost its bus, and
its attempt may have come past the point where it takes one. -/
structure Fades (c c' : Connection ρ) : Prop where
  objects : c'.objects = c.objects
  next : c'.nextRegistration = c.nextRegistration
  link : c'.link = none ∨ c'.link = c.link
  buses : ∀ number b', c'.bus? number = some b' → ∃ b, c.bus? number = some b ∧ b.Fades b'
  attempts : ∀ phase ∈ c'.attempts, phase ∈ c.attempts ∨ phase.isPastLink = true
  single : c'.attempts.length = c.attempts.length

theorem Fades.of_buses (objects : c'.objects = c.objects)
    (next : c'.nextRegistration = c.nextRegistration) (link : c'.link = none ∨ c'.link = c.link)
    (attempts : c'.attempts = c.attempts)
    (buses : ∀ number b', c'.bus? number = some b' → ∃ b, c.bus? number = some b ∧ b.Fades b') :
    c.Fades c' where
  objects
  next
  link
  buses
  attempts phase there := .inl (attempts ▸ there)
  single := by rw [attempts]

theorem Fades.trans (first : c₀.Fades c) (second : c.Fades c') : c₀.Fades c' where
  objects := second.objects.trans first.objects
  next := second.next.trans first.next
  link := by
    obtain none | same := second.link
    · exact .inl none
    · rw [same]
      exact first.link
  buses number b'' bus'' := by
    obtain ⟨b', bus', fades'⟩ := second.buses number b'' bus''
    obtain ⟨b, bus, fades⟩ := first.buses number b' bus'
    exact ⟨b, bus, fades'.exported.trans fades.exported, fades'.unexports.trans fades.unexports,
      fun up => fades.up (fades'.up up)⟩
  attempts phase there := by
    obtain there | past := second.attempts phase there
    · exact first.attempts phase there
    · exact .inr past
  single := second.single.trans first.single

theorem Fades.of_same (buses : c'.buses = c.buses) (objects : c'.objects = c.objects)
    (next : c'.nextRegistration = c.nextRegistration) (link : c'.link = none ∨ c'.link = c.link)
    (attempts : c'.attempts = c.attempts) : c.Fades c' :=
  .of_buses objects next link attempts fun _ b bus =>
    ⟨b, by rw [bus?, ← buses]; exact bus, rfl, rfl, id⟩

theorem fades_setPhase (c : Connection ρ) (attempt : Nat) {phase : OwnershipPhase}
    (past : phase.isPastLink = true) :
    c.Fades { c with attempts := c.attempts.set attempt phase } where
  objects := rfl
  next := rfl
  link := .inr rfl
  buses _ b bus := ⟨b, bus, rfl, rfl, id⟩
  attempts phase' there := by
    obtain old | rfl := List.mem_or_eq_of_mem_set there
    · exact .inl old
    · exact .inr past
  single := List.length_set

theorem fades_changeBus (c : Connection ρ) (number : Nat) {f : MessageBus ρ → MessageBus ρ}
    (fades : ∀ b : MessageBus ρ, b.Fades (f b)) : c.Fades (c.changeBus number f) := by
  refine .of_buses rfl rfl (.inr rfl) rfl fun i b' bus' => ?_
  rw [bus?, changeBus, List.getElem?_modify] at bus'
  obtain ⟨b, bus, rfl⟩ := Option.map_eq_some_iff.1 bus'
  refine ⟨b, bus, ?_⟩
  split
  · exact fades b
  · exact ⟨rfl, rfl, id⟩

theorem fades_setBus (c : Connection ρ) {b' : MessageBus ρ}
    (fades : ((c.bus? number).getD {}).Fades b') :
    c.Fades { c with buses := c.buses.set number b' } := by
  refine .of_buses rfl rfl (.inr rfl) rfl fun i b'' bus'' => ?_
  obtain ⟨rfl, rfl⟩ | ⟨-, bus⟩ := bus?_of_set bus''
  · obtain ⟨b, bus⟩ := exists_bus?_of_set bus''
    rw [bus] at fades
    exact ⟨b, bus, fades⟩
  · exact ⟨b'', bus, rfl, rfl, id⟩

/-- Since a connection, nothing but what fades has happened. -/
def Faded (c₀ : Connection ρ) (h : Host (Connection ρ)) : Prop := c₀.Fades h.state

theorem faded_update {f : Connection ρ → Connection ρ} (fades : ∀ c : Connection ρ, c.Fades (f c)) :
    (update f).Keeps (Faded c₀) := fun h faded => Fades.trans faded (fades h.state)

theorem faded_setPhase (attempt : Nat) {phase : OwnershipPhase} (past : phase.isPastLink = true) :
    (setPhase attempt phase).Keeps (Faded c₀) :=
  faded_update fun c => fades_setPhase c attempt past

theorem upholds_faded : Upholds (Faded c₀) where
  loose := isLoose_of_state c₀.Fades
  note _ _ _ faded := faded
  ended attempt _ spent := faded_setPhase attempt (isPastLink_of_over spent)

theorem faded_withinBus {α : Type} {x : Act (MessageBus ρ) α}
    (fades : ∀ h : Host (MessageBus ρ), x.Ends h fun _ h' => h.state.Fades h'.state) :
    (withinBus number x).Keeps (Faded c₀) := by
  intro h faded
  exact Ends.within
    ((fades _).mono fun r h' fades => Fades.trans faded (fades_setBus h.state fades))

theorem faded_setOwner (isOwner : Bool) :
    (update fun c : Connection ρ => { c with isOwner }).Keeps (Faded c₀) :=
  faded_update fun _ => .of_same rfl rfl rfl (.inr rfl) rfl

theorem faded_hangUp (fault : Option Fault) : (hangUp fault).Keeps (Faded c₀) :=
  faded_update fun c => fades_changeBus c _ fun b => b.fades_hungUp fault

theorem faded_release : release.Keeps (Faded c₀) := by
  have asks (number : Nat) (name : Text) :
      (withinBus number (MessageBus.releaseName name)).Keeps (Faded c₀) :=
    faded_withinBus fun _ =>
      MessageBus.ends_releaseName_of (fun _ => ⟨rfl, rfl, id⟩) fun _ _ => ⟨rfl, rfl, id⟩
  have disconnects (number : Nat) : (withinBus number MessageBus.disconnect).Keeps (Faded c₀) :=
    faded_withinBus fun h => by
      have hungUp := h.state.fades_hungUp none
      exact ⟨hungUp.exported, hungUp.unexports, hungUp.up⟩
  refine keeps_release_of (keeps_beginRelease_of ?_ asks) <|
    keeps_finishRelease_of (keeps_log upholds_faded.loose) (faded_setOwner false) disconnects
  exact faded_update fun _ => .of_same rfl rfl rfl (.inl rfl) rfl

/-! ### The mirror -/

/-- The table of objects and the bus are in step, and the one attempt to own the name has not yet
taken a bus into use unless it is past that point. -/
structure Mirrors (c : Connection ρ) : Prop where
  paths : (c.objects.map RegisteredObject.path).Nodup
  ascending : (c.objects.map RegisteredObject.registration).Pairwise (· < ·)
  bounded : ∀ o ∈ c.objects, o.registration < c.nextRegistration
  exports : ∀ number b, c.IsLive number b → b.exported = c.objects.map RegisteredObject.entry
  sturdy : ∀ number b, c.bus? number = some b → b.script.unexportFaults = []
  early : ∀ phase ∈ c.attempts, phase.isPastLink = false →
    c.link = none ∧ c.objects = [] ∧ ∀ number b, c.bus? number = some b → b.exported = []
  scripts : ∀ script, .starting script ∈ c.attempts → script.unexportFaults = []
  single : c.attempts.length = 1

theorem Mirrors.of_fades (m : c.Mirrors) (fades : c.Fades c') : c'.Mirrors where
  paths := by
    rw [fades.objects]
    exact m.paths
  ascending := by
    rw [fades.objects]
    exact m.ascending
  bounded := by
    rw [fades.objects, fades.next]
    exact m.bounded
  exports number b' live := by
    obtain ⟨b, bus, same⟩ := fades.buses number b' live.bus
    have link : c'.link = c.link := fades.link.resolve_left (by simp [live.link])
    rw [same.exported, fades.objects]
    exact m.exports number b ⟨link.symm.trans live.link, bus, same.up live.up⟩
  sturdy number b' bus' := by
    obtain ⟨b, bus, same⟩ := fades.buses number b' bus'
    rw [same.unexports]
    exact m.sturdy number b bus
  early phase there notPast := by
    obtain ⟨link, objects, exported⟩ :=
      m.early phase ((fades.attempts phase there).resolve_right (by simp [notPast])) notPast
    refine ⟨?_, fades.objects.trans objects, fun number b' bus' => ?_⟩
    · obtain none | same := fades.link
      · exact none
      · exact same.trans link
    · obtain ⟨b, bus, same⟩ := fades.buses number b' bus'
      rw [same.exported]
      exact exported number b bus
  scripts script there := m.scripts script ((fades.attempts _ there).resolve_right nofun)
  single := fades.single.trans m.single

theorem Mirrors.of_faded {α : Type} {x : Act (Connection ρ) α} (m : h.state.Mirrors)
    (faded : x.Keeps (Faded h.state)) : x.Ends h fun _ h' => h'.state.Mirrors :=
  (faded h (.of_same rfl rfl rfl (.inr rfl) rfl)).mono fun _ _ fades => m.of_fades fades

theorem Mirrors.exists_phase (m : c.Mirrors) : ∃ phase, c.attempts = [phase] :=
  List.length_eq_one_iff.1 m.single

theorem mirrors_makeBus {script : BusScript} (m : h.state.Mirrors)
    (attempts : h.state.attempts = [.starting script]) :
    (makeBus 0 script).Ends h fun _ h' => h'.state.Mirrors := by
  unfold makeBus
  cases script.createFault with
  | some f => exact m.of_faded (upholds_faded.finish 0 _ _)
  | none =>
    have there : .starting script ∈ h.state.attempts := by simp [attempts]
    obtain ⟨link, objects, exported⟩ := m.early _ there rfl
    unfold setPhase
    simp only [ends_bind, ends_state, ends_note, ends_update]
    refine ⟨m.paths, m.ascending, m.bounded, fun number b live => ?_, fun number b bus => ?_,
      fun _ _ _ => ⟨link, objects, fun number b bus => ?_⟩, ?_, ?_⟩
    · cases live.link.symm.trans link
    · obtain old | rfl := bus?_of_append bus
      · exact m.sturdy number b old
      · exact m.scripts script there
    · obtain old | rfl := bus?_of_append bus
      · exact exported number b old
      · rfl
    · simp [attempts]
    · simp [attempts]

theorem mirrors_afterConnect {bus : Nat} (m : h.state.Mirrors)
    (attempts : h.state.attempts = [.connecting bus]) (script : BusScript) :
    (afterConnect 0 bus script).Ends h fun _ h' => h'.state.Mirrors := by
  unfold afterConnect
  cases script.connectFault with
  | some f => exact m.of_faded (upholds_faded.finish 0 _ _)
  | none =>
    have there : .connecting bus ∈ h.state.attempts := by simp [attempts]
    -- The table is still empty and so are the buses, whichever of them is taken into use.
    obtain ⟨link, objects, exported⟩ := m.early _ there rfl
    have watched :
        h.state.Fades (h.state.changeBus bus fun b => { b with listeners := b.listeners + 1 }) :=
      fades_changeBus h.state bus fun _ => ⟨rfl, rfl, id⟩
    unfold setPhase
    simp only [ends_bind, ends_state, ends_note, ends_update, ends_post]
    refine ⟨m.paths, m.ascending, m.bounded, fun number b live => ?_,
      fun number b' bus' => ?_, ?_, ?_, ?_⟩
    · obtain ⟨b, bus, same⟩ := watched.buses number b live.bus
      change _ = h.state.objects.map _
      rw [same.exported, exported number b bus, objects, List.map_nil]
    · obtain ⟨b, bus, same⟩ := watched.buses number b' bus'
      rw [same.unexports]
      exact m.sturdy number b bus
    · simp [attempts, changeBus, OwnershipPhase.isPastLink]
    · simp [attempts, changeBus]
    · simp [attempts, changeBus]

theorem mirrors_resume (m : h.state.Mirrors) : (resume 0).Ends h fun _ h' => h'.state.Mirrors := by
  obtain ⟨phase, attempts⟩ := m.exists_phase
  unfold resume
  simp only [ends_bind, ends_state, attempts, List.getElem?_cons_zero]
  cases phase with
  | starting script => exact mirrors_makeBus m attempts
  | connecting bus =>
    dsimp only
    cases h.state.bus? bus with
    | none => exact m
    | some b => exact mirrors_afterConnect m attempts _
  | requesting bus =>
    dsimp only
    cases h.state.bus? bus with
    | none => exact m
    | some b =>
      exact m.of_faded
        (upholds_faded.afterRequest 0 _ (faded_setOwner true) fun _ => faded_setPhase 0 rfl)
  | waiting bus =>
    dsimp only
    cases (h.state.bus? bus).bind MessageBus.hangup with
    | none => exact m
    | some fault => exact m.of_faded (upholds_faded.afterHangup 0 fault)
  | ended => exact m
  | cancelled => exact m

theorem Mirrors.registered (m : c.Mirrors) (admits : c.Admits path number b)
    (object : ChipObject ρ) :
    Mirrors { c with
      nextSerial := c.nextSerial + 1
      nextRegistration := c.nextRegistration + 1
      objects := c.objects ++ [⟨c.nextRegistration, path, object⟩]
      buses := c.buses.set number { b with exported := b.exported ++ [(path, object)] } } where
  paths := by
    rw [List.map_append, List.nodup_append]
    refine ⟨m.paths, List.nodup_singleton _, fun p old p' new same => ?_⟩
    obtain ⟨o, there, rfl⟩ := List.mem_map.1 old
    exact admits.free o there (same.trans (List.mem_singleton.1 new))
  ascending := by
    rw [List.map_append, List.pairwise_append]
    refine ⟨m.ascending, List.pairwise_singleton _ _, fun n old n' new => ?_⟩
    obtain ⟨o, there, rfl⟩ := List.mem_map.1 old
    rw [List.mem_singleton.1 new]
    exact m.bounded o there
  bounded o there := by
    change o.registration < c.nextRegistration + 1
    obtain old | new := List.mem_append.1 there
    · exact Int.lt_add_one_of_le (Int.le_of_lt (m.bounded o old))
    · rw [List.mem_singleton.1 new]
      exact Int.lt_succ _
  exports number' b' live := by
    obtain rfl : number' = number := Option.some.inj (live.link.symm.trans admits.live.link)
    obtain ⟨-, rfl⟩ := (bus?_of_set live.bus).resolve_right fun other => other.1 rfl
    rw [List.map_append, ← m.exports number' b admits.live]
    rfl
  sturdy i b' bus := by
    obtain ⟨rfl, rfl⟩ | ⟨-, bus⟩ := bus?_of_set bus
    · exact m.sturdy number b admits.live.bus
    · exact m.sturdy i b' bus
  early phase there notPast := by
    obtain ⟨link, -⟩ := m.early phase there notPast
    cases link.symm.trans admits.live.link
  scripts := m.scripts
  single := m.single

theorem mirrors_register (m : h.state.Mirrors) (path : Text) (reader : ρ) :
    (register path reader).Ends h fun _ h' => h'.state.Mirrors := by
  by_cases admitted : ∃ number b, h.state.Admits path number b
  · obtain ⟨number, b, admits⟩ := admitted
    refine (ends_register_ok admits reader).mono ?_
    rintro _ ⟨_, calls, records, queue, deferred⟩ ⟨-, object, rfl⟩
    exact m.registered admits object
  · have refuses (number : Nat) (b : MessageBus ρ) : ¬ h.state.Admits path number b :=
      fun admits => admitted ⟨number, b, admits⟩
    refine (ends_register_error refuses reader).mono ?_
    rintro _ ⟨_, calls, records, queue, deferred⟩ ⟨-, nextSerial, rfl⟩
    exact m.of_fades (.of_same rfl rfl rfl (.inr rfl) rfl)

/-- Taking an object off the bus by its path and serial number is taking it out of the table by its
registration. -/
theorem Mirrors.filter_entry {o : RegisteredObject ρ} (m : c.Mirrors) (there : o ∈ c.objects) :
    (c.objects.map RegisteredObject.entry).filter
        (fun e => !(e.1 == o.path && e.2.serial == o.object.serial)) =
      (c.objects.filter fun o' => o'.registration != o.registration).map
        RegisteredObject.entry := by
  have registrations : (c.objects.map RegisteredObject.registration).Nodup :=
    m.ascending.imp Int.ne_of_lt
  rw [List.filter_map]
  refine congrArg _ (List.filter_congr fun o' there' => ?_)
  by_cases same : o' = o
  · simp [same, RegisteredObject.entry]
  · have path : o'.path ≠ o.path :=
      fun path => same (List.inj_on_of_nodup_map m.paths there' there path)
    have registration : o'.registration ≠ o.registration := fun registration =>
      same (List.inj_on_of_nodup_map registrations there' there registration)
    simp [RegisteredObject.entry, beq_false_of_ne path, bne_iff_ne.2 registration]

theorem Mirrors.unregistered {o : RegisteredObject ρ} {buses : List (MessageBus ρ)} (m : c.Mirrors)
    (there : o ∈ c.objects) (unregistered : Unregistered c c' o buses) : c'.Mirrors := by
  obtain ⟨rfl, live, down⟩ := unregistered
  have fewer :=
    List.filter_sublist (p := fun o' => o'.registration != o.registration) (l := c.objects)
  -- The bus in use loses the object, and any other is as before.
  have bus?_of_buses {i : Nat} {b' : MessageBus ρ} (bus' : buses[i]? = some b') :
      (c.bus? i = some b' ∧ ∀ b, ¬ c.IsLive i b) ∨ ∃ b, c.IsLive i b ∧ b' = { b with
        exported :=
          b.exported.filter fun e => !(e.1 == o.path && e.2.serial == o.object.serial) } := by
    by_cases up : ∃ number b, c.IsLive number b
    · obtain ⟨number, b, isLive⟩ := up
      rw [live number b isLive] at bus'
      obtain ⟨rfl, rfl⟩ | ⟨other, bus⟩ := bus?_of_set bus'
      · exact .inr ⟨b, isLive, rfl⟩
      · exact .inl ⟨bus, fun b' isLive' => other (isLive'.unique isLive).1⟩
    · rw [down fun number b isLive => up ⟨number, b, isLive⟩] at bus'
      exact .inl ⟨bus', fun b isLive => up ⟨i, b, isLive⟩⟩
  refine ⟨m.paths.sublist (fewer.map _), m.ascending.sublist (fewer.map _),
    fun o' there' =>
      m.bounded o' (fewer.subset there'), fun number b' live' => ?_, fun number b' bus' => ?_,
    fun phase there' notPast => ?_, m.scripts, m.single⟩
  · obtain ⟨bus, other⟩ | ⟨b, isLive, rfl⟩ := bus?_of_buses live'.bus
    · exact absurd ⟨live'.link, bus, live'.up⟩ (other b')
    · change b.exported.filter _ = _
      rw [m.exports number b isLive]
      exact m.filter_entry there
  · obtain ⟨bus, -⟩ | ⟨b, isLive, rfl⟩ := bus?_of_buses bus'
    · exact m.sturdy number b' bus
    · exact m.sturdy number b isLive.bus
  · rw [(m.early phase there' notPast).2.1] at there
    cases there

theorem mirrors_unregister (m : h.state.Mirrors) (registration : Value) :
    (unregister registration).Ends h fun _ h' => h'.state.Mirrors := by
  cases known : registration.wholeNumber?.bind h.state.find? with
  | none =>
    refine (ends_unregister_unknown known).mono ?_
    rintro _ _ ⟨rfl, -⟩
    exact m
  | some o =>
    have there : o ∈ h.state.objects := by
      obtain ⟨n, -, found⟩ := Option.bind_eq_some_iff.1 known
      exact List.mem_of_find?_eq_some found
    refine (ends_unregister_known known m.sturdy).mono ?_
    rintro _ h' ⟨-, buses, unregistered⟩
    exact m.unregistered there unregistered

/-! ### Deeds -/

/-- What is done with a connection, or happens to it. -/
inductive Deed (ρ : Type) where
  /-- The attempt to own the name goes on. -/
  | resume
  | cancel
  | register (path : Text) (reader : ρ)
  /-- Tries to register an object at a path that is no text. -/
  | refusePath (path : Value)
  | unregister (registration : Value)
  | message (m : Message)
  | hangUp (fault : Option Fault)
  | release
  /-- The buses fail otherwise than before to export objects. -/
  | changeExports (faults : List (Value × Fault))

namespace Deed

/-- What the connection does then. -/
def perform : Deed ρ → Act (Connection ρ) Unit
  | .resume => Connection.resume 0
  | .cancel => Connection.cancel 0
  | .register path reader => discard (Connection.register path reader)
  | .refusePath path => Connection.refusePath path
  | .unregister registration => Connection.unregister registration
  | .message m => deliver m
  | .hangUp fault => Connection.hangUp fault
  | .release => Connection.release
  | .changeExports faults => update fun c => { c with
      buses := c.buses.map fun b => { b with script := { b.script with exportFaults := faults } } }

/-- The host after it, however it ended. -/
def after (deed : Deed ρ) (h : Host (Connection ρ)) : Host (Connection ρ) := (deed.perform.run h).2

/-- The registration that it gives, if it registers an object and succeeds. -/
def granted : Deed ρ → Host (Connection ρ) → Option Int
  | .register path reader, h => ((Connection.register path reader).run h).1.toOption
  | _, _ => none

theorem mirrors_perform (deed : Deed ρ) (m : h.state.Mirrors) :
    deed.perform.Ends h fun _ h' => h'.state.Mirrors := by
  cases deed with
  | resume => exact mirrors_resume m
  | cancel => exact m.of_faded (upholds_faded.cancel 0)
  | register path reader => exact ends_discard.2 (mirrors_register m path reader)
  | refusePath path =>
    refine (ends_refusePath path).mono fun _ h' ends => ?_
    rw [ends.1]
    exact m
  | unregister registration => exact mirrors_unregister m registration
  | message message => exact m.of_faded (upholds_faded.deliver message (faded_setOwner false))
  | hangUp fault => exact m.of_faded (faded_hangUp fault)
  | release => exact m.of_faded faded_release
  | changeExports faults =>
    refine m.of_fades (.of_buses rfl rfl (.inr rfl) rfl fun number b' bus' => ?_)
    obtain ⟨b, bus, rfl⟩ := Option.map_eq_some_iff.1 ((List.getElem?_map).symm.trans bus')
    exact ⟨b, bus, rfl, rfl, id⟩

end Deed

/-- The host after some deeds, each done however the one before it ended. -/
def afterDeeds (h : Host (Connection ρ)) : List (Deed ρ) → Host (Connection ρ)
  | [] => h
  | deed :: deeds => afterDeeds (deed.after h) deeds

/-- The registrations that some deeds give, in their order. -/
def grants (h : Host (Connection ρ)) : List (Deed ρ) → List Int
  | [] => []
  | deed :: deeds => (deed.granted h).toList ++ grants (deed.after h) deeds

theorem mirrors_afterDeeds (m : h.state.Mirrors) (deeds : List (Deed ρ)) :
    (afterDeeds h deeds).state.Mirrors := by
  induction deeds generalizing h with
  | nil => exact m
  | cons deed deeds ih => exact ih (deed.mirrors_perform m)

/-- A deed gives the next registration, or none and leaves it. -/
theorem Deed.granted_cases (deed : Deed ρ) (m : h.state.Mirrors) :
    (deed.granted h = none ∧ (deed.after h).state.nextRegistration = h.state.nextRegistration) ∨
      (deed.granted h = some h.state.nextRegistration ∧
        (deed.after h).state.nextRegistration = h.state.nextRegistration + 1) := by
  have aside {x : Act (Connection ρ) Unit} (apart : x.Keeps (Apart h)) :
      (x.run h).2.state.nextRegistration = h.state.nextRegistration :=
    (apart h ⟨rfl, rfl, fun _ => rfl⟩).2.1
  cases deed with
  | resume => exact .inl ⟨rfl, aside (keeps_resume 0)⟩
  | cancel => exact .inl ⟨rfl, aside (keeps_cancel 0)⟩
  | register path reader =>
    obtain ⟨-, -, registering⟩ := ends_register (h := h) path reader
    have same : (Deed.register path reader).after h = ((Connection.register path reader).run h).2 :=
      (ends_discard (Q := fun _ h' => h' = ((Connection.register path reader).run h).2)).2 rfl
    rw [same, granted]
    generalize (Connection.register path reader).run h = outcome at registering
    obtain ⟨r, h'⟩ := outcome
    cases registering with
    | refused e objects next expected => exact .inl ⟨rfl, next⟩
    | registered serial objects next => exact .inr ⟨rfl, next⟩
  | refusePath path =>
    have same : ((Deed.refusePath path).after h).state = h.state := (ends_refusePath path).1
    exact .inl ⟨rfl, by rw [same]⟩
  | unregister registration =>
    refine .inl ⟨rfl, ?_⟩
    have kept : (Connection.unregister registration).Ends h fun _ h' =>
        h'.state.nextRegistration = h.state.nextRegistration := by
      cases known : registration.wholeNumber?.bind h.state.find? with
      | none => exact (ends_unregister_unknown known).mono fun _ _ ⟨same, _⟩ => by rw [same]
      | some o =>
        refine (ends_unregister_known known m.sturdy).mono ?_
        rintro _ h' ⟨-, buses, unregistered⟩
        rw [unregistered.state]
    exact kept
  | message message => exact .inl ⟨rfl, aside (keeps_deliver message)⟩
  | hangUp fault => exact .inl ⟨rfl, aside (keeps_hangUp fault)⟩
  | release => exact .inl ⟨rfl, aside keeps_release⟩
  | changeExports faults => exact .inl ⟨rfl, rfl⟩

/-- The registrations that are given follow each other. -/
theorem getElem?_grants (m : h.state.Mirrors) (deeds : List (Deed ρ)) {k : Nat} {registration : Int}
    (there : (grants h deeds)[k]? = some registration) :
    registration = h.state.nextRegistration + k := by
  induction deeds generalizing h k with
  | nil => cases there
  | cons deed deeds ih =>
    have m' : (deed.after h).state.Mirrors := deed.mirrors_perform m
    rw [grants] at there
    obtain ⟨none, same⟩ | ⟨given, next⟩ := deed.granted_cases m
    · rw [none, Option.toList_none, List.nil_append] at there
      rw [ih m' there, same]
    · rw [given, Option.toList_some, List.singleton_append] at there
      cases k with
      | zero => simpa using there.symm
      | succ k =>
        rw [ih m' there, next]
        omega

theorem nextRegistration_afterDeeds (m : h.state.Mirrors) (deeds : List (Deed ρ)) :
    (afterDeeds h deeds).state.nextRegistration =
      h.state.nextRegistration + (grants h deeds).length := by
  induction deeds generalizing h with
  | nil => simp [afterDeeds, grants]
  | cons deed deeds ih =>
    have m' : (deed.after h).state.Mirrors := deed.mirrors_perform m
    rw [afterDeeds, grants, ih m']
    obtain ⟨none, same⟩ | ⟨given, next⟩ := deed.granted_cases m
    · rw [none, same]
      simp
    · rw [given, next]
      simp
      omega

/-- How the table of objects stands to the bus after some registrations were given. -/
structure IsMirrored (h : Host (Connection ρ)) (granted : List Int) : Prop where
  /-- No two objects have a path in common. -/
  paths : (h.state.objects.map RegisteredObject.path).Nodup
  /-- The registrations ascend. -/
  ascending : (h.state.objects.map RegisteredObject.registration).Pairwise (· < ·)
  /-- While the connection is up, its bus exports the objects of the table in their order. -/
  exports : ∀ number b, h.state.IsLive number b →
    b.exported = h.state.objects.map RegisteredObject.entry
  /-- A registration succeeds exactly if the connection is up, the path is free in the table and
  valid, and the bus does not fail there. -/
  registers : ∀ path reader, (∃ registration, ((register path reader).run h).1 = .ok registration) ↔
    (∀ o ∈ h.state.objects, o.path ≠ path) ∧ Names.isObjectPath path = true ∧
      ∃ number b, h.state.IsLive number b ∧ b.script.exportFault? (.text path) = none
  /-- The registrations that were given are those from one on. -/
  numbered : ∀ (k : Nat) registration, granted[k]? = some registration → registration = k + 1
  /-- A registration that succeeds is the one after them. -/
  next : ∀ path reader registration, ((register path reader).run h).1 = .ok registration →
    registration = granted.length + 1
  /-- A registration that fails leaves the objects, the buses and the next registration as they
  are. -/
  failed : ∀ path reader e h', (register path reader).run h = (.error e, h') →
    h'.state.objects = h.state.objects ∧ h'.state.buses = h.state.buses ∧
      h'.state.nextRegistration = h.state.nextRegistration
  /-- A path that is no text is refused, and nothing changes. -/
  textless : ∀ path : Value, (∀ t, path ≠ .text t) →
    (∃ e, ((refusePath path).run h).1 = .error e) ∧ ((refusePath path).run h).2.state = h.state
  /-- What is not registered cannot be unregistered, and nothing changes. -/
  unknown : ∀ registration : Value, registration.wholeNumber?.bind h.state.find? = none →
    ∃ e, (unregister registration).run h = (.error e, h) ∧
      ∀ key, registration.toKey = .ok key → e.fault = .unknownRegistration registration
  /-- What is registered is taken out of the table. -/
  known : ∀ registration o, h.state.find? registration = some o →
    ∃ h', (unregister (.int registration)).run h = (.ok (), h') ∧
      h'.state.objects = h.state.objects.filter fun o' => o'.registration != registration

theorem Mirrors.find?_eq_none {c : Connection ρ} {number : Nat} {b : MessageBus ρ} {path : Text}
    (m : c.Mirrors) (live : c.IsLive number b) (free : ∀ o ∈ c.objects, o.path ≠ path) :
    b.find? path = none := by
  rw [MessageBus.find?, m.exports number b live, List.lookup_eq_none_iff]
  rintro _ entry
  obtain ⟨o, there, rfl⟩ := List.mem_map.1 entry
  exact bne_iff_ne.2 (free o there).symm

/-- A connection that mirrors its bus admits an object if it is up, the path is free in its table
and valid, and the bus does not fail there. -/
theorem Mirrors.exists_admits_iff (m : c.Mirrors) : (∃ number b, c.Admits path number b) ↔
    (∀ o ∈ c.objects, o.path ≠ path) ∧ Names.isObjectPath path = true ∧
      ∃ number b, c.IsLive number b ∧ b.script.exportFault? (.text path) = none := by
  constructor
  · rintro ⟨number, b, live, free, takes⟩
    exact ⟨free, takes.valid, number, b, live, takes.faultless⟩
  · rintro ⟨free, valid, number, b, live, faultless⟩
    exact ⟨number, b, live, free, faultless, valid, m.find?_eq_none live free⟩

/-- A connection that mirrors its bus is as it should be. -/
theorem Mirrors.mirrored {granted : List Int} (m : h.state.Mirrors)
    (numbered : ∀ (k : Nat) registration, granted[k]? = some registration → registration = k + 1)
    (next : h.state.nextRegistration = granted.length + 1) : IsMirrored h granted := by
  have succeeds {path : Text} {number : Nat} {b : MessageBus ρ}
      (admits : h.state.Admits path number b)
      (reader : ρ) : ((register path reader).run h).1 = .ok h.state.nextRegistration :=
    (ends_register_ok admits reader).1
  have refuses {path : Text} (refused : ¬ ∃ number b, h.state.Admits path number b) (reader : ρ) :
      (register path reader).Ends h fun r h' =>
        (∃ e, r = .error e) ∧ ∃ nextSerial, h'.state = { h.state with nextSerial } :=
    ends_register_error (fun number b admits => refused ⟨number, b, admits⟩) reader
  refine ⟨m.paths, m.ascending, m.exports, fun path reader => ?_, numbered,
    fun path reader registration ends => ?_, fun path reader e h' ends => ?_,
    fun path other => ⟨(ends_refusePath path).2 other, (ends_refusePath path).1⟩,
    fun registration unknown => ?_, fun registration o known => ?_⟩
  · rw [← m.exists_admits_iff]
    constructor
    · rintro ⟨registration, ends⟩
      by_contra refused
      obtain ⟨⟨e, error⟩, -⟩ := refuses refused reader
      cases error.symm.trans ends
    · rintro ⟨number, b, admits⟩
      exact ⟨_, succeeds admits reader⟩
  · by_cases admitted : ∃ number b, h.state.Admits path number b
    · obtain ⟨number, b, admits⟩ := admitted
      cases (succeeds admits reader).symm.trans ends
      exact next
    · obtain ⟨⟨e, error⟩, -⟩ := refuses admitted reader
      cases error.symm.trans ends
  · by_cases admitted : ∃ number b, h.state.Admits path number b
    · obtain ⟨number, b, admits⟩ := admitted
      have succeeded := succeeds admits reader
      rw [ends] at succeeded
      cases succeeded
    · obtain ⟨-, nextSerial, state⟩ := refuses admitted reader
      rw [ends] at state
      rw [state]
      exact ⟨rfl, rfl, rfl⟩
  · obtain ⟨same, e, error, fault⟩ := ends_unregister_unknown unknown
    exact ⟨e, Prod.ext error same, fault⟩
  · have found : (Value.int registration).wholeNumber?.bind h.state.find? = some o := known
    obtain ⟨ok, buses, unregistered⟩ := ends_unregister_known found m.sturdy
    have same : o.registration = registration := by simpa using List.find?_some known
    refine ⟨_, Prod.ext ok rfl, ?_⟩
    rw [unregistered.state, ← same]

theorem mirrors_owning (name : Text) {script : BusScript} (sturdy : script.unexportFaults = []) :
    (owning (ρ := ρ) name script).state.Mirrors := by
  have state : (owning (ρ := ρ) name script).state = { name, attempts := [.starting script] } := rfl
  have busless (number : Nat) (b : MessageBus ρ) :
      ({ name, attempts := [.starting script] } : Connection ρ).bus? number ≠ some b := by
    simp [bus?]
  rw [state]
  refine ⟨List.nodup_nil, .nil, List.forall_mem_nil _,
    fun number b live => absurd live.bus (busless number b),
    fun number b bus =>
      absurd bus (busless number b), fun _ _ _ => ⟨rfl, rfl, fun number b bus => ?_⟩,
    fun script' there => ?_, rfl⟩
  · exact absurd bus (busless number b)
  · cases List.mem_singleton.1 there
    exact sturdy

/-- Whatever is done with a connection in whichever order, its table of objects mirrors the bus. -/
theorem isMirrored (name : Text) {script : BusScript} (sturdy : script.unexportFaults = [])
    (deeds : List (Deed ρ)) :
    IsMirrored (afterDeeds (owning name script) deeds) (grants (owning name script) deeds) := by
  have begun := mirrors_owning (ρ := ρ) name sturdy
  have first : (owning (ρ := ρ) name script).state.nextRegistration = 1 := rfl
  generalize owning (ρ := ρ) name script = start at begun first
  refine (mirrors_afterDeeds begun deeds).mirrored (fun k registration there => ?_) ?_
  · rw [getElem?_grants begun deeds there, first, Int.add_comm]
  · rw [nextRegistration_afterDeeds begun, first, Int.add_comm]

/-- A path is used again when its object was unregistered, with a number of its own. -/
theorem isMirrored_sample : BusScript.unexportFaults {} = [] ∧
    IsMirrored (ρ := Text)
      (afterDeeds (owning "org.gpiod" {}) [.resume, .resume, .resume, .register "/a" "a",
        .unregister (.int 1), .register "/a" "b", .hangUp none, .unregister (.int 2), .release])
      (grants (owning "org.gpiod" {}) [.resume, .resume, .resume, .register "/a" "a",
        .unregister (.int 1), .register "/a" "b", .hangUp none, .unregister (.int 2), .release]) :=
  ⟨rfl, isMirrored "org.gpiod" rfl _⟩

example : grants (ρ := Text) (owning "org.gpiod" {}) [.resume, .resume, .resume, .register "/a" "a",
    .unregister (.int 1), .register "/a" "b"] = [1, 2] := by
  decide

end Connection

end GpioBroker
