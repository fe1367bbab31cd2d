import GpioBroker.Proofs.Capture
import GpioBroker.Proofs.Ledger
import GpioBroker.Proofs.Outlook
import GpioBroker.Proofs.Rejection

/-!
# What an event on a chip leaves alone

Adding a chip and removing it move nothing that another chip sees: the bindings stay but for the
numbers they give, the buses stay at every other path, and nothing is asked of any other device.  It
does not matter how the addition or the removal ends.
-/

namespace GpioBroker

open Act

namespace Act

variable {σ τ α : Type} {p : Text} {m : List (Option ChipCall)}

/-- What was asked of the device at a path. -/
def AskedAt (p : Text) (m : List (Option ChipCall)) (h : Host σ) : Prop := callsAt p h.calls = m

theorem isLoose_askedAt : IsLoose (AskedAt p m : Host σ → Prop) := fun _ _ _ calls asked => by
  unfold AskedAt at asked ⊢
  rw [calls, asked]

theorem askedAt_note {c : Call} (other : c.at? p = none) :
    (note c : Act σ Unit).Keeps (AskedAt p m) := by
  intro h asked
  change callsAt p (h.calls ++ [c]) = m
  rw [← show callsAt p h.calls = m from asked]
  simp [callsAt, other]

theorem askedAt_update (f : σ → σ) : (update f).Keeps (AskedAt p m) := fun _ asked => asked

theorem askedAt_within {get : σ → τ} {set : σ → τ → σ} {x : Act τ α} (hx : x.Keeps (AskedAt p m)) :
    (within get set x).Keeps (AskedAt p m) := fun h asked => Ends.within (hx (h.withState _) asked)

end Act

/-! ### Chips -/

section Chips

variable {σ : Type} {p : Text} {m : List (Option ChipCall)}

theorem OpenChip.askedAt_call {chip : OpenChip} (other : chip.device.path ≠ p) (c : ChipCall) :
    (chip.call c : Act σ Unit).Keeps (AskedAt p m) :=
  (askedAt_note (by simp [Call.at?, other])).bind fun _ => keeps_failing _

theorem OpenChip.askedAt_readInfo {chip : OpenChip} (other : chip.device.path ≠ p)
    (g : Generation) :
    (chip.readInfo g : Act σ ChipInfo).Keeps (AskedAt p m) := by
  have call (c : ChipCall) : (chip.call c : Act σ Unit).Keeps (AskedAt p m) :=
    OpenChip.askedAt_call other c
  cases g with
  | first =>
    exact (call .name).bind fun _ =>
      (call .label).bind fun _ => (call .numLines).bind fun _ => keeps_ofExcept _
  | second => exact (call .getInfo).bind fun _ => keeps_ofExcept _

/-- Closing a handle asks nothing of any device but the one it has open. -/
theorem Handle.callsAt_closing {x : Handle}
    (other : ∀ chip, x.chip = some chip → chip.device.path ≠ p) (calls : List Call) :
    callsAt p (calls ++ x.closing) = callsAt p calls := by
  unfold closing
  cases held : x.chip with
  | none => simp
  | some chip => simp [callsAt, Call.at?, other chip held]

end Chips

/-! ### Bindings -/

namespace Bindings

variable {b b' : Bindings} {p : Text} {deviceId : Value} {h : Host Bindings}
    {m : List (Option ChipCall)}

/-- The bindings but for the numbers they give. -/
def rest (b : Bindings) : Bindings := { b with nextSerial := 0 }

theorem pathOf_of_rest (same : b'.rest = b.rest) (deviceId : Value) :
    b'.pathOf deviceId = b.pathOf deviceId := by
  have directory : b'.rest.directory = b.rest.directory := by rw [same]
  change b'.directory = b.directory at directory
  unfold pathOf
  rw [directory]

theorem find?_of_rest (same : b'.rest = b.rest) (path : Text) : b'.find? path = b.find? path := by
  have devices : b'.rest.devices = b.rest.devices := by rw [same]
  change b'.devices = b.devices at devices
  unfold find?
  rw [devices]

theorem outlook_of_rest (same : b'.rest = b.rest) (deviceId : Value) :
    b'.outlook deviceId = b.outlook deviceId := by
  have generation : b'.rest.generation = b.rest.generation := by rw [same]
  change b'.generation = b.generation at generation
  unfold outlook
  rw [generation, pathOf_of_rest same, funext (find?_of_rest same)]

/-- The device that is found at a path has that path. -/
theorem path_of_find? {d : Device} (found : b.find? p = some d) : d.path = p := by
  simpa using List.find?_some found

/-- A handle has the chip open that there is at the path of its name, with the metadata of its
device. -/
def Gives (b : Bindings) (handle : Handle) : Prop :=
  ∃ path chip, handle.chip = some chip ∧ b.pathOf handle.deviceId = .ok path ∧
    b.find? path = some chip.device ∧
    chip.device.info? = .ok handle.info

theorem gives_of_rest {handle : Handle} (same : b'.rest = b.rest) :
    b'.Gives handle ↔ b.Gives handle := by
  unfold Gives
  simp only [pathOf_of_rest same, find?_of_rest same]

/-- The chip of a handle is at the path of its name. -/
theorem Gives.path_ne {handle : Handle} (gives : b.Gives handle)
    (other : b.pathOf handle.deviceId ≠ .ok p) {chip : OpenChip} (held : handle.chip = some chip) :
    chip.device.path ≠ p := by
  obtain ⟨path, chip', held', named, found, -⟩ := gives
  cases held.symm.trans held'
  rw [path_of_find? found]
  rintro rfl
  exact other named

theorem exists_path_of_chipOf {chip : OpenChip} (given : b.chipOf deviceId = .ok chip) :
    ∃ path, b.pathOf deviceId = .ok path ∧ b.find? path = some chip.device := by
  unfold chipOf at given
  split at given
  · cases given
  · rename_i path named
    split at given
    · cases given
    · rename_i device found
      split at given
      · cases given
      · cases given
        exact ⟨path, named, found⟩

theorem info?_of_reading {d : Device} {g : Generation} {info : ChipInfo}
    (read : d.reading g = .ok info) :
    d.info? = .ok info := by
  unfold Device.reading at read
  split at read
  · cases read
  · exact read

theorem ends_openDevice_gives (deviceId : Value) : (openDevice deviceId).Ends h fun r _ =>
    ∀ handle, r = .ok handle → handle.deviceId = deviceId ∧ h.state.Gives handle := by
  refine (ends_openDevice_attempted deviceId).mono fun r h' attempted handle ok => ?_
  cases attempted with
  | opened chip info given read kept =>
    cases ok
    obtain ⟨path, named, found⟩ := exists_path_of_chipOf given
    exact ⟨rfl, path, chip, rfl, named, found, info?_of_reading read⟩
  | _ => cases ok

theorem askedAt_openPath {path : Text} (other : path ≠ p) :
    (openPath path).Keeps (AskedAt p m) := by
  refine (askedAt_note (by simp [Call.at?, other])).bind fun _ => keeps_state.bind fun b => ?_
  split
  · exact keeps_fail _
  · exact (keeps_failing _).bind fun _ => (askedAt_update _).bind fun _ => keeps_pure _

theorem ends_openDevice_asked (other : h.state.pathOf deviceId ≠ .ok p) :
    (openDevice deviceId).Ends h fun _ h' => callsAt p h'.calls = callsAt p h.calls := by
  unfold openDevice
  refine ends_bind.2 (ends_state.2 ?_)
  dsimp only
  cases named : h.state.pathOf deviceId with
  | error f => exact ends_bind.2 rfl
  | ok path =>
    refine ends_bind.2 ((ends_ofExcept_ok path).2 ?_)
    have apart : path ≠ p := fun same => other (same ▸ named)
    have opened :=
      (askedAt_openPath (m := callsAt p h.calls) apart h rfl).and (ends_openPath_find? path)
    refine opened.bind (fun chip h₁ ends => ?_) fun _ _ ends => ends.1
    obtain ⟨asked, -, -, found⟩ := ends
    have at_ : chip.device.path ≠ p := by rwa [path_of_find? (found chip rfl)]
    have reads : (readOpened chip).Keeps (AskedAt p (callsAt p h.calls)) :=
      keeps_state.bind fun b => (chip.askedAt_readInfo at_ _).undo (chip.askedAt_call at_ .close)
    exact (reads.bind fun _ => (keeps_log isLoose_askedAt _ _).bind fun _ => keeps_pure _) h₁ asked

theorem rest_of_opening {calls calls' : List Call} {r : Except Failure Handle}
    (opening : Opening deviceId b calls b' calls' r) : b'.rest = b.rest := by
  cases opening with
  | refused _ state => rw [state]
  | undone _ state => rw [state]; rfl
  | abandoned _ state => rw [state]; rfl
  | opened _ _ _ _ _ state => rw [state]; rfl

end Bindings

/-! ### Buses -/

namespace MessageBus

variable {ρ : Type} {path q : Text} {b : MessageBus ρ}

theorem exportsAt_export (other : q ≠ path) (object : ChipObject ρ) :
    exportsAt q { b with exported := b.exported ++ [(path, object)] } = b.exportsAt q := by
  simp [exportsAt, other.symm]

theorem exportsAt_unexport (other : q ≠ path) (object : ChipObject ρ) :
    (b.without path object).exportsAt q = b.exportsAt q := by
  unfold exportsAt without
  rw [List.filter_filter]
  refine List.filter_congr fun e _ => ?_
  by_cases here : e.1 = q <;> simp [here, other]

theorem outlook_export (other : q ≠ path) (object : ChipObject ρ) :
    outlook q { b with exported := b.exported ++ [(path, object)] } = b.outlook q := by
  unfold outlook
  rw [find?_eq_exportsAt, find?_eq_exportsAt, exportsAt_export other]

theorem outlook_unexport (other : q ≠ path) (object : ChipObject ρ) :
    (b.without path object).outlook q = b.outlook q := by
  unfold outlook
  rw [find?_eq_exportsAt, find?_eq_exportsAt, exportsAt_unexport other]
  rfl

end MessageBus

namespace Connection

variable {ρ : Type} {path q : Text} {c c' : Connection ρ} {h : Host (Connection ρ)} {p : Text}
  {m : List (Option ChipCall)}

/-- What is seen of a connection when one of its buses is another of which the same is seen. -/
theorem outlook_setBus {number : Nat} {b b' : MessageBus ρ} (bus : c.bus? number = some b)
    (link : c'.link = c.link) (buses : c'.buses = c.buses.set number b')
    (same : b'.outlook q = b.outlook q) :
    c'.outlook q = c.outlook q := by
  unfold outlook
  rw [link, buses, List.map_set, same, ← List.map_set, set_of_bus? bus]

/-- What the buses export at a path when one of them is another that exports the same there. -/
theorem exportsAt_setBus {number : Nat} {b b' : MessageBus ρ} (bus : c.bus? number = some b)
    (buses : c'.buses = c.buses.set number b') (same : b'.exportsAt q = b.exportsAt q) :
    c'.exportsAt q = c.exportsAt q := by
  unfold exportsAt
  rw [buses, List.map_set, same, ← List.map_set, set_of_bus? bus]

/-- Fewer objects, and fewer exports on the bus in use, are as faithful as they were. -/
theorem IsFaithful.fewer (faithful : c.IsFaithful) (objects : ∀ o ∈ c'.objects, o ∈ c.objects)
    (exported : ∀ number b', c'.IsLive number b' → ∃ b, c.IsLive number b ∧
      ∀ e ∈ b'.exported, e ∈ b.exported) :
    c'.IsFaithful := by
  intro number b' live o ho e he
  obtain ⟨b, live₀, fewer⟩ := exported number b' live
  exact faithful number b live₀ o (objects o ho) e (fewer e he)

/-- A change of a connection that concerns the path of one object. -/
structure ConfinedTo (path : Text) (c c' : Connection ρ) : Prop where
  outlook : ∀ q ≠ path, c'.outlook q = c.outlook q
  exports : ∀ q ≠ path, c'.exportsAt q = c.exportsAt q
  faithful : c.IsFaithful → c'.IsFaithful

/-- A connection stays faithful when an object is put on the bus at a path that is free. -/
theorem IsFaithful.register {number : Nat} {b : MessageBus ρ} (faithful : c.IsFaithful)
    (admits : c.Admits path number b) (object : ChipObject ρ) (registration : Int)
    (link : c'.link = c.link) (objects : c'.objects = c.objects ++ [⟨registration, path, object⟩])
    (buses : c'.buses = c.buses.set number { b with exported := b.exported ++ [(path, object)] }) :
    c'.IsFaithful := by
  intro i b' live o ho e he same
  obtain rfl : number = i :=
    Option.some.inj (admits.live.link.symm.trans (link.symm.trans live.link))
  have bus := live.bus
  unfold bus? at bus
  rw [buses] at bus
  obtain ⟨-, rfl⟩ | ⟨other, -⟩ := bus?_of_set bus
  · rw [objects] at ho
    rcases List.mem_append.1 ho with old | new <;> rcases List.mem_append.1 he with was | is
    · exact faithful number b admits.live o old e was same
    · obtain rfl := List.mem_singleton.1 is
      exact absurd same.symm (admits.free o old)
    · obtain rfl := List.mem_singleton.1 new
      have free : b.exported.lookup path = none := admits.takes.free
      exact absurd same.symm (by simpa using List.lookup_eq_none_iff.1 free e was)
    · obtain rfl := List.mem_singleton.1 new
      obtain rfl := List.mem_singleton.1 is
      rfl
  · exact absurd rfl other

theorem ends_register_confined (path : Text) (reader : ρ) :
    (register path reader).Ends h fun _ h' => ConfinedTo path h.state h'.state := by
  by_cases admits : ∃ number b, h.state.Admits path number b
  · obtain ⟨number, b, admits⟩ := admits
    refine (ends_register_ok admits reader).mono ?_
    rintro _ h' ⟨-, object, state⟩
    refine ⟨fun q other => ?_, fun q other => ?_, fun faithful => ?_⟩
    · refine outlook_setBus admits.live.bus ?_ ?_
        (MessageBus.outlook_export other object) <;> rw [state]
    · exact exportsAt_setBus admits.live.bus (by rw [state])
        (MessageBus.exportsAt_export other object)
    · refine faithful.register admits object h.state.nextRegistration ?_ ?_ ?_ <;> rw [state]
  · refine (ends_register_error (fun number b takes => admits ⟨number, b, takes⟩) reader).mono ?_
    rintro _ h' ⟨-, nextSerial, state⟩
    rw [state]
    exact ⟨fun _ _ => rfl, fun _ _ => rfl,
      fun faithful => faithful.fewer (fun _ ho => ho) fun number b live =>
      ⟨b, ⟨live.link, live.bus, live.up⟩, fun _ he => he⟩⟩

theorem ends_unregister_confined {registration : Int} {o : RegisteredObject ρ}
    (found : h.state.find? registration = some o) :
    (unregister (.int registration)).Ends h fun _ h' => ConfinedTo o.path h.state h'.state := by
  have lookedUp : (Value.int registration).wholeNumber?.bind h.state.find? = some o := found
  have keyed : (Value.int registration).toKey = .ok (.whole registration) := rfl
  unfold unregister
  simp only [keyed, ends_bind, ends_discard, ends_ofExcept_ok, Except.map, ends_state,
    lookedUp, ends_update]
  have forgotten {c' : Connection ρ} (objects : c'.objects =
      h.state.objects.filter fun o' => o'.registration != o.registration) (o' : RegisteredObject ρ)
      (there : o' ∈ c'.objects) : o' ∈ h.state.objects := by
    rw [objects] at there
    exact (List.mem_filter.1 there).1
  cases up : h.state.live? with
  | none =>
    exact ⟨fun _ _ => rfl, fun _ _ => rfl,
      fun faithful => faithful.fewer (forgotten rfl) fun number b live =>
      ⟨b, ⟨live.link, live.bus, live.up⟩, fun _ he => he⟩⟩
  | some number =>
    obtain ⟨b, live⟩ := live?_eq_some_iff.1 up
    refine ends_withinBus_of_bus? (b := b) live.bus ?_
    refine MessageBus.ends_unexportObject_of (fun _ => ?_) fun f _ => ?_
    · refine ⟨fun q other =>
        outlook_setBus live.bus rfl rfl (MessageBus.outlook_unexport other o.object),
        fun q other => exportsAt_setBus live.bus rfl (MessageBus.exportsAt_unexport other o.object),
        fun faithful => faithful.fewer (forgotten rfl) fun i b' live' => ?_⟩
      obtain rfl : number = i := Option.some.inj (live.link.symm.trans live'.link)
      obtain ⟨-, rfl⟩ | ⟨other, -⟩ := bus?_of_set live'.bus
      · exact ⟨b, live, fun e he => (List.mem_filter.1 he).1⟩
      · exact absurd rfl other
    · refine ⟨fun q _ => outlook_setBus live.bus rfl rfl rfl,
        fun q _ => exportsAt_setBus live.bus rfl rfl,
        fun faithful => faithful.fewer (forgotten rfl) fun i b' live' =>
          ⟨b', ⟨live'.link, ?_, live'.up⟩, fun _ he => he⟩⟩
      have bus := live'.bus
      change (h.state.buses.set number b)[i]? = some b' at bus
      rwa [set_of_bus? live.bus] at bus

theorem askedAt_register (path : Text) (reader : ρ) :
    (register path reader).Keeps (AskedAt p m) := by
  refine keeps_state.bind fun c => ?_
  split
  · exact keeps_fail _
  · have exports (number : Nat) (object : ChipObject ρ) :
        (withinBus number (MessageBus.exportObject path object)).Keeps (AskedAt p m) := by
      refine askedAt_within <| (askedAt_note rfl).bind fun _ => keeps_state.bind fun b =>
        (keeps_failing _).bind fun _ => ?_
      refine (keeps_ofExcept _).bind fun _ => Keeps.ite ((keeps_fail _).bind fun _ => ?_) ?_
      all_goals exact askedAt_update _
    refine Keeps.ite ((keeps_fail _).bind fun _ => ?_) ?_
    all_goals
      refine (askedAt_update _).bind fun _ => (exports _ _).explain.bind fun _ => ?_
      exact (askedAt_update _).bind fun _ => keeps_pure _

theorem askedAt_unregister (registration : Value) :
    (unregister registration : Act (Connection ρ) Unit).Keeps (AskedAt p m) :=
  keeps_unregister_of (fun _ => askedAt_update _) (fun _ _ _ => askedAt_within <|
    (askedAt_note rfl).bind fun _ => keeps_state.bind fun _ =>
      (keeps_failing _).bind fun _ => askedAt_update _) registration

end Connection

/-! ### Records -/

/-- Every handle that a record holds is given by some bindings. -/
def Roster.IsGiven {β : Type} (b : Bindings) (r : Roster β) : Prop :=
  ∀ record ∈ r.records, ∀ handle, record.handle = some handle → b.Gives handle

theorem Roster.IsGiven.setRecord {β : Type} {b : Bindings} {r : Roster β} (given : r.IsGiven b)
    {number : Nat} {record : Record}
    (holds : ∀ handle, record.handle = some handle → b.Gives handle) :
    (r.setRecord number record).IsGiven b := by
  intro record' there handle held
  obtain old | rfl := List.mem_or_eq_of_mem_set there
  · exact given record' old handle held
  · exact holds handle held

namespace Broker

variable {η : Type} {h h' h₁ h₂ : Host (Broker (Connection Value) η)} {deviceId : Value}

/-- What an event on a chip leaves alone. -/
structure Confined (deviceId : Value) (h h' : Host (Broker (Connection Value) η)) : Prop where
  rest : h'.state.bindings.rest = h.state.bindings.rest
  calls : ∀ p, h.state.bindings.pathOf deviceId ≠ .ok p → callsAt p h'.calls = callsAt p h.calls
  bus : ∀ q, (∀ t, deviceId = .text t → objectPath t ≠ q) →
    h'.state.roster.bus.outlook q = h.state.roster.bus.outlook q
  exports : ∀ q, (∀ t, deviceId = .text t → objectPath t ≠ q) →
    h'.state.roster.bus.exportsAt q = h.state.roster.bus.exportsAt q
  faithful : h.state.roster.bus.IsFaithful → h'.state.roster.bus.IsFaithful
  given : h.state.roster.IsGiven h.state.bindings → h'.state.roster.IsGiven h.state.bindings

theorem Confined.refl (deviceId : Value) (h : Host (Broker (Connection Value) η)) :
    Confined deviceId h h :=
  ⟨rfl, fun _ _ => rfl, fun _ _ => rfl, fun _ _ => rfl, id, id⟩

theorem Confined.trans (first : Confined deviceId h h₁) (second : Confined deviceId h₁ h₂) :
    Confined deviceId h h₂ where
  rest := second.rest.trans first.rest
  calls p other := by
    refine (second.calls p ?_).trans (first.calls p other)
    rwa [Bindings.pathOf_of_rest first.rest]
  bus q other := (second.bus q other).trans (first.bus q other)
  exports q other := (second.exports q other).trans (first.exports q other)
  faithful faithful := second.faithful (first.faithful faithful)
  given given record there handle held := by
    refine (Bindings.gives_of_rest first.rest).1
      (second.given (fun record₁ there₁ handle₁ held₁ => ?_) record there handle held)
    exact (Bindings.gives_of_rest first.rest).2 (first.given given record₁ there₁ handle₁ held₁)

/-- What is confined stays so when the log grows. -/
theorem Confined.logged (confined : Confined deviceId h h₁) (state : h₂.state = h₁.state)
    (calls : h₂.calls = h₁.calls) :
    Confined deviceId h h₂ := by
  refine confined.trans ⟨?_, fun _ _ => ?_, fun _ _ => ?_, fun _ _ => ?_, ?_, ?_⟩
  · rw [state]
  · rw [calls]
  · rw [state]
  · rw [state]
  · rw [state]
    exact id
  · rw [state]
    exact id

theorem Confined.since (confined : Confined deviceId h₁ h₂) (state : h₁.state = h.state)
    (calls : h₁.calls = h.calls) :
    Confined deviceId h h₂ :=
  ((Confined.refl deviceId h).logged state calls).trans confined

/-! ### Adding -/

theorem ends_openChip_confined (deviceId : Value) : (openChip deviceId).Ends h fun r h' =>
    h'.state.roster = h.state.roster ∧ Confined deviceId h h' ∧
      ∀ handle, r = .ok (some handle) → handle.deviceId = deviceId ∧
        h.state.bindings.Gives handle := by
  have opening : (withinBindings (Bindings.openDevice deviceId)).Ends h fun r h' =>
      h'.state.roster = h.state.roster ∧ Confined deviceId h h' ∧
        ∀ handle, r = .ok handle → handle.deviceId = deviceId ∧ h.state.bindings.Gives handle := by
    have gives := Bindings.ends_openDevice_gives (h := h.withState h.state.bindings) deviceId
    have asked (p : Text) (other : h.state.bindings.pathOf deviceId ≠ .ok p) :=
      Bindings.ends_openDevice_asked (h := h.withState h.state.bindings) other
    have rest :=
      Bindings.rest_of_opening
        (Bindings.ends_openDevice (h := h.withState h.state.bindings) deviceId)
    exact Ends.within ⟨rfl, ⟨rest, asked, fun _ _ => rfl, fun _ _ => rfl, id, id⟩, gives⟩
  refine opening.map.recover ?_ ?_ ?_
  · rintro _ h' ⟨_ | handle, made, roster, confined, gives⟩
    · cases made
    · cases made
      exact ⟨roster, confined, fun _ same => by cases same; exact gives handle rfl⟩
  · rintro e h' ⟨_, -, roster, confined, -⟩ -
    exact ⟨roster, confined, fun _ same => by cases same⟩
  · rintro e h' ⟨_, -, roster, confined, -⟩ -
    exact ⟨roster, confined.logged rfl rfl, fun _ same => by cases same⟩

/-- A record that was prepared holds a handle that the bindings give. -/
structure Prepared (deviceId : Value) (h : Host (Broker (Connection Value) η)) (number : Nat)
    (record : Record) (handle : Handle) : Prop where
  there : h.state.roster.records[number]? = some record
  named : record.deviceId = deviceId
  unregistered : record.registration = none
  held : record.handle = some handle
  opened : handle.deviceId = deviceId
  gives : h.state.bindings.Gives handle

/-- Only for a text a record is prepared. -/
theorem Prepared.exists_text {number : Nat} {record : Record} {handle : Handle}
    (prepared : Prepared deviceId h number record handle) : ∃ t, deviceId = .text t := by
  obtain ⟨path, -, -, named, -⟩ := prepared.gives
  rw [prepared.opened] at named
  exact Bindings.exists_text_of_pathOf named

theorem ends_prepare_confined (deviceId : Value) : (prepare deviceId).Ends h fun r h' =>
    h'.state.roster.bus = h.state.roster.bus ∧ Confined deviceId h h' ∧
      ∀ number record, r = .ok (some (number, record)) →
        ∃ handle, Prepared deviceId h' number record handle := by
  unfold prepare
  simp only [ends_bind, ends_state]
  refine ends_ofExcept _ (fun key _ => ?_) fun f _ =>
    ⟨rfl, .refl _ _, fun _ _ same => by cases same⟩
  refine ends_ite (fun _ => ⟨rfl, .refl _ _, fun _ _ same => by cases same⟩) fun _ => ?_
  simp only [ends_bind, ends_log]
  refine (ends_openChip_confined deviceId).mono ?_
  rintro (e | _ | handle) h₁ ⟨roster, confined, gives⟩
  all_goals replace confined : Confined deviceId h h₁ := confined.since rfl rfl
  all_goals have bus : h₁.state.roster.bus = h.state.roster.bus := congrArg Roster.bus roster
  · exact ⟨bus, confined, fun _ _ same => by cases same⟩
  · exact ⟨bus, confined, fun _ _ same => by cases same⟩
  obtain ⟨named, gives⟩ := gives handle rfl
  simp only [ends_bind, ends_keep, ends_pure]
  refine ⟨bus, ⟨confined.rest, confined.calls, confined.bus, confined.exports, confined.faithful,
    fun given record there handle' held => ?_⟩, ?_⟩
  · rcases List.mem_append.1 there with old | new
    · exact confined.given given record old handle' held
    · obtain rfl := List.mem_singleton.1 new
      cases held
      exact gives
  · rintro number record ⟨⟩
    exact ⟨handle, by simp, rfl, rfl, rfl, named, (Bindings.gives_of_rest confined.rest).2 gives⟩

theorem ends_registerRecord_confined {number : Nat} {record : Record} {handle : Handle}
    (prepared : Prepared deviceId h number record handle) :
    (registerRecord number record).Ends h fun _ h' =>
      Confined deviceId h h' := by
  obtain ⟨t, rfl⟩ := prepared.exists_text
  have registering :
      (withinBus (ObjectBus.register (objectPath record.deviceId.display) record.deviceId)).Ends h
      fun _ h' =>
        h'.state.roster.records = h.state.roster.records ∧ h'.state.bindings = h.state.bindings ∧
        Confined (.text t) h h' := by
    have confined := Connection.ends_register_confined (h := h.withState h.state.roster.bus)
      (objectPath record.deviceId.display) record.deviceId
    have asked (p : Text) := Connection.askedAt_register (m := callsAt p h.calls)
      (objectPath record.deviceId.display) record.deviceId (h.withState h.state.roster.bus) rfl
    rw [prepared.named] at confined asked ⊢
    unfold withinBus withinRoster Roster.withinBus
    refine Ends.within (Ends.within ?_)
    exact ⟨rfl, rfl, rfl, fun p _ => asked p, fun q other => confined.outlook q (other t rfl).symm,
      fun q other => confined.exports q (other t rfl).symm, confined.faithful, id⟩
  refine registering.map.recover (fun _ _ ends => ?_) (fun _ _ ends _ => ?_) ?_
  · obtain ⟨-, -, -, -, confined⟩ := ends
    exact confined
  · obtain ⟨-, -, -, -, confined⟩ := ends
    exact confined
  · rintro e h₁ ⟨_, -, records, bindings, confined⟩ -
    have there₁ : h₁.state.roster.records[number]? = some record := by
      rw [records]
      exact prepared.there
    refine (ends_giveUp there₁ prepared.held prepared.unregistered _).mono ?_
    rintro _ h₂ ⟨state, -, calls, -⟩
    refine confined.trans ⟨?_, fun p other => ?_, fun _ _ => ?_, fun _ _ => ?_, ?_, fun given => ?_⟩
    · rw [state]
    · rw [calls]
      refine handle.callsAt_closing (fun chip held => ?_) _
      rw [bindings, ← prepared.opened] at other
      exact prepared.gives.path_ne other held
    · rw [state]
      rfl
    · rw [state]
      rfl
    · rw [state]
      exact id
    · rw [state]
      exact given.setRecord fun _ held => by cases held

/-- Entering a record touches nothing but the roster itself. -/
theorem ends_enter_spares (number : Nat) (record : Record) (registration : Int) :
    (enter number record registration).Ends h fun _ h' => h'.calls = h.calls ∧
      h'.state.bindings = h.state.bindings ∧ h'.state.roster.bus = h.state.roster.bus ∧
        h'.state.roster.records =
          h.state.roster.records.set number
            { record with registration := some (.int registration) } := by
  have inserts (k : Host (Roster (Connection Value))) : (Roster.insert number).Ends k fun _ k' =>
      k'.calls = k.calls ∧ k'.state.bus = k.state.bus ∧ k'.state.records = k.state.records := by
    unfold Roster.insert
    simp only [ends_bind, ends_state]
    cases k.state.records[number]? with
    | none => exact ⟨rfl, rfl, rfl⟩
    | some record =>
      simp only [ends_bind]
      exact ends_ofExcept _
        (fun key _ => ends_ite (fun _ => ⟨rfl, rfl, rfl⟩) fun _ => ⟨rfl, rfl, rfl⟩)
        fun f _ => ⟨rfl, rfl, rfl⟩
  unfold enter
  refine Ends.within ?_
  rw [ends_bind, ends_update]
  refine Ends.mono (inserts _) ?_
  rintro _ k ⟨calls, bus, records⟩
  exact ⟨calls, rfl, bus, records⟩

theorem ends_enter_confined {number : Nat} {record : Record} {handle : Handle}
    (held : record.handle = some handle)
    (gives : h.state.bindings.Gives handle) (deviceId : Value) (registration : Int) :
    (enter number record registration).Ends h fun _ h' => Confined deviceId h h' := by
  refine (ends_enter_spares number record registration).mono ?_
  rintro _ h' ⟨calls, bindings, bus, records⟩
  refine ⟨by rw [bindings], fun p _ => by rw [calls], fun q _ => by rw [bus],
    fun q _ => by rw [bus],
    fun faithful => by rwa [bus], ?_⟩
  intro given record' there handle' held'
  rw [records] at there
  obtain old | rfl := List.mem_or_eq_of_mem_set there
  · exact given record' old handle' held'
  · cases held.symm.trans held'
    exact gives

theorem ends_addChip_confined (deviceId : Value) :
    (addChip deviceId).Ends h fun _ h' => Confined deviceId h h' := by
  rw [addChip_eq]
  refine (ends_prepare_confined deviceId).bind ?_ fun _ _ ends => ends.2.1
  rintro (_ | ⟨number, record⟩) h₁ ⟨-, confined, prepares⟩
  · exact confined
  obtain ⟨handle, prepared⟩ := prepares number record rfl
  refine (ends_registerRecord_confined prepared).bind ?_ fun _ _ registered =>
    confined.trans registered
  rintro (_ | registration) h₂ registered
  · exact confined.trans registered
  have gives : h₂.state.bindings.Gives handle :=
    (Bindings.gives_of_rest registered.rest).2 prepared.gives
  refine (ends_enter_confined prepared.held gives deviceId registration).bind
    (fun _ _ entered => ?_)
    fun _ _ entered => ?_
  all_goals exact (confined.trans registered).trans entered

/-- A device is known after an addition if it was before, or if it was added. -/
theorem ends_addChip_contains (deviceId : Value) : (addChip deviceId).Ends h fun r h' => ∀ key,
    h'.state.roster.contains key = true ↔ h.state.roster.contains key = true ∨
      (∃ number, r = .ok (some number)) ∧ deviceId.toKey = .ok key := by
  refine (ends_addChip deviceId).mono ?_
  rintro r h' ⟨-, adding⟩ key
  cases adding with
  | refused e same known => simp [same]
  | dropped r key' named absent misses dropped entries =>
    rw [Roster.contains_congr entries]
    rcases dropped with ⟨e, rfl⟩ | ⟨rfl, -⟩ <;> simp
  | exposed x named absent meets number registration serial device entries =>
    simp only [Roster.contains_iff, Roster.keys, entries, List.map_append, List.mem_append, named]
    simp [Exposure.entry, eq_comm]

end Broker

/-! ### Removing -/

namespace Roster

variable {h : Host (Roster (Connection Value))} {b : Bindings} {xs : List Exposure} {x : Exposure}

theorem upholds_isGiven : Upholds (IsGiven b : Roster (Connection Value) → Prop) where
  empty _ _ _ given := given.setRecord fun _ held => by cases held
  erase _ _ given := given
  unregister _ _ given := Ends.within given

theorem ends_removeEntry_confined (shows : h.state.Shows xs) (hx : x ∈ xs) :
    (removeEntry (.text x.id) x.number).Ends h fun _ h' =>
      (∀ p, x.chip.device.path ≠ p → callsAt p h'.calls = callsAt p h.calls) ∧
        Connection.ConfinedTo (objectPath x.id) h.state.bus h'.state.bus := by
  have destroyed : (destroy x.number).Ends h fun _ h' =>
      (∀ p, x.chip.device.path ≠ p → callsAt p h'.calls = callsAt p h.calls) ∧
        Connection.ConfinedTo (objectPath x.id) h.state.bus h'.state.bus := by
    unfold destroy
    simp only [ends_bind, ends_state, shows.records x hx, ends_update]
    refine Ends.ensure x.handle.ends_closeChip ?_
    rintro _ h₁ ⟨state, calls, -⟩
    have bus : h₁.state.bus = h.state.bus := by
      rw [state]
      rfl
    have found : h₁.state.bus.find? x.registration = some x.object := by
      rw [bus]
      exact shows.find?_object hx
    change (unregister (some (.int x.registration))).Ends h₁ _
    unfold unregister withinBus
    refine Ends.within ?_
    have confined := Connection.ends_unregister_confined (h := h₁.withState h₁.state.bus) found
    have asked (p : Text) :=
      Connection.askedAt_unregister (m := callsAt p h₁.calls) (.int x.registration)
      (h₁.withState h₁.state.bus) rfl
    rw [← bus]
    refine ⟨fun p other => (asked p).trans ?_, confined⟩
    rw [calls]
    exact x.handle.callsAt_closing (fun chip held => by cases held; exact other) _
  exact destroyed.ensure fun _ _ confined => confined

theorem ends_remove_confined (shows : h.state.Shows xs) (deviceId : Value) :
    (remove deviceId).Ends h fun _ h' => (h'.calls = h.calls ∧ h'.state.bus = h.state.bus) ∨
      ∃ x ∈ xs, deviceId = .text x.id ∧
        (∀ p, x.chip.device.path ≠ p → callsAt p h'.calls = callsAt p h.calls) ∧
          Connection.ConfinedTo (objectPath x.id) h.state.bus h'.state.bus := by
  unfold remove
  simp only [ends_bind, ends_state]
  refine ends_ofExcept _ (fun key named => ?_) fun f _ => .inl ⟨rfl, rfl⟩
  dsimp only
  cases found : h.state.find? key with
  | none => exact .inl ⟨rfl, rfl⟩
  | some number =>
    obtain ⟨x, hx, rfl, rfl⟩ := shows.exists_of_find? found
    exact (ends_removeEntry_confined shows hx).mono fun _ _ confined =>
      .inr ⟨x, hx, Value.eq_text_of_toKey named, confined⟩

end Roster

namespace Broker

variable {η : Type} {h : Host (Broker (Connection Value) η)} {xs : List Exposure}

theorem ends_removeChip_confined (shows : h.state.roster.Shows xs)
    (given : h.state.roster.IsGiven h.state.bindings)
    (deviceId : Value) : (removeChip deviceId).Ends h fun _ h' => Confined deviceId h h' := by
  unfold removeChip
  simp only [ends_bind, ends_log]
  refine Ends.within ?_
  refine Ends.mono ((Roster.ends_remove_confined shows deviceId).and
    (Roster.upholds_isGiven.remove deviceId _ given)) ?_
  rintro _ k ⟨⟨calls, bus⟩ | ⟨x, hx, rfl, calls, bus⟩, given'⟩
  · refine ⟨rfl, fun p _ => congrArg (callsAt p) calls,
      fun q _ => congrArg (Connection.outlook q) bus,
      fun q _ => congrArg (Connection.exportsAt q) bus, ?_, fun _ => given'⟩
    exact fun faithful => bus.symm ▸ faithful
  · have gives : h.state.bindings.Gives x.handle :=
      given x.record (List.mem_of_getElem? (shows.records x hx)) x.handle rfl
    exact ⟨rfl, fun p other => calls p (gives.path_ne other rfl),
      fun q other =>
        bus.outlook q (other x.id rfl).symm, fun q other => bus.exports q (other x.id rfl).symm,
      bus.faithful, fun _ => given'⟩

/-- A device is known after a removal if it was before and is not the one that was removed. -/
theorem ends_removeChip_contains (deviceId : Value) :
    (removeChip deviceId).Ends h fun _ h' => ∀ key,
    h'.state.roster.contains key = true ↔ h.state.roster.contains key = true ∧
      deviceId.toKey ≠ .ok key := by
  unfold removeChip
  simp only [ends_bind, ends_log]
  refine Ends.within (Ends.mono (Ledger.ends_remove deviceId) ?_)
  rintro _ k (⟨key, named, there, keys⟩ | ⟨absent, same, -⟩) key'
  · rw [Roster.contains_iff, Roster.contains_iff, named]
    change key' ∈ k.state.keys ↔ _
    rw [keys, List.mem_filter]
    refine and_congr_right fun _ => ?_
    exact ⟨fun other same => bne_iff_ne.1 other (by cases same; rfl),
      fun other => bne_iff_ne.2 fun same => other (by rw [same])⟩
  · rw [same]
    refine ⟨fun there => ⟨there, fun named => absent key' named ?_⟩, fun kept => kept.1⟩
    exact (Roster.contains_iff _ _).1 there

/-! ### What holds between events -/

/-- A broker over some bindings: its records hold handles that they give, its roster shows
exposures, and its connection is faithful. -/
structure IsSettled (b : Bindings) (h : Host (Broker (Connection Value) η)) : Prop where
  rest : h.state.bindings.rest = b.rest
  given : h.state.roster.IsGiven b
  shown : ∃ xs, h.state.roster.Shows xs
  faithful : h.state.roster.bus.IsFaithful

namespace IsSettled

variable {b : Bindings} {h' : Host (Broker (Connection Value) η)}

theorem still (settled : IsSettled b h) (bindings : h'.state.bindings = h.state.bindings)
    (roster : h'.state.roster = h.state.roster) : IsSettled b h' := by
  refine ⟨?_, ?_, ?_, ?_⟩
  · rw [bindings, settled.rest]
  · rw [roster]
    exact settled.given
  · rw [roster]
    exact settled.shown
  · rw [roster]
    exact settled.faithful

theorem given_bindings (settled : IsSettled b h) : h.state.roster.IsGiven h.state.bindings :=
  fun record there handle held =>
    (Bindings.gives_of_rest settled.rest).2 (settled.given record there handle held)

/-- The chip of an exposure is the one that the bindings give for its name. -/
theorem gives (settled : IsSettled b h) {x : Exposure} (shows : h.state.roster.Shows xs)
    (hx : x ∈ xs) :
    b.Gives x.handle :=
  settled.given x.record (List.mem_of_getElem? (shows.records x hx)) x.handle rfl

theorem confined (settled : IsSettled b h) {deviceId : Value} (confined : Confined deviceId h h')
    (shown : ∃ xs, h'.state.roster.Shows xs) : IsSettled b h' where
  rest := confined.rest.trans settled.rest
  given record there handle held :=
    (Bindings.gives_of_rest settled.rest).1
      (confined.given settled.given_bindings record there handle held)
  shown := shown
  faithful := confined.faithful settled.faithful

end IsSettled

variable [UeventSource η]

/-- Whatever the broker does, it is settled afterwards. -/
theorem isKept_settled (b : Bindings) : IsKept (IsSettled (η := η) b) where
  loose _ _ state _ settled :=
    settled.still (congrArg Broker.bindings state) (congrArg Broker.roster state)
  setOwnership _ _ settled := settled.still rfl rfl
  addChip deviceId h settled := by
    obtain ⟨xs, shows⟩ := settled.shown
    refine ((ends_addChip_confined deviceId).and (ends_addChip_passes shows deviceId)).mono ?_
    rintro _ h' ⟨confined, xs', passes⟩
    exact settled.confined confined ⟨xs', passes.shows⟩
  removeChip deviceId h settled := by
    obtain ⟨xs, shows⟩ := settled.shown
    refine ((ends_removeChip_confined shows settled.given_bindings deviceId).and
      (ends_removeChip_passes shows deviceId)).mono ?_
    rintro _ h' ⟨confined, xs', passes⟩
    exact settled.confined confined ⟨xs', passes.shows⟩
  subscribe _ settled := Ends.within (settled.still rfl rfl)
  enumerate _ settled := Ends.within (settled.still rfl rfl)

end Broker

end GpioBroker
