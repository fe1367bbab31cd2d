import GpioBroker.Proofs.Unison

/-!
# A fault that stays with its chip

Two runs over the same events, on devices and buses that differ only in the faults of one device,
show the same of every other device as long as the broker recovers from those faults: the device
fails by failed system calls, and the bus refuses its object.  Then no addition of the device fails,
so that it cannot cut the enumeration short for the devices that are listed after it.
-/

namespace GpioBroker

open Act

/-- The name of the chip that an event is about; its twin without a device file is no chip. -/
def Event.chip? : Event → Option Value
  | .uevent u => if u.isChipDevice then some u.deviceId else none
  | _ => none

/-- The names of the chips of some events, in order. -/
def chipsNamed (events : List Event) : List Value := events.filterMap Event.chip?

/-- The event is an action on a device. -/
def Event.IsAbout (x : Text) (e : Event) : Prop := ∃ u, e = .uevent u ∧ u.deviceId = .text x

/-! ### Faults that the broker recovers from -/

/-- Whatever device is at a path, it fails only by failed system calls, and its count of lines can
be read. -/
structure Bindings.IsRecoverableAt (path : Text) (b : Bindings) : Prop where
  tame : ∀ d, b.find? path = some d → d.IsTame
  opening : ∀ d f, b.find? path = some d → d.faults.opening = some f → f.isSystem = true

/-- No bus fails to export an object at a path but by refusing it. -/
def Connection.Declines {ρ : Type} (path : Text) (c : Connection ρ) : Prop :=
  ∀ b ∈ c.buses, ∀ f, b.script.exportFault? (.text path) = some f → f.refusesExport = true

namespace Connection

variable {ρ : Type} {path : Text} {c c' : Connection ρ}

theorem Declines.of_line (declines : c.Declines path) (line : c'.line = c.line) :
    c'.Declines path := by
  intro b hb f fault
  obtain ⟨b', hb', same⟩ := exists_script_of_line line hb
  exact declines b' hb' f (by rwa [same])

theorem Declines.not_isBalky (declines : c.Declines path) : ¬ c.IsBalky path := by
  rintro ⟨number, b, f, balks⟩
  have refuses := declines b (List.mem_of_getElem? balks.live.bus) f balks.fails
  rw [balks.accepted] at refuses
  cases refuses

end Connection

theorem Device.fails_of_reading {d : Device} {g : Generation} {f : Fault}
    (read : d.reading g = .error f) :
    d.Fails f := by
  unfold Device.reading at read
  split at read
  · rename_i f' first
    cases read
    obtain ⟨c, -, failed⟩ := List.exists_of_findSome?_eq_some first
    exact .inl ⟨c, failed⟩
  · exact .inr read

namespace Bindings

variable {h : Host Bindings} {deviceId : Value} {path : Text}

/-- Opening a device that is recoverable fails by failed system calls only. -/
theorem ends_openDevice_isSystem (named : h.state.pathOf deviceId = .ok path)
    (recoverable : h.state.IsRecoverableAt path) :
    (openDevice deviceId).Ends h fun r _ => ∀ e, r = .error e → e.fault.isSystem = true := by
  have tame {chip : OpenChip} (given : h.state.chipOf deviceId = .ok chip) :
      chip.device.IsTame := by
    obtain ⟨p, named', found⟩ := exists_path_of_chipOf given
    rw [named] at named'
    cases named'
    exact recoverable.tame _ found
  refine (ends_openDevice_attempted deviceId).mono fun r h' attempted e he => ?_
  cases attempted with
  | refused f given =>
    cases he
    unfold chipOf at given
    rw [named] at given
    dsimp only at given
    split at given
    · cases given
      rfl
    · rename_i d found
      split at given
      · rename_i f' opening
        cases given
        exact recoverable.opening d f found opening
      · cases given
  | abandoned chip f given read other =>
    cases he
    rw [(tame given).isSystem (Device.fails_of_reading read)] at other
    cases other
  | undone chip f given read system =>
    cases he
    unfold undoing
    cases closing : chip.device.faults.close with
    | none => exact system
    | some g => exact (tame given).calls .close g closing
  | opened => cases he

end Bindings

namespace Broker

variable {η : Type} {x path : Text} {deviceId : Value} {b b' : Bindings}
variable {h h' : Host (Broker (Connection Value) η)}

theorem ends_openChip_ok (named : h.state.bindings.pathOf deviceId = .ok path)
    (recoverable : h.state.bindings.IsRecoverableAt path) :
    (openChip deviceId).Ends h fun r _ => ∃ opened, r = .ok opened := by
  have opening : (withinBindings (Bindings.openDevice deviceId)).Ends h fun r _ =>
      ∀ e, r = .error e → e.fault.isSystem = true :=
    Ends.within
      (Bindings.ends_openDevice_isSystem (h := h.withState h.state.bindings) named recoverable)
  refine opening.map.recover ?_ ?_ ?_
  · exact fun opened _ _ => ⟨opened, rfl⟩
  · rintro e _ ⟨_ | handle, made, system⟩ other
    · cases made
      rw [system e rfl] at other
      cases other
    · cases made
  · exact fun _ _ _ _ => ⟨none, rfl⟩

/-- An absent device that is recoverable is prepared, or given up. -/
theorem ends_prepare_ok (named : h.state.bindings.pathOf (.text x) = .ok path)
    (absent : h.state.roster.contains (.text x) = false)
    (recoverable : h.state.bindings.IsRecoverableAt path) :
    (prepare (.text x)).Ends h fun r _ => ∃ prepared, r = .ok prepared := by
  unfold prepare
  simp only [ends_bind, ends_state, Value.toKey_text, ends_ofExcept_ok, absent,
    Bool.false_eq_true, if_false,
    ends_log]
  refine Ends.mono (ends_openChip_ok (by exact named) (by exact recoverable)) ?_
  rintro _ h₁ ⟨_ | handle, rfl⟩
  · exact ⟨none, rfl⟩
  · exact ⟨_, rfl⟩

/-- A record is registered or given up, unless the bus balks or the chip cannot be closed. -/
theorem ends_registerRecord_ok {number : Nat} {record : Record} {handle : Handle}
    (prepared : Prepared deviceId h number record handle)
    (tame : ∀ chip, handle.chip = some chip → chip.device.IsTame)
    (declines : h.state.roster.bus.Declines (objectPath deviceId.display)) :
    (registerRecord number record).Ends h fun r _ => ∃ registered, r = .ok registered := by
  unfold registerRecord
  rw [prepared.named]
  refine ((ends_withinBus_register (objectPath deviceId.display) deviceId).and
    (ends_withinBus_register_isBalky (objectPath deviceId.display) deviceId)).map.recover ?_ ?_ ?_
  · exact fun registered _ _ => ⟨registered, rfl⟩
  · rintro e _ ⟨_ | _, made, -, balky⟩ unnamed
    · cases made
      exact absurd (balky.1 ⟨e, rfl, unnamed⟩) declines.not_isBalky
    · cases made
  · rintro e h₁ ⟨_, -, ⟨state, -⟩, -⟩ -
    have there : h₁.state.roster.records[number]? = some record := by
      rw [state]; exact prepared.there
    refine Ends.bind (R := fun r _ => ∃ u, r = .ok u) (Ends.within ?_) (fun _ _ _ => ⟨none, rfl⟩) ?_
    · refine (Roster.ends_destroy_unregistered (h := h₁.withState h₁.state.roster) there
        prepared.held prepared.unregistered).mono ?_
      rintro (e' | u) _ ⟨-, -, -, failed⟩
      · obtain ⟨chip, held, wild⟩ := Handle.exists_wild_of_closeOutcome failed.symm
        exact absurd (tame chip held) wild
      · exact ⟨u, rfl⟩
    · rintro e' _ ⟨_, failed⟩
      cases failed

/-- Adding an absent device that is recoverable does not fail. -/
theorem ends_addChip_ok (settled : IsSettled b h) (named : b.pathOf (.text x) = .ok path)
    (absent : h.state.roster.contains (.text x) = false) (recoverable : b.IsRecoverableAt path)
    (declines : h.state.roster.bus.Declines (objectPath x)) :
    (addChip (.text x)).Ends h fun r _ => ∃ added, r = .ok added := by
  obtain ⟨xs, shows⟩ := settled.shown
  have named₀ : h.state.bindings.pathOf (.text x) = .ok path := by
    rwa [Bindings.pathOf_of_rest settled.rest]
  have recoverable₀ : h.state.bindings.IsRecoverableAt path := by
    constructor <;> intro d <;> rw [Bindings.find?_of_rest settled.rest]
    · exact recoverable.tame d
    · exact recoverable.opening d
  rw [addChip_eq]
  refine Ends.bind
    (((ends_prepare_ok named₀ absent recoverable₀).and (ends_prepare_confined (.text x))).and
    (Turn.isUnhindered_of_shows shows (.text x))) ?_ ?_
  · rintro (_ | ⟨number, record⟩) h₁ ⟨⟨-, bus, confined, prepared⟩, unhindered⟩
    · exact ⟨none, rfl⟩
    obtain ⟨handle, prepared⟩ := prepared number record rfl
    obtain ⟨-, enters⟩ := unhindered number record rfl
    have tame (chip : OpenChip) (held : handle.chip = some chip) : chip.device.IsTame := by
      obtain ⟨p, chip', held', named', found, -⟩ :=
        (Bindings.gives_of_rest confined.rest).1 prepared.gives
      cases held.symm.trans held'
      rw [prepared.opened, named₀] at named'
      cases named'
      exact recoverable₀.tame _ found
    have declines₁ : h₁.state.roster.bus.Declines (objectPath (Value.text x).display) := by
      rw [bus]
      exact declines
    refine Ends.bind ((ends_registerRecord_ok prepared tame declines₁).and enters) ?_ ?_
    · rintro (_ | registration) h₂ ⟨-, enters⟩
      · exact ⟨none, rfl⟩
      · exact Ends.bind (enters registration rfl) (fun _ _ _ => ⟨_, rfl⟩)
          fun _ _ failed => by cases failed
    · rintro e _ ⟨⟨_, failed⟩, -⟩
      cases failed
  · rintro e _ ⟨⟨⟨_, failed⟩, -⟩, -⟩
    cases failed

/-! ### The enumeration -/

/-- Twins before listed events are added, among which the device `x` is named at most once. -/
structure Pending (x path : Text) (b b' : Bindings) (events : List Event)
    (h h' : Host (Broker (Connection Value) η)) : Prop where
  twins : Twins x path b b' h h'
  declines : h.state.roster.bus.Declines (objectPath x)
  declines' : h'.state.roster.bus.Declines (objectPath x)
  absent : .text x ∈ chipsNamed events →
    h.state.roster.contains (.text x) = false ∧ h'.state.roster.contains (.text x) = false
  once : (chipsNamed events).Nodup
  apart : ∀ v ∈ chipsNamed events, v ≠ .text x → b.pathOf v ≠ .ok path

/-- What adding a listed event leaves as it is: the scripts of the buses, and whether the device `x`
is known if the event is not about it. -/
theorem ends_addEntry_leaves (e : Event) (x : Text) : (addEntry e).Ends h fun _ h' =>
    h'.state.roster.bus.line = h.state.roster.bus.line ∧
      (e.chip? ≠ some (.text x) →
        h'.state.roster.contains (.text x) = h.state.roster.contains (.text x)) := by
  cases e with
  | uevent u =>
    refine ends_ite (fun chip => ?_) fun _ => ⟨rfl, fun _ => rfl⟩
    refine ends_discard.2
      (((ends_addChip u.deviceId).and (ends_addChip_contains u.deviceId)).mono ?_)
    rintro r h' ⟨⟨spares, -⟩, known⟩
    refine ⟨spares.line, fun other => ?_⟩
    rw [Bool.eq_iff_iff, known]
    refine or_iff_left fun added => other ?_
    rw [Event.chip?, if_pos chip, Value.eq_text_of_toKey added.2]
  | _ => exact ⟨rfl, fun _ => rfl⟩

section Enumeration

variable [UeventSource η]

/-- Adding the listed device `x` does not fail if it is absent and recoverable, and stays with
it. -/
theorem ends_addEntry_ok {e : Event} (about : e.chip? = some (.text x)) (settled : IsSettled b h)
    (named : b.pathOf (.text x) = .ok path) (absent : h.state.roster.contains (.text x) = false)
    (recoverable : b.IsRecoverableAt path) (declines : h.state.roster.bus.Declines (objectPath x)) :
    (addEntry e).Ends h fun r h' => ∃ u, r = .ok u ∧ StaysWith x b h h' := by
  cases e with
  | uevent u =>
    by_cases chip : u.isChipDevice = true
    · rw [Event.chip?, if_pos chip, Option.some.injEq] at about
      rw [Ledger.addEntry_chip chip, about, ends_discard]
      refine ((ends_addChip_ok settled named absent recoverable declines).and
        (ends_addChip_staysWith settled x)).mono ?_
      rintro _ h' ⟨⟨added, rfl⟩, stays⟩
      exact ⟨(), rfl, stays⟩
    · rw [Event.chip?, if_neg chip] at about
      cases about
  | _ => cases about

/-- Adding the next listed event, whatever it is about, takes twins further on in the listing. -/
theorem Pending.abreast_addEntry {e : Event} {es : List Event}
    (named : b.pathOf (.text x) = .ok path) (recoverable : b.IsRecoverableAt path)
    (recoverable' : b'.IsRecoverableAt path) (pending : Pending x path b b' (e :: es) h h') :
    Abreast (addEntry e) (addEntry e) h h' (fun _ _ => Pending x path b b' es)
      (Twins x path b b') := by
  have later : (chipsNamed es).Sublist (chipsNamed (e :: es)) :=
    (List.sublist_cons_self e es).filterMap _
  have go (k k' : Host (Broker (Connection Value) η)) (twins : Twins x path b b' k k')
      (line : k.state.roster.bus.line = h.state.roster.bus.line)
      (line' : k'.state.roster.bus.line = h'.state.roster.bus.line)
      (absent : .text x ∈ chipsNamed es →
        k.state.roster.contains (.text x) = false ∧ k'.state.roster.contains (.text x) = false) :
      Pending x path b b' es k k' :=
    ⟨twins, pending.declines.of_line line, pending.declines'.of_line line', absent,
      pending.once.sublist later,
      fun v there => pending.apart v (later.subset there)⟩
  have alone {l : Host (Broker (Connection Value) η)} := ends_addEntry_leaves (h := l) e x
  by_cases about : e.chip? = some (.text x)
  · have names : chipsNamed (e :: es) = .text x :: chipsNamed es := by
      unfold chipsNamed
      rw [List.filterMap_cons, about]
    obtain ⟨absent, absent'⟩ := pending.absent (by rw [names]; exact List.mem_cons_self)
    -- The addition does not fail, on either side, and the device is not listed again.
    have gone : .text x ∉ chipsNamed es := by
      have once := pending.once
      rw [names, List.nodup_cons] at once
      exact once.1
    have named' : b'.pathOf (.text x) = .ok path := by rwa [pending.twins.differ.pathOf]
    have adds := ends_addEntry_ok about pending.twins.one named absent recoverable pending.declines
    have adds' :=
      ends_addEntry_ok about pending.twins.other named' absent' recoverable' pending.declines'
    refine ((abreast_of_ends adds adds' fun _ _ k k' stays stays' =>
      pending.twins.unseen named stays stays').and alone alone).mono ?_ fun _ _ failed => failed.1
    rintro _ _ k k' ⟨twins, ⟨line, -⟩, line', -⟩
    exact go k k' twins line line' fun there => absurd there gone
  · have apart (u : Uevent) (same : e = .uevent u) (chip : u.isChipDevice = true) :
        IsApart x path b u.deviceId := by
      have chipOf : e.chip? = some u.deviceId := by rw [same, Event.chip?, if_pos chip]
      have other : u.deviceId ≠ .text x := fun same => about (by rw [chipOf, same])
      refine ⟨other, pending.apart _ (List.mem_filterMap.2 ⟨e, List.mem_cons_self, chipOf⟩) other⟩
    refine ((Broker.abreast_addEntry pending.twins apart).and alone alone).mono ?_
      fun _ _ failed => failed.1
    rintro _ _ k k' ⟨twins, ⟨line, known⟩, line', known'⟩
    refine go k k' twins line line' fun there => ?_
    rw [known about, known' about]
    exact pending.absent (later.subset there)

/-- Two brokers that differ only in their bindings, their roster and the state of their name. -/
def Alongside (h h' : Host (Broker (Connection Value) η)) : Prop :=
  h.withState h.state.source = h'.withState h'.state.source

/-- What listing the devices leaves: the same surroundings, and the same bindings and rosters as
before. -/
structure Unlisted (h h' k k' : Host (Broker (Connection Value) η)) : Prop where
  alongside : Alongside k k'
  bindings : k.state.bindings = h.state.bindings
  roster : k.state.roster = h.state.roster
  bindings' : k'.state.bindings = h'.state.bindings
  roster' : k'.state.roster = h'.state.roster

omit [UeventSource η] in
theorem abreast_withinSource {α : Type} (x : Act η α) {k k' : Host (Broker (Connection Value) η)}
    (unlisted : Unlisted h h' k k') : Abreast (withinSource x) (withinSource x) k k'
      (fun a a' l l' => a = a' ∧ Unlisted h h' l l') (Unlisted h h') := by
  have same : k.withState k.state.source = k'.withState k'.state.source := unlisted.alongside
  have back (l : Host η) : Unlisted h h' (l.withState { k.state with source := l.state })
      (l.withState { k'.state with source := l.state }) :=
    ⟨rfl, unlisted.bindings, unlisted.roster, unlisted.bindings', unlisted.roster'⟩
  rcases ran : x.run (k.withState k.state.source) with ⟨e | a, l⟩
  · refine .failure (e := e) (k := l.withState { k.state with source := l.state }) ?_ ?_ (back l)
    · rw [withinSource, run_within, ran]
    · rw [withinSource, run_within, ← same, ran]
  · refine .value (a := a) (k := l.withState { k.state with source := l.state }) ?_ ?_ ⟨rfl, back l⟩
    · rw [withinSource, run_within, ran]
    · rw [withinSource, run_within, ← same, ran]

theorem abreast_list (name : Value) (alongside : Alongside h h') :
    Abreast (list name) (list name) h h'
    (fun l l' k k' => l = l' ∧ Unlisted h h' k k') (Unlisted h h') := by
  unfold list
  refine abreast_log_bind (abreast_update_bind ?_)
  unfold Alongside Host.withState at alongside
  rw [Host.mk.injEq] at alongside
  obtain ⟨source, calls, records, queue, deferred⟩ := alongside
  refine Abreast.bind (abreast_withinSource _ (by
    refine ⟨?_, rfl, rfl, rfl, rfl⟩
    simp [Alongside, Host.withState, source, calls, records, queue, deferred]))
    (fun _ _ k k' subscribed => abreast_withinSource _ subscribed.2) fun _ _ failed => failed

/-- Twins that differ only in their bindings and rosters follow the acquisition of the name in the
same way, if the listing names the device `x` at most once and no other device leads to its path. -/
theorem abreast_onNameAcquired (twins : Twins x path b b' h h') (alongside : Alongside h h')
    (declines : h.state.roster.bus.Declines (objectPath x))
    (declines' : h'.state.roster.bus.Declines (objectPath x))
    (absent : h.state.roster.contains (.text x) = false)
    (absent' : h'.state.roster.contains (.text x) = false)
    (named : b.pathOf (.text x) = .ok path) (recoverable : b.IsRecoverableAt path)
    (recoverable' : b'.IsRecoverableAt path) {name : Value}
    (listed : (list name).Ends h
      fun r _ => ∀ listing, r = .ok listing → (chipsNamed listing.events).Nodup ∧
      ∀ v ∈ chipsNamed listing.events, v ≠ .text x → b.pathOf v ≠ .ok path) :
    Abreast (onNameAcquired name) (onNameAcquired name) h h' (fun _ _ => Twins x path b b')
      (Twins x path b b') := by
  have still {k k' : Host (Broker (Connection Value) η)} (unlisted : Unlisted h h' k k') :
      Twins x path b b' k k' := by
    have surface : k.withState k.state.source = k'.withState k'.state.source := unlisted.alongside
    have calls : k.calls = k'.calls := (congrArg (fun l : Host η => l.calls) surface :)
    refine twins.still unlisted.bindings unlisted.roster unlisted.bindings'
      unlisted.roster' fun p _ => ?_
    rw [calls]
  have any : (list name).Ends h' fun _ _ => True := trivial
  rw [onNameAcquired_eq_list]
  refine ((abreast_list name alongside).and listed any).bind ?_ fun _ _ failed => still failed.1
  rintro listing _ k k' ⟨⟨rfl, unlisted⟩, listed, -⟩
  obtain ⟨once, apart⟩ := listed listing rfl
  have pending : Pending x path b b' listing.events k k' := by
    refine ⟨still unlisted, ?_, ?_, fun _ => ?_, once, apart⟩
    · rw [unlisted.roster]
      exact declines
    · rw [unlisted.roster']
      exact declines'
    · rw [unlisted.roster, unlisted.roster']
      exact ⟨absent, absent'⟩
  have added : Abreast (listing.events.forM addEntry) (listing.events.forM addEntry) k k'
      (fun _ _ => Pending x path b b' []) (Twins x path b b') :=
    abreast_forM (fun _ _ _ _ pending => pending.abreast_addEntry named recoverable recoverable')
      listing.events
      pending
  refine added.bind (fun _ _ _ _ rest => ?_) fun _ _ failed => failed
  exact abreast_failing _ (fun _ => rest.twins) fun _ _ => rest.twins

end Enumeration

/-! ### What is seen of other devices -/

/-- Of every other device than `x` the same is shown: whether it is registered, what is read of it,
whether its object is on a bus; and the same was asked of every device but the one at a path. -/
structure ShowsSame (x path : Text) (h h' : Host (Broker (Connection Value) η)) : Prop where
  registered : ∀ key ≠ .text x, h.state.roster.contains key = h'.state.roster.contains key
  read : ∀ y ≠ .text x, ∀ p : Value, ((getProperty y p).run h).1 = ((getProperty y p).run h').1
  exported : ∀ y ≠ x, ∀ number,
    (h.state.roster.bus.bus? number).map (fun bus => (bus.find? (objectPath y)).isSome) =
      (h'.state.roster.bus.bus? number).map fun bus => (bus.find? (objectPath y)).isSome
  asked : SameCalls path h.calls h'.calls

namespace Twins

/-- Twins answer reads of every other device with the same metadata. -/
theorem property? (twins : Twins x path b b' h h') {key : Key} (other : key ≠ .text x)
    (property : Key) :
    h.state.property? key property = h'.state.property? key property := by
  obtain ⟨xs, shows⟩ := twins.one.shown
  obtain ⟨zs, shows'⟩ := twins.other.shown
  unfold Broker.property? Roster.record?
  obtain ⟨found, found'⟩ | ⟨y, hy, z, hz, rfl, id, found, found'⟩ :=
    Roster.find?_cases shows shows' (twins.known key other)
  · rw [found, found']
    rfl
  · rw [found, found']
    have elsewhere : y.id ≠ x := fun same => other (by rw [same])
    obtain ⟨-, info⟩ := twins.exposed shows shows' hy hz id elsewhere
    simp [shows.records y hy, shows'.records z hz, Exposure.record, Exposure.handle, info]

theorem showsSame (twins : Twins x path b b' h h') : ShowsSame x path h h' where
  registered := twins.known
  read y other p := by
    refine outcome_getProperty p fun key named => twins.property? fun same => other ?_
    rw [same] at named
    exact Value.eq_text_of_toKey named
  exported y other number :=
    (twins.bus (objectPath y) fun same => other (objectPath_injective same)).isSome_find? number
  asked := twins.calls

end Twins

/-! ### Runs -/

/-- Two runs over some events in which nothing is seen of the device `x` but on itself: before each
event and after the last one the same is shown of every other device, and each event that is not
about `x` ends in the same way. -/
inductive Undisturbed [UeventSource η] (x path : Text) :
    List Event → Host (Broker (Connection Value) η) → Host (Broker (Connection Value) η) → Prop
  | done {h h' : Host (Broker (Connection Value) η)} (same : ShowsSame x path h h') :
      Undisturbed x path [] h h'
  | next {e : Event} {es : List Event} {h h' : Host (Broker (Connection Value) η)}
      (same : ShowsSame x path h h')
      (ends : ¬ e.IsAbout x → ((handle e).run h).1 = ((handle e).run h').1)
      (rest : Undisturbed x path es ((handle e).run h).2 ((handle e).run h').2) :
      Undisturbed x path (e :: es) h h'

end Broker

/-- Two buses that differ at most in the faults of exporting, and there only at one path. -/
structure MessageBus.DifferAt {ρ : Type} (q : Text) (b b' : MessageBus ρ) : Prop where
  rest : b' = { b with script := { b.script with exportFaults := b'.script.exportFaults } }
  faults : ∀ p ≠ q, b'.script.exportFault? (.text p) = b.script.exportFault? (.text p)

/-- Two connections whose buses differ at most in the faults of exporting at one path. -/
structure Connection.DifferAt {ρ : Type} (q : Text) (c c' : Connection ρ) : Prop where
  rest : c' = { c with buses := c'.buses }
  buses : List.Forall₂ (MessageBus.DifferAt q) c.buses c'.buses

theorem Connection.DifferAt.alike {ρ : Type} {q p : Text} {c c' : Connection ρ}
    (differ : DifferAt q c c') (other : p ≠ q) : c.AlikeAt p c' := by
  have link : c'.link = c.link := by rw [differ.rest]
  have bus {b b' : MessageBus ρ} (differ : b.DifferAt q b') : b'.outlook p = b.outlook p := by
    unfold MessageBus.outlook
    rw [differ.faults p other, differ.rest]
    rfl
  have buses : c.buses.map (MessageBus.outlook p) = c'.buses.map (MessageBus.outlook p) := by
    have pairs := differ.buses
    generalize c.buses = bs at pairs ⊢
    generalize c'.buses = bs' at pairs ⊢
    induction pairs with
    | nil => rfl
    | cons first _ ih => rw [List.map_cons, List.map_cons, bus first, ih]
  unfold AlikeAt outlook
  rw [link, buses]

namespace Broker

variable {η : Type} {x path : Text} {b b' : Bindings} {c c' : Connection Value}

/-- Devices and buses that differ only in the faults of one device `x`, from which the broker
recovers. -/
structure DifferOnlyIn (x path : Text) (b b' : Bindings) (c c' : Connection Value) : Prop where
  named : b.pathOf (.text x) = .ok path
  bindings : b.DifferAt path b'
  bus : c.DifferAt (objectPath x) c'
  recoverable : b.IsRecoverableAt path
  recoverable' : b'.IsRecoverableAt path
  declines : c.Declines (objectPath x)
  declines' : c'.Declines (objectPath x)

/-- A broker that has done nothing yet. -/
def fresh (b : Bindings) (c : Connection Value) (source : η) :
    Host (Broker (Connection Value) η) where
  state := { bindings := b, roster := { bus := c }, source }

theorem isSettled_fresh (unused : c.objects = []) (source : η) :
    IsSettled b (fresh b c source) where
  rest := rfl
  given _ there := absurd there List.not_mem_nil
  shown := ⟨[], .nil rfl unused⟩
  faithful _ _ _ o there := by
    change o ∈ c.objects at there
    rw [unused] at there
    exact absurd there List.not_mem_nil

theorem DifferOnlyIn.twins (differ : DifferOnlyIn x path b b' c c') (unused : c.objects = [])
    (source : η) :
    Twins x path b b' (fresh b c source) (fresh b' c' source) where
  differ := differ.bindings
  one := isSettled_fresh unused source
  other := isSettled_fresh (by rw [differ.bus.rest]; exact unused) source
  calls _ _ := rfl
  bus _ other := differ.bus.alike other
  known _ _ := rfl
  apart _ _ there := by cases there

section Runs

variable [UeventSource η] {h h' : Host (Broker (Connection Value) η)}

/-- An action on a device leaves twins twins, and ends in the same way if the device is not `x`. -/
theorem Twins.onUevent (twins : Twins x path b b' h h')
    (named : b.pathOf (.text x) = .ok path) {u : Uevent}
    (opens : u.isChipDevice = true → u.action = .text "add" → u.deviceId ≠ .text x →
      b.pathOf u.deviceId ≠ .ok path) :
    Twins x path b b' ((Broker.onUevent u).run h).2 ((Broker.onUevent u).run h').2 ∧
      (u.deviceId ≠ .text x → ((Broker.onUevent u).run h).1 = ((Broker.onUevent u).run h').1) := by
  by_cases about : u.deviceId = .text x
  · have stays := ends_onUevent_staysWith twins.one about
    have stays' := ends_onUevent_staysWith twins.other about
    exact ⟨twins.unseen named stays stays', fun other => absurd about other⟩
  · have follows := abreast_onUevent twins about fun chip add => opens chip add about
    exact ⟨follows.left (fun _ _ _ _ twins => twins) fun _ _ twins => twins,
      fun _ => follows.outcome fun _ _ _ _ _ => rfl⟩

theorem undisturbed_uevents (named : b.pathOf (.text x) = .ok path) (us : List Uevent)
    (opens : ∀ u ∈ us, u.isChipDevice = true → u.action = .text "add" → u.deviceId ≠ .text x →
      b.pathOf u.deviceId ≠ .ok path) (twins : Twins x path b b' h h') :
    Undisturbed x path (us.map .uevent) h h' := by
  induction us generalizing h h' with
  | nil => exact .done twins.showsSame
  | cons u us ih =>
    obtain ⟨after, ends⟩ := twins.onUevent named (opens u List.mem_cons_self)
    refine .next twins.showsSame (fun other => ends fun about => other ⟨u, rfl, about⟩) ?_
    exact ih (fun v there => opens v (List.mem_cons_of_mem u there)) after

/-- Whatever recoverable faults one device has, and whatever happens to it, nothing is seen of that
on any other device: not in the enumeration, and not in any action on a device that follows. -/
theorem isUndisturbed (differ : DifferOnlyIn x path b b' c c')
    (unused : c.objects = []) (source : η)
    (name : Value) (us : List Uevent)
    (listed : (list name).Ends ((handle .busAcquired).run (fresh b c source)).2 fun r _ =>
      ∀ listing, r = .ok listing → (chipsNamed listing.events).Nodup ∧
        ∀ v ∈ chipsNamed listing.events, v ≠ .text x → b.pathOf v ≠ .ok path)
    (opens : ∀ u ∈ us, u.isChipDevice = true → u.action = .text "add" → u.deviceId ≠ .text x →
      b.pathOf u.deviceId ≠ .ok path) :
    Undisturbed x path (.busAcquired :: .nameAcquired name :: us.map .uevent) (fresh b c source)
      (fresh b' c' source) := by
  have twins := differ.twins unused source
  have acquired : Twins x path b b' ((handle .busAcquired).run (fresh b c source)).2
      ((handle .busAcquired).run (fresh b' c' source)).2 := twins.still rfl rfl rfl rfl twins.calls
  have follows :=
    abreast_onNameAcquired acquired rfl differ.declines differ.declines' rfl rfl differ.named
    differ.recoverable differ.recoverable' listed
  refine .next twins.showsSame (fun _ => rfl) (.next acquired.showsSame (fun _ => ?_) ?_)
  · exact follows.outcome fun _ _ _ _ _ => rfl
  · exact undisturbed_uevents differ.named us opens
      (follows.left (fun _ _ _ _ twins => twins) fun _ _ twins => twins)

end Runs

/-- Two chips, of which the first may fail to be closed. -/
def twoChips (fault : Option Fault) : Bindings where
  devices := [
    { path := "/dev/gpiochip0", numLines := .int 8, faults := { close := fault } },
    { path := "/dev/gpiochip1", numLines := .int 4 }]

/-- A bus that is up and may fail to export the object of the first chip. -/
def busOfChips (fault : Option Fault) : Connection Value where
  link := some 0
  buses := [{
    script := { exportFaults := (fault.map (.text (objectPath "gpiochip0"), ·)).toList }
    isConnected := true }]

/-- A device manager that lists both chips, the first one first. -/
def listsChips : MonitorSource where
  manager := { devices := [
    { name := .text "gpiochip0", node := some (.text "/dev/gpiochip0") },
    { name := .text "gpiochip1", node := some (.text "/dev/gpiochip1") }] }

theorem isRecoverableAt_twoChips {fault : Option Fault}
    (system : ∀ f, fault = some f → f.isSystem = true) :
    (twoChips fault).IsRecoverableAt "/dev/gpiochip0" := by
  have found : (twoChips fault).find? "/dev/gpiochip0" =
      some { path := "/dev/gpiochip0", numLines := .int 8, faults := { close := fault } } := by rfl
  constructor
  · intro d there
    cases found.symm.trans there
    refine ⟨fun c f failed => ?_, 8, rfl⟩
    cases c with
    | close => exact system f failed
    | _ => cases failed
  · intro d f there opening
    cases found.symm.trans there
    cases opening

theorem differOnlyIn_twoChips : DifferOnlyIn "gpiochip0" "/dev/gpiochip0" (twoChips none)
    (twoChips (some (.raised .system "busy"))) (busOfChips none)
    (busOfChips (some (.raised .value "refused"))) where
  named := by rfl
  bindings := {
    generation := rfl
    directory := rfl
    found := fun p other => by
      simp [Bindings.find?, twoChips, beq_false_of_ne other.symm] }
  bus := {
    rest := rfl
    buses := .cons ⟨rfl, fun p other => by
      simp [BusScript.exportFault?, Value.isEqual_text, other.symm]⟩ .nil }
  recoverable := isRecoverableAt_twoChips nofun
  recoverable' := isRecoverableAt_twoChips fun f same => by cases same; rfl
  declines := by
    intro bus there f fault
    obtain rfl := List.mem_singleton.1 there
    cases fault
  declines' := by
    intro bus there f fault
    obtain rfl := List.mem_singleton.1 there
    obtain ⟨e, found, rfl⟩ := Option.map_eq_some_iff.1 fault
    obtain rfl := List.mem_singleton.1 (List.mem_of_find?_eq_some found)
    rfl

/-- The second chip goes. -/
def secondGoes : Uevent where
  action := .text "remove"
  deviceId := .text "gpiochip1"
  deviceFile := some (.text "/dev/gpiochip1")

/-- The chips that are exposed when the name was acquired. -/
def exposedAtStart (b : Bindings) (c : Connection Value) : List Key :=
  (Turn.after [.handle .busAcquired, .handle (.nameAcquired (.text Layout.busName))]
    (fresh b c listsChips)).state.roster.keys

/-- One run exposes both chips.  In the other one the bus refuses the first chip, which then fails
to be closed, and the second chip is exposed and removed all the same. -/
theorem isUndisturbed_twoChips :
    Undisturbed "gpiochip0" "/dev/gpiochip0"
        (.busAcquired :: .nameAcquired (.text Layout.busName) :: [secondGoes].map .uevent)
        (fresh (twoChips none) (busOfChips none) listsChips)
        (fresh (twoChips (some (.raised .system "busy")))
          (busOfChips (some (.raised .value "refused")))
          listsChips) ∧
      exposedAtStart (twoChips none) (busOfChips none) = [.text "gpiochip0", .text "gpiochip1"] ∧
      exposedAtStart (twoChips (some (.raised .system "busy")))
        (busOfChips (some (.raised .value "refused"))) =
        [.text "gpiochip1"] := by
  refine ⟨isUndisturbed differOnlyIn_twoChips rfl listsChips _ _ ?_ ?_,
    by decide +kernel, by decide +kernel⟩
  · intro listing same
    cases same
    refine ⟨by decide +kernel, fun v there other => ?_⟩
    have names : v ∈ [.text "gpiochip0", .text "gpiochip1"] := there
    rcases List.mem_pair.1 names with rfl | rfl
    · exact absurd rfl other
    · decide +kernel
  · intro u there _ add
    obtain rfl := List.mem_singleton.1 there
    revert add
    decide +kernel

end Broker

end GpioBroker
