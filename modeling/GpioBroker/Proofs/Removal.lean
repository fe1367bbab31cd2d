import GpioBroker.Proofs.Exposure
import GpioBroker.Proofs.Oblivious

/-!
# Removing exposed chips

Destroying a record closes its chip and takes its object off the bus, whichever of the two fails,
and removing a device takes its exposure out of what the roster shows.  Clearing the roster takes
exposures out from the first on.  Nothing fails here but the closing of a chip whose device is not
tame, and the unexporting on a bus that is not.
-/

namespace GpioBroker

open Act

/-- The scripts of the buses are part of the line. -/
theorem Connection.exists_script_of_line {ρ : Type} {c c' : Connection ρ} (line : c'.line = c.line)
    {b : MessageBus ρ} (hb : b ∈ c'.buses) : ∃ b' ∈ c.buses, b'.script = b.script := by
  have scripts : c'.buses.map MessageBus.script = c.buses.map MessageBus.script := by
    have := congrArg (fun c => c.buses.map MessageBus.script) line
    simpa [Connection.line, Function.comp_def, MessageBus.bare] using this
  have there : b.script ∈ c.buses.map MessageBus.script := by
    rw [← scripts]
    exact List.mem_map_of_mem hb
  exact List.mem_map.1 there

namespace Roster

/-- A property of rosters that is kept as records are given up, for it is kept by the steps that
this is made of. -/
structure Upholds {β : Type} [ObjectBus β] (p : Roster β → Prop) : Prop where
  empty : ∀ r number record, p r → p (r.setRecord number (Record.emptied record))
  erase : ∀ r key, p r → p (r.erase key)
  unregister : ∀ id, (withinBus (ObjectBus.unregister id)).Keeps fun h => p h.state

namespace Upholds

variable {β : Type} [ObjectBus β] {p : Roster β → Prop}

theorem destroy (upholds : Upholds p) (number : Nat) :
    (destroy number).Keeps fun h => p h.state := by
  refine keeps_state.bind fun r => ?_
  split
  · exact keeps_fail _
  · rename_i record _
    refine Keeps.bind (fun h kept => upholds.empty _ _ _ kept) fun _ => Keeps.ensure ?_ ?_
    · cases record.handle with
      | none => exact keeps_pure ()
      | some handle =>
        intro h kept
        change p (handle.closeChip.run h).2.state
        rwa [handle.state_run_closeChip]
    · cases record.registration with
      | none => exact keeps_pure ()
      | some id => exact upholds.unregister id

theorem removeEntry (upholds : Upholds p) (key : Key) (number : Nat) :
    (removeEntry key number).Keeps fun h => p h.state :=
  (upholds.destroy number).ensure fun _ kept => upholds.erase _ key kept

theorem remove (upholds : Upholds p) (deviceId : Value) :
    (remove deviceId).Keeps fun h => p h.state := by
  refine keeps_state.bind fun r => (keeps_ofExcept _).bind fun key => ?_
  split
  · exact keeps_fail _
  · exact upholds.removeEntry _ _

theorem clear (upholds : Upholds p) : (clear : Act (Roster β) Unit).Keeps fun h => p h.state :=
  keeps_state.bind fun _ => Keeps.forM (fun e : Key × Nat => upholds.removeEntry e.1 e.2) _

end Upholds

variable {h : Host (Roster (Connection Value))} {xs : List Exposure} {x : Exposure}

/-- A bus of the connection is not tame. -/
def HasWildBus (r : Roster (Connection Value)) : Prop := ∃ b ∈ r.bus.buses, ¬ b.script.IsTame

theorem hasWildBus_of_line {r r' : Roster (Connection Value)} (line : r'.bus.line = r.bus.line)
    (wild : r'.HasWildBus) : r.HasWildBus := by
  obtain ⟨b, hb, untamed⟩ := wild
  obtain ⟨b', hb', same⟩ := Connection.exists_script_of_line line hb
  exact ⟨b', hb', by rwa [same]⟩

/-- Destroying a record that was not registered closes its handle. -/
theorem ends_destroy_unregistered {number : Nat} {record : Record} {handle : Handle}
    (there : h.state.records[number]? = some record) (held : record.handle = some handle)
    (unregistered : record.registration = none) :
    (destroy number).Ends h fun r h' =>
      h'.state = h.state.setRecord number record.emptied ∧ h'.calls = h.calls ++ handle.closing ∧
        h.records <+: h'.records ∧ r = handle.closeOutcome := by
  unfold destroy
  simp only [ends_bind, ends_state, there, ends_update, held, unregistered]
  refine Ends.ensure (handle.ends_closeChip.and (handle.isOblivious_closeChip.ends_records _)) ?_
  rintro r h' ⟨⟨state, calls, outcome⟩, records⟩
  exact ⟨state, calls, records, outcome⟩

/-- Unregistering a registered object takes it out of the table of the bus. -/
theorem ends_unregister {registration : Int} {o : RegisteredObject Value}
    (found : h.state.bus.find? registration = some o) :
    (unregister (some (.int registration))).Ends h fun r h' =>
      (h'.state.entries = h.state.entries ∧ h'.state.records = h.state.records ∧
        h'.state.bus.objects =
          h.state.bus.objects.filter (fun o => o.registration != registration) ∧
        h'.state.bus.nextRegistration = h.state.bus.nextRegistration) ∧
      h'.state.bus.line = h.state.bus.line ∧
      (∀ s, closes h'.calls s = closes h.calls s) ∧
      ∀ e, r = .error e → h.state.HasWildBus := by
  unfold unregister withinBus
  refine Ends.within ?_
  refine (Connection.ends_unregister found).mono ?_
  rintro r h' ⟨kept, line, objects, next, wild⟩
  exact ⟨⟨rfl, rfl, objects, next⟩, line, kept, wild⟩

/-- Destroying the record of an exposed chip closes the chip and takes its object off the bus. -/
theorem ends_destroy_exposed (shows : h.state.Shows xs) (hx : x ∈ xs) :
    (destroy x.number).Ends h fun r h' =>
      (h'.state.entries = h.state.entries ∧
        h'.state.records = h.state.records.set x.number x.record.emptied ∧
        h'.state.bus.objects =
          h.state.bus.objects.filter (fun o => o.registration != x.registration) ∧
        h'.state.bus.nextRegistration = h.state.bus.nextRegistration) ∧
      h'.state.bus.line = h.state.bus.line ∧
      (∀ s, closes h'.calls s = closes h.calls s + if x.chip.serial = s then 1 else 0) ∧
      ∀ e, r = .error e → ¬ x.chip.device.IsTame ∨ h.state.HasWildBus := by
  unfold destroy
  simp only [ends_bind, ends_state, shows.records x hx, ends_update]
  refine Ends.ensure x.handle.ends_closeChip ?_
  rintro r h₁ ⟨state, calls, outcome⟩
  have closed : ∀ s, closes h₁.calls s = closes h.calls s + if x.chip.serial = s then 1 else 0 := by
    intro s
    rw [calls, closes_append]
    exact congrArg _ (closes_close ..)
  have found : h₁.state.bus.find? x.registration = some x.object := by
    rw [state]
    exact shows.find?_object hx
  refine (ends_unregister found).mono ?_
  rintro c h₂ ⟨⟨entries, records, objects, next⟩, line, kept, wild⟩
  rw [state] at entries records objects next line wild
  refine ⟨⟨entries, records, objects, next⟩, line, fun s => (kept s).trans (closed s), ?_⟩
  intro e he
  cases c with
  | error e' => exact .inr (wild e' rfl)
  | ok _ =>
    obtain ⟨chip, open_, wild⟩ := Handle.exists_wild_of_closeOutcome (outcome.symm.trans he)
    cases open_
    exact .inl wild

/-- Removing the entry of an exposed chip takes its exposure out of what is shown. -/
theorem ends_removeEntry (shows : h.state.Shows xs) (hx : x ∈ xs) :
    (removeEntry (.text x.id) x.number).Ends h fun r h' =>
      h'.state.Shows (xs.filter fun y => y.id != x.id) ∧ h'.state.bus.line = h.state.bus.line ∧
      (∀ s, closes h'.calls s = closes h.calls s + if x.chip.serial = s then 1 else 0) ∧
      ∀ e, r = .error e → ¬ x.chip.device.IsTame ∨ h.state.HasWildBus := by
  unfold removeEntry
  refine Ends.ensure (ends_destroy_exposed shows hx) ?_
  rintro r h₁ ⟨⟨entries, records, objects, next⟩, line, closed, wild⟩
  simp only [ends_update]
  refine ⟨?_, line, closed, wild⟩
  refine shows.remove hx ?_ objects ?_ next
  · exact congrArg _ entries
  · intro number different
    change h₁.state.records[number]? = _
    rw [records]
    exact List.getElem?_set_ne different.symm

/-- Removing a device either finds it absent and changes nothing, or takes its exposure out. -/
theorem ends_remove (shows : h.state.Shows xs) (deviceId : Value) :
    (remove deviceId).Ends h fun r h' =>
      (h' = h ∧ (∀ x ∈ xs, deviceId ≠ .text x.id) ∧ ∃ e, r = .error e) ∨
      ∃ x ∈ xs, deviceId = .text x.id ∧ h'.state.Shows (xs.filter fun y => y.id != x.id) ∧
        h'.state.bus.line = h.state.bus.line ∧
        (∀ s, closes h'.calls s = closes h.calls s + if x.chip.serial = s then 1 else 0) ∧
        ∀ e, r = .error e → ¬ x.chip.device.IsTame ∨ h.state.HasWildBus := by
  unfold remove
  simp only [ends_bind, ends_state]
  refine ends_ofExcept _ (fun key named => ?_) fun f unnamed => ?_
  · dsimp only
    cases found : h.state.find? key with
    | none =>
      refine .inl ⟨rfl, fun x hx same => ?_, _, rfl⟩
      rw [same] at named
      cases named
      rw [shows.find?_eq_some hx] at found
      cases found
    | some number =>
      obtain ⟨x, hx, rfl, rfl⟩ := shows.exists_of_find? found
      refine (ends_removeEntry shows hx).mono fun r h' removed => ?_
      exact .inr ⟨x, hx, Value.eq_text_of_toKey named, removed⟩
  · refine .inl ⟨rfl, fun x hx same => ?_, _, rfl⟩
    rw [same] at unnamed
    cases unnamed

/-! ### Clearing -/

/-- What clearing a roster does: it takes exposures out from the first on, up to one that fails. -/
structure Cleared (xs : List Exposure) (h h' : Host (Roster (Connection Value)))
    (r : Except Failure Unit) (gone rest : List Exposure) : Prop where
  split : xs = gone ++ rest
  shows : h'.state.Shows rest
  line : h'.state.bus.line = h.state.bus.line
  closed : ∀ s, closes h'.calls s = closes h.calls s + holders gone s
  all : ∀ u, r = .ok u → rest = []
  wild : ∀ e, r = .error e → (∃ x ∈ xs, ¬ x.chip.device.IsTame) ∨ h.state.HasWildBus

theorem ends_removeEntries (shows : h.state.Shows xs) :
    ((xs.map Exposure.entry).forM fun e => removeEntry e.1 e.2).Ends h fun r h' =>
      ∃ gone rest, Cleared xs h h' r gone rest := by
  induction xs generalizing h with
  | nil => exact ⟨[], [], rfl, shows, rfl, by simp, fun _ _ => rfl, fun e he => by cases he⟩
  | cons x xs ih =>
    have others : ((x :: xs).filter fun y => y.id != x.id) = xs :=
      Exposure.filter_id (f := []) shows.ids
    rw [List.map_cons, ends_forM_cons]
    refine Ends.bind (ends_removeEntry shows (List.mem_cons_self)) ?_ ?_
    · rintro _ h₁ ⟨shows₁, line₁, closed₁, -⟩
      rw [others] at shows₁
      refine (ih shows₁).mono ?_
      rintro r h' ⟨gone, rest, cleared⟩
      refine ⟨x :: gone, rest, ?_, cleared.shows, cleared.line.trans line₁, ?_, cleared.all, ?_⟩
      · rw [cleared.split, List.cons_append]
      · intro s
        rw [cleared.closed, closed₁, holders_cons]
        omega
      · intro e he
        rcases cleared.wild e he with ⟨y, hy, device⟩ | bus
        · exact .inl ⟨y, List.mem_cons_of_mem _ hy, device⟩
        · exact .inr (hasWildBus_of_line line₁ bus)
    · rintro e h' ⟨shows₁, line₁, closed₁, wild⟩
      rw [others] at shows₁
      refine ⟨[x], xs, rfl, shows₁, line₁, ?_, fun _ hu => (by cases hu), ?_⟩
      · intro s
        rw [closed₁, holders_singleton]
      · intro e' he
        rcases wild e' he with device | bus
        · exact .inl ⟨x, List.mem_cons_self, device⟩
        · exact .inr bus

theorem ends_clear (shows : h.state.Shows xs) :
    clear.Ends h fun r h' => ∃ gone rest, Cleared xs h h' r gone rest := by
  unfold clear
  simp only [ends_bind, ends_state, shows.entries]
  exact ends_removeEntries shows

end Roster

end GpioBroker
