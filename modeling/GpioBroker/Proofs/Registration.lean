import GpioBroker.MessageBus.Ownership
import GpioBroker.Proofs.Chips

/-!
# Registering objects

What registering and unregistering do to a connection.  A registration that fails leaves the table
of objects and the next number as they are; one that succeeds puts the object at the end of the
table, under the next number.  Neither touches the line: the name, the buses without their exports,
and the attempts to own the name.
-/

namespace GpioBroker

open Act

/-- A script whose faults are those that the broker expects: objects are refused for their paths or
values or not registered, and are always taken away, and the bus may refuse to release the name. -/
structure BusScript.IsTame (s : BusScript) : Prop where
  exports : ∀ e ∈ s.exportFaults, e.2.refusesExport = true ∨ e.2.isRegistration = true
  unexports : s.unexportFaults = []
  release : ∀ f, s.releaseFault = some f → f.isBus = true

/-- A message bus without its exports. -/
def MessageBus.bare {ρ : Type} (b : MessageBus ρ) : MessageBus ρ := { b with exported := [] }

namespace MessageBus

variable {ρ : Type} {h : Host (MessageBus ρ)}

/-- Exporting changes nothing but the exports.  It fails because the bus does not take the object,
or as the script says. -/
theorem ends_exportObject (path : Text) (object : ChipObject ρ) :
    (exportObject path object).Ends h fun r h' =>
      (∀ s, closes h'.calls s = closes h.calls s) ∧ h'.state.bare = h.state.bare ∧
        ∀ e, r = .error e → e.fault.refusesExport = true ∨ e.fault.isRegistration = true ∨
          ¬ h.state.script.IsTame := by
  have kept := closes_append_other h.calls (c := .exportObject path) fun _ => rfl
  unfold exportObject
  simp only [ends_bind, ends_note, ends_state]
  refine ends_failing _ (fun _ => ?_) fun f hf => ?_
  · refine ends_ofExcept _ (fun _ _ => ?_) fun f hf => ?_
    · refine ends_ite (fun _ => ?_) fun _ => ?_
      · exact ⟨kept, rfl, fun e he => by cases he; exact .inl rfl⟩
      · exact ⟨kept, rfl, fun e he => by cases he⟩
    · refine ⟨kept, rfl, fun e he => ?_⟩
      cases he
      unfold Names.checkText at hf
      split at hf
      · cases hf
      · cases hf
        exact .inl rfl
  · refine ⟨kept, rfl, fun e he => ?_⟩
    cases he
    obtain ⟨p, found, rfl⟩ := Option.map_eq_some_iff.1 hf
    by_cases tame : h.state.script.IsTame
    · rcases tame.exports p (List.mem_of_find?_eq_some found) with refused | registration
      · exact .inl refused
      · exact .inr (.inl registration)
    · exact .inr (.inr tame)

section Rules

variable {Q : Except Failure Unit → Host (MessageBus ρ) → Prop}

/-- An object is taken away, or the script has a fault for its path and the bus stays as it is. -/
theorem ends_unexportObject_of {path : Text} {object : ChipObject ρ}
    (gone : h.state.script.unexportFaults.lookup path = none → Q (.ok ()) { h with
      calls := h.calls ++ [.unexportObject path]
      state := { h.state with
        exported :=
          h.state.exported.filter fun e => !(e.1 == path && e.2.serial == object.serial) } })
    (failed : ∀ f, h.state.script.unexportFaults.lookup path = some f →
      Q (.error { fault := f }) { h with calls := h.calls ++ [.unexportObject path] }) :
    (unexportObject path object).Ends h Q := by
  unfold unexportObject
  simp only [ends_bind, ends_note, ends_state]
  exact ends_failing _ gone failed

/-- Giving a name back changes nothing of the bus, and fails as the script says. -/
theorem ends_releaseName_of {name : Text}
    (given : h.state.script.releaseFault = none →
      Q (.ok ()) { h with calls := h.calls ++ [.releaseName name] })
    (failed : ∀ f, h.state.script.releaseFault = some f →
      Q (.error { fault := f }) { h with calls := h.calls ++ [.releaseName name] }) :
    (releaseName name).Ends h Q := by
  unfold releaseName
  simp only [ends_bind, ends_note, ends_state]
  exact ends_failing _ given failed

end Rules

theorem ends_unexportObject (path : Text) (object : ChipObject ρ) :
    (unexportObject path object).Ends h fun r h' =>
      (∀ s, closes h'.calls s = closes h.calls s) ∧ h'.state.bare = h.state.bare ∧
        ∀ e, r = .error e → ¬ h.state.script.IsTame := by
  have kept := closes_append_other h.calls (c := .unexportObject path) fun _ => rfl
  refine ends_unexportObject_of (fun _ => ?_) fun f hf => ?_
  · exact ⟨kept, rfl, fun e he => by cases he⟩
  · refine ⟨kept, rfl, fun e _ tame => ?_⟩
    simp [tame.unexports] at hf

end MessageBus

namespace Connection

variable {ρ : Type} {h : Host (Connection ρ)}

/-- A connection without the objects that it has or had. -/
def line (c : Connection ρ) : Connection ρ :=
  { c with
    nextRegistration := 1, nextSerial := 0, objects := [], buses := c.buses.map MessageBus.bare }

theorem line_setBus (c : Connection ρ) {number : Nat} {b : MessageBus ρ}
    (same : b.bare = ((c.bus? number).getD {}).bare) :
    line { c with buses := c.buses.set number b } = c.line := by
  have buses : (c.buses.set number b).map MessageBus.bare = c.buses.map MessageBus.bare := by
    rw [List.map_set, same]
    by_cases inside : number < c.buses.length
    · have there : number < (c.buses.map MessageBus.bare).length := by simpa using inside
      simpa [bus?, inside] using List.set_getElem_self there
    · rw [List.set_eq_of_length_le (by simpa using inside)]
  simp [line, buses]

/-- What registering an object at a path may do. -/
inductive Registering (path : Text) (reader : ρ) (h h' : Host (Connection ρ)) :
    Except Failure Int → Prop
  | refused (e : Failure) (objects : h'.state.objects = h.state.objects)
      (next : h'.state.nextRegistration = h.state.nextRegistration)
      (expected : e.fault.isRegistration = true ∨ ∃ b ∈ h.state.buses, ¬ b.script.IsTame) :
      Registering path reader h h' (.error e)
  | registered (serial : Nat)
      (objects : h'.state.objects =
        h.state.objects ++ [⟨h.state.nextRegistration, path, ⟨serial, reader⟩⟩])
      (next : h'.state.nextRegistration = h.state.nextRegistration + 1) :
      Registering path reader h h' (.ok h.state.nextRegistration)

theorem exists_wild_bus {c : Connection ρ} {number : Nat}
    (wild : ¬ ((c.bus? number).getD {}).script.IsTame) : ∃ b ∈ c.buses, ¬ b.script.IsTame := by
  cases there : c.bus? number with
  | none =>
    rw [there] at wild
    exact absurd ⟨by simp, rfl, by simp⟩ wild
  | some b =>
    rw [there] at wild
    exact ⟨b, List.mem_of_getElem? there, wild⟩

/-- Acting through a bus changes only that bus. -/
theorem ends_withinBus {α : Type} {number : Nat} {x : Act (MessageBus ρ) α}
    {F : Except Failure α → Prop}
    (hx : x.Ends (h.withState ((h.state.bus? number).getD {})) fun r h' =>
      (∀ s, closes h'.calls s = closes h.calls s) ∧
        h'.state.bare = ((h.state.bus? number).getD {}).bare ∧ F r) :
    (withinBus number x).Ends h fun r h' =>
      (∀ s, closes h'.calls s = closes h.calls s) ∧ h'.state.line = h.state.line ∧
        h'.state.objects = h.state.objects ∧
        h'.state.nextRegistration = h.state.nextRegistration ∧ F r := by
  refine Ends.within (hx.mono ?_)
  rintro r h' ⟨kept, bare, hr⟩
  exact ⟨kept, line_setBus _ bare, rfl, rfl, hr⟩

theorem ends_register (path : Text) (reader : ρ) :
    (register path reader).Ends h fun r h' =>
      (∀ s, closes h'.calls s = closes h.calls s) ∧ h'.state.line = h.state.line ∧
        Registering path reader h h' r := by
  unfold register
  simp only [ends_bind, ends_state]
  cases live : h.state.live? with
  | none => exact ⟨fun _ => rfl, rfl, .refused _ rfl rfl (.inl rfl)⟩
  | some number =>
    refine ends_ite (fun _ => ?_) fun _ => ?_
    · exact ⟨fun _ => rfl, rfl, .refused _ rfl rfl (.inl rfl)⟩
    simp only [ends_bind, ends_update, ends_pure]
    refine Ends.explain (ends_withinBus (MessageBus.ends_exportObject path _)) ?_ ?_ ?_
    · rintro _ h' ⟨kept, line, objects, next, -⟩
      exact ⟨kept, line, .registered h.state.nextSerial (by simp [objects]) (by simp)⟩
    · rintro e h' ⟨kept, line, objects, next, fault⟩ notRefused
      refine ⟨kept, line, .refused e objects next ?_⟩
      rcases fault e rfl with refused | registration | wild
      · rw [refused] at notRefused
        cases notRefused
      · exact .inl registration
      · exact .inr (exists_wild_bus wild)
    · rintro e h' ⟨kept, line, objects, next, -⟩ -
      exact ⟨kept, line, .refused _ objects next (.inl rfl)⟩

/-- Unregistering a registered object takes it out of the table, whether or not the bus fails. -/
theorem ends_unregister {registration : Int} {o : RegisteredObject ρ}
    (found : h.state.find? registration = some o) :
    (unregister (.int registration)).Ends h fun r h' =>
      (∀ s, closes h'.calls s = closes h.calls s) ∧ h'.state.line = h.state.line ∧
        h'.state.objects =
          h.state.objects.filter (fun other => other.registration != registration) ∧
        h'.state.nextRegistration = h.state.nextRegistration ∧
        ∀ e, r = .error e → ∃ b ∈ h.state.buses, ¬ b.script.IsTame := by
  have same : o.registration = registration := by
    simpa using List.find?_some found
  have lookedUp : (Value.int registration).wholeNumber?.bind h.state.find? = some o := found
  have keyed : (Value.int registration).toKey = .ok (.whole registration) := rfl
  unfold unregister
  simp only [keyed, ends_bind, ends_discard, ends_ofExcept_ok, Except.map, ends_state, lookedUp,
    ends_update, same]
  cases live : (Connection.live? _) with
  | none => exact ⟨fun _ => rfl, rfl, rfl, rfl, fun e he => by cases he⟩
  | some number =>
    refine (ends_withinBus (MessageBus.ends_unexportObject o.path o.object)).mono ?_
    rintro r h' ⟨kept, line, objects, next, fault⟩
    exact ⟨kept, line, objects, next, fun e he => exists_wild_bus (fault e he)⟩

end Connection

end GpioBroker
