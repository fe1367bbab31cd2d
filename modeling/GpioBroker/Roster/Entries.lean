import GpioBroker.Roster

/-!
# Entries of a roster

Which devices the entries tell of, and what the operations of a roster do to its entries.  Giving
up the parts of a record leaves entries as they are, and removing an exposed device takes away
exactly its entry, whether or not giving up its parts failed.
-/

namespace GpioBroker

namespace Roster

variable {β : Type}

theorem contains_iff (r : Roster β) (key : Key) : r.contains key = true ↔ key ∈ r.keys := by
  unfold contains find? keys
  induction r.entries with
  | nil => simp
  | cons e es ih =>
    obtain ⟨k, n⟩ := e
    by_cases same : key = k
    · simp [same]
    · have different : (key == k) = false := beq_eq_false_iff_ne.2 same
      rw [List.lookup_cons, different, ih]
      simp [same]

theorem find?_of_absent {r : Roster β} {key : Key} (absent : r.contains key = false) :
    r.find? key = none := by
  unfold contains at absent
  rwa [Option.isSome_eq_false_iff, Option.isNone_iff_eq_none] at absent

theorem find?_eq_none_iff (r : Roster β) (key : Key) : r.find? key = none ↔ key ∉ r.keys := by
  rw [← contains_iff]
  simp [contains]

@[simp] theorem entries_run_withinBus {α : Type} (x : Act β α) (h : Host (Roster β)) :
    ((withinBus x).run h).2.state.entries = h.state.entries := by
  simp [withinBus, Act.run_within, Host.withState]

@[simp] theorem entries_run_closeHandle (x : Option Handle) (h : Host (Roster β)) :
    ((closeHandle x).run h).2.state.entries = h.state.entries := by
  cases x with
  | none => rfl
  | some x => simp [closeHandle]

variable [ObjectBus β]

@[simp] theorem entries_run_unregister (x : Option Value) (h : Host (Roster β)) :
    ((unregister x).run h).2.state.entries = h.state.entries := by
  cases x with
  | none => rfl
  | some x => simp [unregister]

@[simp] theorem entries_run_destroy (number : Nat) (h : Host (Roster β)) :
    ((destroy number).run h).2.state.entries = h.state.entries := by
  simp only [destroy, Act.run_bind, Act.run_state]
  split
  · rfl
  · simp [Act.run_bind, Act.snd_run_ensure, setRecord]

@[simp] theorem entries_run_removeEntry (key : Key) (number : Nat) (h : Host (Roster β)) :
    ((removeEntry key number).run h).2.state.entries =
      h.state.entries.filter fun e => e.1 != key := by
  simp [removeEntry, Act.snd_run_ensure, erase]

theorem entries_run_remove (deviceId : Value) (key : Key) (h : Host (Roster β))
    (named : deviceId.toKey = .ok key) (exposed : h.state.contains key) :
    ((remove deviceId).run h).2.state.entries =
      h.state.entries.filter fun e => e.1 != key := by
  simp only [remove, Act.run_bind, Act.run_state, named, Act.run_ofExcept_ok]
  split
  · rename_i heq
    simp [contains, heq] at exposed
  · simp

/-- Removing a device that is not exposed changes nothing. -/
theorem run_remove_of_not_contains (deviceId : Value) (key : Key) (h : Host (Roster β))
    (named : deviceId.toKey = .ok key) (absent : h.state.contains key = false) :
    (remove deviceId).run h = (.error { fault := .notRegistered deviceId.display }, h) := by
  simp only [remove, Act.run_bind, Act.run_state, named, Act.run_ofExcept_ok]
  split
  · rfl
  · rename_i heq
    simp [contains, heq] at absent

end Roster

end GpioBroker
