import GpioBroker.ObjectBus.Scripted
import GpioBroker.Proofs.Ledger

/-!
# Destroying records

Records are entered, looked up, removed, destroyed and cleared in any order, while the bus and the
chips fail as they like.  A record that is reached gives up the two parts it still has, the chip
first, and has none from then on; so over the whole sequence each part of each record is given up at
most once.  What comes out of it is the fault of the bus, if there is one, or else that of the chip,
unless it is a failed system call.
-/

namespace GpioBroker

open Act

/-- A bus that is free to fail, but does nothing else than to note that it was asked to
unregister. -/
class ObjectBus.IsCandid (β : Type) [ObjectBus β] : Prop where
  unregister : ∀ (id : Value) (h : Host β), ∃ r bus, (ObjectBus.unregister id).run h =
    (r, { h with state := bus, calls := h.calls ++ [.unregister id] })

instance : ObjectBus.IsCandid ScriptedBus where
  unregister id h := by
    change ∃ r bus, (ScriptedBus.unregister id).run h = _
    have ends : (ScriptedBus.unregister id).Ends h fun _ h' => ∃ bus,
        h' = { h with state := bus, calls := h.calls ++ [.unregister id] } := by
      unfold ScriptedBus.unregister
      simp only [ends_bind, ends_note, ends_discard]
      refine ends_ofExcept _ (fun _ _ => ?_) fun _ _ => ⟨_, rfl⟩
      simp only [Except.map, ends_state]
      split
      · exact ⟨_, rfl⟩
      · simp only [ends_bind, ends_update]
        exact ends_failing _ (fun _ => ⟨_, rfl⟩) fun _ _ => ⟨_, rfl⟩
    obtain ⟨bus, left⟩ := ends
    exact ⟨_, bus, Prod.ext rfl left⟩

/-! ### The parts of a record -/

namespace Handle

variable (x : Handle)

/-- The fault that closing a handle meets. -/
def closeFault? : Option Fault := x.chip.bind fun chip => chip.device.faults.close

/-- How closing a handle ends: a failed system call does not come out of it. -/
def ending : Except Failure Unit :=
  match x.closeFault? with
  | none => .ok ()
  | some f => if f.isSystem then .ok () else .error { fault := f }

/-- What closing a handle warns of: a failed system call. -/
def warnings : List LogRecord :=
  match x.closeFault? with
  | none => []
  | some f =>
    if f.isSystem then
      [⟨Level.warning.number,
        "error closing GPIO device " ++ x.deviceId.display ++ ": " ++ f.message⟩]
    else []

theorem run_closeChip {σ : Type} (h : Host σ) : x.closeChip.run h =
    (x.ending, { h with calls := h.calls ++ x.closing, records := h.records ++ x.warnings }) := by
  unfold closeChip closing ending warnings closeFault?
  cases x.chip with
  | none => simp
  | some chip =>
    unfold OpenChip.call Device.fault?
    simp only [run_recover, run_bind, run_note, Option.bind_some]
    cases chip.device.faults.close with
    | none => simp
    | some f => by_cases system : f.isSystem <;> simp [system]

end Handle

namespace Record

variable (record : Record)

/-- What giving up the parts of a record asks for: its chip is closed, then its object
unregistered. -/
def givingUp : List Call :=
  record.handle.elim [] Handle.closing ++ record.registration.elim [] fun id => [.unregister id]

/-- How closing the chip of a record ends. -/
def ending : Except Failure Unit := record.handle.elim (.ok ()) Handle.ending

/-- What closing the chip of a record warns of. -/
def warnings : List LogRecord := record.handle.elim [] Handle.warnings

end Record

namespace Roster

variable {β : Type}

theorem run_closeHandle (x : Option Handle) (h : Host (Roster β)) : (closeHandle x).run h =
    (x.elim (.ok ()) Handle.ending,
      { h with
        calls := h.calls ++ x.elim [] Handle.closing
        records := h.records ++ x.elim [] Handle.warnings }) := by
  cases x with
  | none => simp [closeHandle]
  | some x => exact x.run_closeChip h

/-! ### Entries -/

/-- Every entry is that of a record under its own key, and no key is entered twice. -/
structure Tidy (r : Roster β) : Prop where
  keys : r.keys.Nodup
  entered : ∀ e ∈ r.entries, ∃ record : Record, r.records[e.2]? = some record ∧
    record.deviceId.toKey = .ok e.1

namespace Tidy

variable {r : Roster β} {key : Key} {number : Nat} {record : Record}

theorem erase (tidy : r.Tidy) (key : Key) : (r.erase key).Tidy where
  keys := tidy.keys.sublist (List.filter_sublist.map _)
  entered e entered := tidy.entered e (List.mem_of_mem_filter entered)

/-- A record is entered under a key that was not. -/
theorem insert (tidy : r.Tidy) (there : r.records[number]? = some record)
    (named : record.deviceId.toKey = .ok key) (absent : r.contains key = false) :
    Tidy { r with entries := r.entries ++ [(key, number)] } where
  keys := by
    have apart : key ∉ r.keys := by
      rw [← Roster.contains_iff, absent]
      simp
    simpa [Roster.keys] using tidy.keys.append (List.nodup_singleton key) (by simpa using apart)
  entered e entered := by
    rcases List.mem_append.1 entered with old | new
    · exact tidy.entered e old
    · rw [List.mem_singleton.1 new]
      exact ⟨record, there, named⟩

/-- No other entry goes with the one under a key. -/
theorem erase_of_split {front back : List (Key × Nat)} (tidy : r.Tidy)
    (split : r.entries = front ++ (key, number) :: back) :
    (r.erase key).entries = front ++ back := by
  have keys := tidy.keys
  rw [Roster.keys, split, List.map_append, List.map_cons, List.nodup_append] at keys
  obtain ⟨-, rest, apart⟩ := keys
  have others : ∀ e ∈ front ++ back, (e.1 != key) = true := by
    intro e there
    rw [bne_iff_ne]
    rcases List.mem_append.1 there with before | behind
    · exact apart _ (List.mem_map_of_mem before) _ List.mem_cons_self
    · rintro rfl
      exact (List.nodup_cons.1 rest).1 (List.mem_map.2 ⟨e, behind, rfl⟩)
  rw [Roster.erase, split, List.filter_append, List.filter_cons_of_neg (by simp),
    ← List.filter_append,
    List.filter_eq_self.2 others]

theorem split (tidy : r.Tidy) (found : r.find? key = some number) :
    ∃ front back, r.entries = front ++ (key, number) :: back ∧
      (r.erase key).entries = front ++ back := by
  obtain ⟨front, back, split, -⟩ := List.lookup_eq_some_iff.1 found
  exact ⟨front, back, split, tidy.erase_of_split split⟩

/-- A record that is emptied keeps its device, and so its key. -/
theorem emptied {r' : Roster β} (tidy : r.Tidy) (there : r.records[number]? = some record)
    (records : r'.records = r.records.set number record.emptied)
    (entries : r'.entries = r.entries) : r'.Tidy where
  keys := by
    unfold Roster.keys
    rw [entries]
    exact tidy.keys
  entered e entered := by
    rw [entries] at entered
    obtain ⟨other, held, named⟩ := tidy.entered e entered
    rw [records]
    by_cases same : number = e.2
    · rw [← same] at held ⊢
      cases there.symm.trans held
      exact ⟨_, List.getElem?_set_self (List.getElem?_eq_some_iff.1 there).1, named⟩
    · exact ⟨other, by rw [List.getElem?_set_ne same, held], named⟩

/-- A record is entered once at most. -/
theorem numbers (tidy : r.Tidy) : (r.entries.map Prod.snd).Nodup := by
  rw [List.Nodup, List.pairwise_map]
  have keys := tidy.keys
  rw [Roster.keys, List.Nodup, List.pairwise_map] at keys
  refine keys.imp_of_mem fun {e e'} there there' different same => different ?_
  obtain ⟨record, held, named⟩ := tidy.entered e there
  obtain ⟨record', held', named'⟩ := tidy.entered e' there'
  rw [same, held', Option.some.injEq] at held
  rw [held, named, Except.ok.injEq] at named'
  exact named'

end Tidy

variable [ObjectBus β]

/-! ### Destroying a record -/

/-- What unregistering an object changes, and how it ends. -/
structure Unregistered (registration : Option Value) (h h' : Host (Roster β))
    (r : Except Failure Unit) :
    Prop where
  calls : h'.calls = h.calls ++ registration.elim [] fun id => [.unregister id]
  log : h'.records = h.records
  records : h'.state.records = h.state.records
  entries : h'.state.entries = h.state.entries
  result : r = registration.elim (.ok ()) fun id =>
    ((ObjectBus.unregister id).run (h.withState h.state.bus)).1

theorem ends_unregister_candid [ObjectBus.IsCandid β] (registration : Option Value)
    (h : Host (Roster β)) :
    (unregister registration).Ends h fun r h' => Unregistered registration h h' r := by
  cases registration with
  | none => exact ⟨(List.append_nil _).symm, rfl, rfl, rfl, rfl⟩
  | some id =>
    obtain ⟨r, bus, ran⟩ := ObjectBus.IsCandid.unregister id (h.withState h.state.bus)
    unfold unregister withinBus
    refine Ends.within ?_
    unfold Ends
    rw [ran]
    exact ⟨rfl, rfl, rfl, rfl, by rw [Option.elim_some, ran]⟩

/-- How giving up the parts of a record ends: both are tried, and nothing is left in it. -/
structure Destroyed (number : Nat) (record : Record) (h h' : Host (Roster β))
    (r : Except Failure Unit) :
    Prop where
  calls : h'.calls = h.calls ++ record.givingUp
  records : h'.state.records = h.state.records.set number record.emptied
  entries : h'.state.entries = h.state.entries
  /-- A failed system call of the chip is warned of. -/
  log : h'.records = h.records ++ record.warnings
  /-- Without an object, what closing the chip lets out comes out. -/
  closed : record.registration = none → r = record.ending
  /-- The bus is asked after the chip, and its fault wins. -/
  unregistered : ∀ id, record.registration = some id → ∃ k : Host β, k.state = h.state.bus ∧
    k.calls = h.calls ++ record.handle.elim [] Handle.closing ∧
    r = settled record.ending ((ObjectBus.unregister id).run k).1

variable {h : Host (Roster β)} {number : Nat} {record : Record}

theorem ends_destroy [ObjectBus.IsCandid β] (there : h.state.records[number]? = some record) :
    (destroy number).Ends h fun r h' => Destroyed number record h h' r := by
  unfold destroy
  simp only [ends_bind, ends_state, there, ends_update]
  refine Ends.ensure (ends_run _ _) fun r h₁ closed => ?_
  rw [run_closeHandle] at closed
  obtain ⟨rfl, rfl⟩ := Prod.mk.inj closed
  refine (ends_unregister_candid record.registration _).mono fun c h' unregistered => ?_
  obtain ⟨calls, log, records, entries, rfl⟩ := unregistered
  refine ⟨by rw [calls, Record.givingUp, List.append_assoc], records, entries, log, fun none => ?_,
    fun id some => ?_⟩
  · rw [none]
    rfl
  · rw [some]
    exact ⟨_, rfl, rfl, rfl⟩

/-- Removing an entry destroys its record and takes it away, however that ends. -/
theorem ends_removeEntry_candid [ObjectBus.IsCandid β] (key : Key)
    (there : h.state.records[number]? = some record) : (removeEntry key number).Ends h fun r h' =>
      ∃ h₁, Destroyed number record h h₁ r ∧ h' = { h₁ with state := h₁.state.erase key } :=
  Ends.ensure (ends_destroy there) fun _ h₁ destroyed => ⟨h₁, destroyed, rfl⟩

/-! ### What is done with a roster -/

/-- Something that is done with a roster. -/
inductive Deed where
  | insert (number : Nat)
  | remove (deviceId : Value)
  | lookup (deviceId : Value)
  | destroy (number : Nat)
  | clear

/-- Does it. -/
def Deed.perform : Deed → Act (Roster β) Unit
  | .insert number => Roster.insert number
  | .remove deviceId => Roster.remove deviceId
  | .lookup deviceId => do
    let r ← Act.state
    discard (Act.ofExcept (r.lookup deviceId))
  | .destroy number => Roster.destroy number
  | .clear => Roster.clear

/-- A roster with some records, none of which is entered. -/
def stocked (bus : β) (records : List Record) : Host (Roster β) := { state := { bus, records } }

/-- The host after some deeds, each done however the one before it ended. -/
def done (h : Host (Roster β)) (deeds : List Deed) : Host (Roster β) :=
  deeds.foldl (fun h deed => (deed.perform.run h).2) h

/-- Of some records, those that were reached gave up their parts, each once, and have none any
more. -/
structure Spent (records : List Record) (reached : List Nat) (h : Host (Roster β)) : Prop where
  once : reached.Nodup
  calls : h.calls = reached.flatMap fun number => records[number]?.elim [] Record.givingUp
  records : ∀ number, h.state.records[number]? =
    records[number]?.map fun record => if number ∈ reached then record.emptied else record

/-! ### What every deed keeps -/

section Keeps

variable {records : List Record} {reached : List Nat}

/-- Reaching a record gives up what it still has. -/
theorem Spent.destroyed {h' : Host (Roster β)} {r : Except Failure Unit}
    (spent : Spent records reached h) (there : h.state.records[number]? = some record)
    (destroyed : Destroyed number record h h' r) :
    ∃ reached, Spent records reached h' := by
  obtain ⟨original, held, rfl⟩ := Option.map_eq_some_iff.1 ((spent.records number).symm.trans there)
  have inside : number < h.state.records.length := (List.getElem?_eq_some_iff.1 there).1
  by_cases already : number ∈ reached
  · refine ⟨reached, spent.once, ?_, fun n => ?_⟩
    · rw [destroyed.calls, if_pos already, ← spent.calls]
      exact List.append_nil _
    · rw [destroyed.records, if_pos already]
      by_cases same : number = n
      · subst same
        rw [List.getElem?_set_self inside, held, Option.map_some, if_pos already]
        rfl
      · rw [List.getElem?_set_ne same, spent.records]
  · refine ⟨reached ++ [number], ?_, ?_, fun n => ?_⟩
    · exact spent.once.append (List.nodup_singleton _) (by simpa using already)
    · rw [destroyed.calls, if_neg already, spent.calls]
      simp [held]
    · rw [destroyed.records, if_neg already]
      by_cases same : number = n
      · subst same
        rw [List.getElem?_set_self inside, held]
        simp
      · have others : n ∈ reached ++ [number] ↔ n ∈ reached := by simp [Ne.symm same]
        rw [List.getElem?_set_ne same, spent.records]
        simp only [others]

theorem Tidy.destroyed {h' : Host (Roster β)} {r : Except Failure Unit} (tidy : h.state.Tidy)
    (there : h.state.records[number]? = some record) (destroyed : Destroyed number record h h' r) :
    h'.state.Tidy :=
  tidy.emptied there destroyed.records destroyed.entries

/-- Some records were reached and gave up their parts, and the entries are tidy. -/
structure Kept (records : List Record) (h : Host (Roster β)) : Prop where
  spent : ∃ reached, Spent records reached h
  tidy : h.state.Tidy

omit [ObjectBus β] in
theorem kept_stocked (bus : β) (records : List Record) : Kept records (stocked bus records) where
  spent := ⟨[], List.nodup_nil, rfl, fun number => by simp [stocked]⟩
  tidy := ⟨List.nodup_nil, by simp [stocked]⟩

theorem keeps_destroy [ObjectBus.IsCandid β]
    (number : Nat) : (destroy number).Keeps (Kept (β := β) records) := by
  intro h kept
  cases there : h.state.records[number]? with
  | none =>
    unfold destroy
    simp only [ends_bind, ends_state, there]
    exact kept
  | some record =>
    obtain ⟨reached, spent⟩ := kept.spent
    refine (ends_destroy there).mono fun _ _ destroyed => ?_
    exact ⟨spent.destroyed there destroyed, kept.tidy.destroyed there destroyed⟩

/-- A deed keeps what destroying a record, taking an entry away and adding one keep. -/
theorem Deed.keeps_perform {I : Host (Roster β) → Prop}
    (destroys : ∀ number, (Roster.destroy number).Keeps I)
    (erases : ∀ h key, I h → I { h with state := h.state.erase key })
    (inserts : ∀ h number record key, I h → h.state.records[number]? = some record →
      record.deviceId.toKey = .ok key → h.state.contains key = false →
      I { h with state := { h.state with entries := h.state.entries ++ [(key, number)] } })
    (deed : Deed) : deed.perform.Keeps I := by
  have removes (key : Key) (number : Nat) : (removeEntry key number).Keeps I :=
    (destroys number).ensure fun h kept => erases h key kept
  cases deed with
  | insert number =>
    intro h kept
    unfold Deed.perform Roster.insert
    simp only [ends_bind, ends_state]
    split
    · exact kept
    · rename_i record there
      refine ends_bind.2 (ends_ofExcept _ (fun key named => ?_) fun _ _ => kept)
      refine ends_ite (fun _ => kept) fun absent => ?_
      exact inserts h number record key kept there named (by simpa using absent)
  | remove deviceId =>
    refine keeps_state.bind fun r => (keeps_ofExcept _).bind fun key => ?_
    split
    · exact keeps_fail _
    · exact removes _ _
  | lookup deviceId => exact keeps_state.bind fun r => (keeps_ofExcept _).discard
  | destroy number => exact destroys number
  | clear => exact keeps_state.bind fun r => Keeps.forM (fun e : Key × Nat => removes e.1 e.2) _

theorem keeps_perform [ObjectBus.IsCandid β]
    (deed : Deed) : deed.perform.Keeps (Kept (β := β) records) :=
  deed.keeps_perform keeps_destroy
    (fun _ key kept =>
      ⟨kept.spent.imp fun _ spent => ⟨spent.once, spent.calls, spent.records⟩, kept.tidy.erase key⟩)
    fun _ _ _ _ kept there named absent =>
      ⟨kept.spent.imp fun _ spent => ⟨spent.once, spent.calls, spent.records⟩,
        kept.tidy.insert there named absent⟩

theorem kept_done [ObjectBus.IsCandid β] (deeds : List Deed) (kept : Kept records h) :
    Kept records (done h deeds) := by
  induction deeds generalizing h with
  | nil => exact kept
  | cons deed deeds ih => exact ih (keeps_perform deed h kept)

end Keeps

/-! ### What the next deed does -/

/-- Clearing destroys the records of the entries from the first on, up to one that fails. -/
structure Drained (h h' : Host (Roster β)) (r : Except Failure Unit)
    (gone rest : List (Key × Nat)) : Prop where
  split : h.state.entries = gone ++ rest
  entries : h'.state.entries = rest
  calls : h'.calls = h.calls ++ gone.flatMap fun e => h.state.records[e.2]?.elim [] Record.givingUp
  all : r = .ok () → rest = []

theorem ends_removeEntries_candid [ObjectBus.IsCandid β] {es : List (Key × Nat)}
    (tidy : h.state.Tidy) (entries : h.state.entries = es) :
    (es.forM fun e => removeEntry e.1 e.2).Ends h fun r h' =>
      ∃ gone rest, Drained h h' r gone rest := by
  induction es generalizing h with
  | nil => exact ⟨[], [], entries, entries, by simp, fun _ => rfl⟩
  | cons e es ih =>
    obtain ⟨record, there, -⟩ := tidy.entered e (by simp [entries])
    have erased : (h.state.erase e.1).entries = es := by
      have split : h.state.entries = [] ++ (e.1, e.2) :: es := entries
      exact tidy.erase_of_split split
    have apart : e.2 ∉ es.map Prod.snd := by
      have numbers := tidy.numbers
      rw [entries, List.map_cons] at numbers
      exact (List.nodup_cons.1 numbers).1
    rw [ends_forM_cons]
    refine (ends_removeEntry_candid e.1 there).bind ?_ ?_
    · rintro _ _ ⟨h₁, destroyed, rfl⟩
      have entries₁ : (h₁.state.erase e.1).entries = es := by
        rw [← erased, erase, erase, destroyed.entries]
      refine (ih ((tidy.destroyed there destroyed).erase e.1) entries₁).mono ?_
      rintro r h' ⟨gone, rest, drained⟩
      have split : es = gone ++ rest := entries₁.symm.trans drained.split
      have same : ∀ e' ∈ gone, h₁.state.records[e'.2]? = h.state.records[e'.2]? := by
        intro e' later
        have other : e.2 ≠ e'.2 := by
          intro same
          exact apart (same ▸ List.mem_map_of_mem (by simp [split, later]))
        rw [destroyed.records, List.getElem?_set_ne other]
      refine ⟨e :: gone, rest, by rw [entries, split, List.cons_append],
        drained.entries, ?_, drained.all⟩
      calc h'.calls = h₁.calls ++ gone.flatMap fun e' =>
        h₁.state.records[e'.2]?.elim [] Record.givingUp :=
            drained.calls
        _ = h₁.calls ++ gone.flatMap fun e' => h.state.records[e'.2]?.elim [] Record.givingUp := by
          rw [List.flatMap_congr fun e' later =>
            congrArg (Option.elim · [] Record.givingUp) (same e' later)]
        _ = h.calls ++ (e :: gone).flatMap fun e' =>
          h.state.records[e'.2]?.elim [] Record.givingUp := by
          rw [destroyed.calls, List.append_assoc, List.flatMap_cons, there, Option.elim_some]
    · rintro e' _ ⟨h₁, destroyed, rfl⟩
      refine ⟨[e], es, entries, ?_, ?_, by simp⟩
      · rw [← erased, erase, erase, destroyed.entries]
      · rw [destroyed.calls, List.flatMap_singleton, there, Option.elim_some]

/-- What the next deed does to a roster, whatever was done before. -/
structure Obeys (h : Host (Roster β)) : Prop where
  /-- A record that is reached gives up both parts that it still has. -/
  destroy : ∀ number record, h.state.records[number]? = some record →
    (Roster.destroy number).Ends h fun r h' => Destroyed number record h h' r
  /-- Removing a device that is there destroys its record and takes away its entry and no other, and
  ends as the destruction does. -/
  present : ∀ deviceId key number, deviceId.toKey = .ok key → h.state.find? key = some number →
    (Roster.remove deviceId).Ends h fun r h' =>
      ∃ record front back h₁, h.state.records[number]? = some record ∧
      Destroyed number record h h₁ r ∧ h.state.entries = front ++ (key, number) :: back ∧
      h' = { h₁ with state := { h₁.state with entries := front ++ back } }
  /-- Removing a device that is not there fails and changes nothing. -/
  absent : ∀ deviceId, (∀ key, deviceId.toKey = .ok key → h.state.find? key = none) →
    (Roster.remove deviceId).Ends h fun r h' => (∃ e, r = .error e) ∧ h' = h
  /-- Entering a record puts its entry at the end, or fails and changes nothing. -/
  insert : ∀ number, (Roster.insert number).Ends h fun r h' => ((∃ e, r = .error e) ∧ h' = h) ∨
    ∃ key, r = .ok () ∧ h.state.find? key = none ∧
      h' = { h with state := { h.state with entries := h.state.entries ++ [(key, number)] } }
  lookup : ∀ deviceId, (Deed.lookup deviceId).perform.Ends h fun _ h' => h' = h
  clear : Roster.clear.Ends h fun r h' => ∃ gone rest, Drained h h' r gone rest

theorem Tidy.obeys [ObjectBus.IsCandid β] (tidy : h.state.Tidy) : Obeys h where
  destroy _ _ there := ends_destroy there
  present deviceId key number named found := by
    obtain ⟨front, back, split, erased⟩ := tidy.split found
    obtain ⟨record, there, -⟩ := tidy.entered (key, number) (by simp [split])
    unfold remove
    simp only [ends_bind, ends_state, named, ends_ofExcept_ok, found]
    refine (ends_removeEntry_candid key there).mono ?_
    rintro r _ ⟨h₁, destroyed, rfl⟩
    refine ⟨record, front, back, h₁, there, destroyed, split, ?_⟩
    rw [← erased, Roster.erase, Roster.erase, destroyed.entries]
  absent deviceId unknown := by
    unfold remove
    simp only [ends_bind, ends_state]
    refine ends_ofExcept _ (fun key named => ?_) fun f _ => ⟨⟨_, rfl⟩, rfl⟩
    dsimp only
    rw [unknown key named]
    exact ⟨⟨_, rfl⟩, rfl⟩
  insert number := by
    unfold Roster.insert
    simp only [ends_bind, ends_state]
    split
    · exact .inl ⟨⟨_, rfl⟩, rfl⟩
    · refine ends_bind.2 (ends_ofExcept _ (fun key named => ?_) fun f _ => .inl ⟨⟨_, rfl⟩, rfl⟩)
      refine ends_ite (fun _ => .inl ⟨⟨_, rfl⟩, rfl⟩) fun fresh => .inr ⟨key, rfl, ?_, rfl⟩
      simpa [contains] using fresh
  lookup deviceId := by
    unfold Deed.perform
    simp only [ends_bind, ends_state, ends_discard]
    exact ends_ofExcept _ (fun _ _ => rfl) fun _ _ => rfl
  clear := by
    unfold Roster.clear
    simp only [ends_bind, ends_state]
    exact ends_removeEntries_candid tidy rfl

/-- Whatever is done with some records in which order and however the bus and the chips fail: the
records that were reached gave up their parts, each once, and the next deed does what it should. -/
theorem spent_and_obeys_done [ObjectBus.IsCandid β] (bus : β) (records : List Record)
    (deeds : List Deed) :
    (∃ reached, Spent records reached (done (stocked bus records) deeds)) ∧
      Obeys (done (stocked bus records) deeds) := by
  have kept := kept_done deeds (kept_stocked bus records)
  exact ⟨kept.spent, kept.tidy.obeys⟩

/-- A record whose chip cannot be closed and whose object is registered. -/
def stuck : Record where
  deviceId := .text "gpiochip0"
  handle := some {
    deviceId := .text "gpiochip0"
    chip := some {
      serial := 0
      device :=
        { path := "/dev/gpiochip0", faults := { close := some (.raised .runtime "stuck") } } }
    info := { name := .text "gpiochip0", label := .text "a", numLines := .int 8 } }
  registration := some (.int 7)

theorem spent_and_obeys_done_stuck : ObjectBus.IsCandid ScriptedBus ∧
    ((∃ reached, Spent [stuck] reached (done (stocked (ScriptedBus.occupied 7 1 [])
        [stuck]) [.insert 0, .remove (.text "gpiochip0"), .insert 0, .clear])) ∧
      Obeys (done (stocked (ScriptedBus.occupied 7 1 [])
        [stuck]) [.insert 0, .remove (.text "gpiochip0"), .insert 0, .clear])) ∧
    (done (stocked (ScriptedBus.occupied 7 1 []) [stuck])
      [.insert 0, .remove (.text "gpiochip0"), .insert 0, .clear]).calls =
        [.chip 0 "/dev/gpiochip0" .close, .unregister (.int 7)] :=
  ⟨inferInstance, spent_and_obeys_done _ _ _, by decide +kernel⟩

end Roster

end GpioBroker
