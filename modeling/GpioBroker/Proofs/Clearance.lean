import GpioBroker.ObjectBus.Scripted
import GpioBroker.Proofs.Destruction
import Mathlib.Data.List.Dedup

/-!
# Clearing a roster

A roster is cleared by removing its first device as long as there is one.  A removal takes the entry
away whether or not the record can be destroyed, so this comes to an end: the records are destroyed
in the order in which their devices were entered last, up to the first that fails, and those behind
it stay as they are.  As many attempts as there are devices reach every record, each of them once.
-/

namespace GpioBroker

open Act

namespace Roster

variable {β : Type}

/-- In front of a list, what comes again in it does not count. -/
theorem dedup_append_of_nodup {l : List Key} (m : List Key) (nodup : l.Nodup) :
    (l ++ m).dedup = l.filter (fun k => k ∉ m) ++ m.dedup := by
  induction l with
  | nil => rfl
  | cons k l ih =>
    obtain ⟨fresh, nodup⟩ := List.nodup_cons.1 nodup
    rw [List.cons_append]
    by_cases again : k ∈ m
    · rw [List.dedup_cons_of_mem (by simp [again]), ih nodup,
        List.filter_cons_of_neg (by simpa using again)]
    · rw [List.dedup_cons_of_notMem (by simp [fresh, again]), ih nodup,
        List.filter_cons_of_pos (by simpa using again), List.cons_append]

theorem dedup_append_sublist {l l' : List Key} (m : List Key) (sublist : l.Sublist l')
    (nodup : l'.Nodup) :
    (l ++ m).dedup.Sublist (l' ++ m).dedup := by
  rw [dedup_append_of_nodup m nodup, dedup_append_of_nodup m (nodup.sublist sublist)]
  exact (sublist.filter _).append (List.Sublist.refl _)

variable [ObjectBus β] {h h' : Host (Roster β)} {key : Key} {number : Nat} {record : Record}

/-! ### Destroying the record of an entry -/

/-- The host after the record of an entry was destroyed, whether or not that failed, and the entry
taken away. -/
def dropped (h : Host (Roster β)) (e : Key × Nat) : Host (Roster β) :=
  { ((destroy e.2).run h).2 with state := ((destroy e.2).run h).2.state.erase e.1 }

/-- The records of some entries can be destroyed one after another, and none of that fails. -/
def Yields (h : Host (Roster β)) : List (Key × Nat) → Prop
  | [] => True
  | e :: es => ((destroy e.2).run h).1 = .ok () ∧ Yields (dropped h e) es

theorem run_removeEntry (e : Key × Nat) :
    (removeEntry e.1 e.2).run h = (((destroy e.2).run h).1, dropped h e) := by
  unfold removeEntry
  rw [run_ensure]
  rfl

omit [ObjectBus β] in
theorem records_run_closeHandle (x : Option Handle) (h : Host (Roster β)) :
    ((closeHandle x).run h).2.state.records = h.state.records := by
  cases x with
  | none => rfl
  | some x => simp [closeHandle]

theorem records_run_unregister (x : Option Value) (h : Host (Roster β)) :
    ((unregister x).run h).2.state.records = h.state.records := by
  cases x with
  | none => rfl
  | some x => simp [unregister, withinBus, run_within, Host.withState]

/-- Destroying a record takes its parts away, whatever the bus and the chip do. -/
theorem records_run_destroy (there : h.state.records[number]? = some record) :
    ((destroy number).run h).2.state.records = h.state.records.set number record.emptied := by
  unfold destroy
  simp only [run_bind, run_state, there, run_update, snd_run_ensure, records_run_unregister,
    records_run_closeHandle]
  rfl

theorem run_destroy_of_none (missing : h.state.records[number]? = none) :
    (destroy number).run h = (.error { fault := .noEntry }, h) := by
  unfold destroy
  simp only [run_bind, run_state, missing, run_fail]

namespace Tidy

theorem destroy (tidy : h.state.Tidy) (number : Nat) : ((destroy number).run h).2.state.Tidy := by
  cases there : h.state.records[number]? with
  | none => rwa [run_destroy_of_none there]
  | some record =>
    exact tidy.emptied there (records_run_destroy there) (entries_run_destroy number h)

theorem dropped (tidy : h.state.Tidy) (e : Key × Nat) : (dropped h e).state.Tidy :=
  (tidy.destroy e.2).erase e.1

theorem keeps_perform (deed : Deed) : deed.perform.Keeps fun h : Host (Roster β) => h.state.Tidy :=
  deed.keeps_perform (fun number _ tidy => tidy.destroy number) (fun _ key tidy => tidy.erase key)
    fun _ _ _ _ tidy there named absent => tidy.insert there named absent

theorem done (tidy : h.state.Tidy) (deeds : List Deed) : (done h deeds).state.Tidy := by
  induction deeds generalizing h with
  | nil => exact tidy
  | cons deed deeds ih => exact ih (keeps_perform deed h tidy)

end Tidy

/-! ### Destroying the records of some entries -/

theorem records_dropped (e : Key × Nat) (place : Nat) : (dropped h e).state.records[place]? =
    h.state.records[place]?.map fun record => if place = e.2 then record.emptied else record := by
  change ((destroy e.2).run h).2.state.records[place]? = _
  cases there : h.state.records[e.2]? with
  | none =>
    rw [run_destroy_of_none there]
    by_cases same : place = e.2
    · rw [same, there, Option.map_none]
    · simp [same]
  | some record =>
    rw [records_run_destroy there]
    by_cases same : place = e.2
    · rw [same, List.getElem?_set_self (List.getElem?_eq_some_iff.1 there).1, there]
      simp
    · rw [List.getElem?_set_ne (Ne.symm same)]
      simp [same]

theorem records_foldl_dropped (gone : List (Key × Nat)) (place : Nat) :
    (gone.foldl dropped h).state.records[place]? =
      h.state.records[place]?.map fun record =>
        if place ∈ gone.map Prod.snd then record.emptied else record := by
  induction gone generalizing h with
  | nil => simp
  | cons e gone ih =>
    rw [List.foldl_cons, ih, records_dropped, Option.map_map]
    refine congrFun (congrArg Option.map (funext fun record => ?_)) _
    by_cases first : place = e.2 <;> by_cases later : place ∈ gone.map Prod.snd <;>
      simp [first, later, Record.emptied]

theorem entries_dropped {e : Key × Nat} {es : List (Key × Nat)} (tidy : h.state.Tidy)
    (entries : h.state.entries = e :: es) : (dropped h e).state.entries = es := by
  have erased : (h.state.erase e.1).entries = [] ++ es := tidy.erase_of_split entries
  calc (dropped h e).state.entries = (h.state.erase e.1).entries := by
        unfold dropped erase
        rw [entries_run_destroy]
    _ = es := erased

theorem entries_foldl_dropped {gone rest : List (Key × Nat)} (tidy : h.state.Tidy)
    (entries : h.state.entries = gone ++ rest) : (gone.foldl dropped h).state.entries = rest := by
  induction gone generalizing h with
  | nil => exact entries
  | cons e gone ih => exact ih (tidy.dropped e) (entries_dropped tidy entries)

theorem Tidy.foldl_dropped (tidy : h.state.Tidy) (gone : List (Key × Nat)) :
    (gone.foldl Roster.dropped h).state.Tidy := by
  induction gone generalizing h with
  | nil => exact tidy
  | cons e gone ih => exact ih (tidy.dropped e)

/-! ### The loop -/

/-- The first device is removed as long as there is one, up to a removal that fails. -/
inductive Clears : Host (Roster β) → Except Failure Unit → Host (Roster β) → Prop
  | done (h : Host (Roster β)) (none : h.state.devices = []) : Clears h (.ok ()) h
  | next (h h₁ h' : Host (Roster β)) (deviceId : Value) (r : Except Failure Unit)
      (first : h.state.devices.head? = some deviceId)
      (removed : (remove deviceId).run h = (.ok (), h₁))
      (rest : Clears h₁ r h') : Clears h r h'
  | stop (h h₁ : Host (Roster β)) (deviceId : Value) (e : Failure)
      (first : h.state.devices.head? = some deviceId)
      (fails : (remove deviceId).run h = (.error e, h₁)) :
      Clears h (.error e) h₁

/-- The first device is that of the first entry, and removing it destroys the record of that
entry. -/
theorem head?_devices {e : Key × Nat} {es : List (Key × Nat)} (tidy : h.state.Tidy)
    (entries : h.state.entries = e :: es) : ∃ deviceId, h.state.devices.head? = some deviceId ∧
      (remove deviceId).run h = (((destroy e.2).run h).1, dropped h e) := by
  obtain ⟨record, there, named⟩ := tidy.entered e (by simp [entries])
  refine ⟨record.deviceId, by simp [devices, entries, there], ?_⟩
  have found : h.state.find? e.1 = some e.2 := by
    rw [find?, entries]
    exact List.lookup_cons_self
  unfold remove
  simp only [run_bind, run_state, named, run_ofExcept_ok, found, run_removeEntry]

/-- What is removed first is the device of the first entry. -/
theorem exists_first {deviceId : Value} {r : Except Failure Unit} (tidy : h.state.Tidy)
    (first : h.state.devices.head? = some deviceId) (removed : (remove deviceId).run h = (r, h')) :
    ∃ e es, h.state.entries = e :: es ∧ ((destroy e.2).run h).1 = r ∧ h' = dropped h e := by
  cases entries : h.state.entries with
  | nil => simp [devices, entries] at first
  | cons e es =>
    obtain ⟨deviceId', first', removes⟩ := head?_devices tidy entries
    obtain rfl : deviceId' = deviceId := Option.some.inj (first'.symm.trans first)
    obtain ⟨ends, left⟩ := Prod.mk.inj (removes.symm.trans removed)
    exact ⟨e, es, rfl, ends, left.symm⟩

theorem run_clear_of_nil (entries : h.state.entries = []) : clear.run h = (.ok (), h) := by
  unfold clear
  simp only [run_bind, run_state, entries]
  rfl

/-- Clearing goes on after its first removal, or ends with it. -/
theorem run_clear_of_cons {e : Key × Nat} {es : List (Key × Nat)} (tidy : h.state.Tidy)
    (entries : h.state.entries = e :: es) : clear.run h =
      match ((destroy e.2).run h).1 with
      | .ok _ => clear.run (dropped h e)
      | .error f => (.error f, dropped h e) := by
  have left := entries_dropped tidy entries
  unfold clear
  simp only [run_bind, run_state, entries, left]
  change (removeEntry e.1 e.2 >>= fun _ => es.forM fun e => removeEntry e.1 e.2).run h = _
  rw [run_bind, run_removeEntry]
  cases ((destroy e.2).run h).1 <;> rfl

theorem clears_run (tidy : h.state.Tidy) : Clears h (clear.run h).1 (clear.run h).2 := by
  generalize entries : h.state.entries = es
  induction es generalizing h with
  | nil =>
    rw [run_clear_of_nil entries]
    exact .done _ (by simp [devices, entries])
  | cons e es ih =>
    obtain ⟨deviceId, first, removes⟩ := head?_devices tidy entries
    rw [run_clear_of_cons tidy entries]
    cases ends : ((destroy e.2).run h).1 with
    | ok _ =>
      rw [ends] at removes
      exact .next _ _ _ _ _ first removes (ih (tidy.dropped e) (entries_dropped tidy entries))
    | error f =>
      rw [ends] at removes
      exact .stop _ _ _ _ first removes

/-- The loop ends, and as the clearing does. -/
theorem clears_iff (tidy : h.state.Tidy) {r : Except Failure Unit} :
    Clears h r h' ↔ clear.run h = (r, h') := by
  constructor
  · intro clears
    induction clears with
    | done h none =>
      refine run_clear_of_nil ?_
      cases entries : h.state.entries with
      | nil => rfl
      | cons e es =>
        obtain ⟨deviceId, first, -⟩ := head?_devices tidy entries
        simp [none] at first
    | next h h₁ h' deviceId r first removed rest ih =>
      obtain ⟨e, es, entries, ends, rfl⟩ := exists_first tidy first removed
      rw [run_clear_of_cons tidy entries, ends]
      exact ih (tidy.dropped e)
    | stop h h₁ deviceId f first fails =>
      obtain ⟨e, es, entries, ends, rfl⟩ := exists_first tidy first fails
      rw [run_clear_of_cons tidy entries, ends]
  · intro ran
    have clears := clears_run tidy
    rwa [ran] at clears

/-! ### How clearing ends -/

/-- Clearing destroys the records of some entries, from the first on, and leaves the others as they
were: none is left and none failed, or the last to be destroyed is the only one that failed. -/
structure Clearing (h h' : Host (Roster β)) (r : Except Failure Unit)
    (gone rest : List (Key × Nat)) : Prop where
  split : h.state.entries = gone ++ rest
  left : h' = gone.foldl dropped h
  ends : (r = .ok () ∧ rest = [] ∧ Yields h gone) ∨
    ∃ front last e, gone = front ++ [last] ∧ Yields h front ∧
      ((destroy last.2).run (front.foldl dropped h)).1 = .error e ∧ r = .error e

theorem ends_clear_clearing (tidy : h.state.Tidy) :
    clear.Ends h fun r h' => ∃ gone rest, Clearing h h' r gone rest := by
  unfold Ends
  generalize entries : h.state.entries = es
  induction es generalizing h with
  | nil =>
    rw [run_clear_of_nil entries]
    exact ⟨[], [], entries, rfl, .inl ⟨rfl, rfl, trivial⟩⟩
  | cons e es ih =>
    rw [run_clear_of_cons tidy entries]
    cases ends : ((destroy e.2).run h).1 with
    | ok _ =>
      have left := entries_dropped tidy entries
      obtain ⟨gone, rest, clearing⟩ := ih (tidy.dropped e) left
      refine ⟨e :: gone, rest, ?_, clearing.left, ?_⟩
      · rw [entries, ← left, clearing.split, List.cons_append]
      · obtain ⟨ok, none, yields⟩ | ⟨front, last, f, split, yields, fails, error⟩ := clearing.ends
        · exact .inl ⟨ok, none, ends, yields⟩
        · exact .inr
            ⟨e :: front, last, f, by rw [split, List.cons_append], ⟨ends, yields⟩, fails, error⟩
    | error f => exact ⟨[e], es, entries, rfl, .inr ⟨[], e, f, rfl, trivial, ends, rfl⟩⟩

/-- As many clearings as there are entries, or more, destroy every record, however each of them
ends. -/
theorem done_clears (tidy : h.state.Tidy) {count : Nat} (enough : h.state.entries.length ≤ count) :
    done h (List.replicate count .clear) = h.state.entries.foldl dropped h := by
  induction count generalizing h with
  | zero =>
    rw [List.length_eq_zero_iff.1 (Nat.le_zero.1 enough)]
    rfl
  | succ count ih =>
    obtain ⟨gone, rest, split, left, ends⟩ := ends_clear_clearing tidy
    have entries := entries_foldl_dropped tidy split
    have fewer : rest.length ≤ count := by
      obtain ⟨-, none, -⟩ | ⟨front, last, -, gone, -⟩ := ends
      · simp [none]
      · rw [split, gone] at enough
        simp at enough
        omega
    calc done h (List.replicate (count + 1) .clear) =
      done (clear.run h).2 (List.replicate count .clear) := rfl
      _ = done (gone.foldl dropped h) (List.replicate count .clear) := by rw [left]
      _ = rest.foldl dropped (gone.foldl dropped h) := by
        rw [ih (tidy.foldl_dropped gone) (by rwa [entries]), entries]
      _ = h.state.entries.foldl dropped h := by rw [split, List.foldl_append]

/-! ### The order of entry -/

/-- The key under which a deed enters a record. -/
def Deed.enters? (h : Host (Roster β)) : Deed → Option Key
  | .insert number =>
    if ((Roster.insert number).run h).1.isOk then
      h.state.records[number]?.bind fun record => record.deviceId.key?
    else none
  | _ => none

/-- The keys under which some deeds enter records, one after another. -/
def entered (h : Host (Roster β)) : List Deed → List Key
  | [] => []
  | deed :: deeds => (deed.enters? h).toList ++ entered (deed.perform.run h).2 deeds

omit [ObjectBus β] in
theorem keys_run_insert (number : Nat) : ((Roster.insert number).run h).2.state.keys =
    h.state.keys ++ ((Deed.insert number).enters? h).toList := by
  have entering : (Roster.insert number).Ends h fun r h' => h'.state.keys = h.state.keys ++
      Option.toList (if r.isOk then h.state.records[number]?.bind
        fun record => record.deviceId.key? else none) := by
    unfold Roster.insert
    simp only [ends_bind, ends_state]
    cases there : h.state.records[number]? with
    | none => exact (List.append_nil _).symm
    | some record =>
      refine ends_bind.2 (ends_ofExcept _ (fun key named => ?_) fun _ _ => (List.append_nil _).symm)
      refine ends_ite (fun _ => (List.append_nil _).symm) fun _ => ?_
      have named : record.deviceId.key? = some key := by
        unfold Value.toKey at named
        split at named
        · rename_i known
          rw [known, Except.ok.inj named]
        · cases named
      simp [keys, named, Except.isOk, Except.toBool]
  exact entering

theorem keeps_entries_removeEntry (es : List (Key × Nat)) (key : Key) (number : Nat) :
    (removeEntry key number).Keeps fun h : Host (Roster β) => h.state.entries.Sublist es := by
  intro h sublist
  change ((removeEntry key number).run h).2.state.entries.Sublist es
  rw [entries_run_removeEntry]
  exact List.filter_sublist.trans sublist

/-- A deed leaves some of the keys as they were, in their order, and puts the one it enters behind
them. -/
theorem keys_perform (deed : Deed) : ∃ kept, kept.Sublist h.state.keys ∧
    (deed.perform.run h).2.state.keys = kept ++ (deed.enters? h).toList := by
  have shrinks (others : deed.enters? h = none)
      (keeps : deed.perform.Keeps
        fun h' : Host (Roster β) => h'.state.entries.Sublist h.state.entries) :
      ∃ kept, kept.Sublist h.state.keys ∧
        (deed.perform.run h).2.state.keys = kept ++ (deed.enters? h).toList := by
    have sublist : (deed.perform.run h).2.state.entries.Sublist h.state.entries :=
      keeps h (List.Sublist.refl _)
    refine ⟨(deed.perform.run h).2.state.keys, sublist.map _, ?_⟩
    rw [others]
    exact (List.append_nil _).symm
  cases deed with
  | insert number => exact ⟨h.state.keys, List.Sublist.refl _, keys_run_insert number⟩
  | remove deviceId =>
    refine shrinks rfl (keeps_state.bind fun r => (keeps_ofExcept _).bind fun key => ?_)
    split
    · exact keeps_fail _
    · exact keeps_entries_removeEntry _ _ _
  | lookup deviceId => exact shrinks rfl (keeps_state.bind fun r => (keeps_ofExcept _).discard)
  | destroy number =>
    refine shrinks rfl fun h₁ sublist => ?_
    change ((Roster.destroy number).run h₁).2.state.entries.Sublist _
    rwa [entries_run_destroy]
  | clear =>
    exact shrinks rfl (keeps_state.bind
      fun r => Keeps.forM (fun e : Key × Nat => keeps_entries_removeEntry _ e.1 e.2) _)

theorem keys_done (tidy : h.state.Tidy) (deeds : List Deed) :
    (done h deeds).state.keys.Sublist (h.state.keys ++ entered h deeds).dedup := by
  induction deeds generalizing h with
  | nil =>
    rw [entered, List.append_nil, tidy.keys.dedup]
    exact List.Sublist.refl _
  | cons deed deeds ih =>
    obtain ⟨kept, sublist, keys⟩ := keys_perform (h := h) deed
    have later := ih (Tidy.keeps_perform deed h tidy)
    rw [keys, List.append_assoc] at later
    exact later.trans (dedup_append_sublist _ sublist tidy.keys)

/-- What clearing does to a roster. -/
structure ClearsUp (h : Host (Roster β)) : Prop where
  /-- The loop ends, and as the clearing does. -/
  loop : ∀ r h', Clears h r h' ↔ clear.run h = (r, h')
  /-- No record is entered twice. -/
  once : (h.state.entries.map Prod.snd).Nodup
  ends : clear.Ends h fun r h' => ∃ gone rest, Clearing h h' r gone rest ∧ h'.state.entries = rest ∧
    ∀ number, h'.state.records[number]? = h.state.records[number]?.map fun record =>
      if number ∈ gone.map Prod.snd then record.emptied else record
  /-- As many attempts as there are entries destroy every record, each once, however they end. -/
  again : ∀ count, h.state.entries.length ≤ count →
    done h (List.replicate count .clear) = h.state.entries.foldl dropped h ∧
      (done h (List.replicate count .clear)).state.entries = []

theorem Tidy.clearsUp (tidy : h.state.Tidy) : ClearsUp h where
  loop _ _ := clears_iff tidy
  once := tidy.numbers
  ends := by
    refine (ends_clear_clearing tidy).mono ?_
    rintro r h' ⟨gone, rest, clearing⟩
    refine ⟨gone, rest, clearing, ?_⟩
    rw [clearing.left]
    exact ⟨entries_foldl_dropped tidy clearing.split, records_foldl_dropped gone⟩
  again count enough := by
    rw [done_clears tidy enough]
    exact ⟨rfl, entries_foldl_dropped tidy (List.append_nil _).symm⟩

/-- Whatever was done with some records and however the bus and the chips fail: the devices of the
roster stand in the order in which each was entered last, and clearing goes through them in this
order. -/
theorem clearsUp_done (bus : β) (records : List Record) (deeds : List Deed) :
    (done (stocked bus records) deeds).state.keys.Sublist
      (entered (stocked bus records) deeds).dedup ∧
      ClearsUp (done (stocked bus records) deeds) := by
  have tidy := (kept_stocked bus records).tidy
  exact ⟨keys_done tidy deeds, (tidy.done deeds).clearsUp⟩

-- The object of `b` is unknown to the bus, and `a` is entered once more, behind `c`.
example : (done (stocked ({} : ScriptedBus)
      [⟨.text "a", none, none⟩, ⟨.text "b", none, some (.int 1)⟩, ⟨.text "c", none, none⟩])
    [.insert 0, .insert 1, .insert 2, .remove (.text "a"), .insert 0, .clear]).state.keys =
      [.text "c", .text "a"] := by
  decide +kernel

end Roster

end GpioBroker
