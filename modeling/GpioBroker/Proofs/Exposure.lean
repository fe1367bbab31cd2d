import GpioBroker.Roster.Entries
import GpioBroker.Proofs.Registration
import Mathlib.Data.List.Nodup

/-!
# Exposures

An exposure is all that an exposed chip stands for: the entry of the roster, the record with its
handle and its registration, and the object on the bus.  A roster over a connection shows a list of
exposures if its entries and the objects of the connection are those of the list, in its order.  A
device that is exposed is put at the end of the list, and one that is removed is taken out, whatever
fails on the way.
-/

namespace GpioBroker

open Act

theorem Value.eq_text_of_toKey {v : Value} {t : Text} (named : v.toKey = .ok (.text t)) :
    v = .text t := by
  cases v <;> simp_all [toKey, key?]
  split at named <;> cases named

/-- An exposed chip. -/
structure Exposure where
  /-- The name of its device. -/
  id : Text
  /-- The number of its record. -/
  number : Nat
  chip : OpenChip
  info : ChipInfo
  registration : Int
  /-- The serial number of its object. -/
  serial : Nat

namespace Exposure

/-- The handle of an exposed chip, which is open. -/
def handle (x : Exposure) : Handle :=
  { deviceId := .text x.id, chip := some x.chip, info := x.info }

def record (x : Exposure) : Record :=
  { deviceId := .text x.id, handle := some x.handle, registration := some (.int x.registration) }

/-- The exposures without the one of a device. -/
theorem filter_id {f b : List Exposure} {x : Exposure}
    (ids : ((f ++ x :: b).map Exposure.id).Nodup) :
    ((f ++ x :: b).filter fun y => y.id != x.id) = f ++ b := by
  rw [List.map_append, List.map_cons, List.nodup_append, List.nodup_cons] at ids
  obtain ⟨-, ⟨behind, -⟩, before⟩ := ids
  have keep (ys : List Exposure) (apart : ∀ y ∈ ys, y.id ≠ x.id) :
      (ys.filter fun y => y.id != x.id) = ys := by
    rw [List.filter_eq_self]
    intro y hy
    exact bne_iff_ne.2 (apart y hy)
  rw [List.filter_append, List.filter_cons_of_neg (by simp), keep f, keep b]
  · intro y hy same
    rw [← same] at behind
    exact behind (List.mem_map_of_mem hy)
  · intro y hy
    exact before y.id (List.mem_map_of_mem hy) x.id (by simp)

def entry (x : Exposure) : Key × Nat := (.text x.id, x.number)

/-- The object of an exposed chip: it is at the chip's path and reads the chip's properties. -/
def object (x : Exposure) : RegisteredObject Value :=
  { registration := x.registration
    path := objectPath x.id
    object := { serial := x.serial, reader := .text x.id } }

end Exposure

/-- How many of the exposures hold the open chip with a serial number. -/
def holders (xs : List Exposure) (s : Nat) : Nat := xs.countP fun x => x.chip.serial == s

@[simp] theorem holders_nil (s : Nat) : holders [] s = 0 := rfl

theorem holders_append (xs ys : List Exposure) (s : Nat) :
    holders (xs ++ ys) s = holders xs s + holders ys s :=
  List.countP_append

theorem holders_cons (x : Exposure) (xs : List Exposure) (s : Nat) :
    holders (x :: xs) s = (if x.chip.serial = s then 1 else 0) + holders xs s := by
  simp [holders, List.countP_cons, Nat.add_comm]

theorem holders_singleton (x : Exposure) (s : Nat) :
    holders [x] s = if x.chip.serial = s then 1 else 0 :=
  holders_cons x [] s

theorem holders_filter {xs : List Exposure} {x : Exposure} (ids : (xs.map Exposure.id).Nodup)
    (hx : x ∈ xs) (s : Nat) :
    holders xs s =
      holders (xs.filter fun y => y.id != x.id) s + if x.chip.serial = s then 1 else 0 := by
  obtain ⟨front, back, rfl⟩ := List.append_of_mem hx
  rw [Exposure.filter_id ids, holders_append, holders_append, holders_cons]
  omega

namespace Roster

/-- The roster and its connection show these exposures, in this order. -/
structure Shows (r : Roster (Connection Value)) (xs : List Exposure) : Prop where
  entries : r.entries = xs.map Exposure.entry
  objects : r.bus.objects = xs.map Exposure.object
  records : ∀ x ∈ xs, r.records[x.number]? = some x.record
  ids : (xs.map Exposure.id).Nodup
  numbers : (xs.map Exposure.number).Nodup
  registrations : (xs.map Exposure.registration).Nodup
  below : ∀ x ∈ xs, x.registration < r.bus.nextRegistration

variable {r r' : Roster (Connection Value)} {xs : List Exposure} {x : Exposure}

/-- A roster without entries, over a connection without objects, shows nothing. -/
theorem Shows.nil (entries : r.entries = []) (objects : r.bus.objects = []) : r.Shows [] where
  entries := entries
  objects := objects
  records := by simp
  ids := by simp
  numbers := by simp
  registrations := by simp
  below := by simp

/-! ### Looking up -/

theorem Shows.eq_of_id (shows : r.Shows xs) {y : Exposure} (hx : x ∈ xs) (hy : y ∈ xs)
    (same : x.id = y.id) : x = y :=
  List.inj_on_of_nodup_map shows.ids hx hy same

theorem Shows.eq_of_number (shows : r.Shows xs) {y : Exposure} (hx : x ∈ xs) (hy : y ∈ xs)
    (same : x.number = y.number) : x = y :=
  List.inj_on_of_nodup_map shows.numbers hx hy same

theorem Shows.eq_of_registration (shows : r.Shows xs) {y : Exposure} (hx : x ∈ xs) (hy : y ∈ xs)
    (same : x.registration = y.registration) : x = y :=
  List.inj_on_of_nodup_map shows.registrations hx hy same

theorem Shows.keys (shows : r.Shows xs) : r.keys = xs.map fun x => .text x.id := by
  unfold Roster.keys
  rw [shows.entries, List.map_map]
  rfl

theorem Shows.find?_eq_some (shows : r.Shows xs) (hx : x ∈ xs) :
    r.find? (.text x.id) = some x.number := by
  obtain ⟨front, back, rfl⟩ := List.append_of_mem hx
  unfold Roster.find?
  rw [shows.entries, List.lookup_eq_some_iff]
  refine ⟨front.map Exposure.entry, back.map Exposure.entry, by simp [Exposure.entry], ?_⟩
  intro e he
  obtain ⟨y, hy, rfl⟩ := List.mem_map.1 he
  have different : y.id ≠ x.id := by
    have nodup := shows.ids
    rw [List.map_append, List.nodup_append] at nodup
    exact nodup.2.2 _ (List.mem_map_of_mem hy) _ (by simp)
  simpa [Exposure.entry] using fun same : x.id = y.id => different same.symm

theorem Shows.exists_of_find? (shows : r.Shows xs) {key : Key} {number : Nat}
    (found : r.find? key = some number) : ∃ x ∈ xs, key = .text x.id ∧ number = x.number := by
  unfold Roster.find? at found
  rw [shows.entries, List.lookup_eq_some_iff] at found
  obtain ⟨front, back, split, -⟩ := found
  have there : (key, number) ∈ xs.map Exposure.entry := by simp [split]
  obtain ⟨x, hx, same⟩ := List.mem_map.1 there
  cases same
  exact ⟨x, hx, rfl, rfl⟩

theorem Shows.mem_keys_iff (shows : r.Shows xs) (key : Key) :
    key ∈ r.keys ↔ ∃ x ∈ xs, key = .text x.id := by
  rw [shows.keys, List.mem_map]
  simp only [eq_comm]

/-- The keys that are known are those of the exposed devices. -/
theorem Shows.contains_iff (shows : r.Shows xs) {key : Key} :
    r.contains key = true ↔ ∃ x ∈ xs, key = .text x.id :=
  (Roster.contains_iff r key).trans (shows.mem_keys_iff key)

theorem Shows.id_ne_of_absent (shows : r.Shows xs) {t : Text}
    (absent : r.contains (.text t) = false) (hx : x ∈ xs) : x.id ≠ t := by
  rintro rfl
  rw [shows.contains_iff.2 ⟨x, hx, rfl⟩] at absent
  cases absent

theorem Shows.find?_object (shows : r.Shows xs) (hx : x ∈ xs) :
    r.bus.find? x.registration = some x.object := by
  obtain ⟨front, back, rfl⟩ := List.append_of_mem hx
  unfold Connection.find?
  rw [shows.objects, List.find?_eq_some_iff_append]
  refine ⟨by simp [Exposure.object], front.map Exposure.object,
    back.map Exposure.object, by simp, ?_⟩
  intro o ho
  obtain ⟨y, hy, rfl⟩ := List.mem_map.1 ho
  have nodup := shows.registrations
  rw [List.map_append, List.nodup_append] at nodup
  simpa [Exposure.object] using nodup.2.2 _ (List.mem_map_of_mem hy) _ (by simp)

theorem Shows.record?_eq_some (shows : r.Shows xs) (hx : x ∈ xs) :
    r.record? (.text x.id) = some x.record := by
  unfold record?
  rw [shows.find?_eq_some hx]
  exact shows.records x hx

/-- The record of an entry holds the open chip with a serial number. -/
def IsHeld (r : Roster (Connection Value)) (serial : Nat) : Prop :=
  ∃ key ∈ r.keys, ∃ record handle chip, r.record? key = some record ∧ record.handle = some handle ∧
    handle.chip = some chip ∧ chip.serial = serial

theorem Shows.isHeld_iff (shows : r.Shows xs) (serial : Nat) :
    r.IsHeld serial ↔ 0 < holders xs serial := by
  unfold holders
  rw [List.countP_pos_iff]
  constructor
  · rintro ⟨key, hkey, record, handle, chip, found, held, open_, same⟩
    obtain ⟨x, hx, rfl⟩ := (shows.mem_keys_iff key).1 hkey
    rw [shows.record?_eq_some hx] at found
    cases found
    cases held
    cases open_
    exact ⟨x, hx, by simpa using same⟩
  · rintro ⟨x, hx, same⟩
    exact ⟨.text x.id, (shows.mem_keys_iff _).2 ⟨x, hx, rfl⟩, x.record, x.handle, x.chip,
      shows.record?_eq_some hx, rfl, rfl, by simpa using same⟩

/-! ### Changes of what is shown -/

/-- A roster shows the same if it differs only in records that are not shown. -/
theorem Shows.same (shows : r.Shows xs) (entries : r'.entries = r.entries)
    (objects : r'.bus.objects = r.bus.objects)
    (next : r'.bus.nextRegistration = r.bus.nextRegistration)
    (records : ∀ x ∈ xs, r'.records[x.number]? = r.records[x.number]?) : r'.Shows xs where
  entries := entries.trans shows.entries
  objects := objects.trans shows.objects
  records x hx := (records x hx).trans (shows.records x hx)
  ids := shows.ids
  numbers := shows.numbers
  registrations := shows.registrations
  below := by rw [next]; exact shows.below

/-- The numbers of shown records are numbers of records. -/
theorem Shows.number_lt (shows : r.Shows xs) (hx : x ∈ xs) : x.number < r.records.length := by
  obtain ⟨inside, -⟩ := List.getElem?_eq_some_iff.1 (shows.records x hx)
  exact inside

/-- A new entry, record and object show one exposure more. -/
theorem Shows.add (shows : r.Shows xs) (entries : r'.entries = r.entries ++ [x.entry])
    (objects : r'.bus.objects = r.bus.objects ++ [x.object])
    (records : r'.records = r.records ++ [x.record]) (number : x.number = r.records.length)
    (registration : x.registration = r.bus.nextRegistration)
    (next : r'.bus.nextRegistration = r.bus.nextRegistration + 1)
    (absent : ∀ y ∈ xs, y.id ≠ x.id) : r'.Shows (xs ++ [x]) where
  entries := by simp [entries, shows.entries]
  objects := by simp [objects, shows.objects]
  records y hy := by
    rw [records]
    rcases List.mem_append.1 hy with old | new
    · rw [List.getElem?_append_left (shows.number_lt old)]
      exact shows.records y old
    · obtain rfl := List.mem_singleton.1 new
      simp [number]
  ids := by
    rw [List.map_append, List.map_singleton, List.nodup_append]
    refine ⟨shows.ids, by simp, ?_⟩
    simpa using absent
  numbers := by
    rw [List.map_append, List.map_singleton, List.nodup_append]
    refine ⟨shows.numbers, by simp, ?_⟩
    have different : ∀ y ∈ xs, y.number ≠ x.number := fun y hy => by
      have := shows.number_lt hy
      omega
    simpa using different
  registrations := by
    rw [List.map_append, List.map_singleton, List.nodup_append]
    refine ⟨shows.registrations, by simp, ?_⟩
    have different : ∀ y ∈ xs, y.registration ≠ x.registration := fun y hy => by
      have := shows.below y hy
      omega
    simpa using different
  below y hy := by
    rcases List.mem_append.1 hy with old | new
    · have := shows.below y old
      omega
    · obtain rfl := List.mem_singleton.1 new
      omega

/-- Without the entry and the object of an exposure the others are shown. -/
theorem Shows.remove (shows : r.Shows xs) (hx : x ∈ xs)
    (entries : r'.entries = r.entries.filter fun e => e.1 != .text x.id)
    (objects : r'.bus.objects =
      r.bus.objects.filter fun o => o.registration != x.registration)
    (records : ∀ number, number ≠ x.number → r'.records[number]? = r.records[number]?)
    (next : r'.bus.nextRegistration = r.bus.nextRegistration) :
    r'.Shows (xs.filter fun y => y.id != x.id) := by
  have sublist : (xs.filter fun y => y.id != x.id).Sublist xs := List.filter_sublist
  have different : ∀ y ∈ xs, (y.registration != x.registration) = (y.id != x.id) := by
    intro y hy
    by_cases same : y = x
    · simp [same]
    · have id : y.id ≠ x.id := fun h => same (shows.eq_of_id hy hx h)
      have registration : y.registration ≠ x.registration := fun h =>
        same (shows.eq_of_registration hy hx h)
      rw [bne_iff_ne.2 id, bne_iff_ne.2 registration]
  refine ⟨?_, ?_, ?_, ?_, ?_, ?_, ?_⟩
  · rw [entries, shows.entries, List.filter_map]
    congr 1
    refine List.filter_congr fun y _ => ?_
    rw [Bool.eq_iff_iff]
    simp [Exposure.entry]
  · rw [objects, shows.objects, List.filter_map]
    congr 1
    exact List.filter_congr fun y hy => different y hy
  · intro y hy
    have there := sublist.subset hy
    rw [records y.number, shows.records y there]
    intro same
    have := (List.mem_filter.1 hy).2
    simp [shows.eq_of_number there hx same] at this
  · exact shows.ids.sublist (sublist.map _)
  · exact shows.numbers.sublist (sublist.map _)
  · exact shows.registrations.sublist (sublist.map _)
  · intro y hy
    rw [next]
    exact shows.below y (sublist.subset hy)

end Roster

end GpioBroker
