import GpioBroker.Proofs.Ledger
import GpioBroker.Proofs.Monitoring
import GpioBroker.Service
import Mathlib.Data.Finset.Insert
import Mathlib.Data.Finset.Erase

/-!
# Starting up while devices come and go

The broker subscribes to uevents first and lists the devices then, so a change between the two is
both in the listing and among the uevents.  Following those uevents fails exactly if a device that
was there at the subscription is gone at the listing, or the other way round; if it does not fail,
no device is missed and none is left over.
-/

namespace GpioBroker

open Act

/-! ### Devices that come and go -/

/-- A device comes or goes. -/
inductive Change where
  | added (id : Text)
  | removed (id : Text)
deriving DecidableEq, Repr

namespace Change

/-- The devices after a change.  Only an absent device comes, and only a present one goes. -/
def apply (present : Finset Text) : Change → Option (Finset Text)
  | .added id => if id ∈ present then none else some (insert id present)
  | .removed id => if id ∈ present then some (present.erase id) else none

/-- The devices after some changes, if those can follow one another. -/
def lead (present : Finset Text) (changes : List Change) : Option (Finset Text) :=
  changes.foldlM apply present

theorem lead_cons (present : Finset Text) (c : Change) (cs : List Change) :
    lead present (c :: cs) = (c.apply present).bind fun next => lead next cs := rfl

theorem lead_append (present : Finset Text) (cs ds : List Change) :
    lead present (cs ++ ds) = (lead present cs).bind fun next => lead next ds :=
  List.foldlM_append ..

/-- The device that comes or goes. -/
def id : Change → Text
  | .added id => id
  | .removed id => id

variable {present next listed after : Finset Text}

theorem mem_apply_of_ne {c : Change} (moved : c.apply present = some next) {id : Text}
    (other : id ≠ c.id) :
    id ∈ next ↔ id ∈ present := by
  cases c with
  | added j =>
    by_cases there : j ∈ present <;> simp only [apply, there, if_true, if_false] at moved
    · cases moved
    · cases moved
      exact Finset.mem_insert.trans (or_iff_right other)
  | removed j =>
    by_cases there : j ∈ present <;> simp only [apply, there, if_true, if_false] at moved
    · cases moved
      exact Finset.mem_erase.trans (and_iff_right other)
    · cases moved

/-- A change says whether its device was there before. -/
theorem mem_of_apply {c : Change} (moved : c.apply present = some next) {listed' : Finset Text}
    (moved' : c.apply listed = some listed') : c.id ∈ present ↔ c.id ∈ listed := by
  cases c with
  | added j =>
    by_cases there : j ∈ present <;> by_cases there' : j ∈ listed <;> simp_all [apply, id]
  | removed j =>
    by_cases there : j ∈ present <;> by_cases there' : j ∈ listed <;> simp_all [apply, id]

/-- Changes that can follow on some devices cannot follow on others, one of which is there as after
them and not as before them. -/
theorem lead_eq_none {cs : List Change} {id : Text} (window : lead present cs = some after)
    (before : id ∉ present ↔ id ∈ listed) (since : id ∈ after ↔ id ∈ listed) :
    lead listed cs = none := by
  induction cs generalizing present listed with
  | nil =>
    cases window
    exact absurd (before.trans since.symm) (by simp)
  | cons c cs ih =>
    rw [lead_cons] at window ⊢
    obtain ⟨next, moved, rest⟩ := Option.bind_eq_some_iff.1 window
    cases moved' : c.apply listed with
    | none => rfl
    | some listed' =>
      have other : id ≠ c.id := by
        rintro rfl
        rw [mem_of_apply moved moved'] at before
        exact absurd before (by simp)
      rw [Option.bind_some]
      refine ih rest ?_ ?_
      · rw [mem_apply_of_ne moved other, mem_apply_of_ne moved' other, before]
      · rw [mem_apply_of_ne moved' other, since]

/-- The changes since a subscription, after a listing that came later: they follow on what was
listed exactly if that is what was there at the subscription. -/
theorem lead_again {subscribed : Finset Text} {during later : List Change}
    (window : lead subscribed during = some listed) (further : lead listed later = some after) :
    lead listed (during ++ later) = if subscribed = listed then some after else none := by
  rw [lead_append]
  by_cases same : subscribed = listed
  · subst same
    rw [if_pos rfl, window, Option.bind_some, further]
  · rw [if_neg same]
    obtain ⟨id, apart⟩ : ∃ id, ¬ (id ∈ subscribed ↔ id ∈ listed) := by
      by_contra all
      exact same (Finset.ext fun id => not_not.1 fun apart => all ⟨id, apart⟩)
    rw [lead_eq_none window (not_iff.1 apart) Iff.rfl, Option.bind_none]

/-- Devices that come where none of them is are there in the end. -/
theorem lead_added {ids : List Text} (once : ids.Nodup) (absent : ∀ id ∈ ids, id ∉ present) :
    ∃ next, lead present (ids.map .added) = some next ∧ ∀ id, id ∈ next ↔
      id ∈ present ∨ id ∈ ids := by
  induction ids generalizing present with
  | nil => exact ⟨present, rfl, by simp⟩
  | cons id ids ih =>
    obtain ⟨apart, once⟩ := List.nodup_cons.1 once
    have absent' : ∀ other ∈ ids, other ∉ insert id present := by
      intro other there
      have different : other ≠ id := fun same => apart (same ▸ there)
      simp [different, absent other (List.mem_cons_of_mem _ there)]
    obtain ⟨next, rest, all⟩ := ih once absent'
    refine ⟨next, ?_, fun other => ?_⟩
    · rw [List.map_cons, lead_cons, apply, if_neg (absent id List.mem_cons_self),
        Option.bind_some, rest]
    · rw [all, Finset.mem_insert, List.mem_cons]
      tauto

/-- The action that the device manager reports of a change. -/
def action : Change → Text
  | .added _ => "add"
  | .removed _ => "remove"

/-- Uevents that report some changes: one on a chip device for each, in their order, and any on
twins between them. -/
inductive AreReported : List Change → List Uevent → Prop
  | done : AreReported [] []
  | change {c : Change} {u : Uevent} {cs us} (chip : u.isChipDevice = true)
      (name : u.deviceId = .text c.id) (action : u.action = .text c.action)
      (rest : AreReported cs us) : AreReported (c :: cs) (u :: us)
  | twin {u : Uevent} {cs us} (twin : u.isChipDevice = false) (rest : AreReported cs us) :
      AreReported cs (u :: us)

theorem AreReported.append {cs cs' : List Change} {us us' : List Uevent} (first : AreReported cs us)
    (second : AreReported cs' us') : AreReported (cs ++ cs') (us ++ us') := by
  induction first with
  | done => exact second
  | change chip name action rest ih => exact .change chip name action ih
  | twin twin rest ih => exact .twin twin ih

end Change

/-- The names of the chip devices among some devices. -/
def chipNames (ds : List ManagedDevice) : List Text :=
  (ds.filter fun d => d.node.isSome).map fun d => d.name.display

/-- A listing names each chip device that is there once, in any order. -/
structure AreListed (present : Finset Text) (ds : List ManagedDevice) : Prop where
  once : (chipNames ds).Nodup
  all : ∀ id, id ∈ chipNames ds ↔ id ∈ present

/-- What a listing tells of a device. -/
def listedUevent (d : ManagedDevice) : Uevent := d.uevent (some (.text "add"))

/-- A listing tells of its devices as if they came. -/
theorem areReported_listing (ds : List ManagedDevice) :
    Change.AreReported ((chipNames ds).map .added) (ds.map listedUevent) := by
  induction ds with
  | nil => exact .done
  | cons d ds ih =>
    cases file : d.node.isSome with
    | false =>
      have names : chipNames (d :: ds) = chipNames ds := by simp [chipNames, file]
      rw [names]
      exact .twin file ih
    | true =>
      have names : chipNames (d :: ds) = d.name.display :: chipNames ds := by simp [chipNames, file]
      rw [names]
      exact .change file rfl rfl ih

/-- The devices of a listing can come where nothing was. -/
theorem AreListed.lead {present : Finset Text} {ds : List ManagedDevice}
    (listed : AreListed present ds) :
    Change.lead ∅ ((chipNames ds).map .added) = some present := by
  obtain ⟨next, lead, all⟩ := @Change.lead_added ∅ _ listed.once (by simp)
  rw [lead]
  congr 1
  ext id
  simp [all, listed.all]

/-! ### Following reports -/

theorem forM_map {α γ σ : Type} (f : γ → Act σ Unit) (g : α → γ) (cs : List α) :
    (cs.map g).forM f = cs.forM fun c => f (g c) :=
  List.forM_map

namespace Broker

variable {b : Service}

/-- The broker exposes exactly these devices, each once. -/
structure Holds (b : Service) (present : Finset Text) : Prop where
  once : b.roster.keys.Nodup
  all : ∀ key, key ∈ b.roster.keys ↔ ∃ id ∈ present, key = .text id

/-- Whether all that an action on a device makes the broker try succeeds: an absent device that
comes can be exposed, and a device that goes can be given up. -/
def succeeds (b : Service) (u : Uevent) : Bool :=
  match u.isChipDevice, u.deviceId.toKey with
  | true, .ok key =>
    match b.roster.find? key with
    | none => u.action != .text "add" || b.exposes u.deviceId
    | some number => u.action != .text "remove" || b.roster.yields number
  | _, _ => true

variable {h : Host Service} {present : Finset Text} {u : Uevent}

/-- How a change ends that is reported of some devices which are exposed. -/
def Followed (present : Finset Text) (c : Change) (r : Except Failure Unit)
    (h : Host Service) : Prop :=
  match c.apply present with
  | some next => r = .ok () ∧ h.state.Holds next
  | none => ∃ e, r = .error e ∧ e.fault.kind = .roster

theorem mem_keys_iff_mem (holds : b.Holds present) (id : Text) :
    .text id ∈ b.roster.keys ↔ id ∈ present := by
  rw [holds.all]
  simp

/-- A device that was not there is exposed after the others. -/
theorem Holds.insert {b' : Service} {id : Text} (holds : b.Holds present) (absent : id ∉ present)
    (keys : b'.roster.keys = b.roster.keys ++ [.text id]) : b'.Holds (insert id present) where
  once := by
    have absent : .text id ∉ b.roster.keys := by rwa [mem_keys_iff_mem holds]
    rw [keys]
    exact holds.once.append (List.nodup_singleton _) (List.disjoint_singleton.2 absent)
  all key := by
    rw [keys, List.mem_append, holds.all, List.mem_singleton]
    simp only [Finset.mem_insert]
    constructor
    · rintro (⟨other, there, rfl⟩ | rfl)
      · exact ⟨other, .inr there, rfl⟩
      · exact ⟨id, .inl rfl, rfl⟩
    · rintro ⟨other, rfl | there, rfl⟩
      · exact .inr rfl
      · exact .inl ⟨other, there, rfl⟩

/-- A device is not exposed any more. -/
theorem Holds.erase {b' : Service} {id : Text} (holds : b.Holds present)
    (keys : b'.roster.keys = b.roster.keys.filter (· != .text id)) :
    b'.Holds (present.erase id) where
  once := by
    rw [keys]
    exact holds.once.filter _
  all key := by
    rw [keys, List.mem_filter, holds.all, bne_iff_ne]
    simp only [Finset.mem_erase]
    constructor
    · rintro ⟨⟨other, there, rfl⟩, different⟩
      exact ⟨other, ⟨fun same => different (by rw [same]), there⟩, rfl⟩
    · rintro ⟨other, ⟨different, there⟩, rfl⟩
      exact ⟨⟨other, there, rfl⟩, fun same => different (by cases same; rfl)⟩

/-- An addition that succeeds, of a device that comes. -/
theorem followed_of_added {id : Text} {r : Except Failure (Option Nat)} {h' : Host Service}
    (holds : h.state.Holds present) (exposes : id ∉ present → h.state.exposes (.text id) = true)
    (added : Ledger.Added (.text id) h h.state.roster.keys h' r h'.state.roster.keys) :
    Followed present (.added id) (r.map fun _ => ()) h' := by
  unfold Followed
  generalize keys : h'.state.roster.keys = ledger at added
  cases added with
  | refused key named there e kind same =>
    cases named
    rw [mem_keys_iff_mem holds] at there
    rw [Change.apply, if_pos there]
    exact ⟨e, rfl, kind⟩
  | exposed key named absent exposes number =>
    cases named
    have apart : id ∉ present := by rwa [mem_keys_iff_mem holds] at absent
    rw [Change.apply, if_neg apart]
    exact ⟨rfl, holds.insert apart keys⟩
  | dropped absent misses _ dropped =>
    have absent := absent (.text id) rfl
    rw [mem_keys_iff_mem holds] at absent
    rw [exposes absent] at misses
    cases misses

/-- A removal of a device whose parts can be given up succeeds. -/
theorem ends_remove_ok {h : Host (Roster (Connection Value))} {deviceId : Value} {key : Key}
    {number : Nat} (named : deviceId.toKey = .ok key) (found : h.state.find? key = some number)
    (yields : h.state.yields number = true) :
    (Roster.remove deviceId).Ends h fun r _ => r = .ok () := by
  have destroyed : (Roster.destroy number).Ends h fun r _ => r.isOk = h.state.yields number :=
    Roster.isOk_run_destroy number h
  unfold Roster.remove
  simp only [ends_bind, ends_state, named, ends_ofExcept_ok, found]
  refine destroyed.ensure ?_
  rintro r h₁ isOk
  rw [yields] at isOk
  cases r with
  | ok _ => rfl
  | error _ => cases isOk

theorem exposes_of_succeeds {b : Service} {id : Text} (succeeds : b.succeeds u = true)
    (chip : u.isChipDevice = true) (name : u.deviceId = .text id) (action : u.action = .text "add")
    (absent : .text id ∉ b.roster.keys) : b.exposes (.text id) = true := by
  have named : u.deviceId.toKey = .ok (.text id) := by rw [name]; rfl
  unfold Broker.succeeds at succeeds
  rw [chip, named] at succeeds
  simpa [(Roster.find?_eq_none_iff _ _).2 absent, action, name] using succeeds

theorem yields_of_succeeds {b : Service} {id : Text} {number : Nat} (succeeds : b.succeeds u = true)
    (chip : u.isChipDevice = true) (name : u.deviceId = .text id)
    (action : u.action = .text "remove") (found : b.roster.find? (.text id) = some number) :
    b.roster.yields number = true := by
  have named : u.deviceId.toKey = .ok (.text id) := by rw [name]; rfl
  unfold Broker.succeeds at succeeds
  rw [chip, named] at succeeds
  simpa [found, action] using succeeds

theorem ends_addChip_added {id : Text} (holds : h.state.Holds present)
    (exposes : id ∉ present → h.state.exposes (.text id) = true) :
    (addChip (.text id)).Ends h fun r h' => Followed present (.added id) (r.map fun _ => ()) h' :=
  (Ledger.ends_addChip (.text id)).mono fun _ _ added => followed_of_added holds exposes added

theorem ends_removeChip_removed {id : Text} (holds : h.state.Holds present)
    (yields : ∀ number, h.state.roster.find? (.text id) = some number →
      h.state.roster.yields number = true) :
    (removeChip (.text id)).Ends h fun r h' => Followed present (.removed id) r h' := by
  unfold removeChip
  simp only [ends_bind, ends_log]
  refine Ends.within ?_
  unfold Followed
  cases found : h.state.roster.find? (.text id) with
  | none =>
    have absent := (Roster.find?_eq_none_iff _ _).1 found
    refine (Ledger.ends_remove (.text id)).mono ?_
    rintro r h' (⟨key, named, there, -⟩ | ⟨-, -, e, rfl, kind⟩)
    · cases named
      exact absurd there absent
    · rw [mem_keys_iff_mem holds] at absent
      rw [Change.apply, if_neg absent]
      exact ⟨e, rfl, kind _ rfl⟩
  | some number =>
    have there : .text id ∈ h.state.roster.keys := by
      by_contra absent
      rw [(Roster.find?_eq_none_iff _ _).2 absent] at found
      cases found
    refine Ends.mono (Ends.and (Ledger.ends_remove (.text id))
      (ends_remove_ok (Value.toKey_text id) found (yields number found))) ?_
    rintro r h' ⟨⟨key, named, -, keys⟩ | ⟨absent, -⟩, rfl⟩
    · cases named
      rw [mem_keys_iff_mem holds] at there
      rw [Change.apply, if_pos there]
      exact ⟨rfl, holds.erase keys⟩
    · exact absurd there (absent _ rfl)

/-- A reported change does to the exposed devices what it did to the devices, and fails if it cannot
follow on those that are exposed. -/
theorem ends_handle_change {c : Change} (holds : h.state.Holds present)
    (chip : u.isChipDevice = true) (name : u.deviceId = .text c.id)
    (action : u.action = .text c.action) (succeeds : h.state.succeeds u = true) :
    (handle (.uevent u)).Ends h fun r h' => Followed present c r h' := by
  change (onUevent u).Ends h _
  unfold onUevent
  rw [if_pos chip]
  simp only [ends_bind, ends_log]
  cases c with
  | added id =>
    have action : u.action = .text "add" := action
    have name : u.deviceId = .text id := name
    rw [if_pos action, name]
    refine ends_discard.2 (ends_addChip_added holds fun absent => ?_)
    rw [← mem_keys_iff_mem holds] at absent
    exact exposes_of_succeeds succeeds chip name action absent
  | removed id =>
    have action : u.action = .text "remove" := action
    have name : u.deviceId = .text id := name
    rw [if_neg (by rw [action]; decide), if_pos action, name]
    exact ends_removeChip_removed holds fun number found =>
      yields_of_succeeds succeeds chip name action found

theorem ends_addEntry_change {id : Text} (holds : h.state.Holds present)
    (chip : u.isChipDevice = true) (name : u.deviceId = .text id) (action : u.action = .text "add")
    (succeeds : h.state.succeeds u = true) :
    (addEntry (.uevent u)).Ends h fun r h' => Followed present (.added id) r h' := by
  rw [Ledger.addEntry_chip chip, name]
  refine ends_discard.2 (ends_addChip_added holds fun absent => ?_)
  rw [← mem_keys_iff_mem holds] at absent
  exact exposes_of_succeeds succeeds chip name action absent

theorem ends_addEntry_listed {ids : List Text} (c : Change) (hc : c ∈ ids.map Change.added)
    (h : Host Service) (present : Finset Text) (u : Uevent) (holds : h.state.Holds present)
    (chip : u.isChipDevice = true) (name : u.deviceId = .text c.id)
    (action : u.action = .text c.action) (succeeds : h.state.succeeds u = true) :
    (addEntry (.uevent u)).Ends h fun r h' => Followed present c r h' := by
  obtain ⟨id, -, rfl⟩ := List.mem_map.1 hc
  exact ends_addEntry_change holds chip name action succeeds

theorem isOblivious_addEntry (u : Uevent) : (addEntry (.uevent u) : Act Service Unit).IsOblivious :=
  IsOblivious.ite (isOblivious_addChip _).discard (isOblivious_pure ())

/-- Whether all that is tried on the way through some uevents succeeds. -/
def undisturbed (react : Event → Act Service Unit) : List Uevent → Service → Bool
  | [], _ => true
  | u :: us, b => b.succeeds u &&
    match (react (.uevent u)).run { state := b } with
    | (.ok _, h) => undisturbed react us h.state
    | (.error _, _) => true

/-- What is tried for the first uevent succeeds, and so does the rest from where that ends, whatever
else the host holds. -/
theorem undisturbed_cons {react : Event → Act Service Unit} {us : List Uevent}
    (oblivious : (react (.uevent u)).IsOblivious)
    (smooth : undisturbed react (u :: us) h.state = true) :
    h.state.succeeds u = true ∧ ∀ a h', (react (.uevent u)).run h = (.ok a, h') →
      undisturbed react us h'.state = true := by
  unfold undisturbed at smooth
  rw [Bool.and_eq_true] at smooth
  refine ⟨smooth.1, fun a h' ran => ?_⟩
  have apart := oblivious h
  rw [ran] at apart
  have smooth := smooth.2
  generalize (react (.uevent u)).run { state := h.state } = bare at apart smooth
  obtain ⟨r, h₁⟩ := bare
  cases apart
  exact smooth

/-- Reports that are reacted to one after another do to the exposed devices what the changes did to
the devices, and fail if the changes cannot follow on those that are exposed. -/
theorem ends_forM_react {react : Event → Act Service Unit} {cs : List Change} {us : List Uevent}
    (reported : Change.AreReported cs us) (oblivious : ∀ u, (react (.uevent u)).IsOblivious)
    (twin : ∀ u, u.isChipDevice = false → react (.uevent u) = pure ())
    (change : ∀ c ∈ cs, ∀ (h : Host Service) present u, h.state.Holds present →
      u.isChipDevice = true →
      u.deviceId = .text c.id → u.action = .text c.action → h.state.succeeds u = true →
      (react (.uevent u)).Ends h fun r h' => Followed present c r h')
    (holds : h.state.Holds present) (smooth : undisturbed react us h.state = true) :
    (us.forM fun u => react (.uevent u)).Ends h fun r h' =>
      match Change.lead present cs with
      | some next => r = .ok () ∧ h'.state.Holds next
      | none => ∃ e, r = .error e ∧ e.fault.kind = .roster := by
  induction reported generalizing h present with
  | done => exact ⟨rfl, holds⟩
  | @twin u cs us legacy rest ih =>
    have smooth : undisturbed react us h.state = true :=
      (undisturbed_cons (oblivious u) smooth).2 () h (by rw [twin u legacy, run_pure])
    rw [ends_forM_cons, twin u legacy, ends_bind, ends_pure]
    exact ih change holds smooth
  | @change c u cs us chip name action rest ih =>
    obtain ⟨succeeds, goesOn⟩ := undisturbed_cons (oblivious u) smooth
    have first := change c List.mem_cons_self h present u holds chip name action succeeds
    rw [ends_forM_cons, Change.lead_cons]
    unfold Followed at first
    cases moved : c.apply present with
    | none =>
      rw [moved] at first
      refine first.bind ?_ ?_
      · rintro a h' ⟨e, failed, -⟩
        cases failed
      · exact fun e h' failed => failed
    | some next =>
      rw [moved] at first
      refine ((ends_run _ h).and first).bind ?_ ?_
      · rintro a h' ⟨ran, -, holds'⟩
        exact ih (fun c' hc' => change c' (List.mem_cons_of_mem _ hc')) holds' (goesOn a h' ran)
      · rintro e h' ⟨-, ok, -⟩
        cases ok

theorem isOblivious_handle (u : Uevent) : (handle (.uevent u) : Act Service Unit).IsOblivious :=
  isOblivious_onUevent u

theorem handle_twin {u : Uevent} (twin : u.isChipDevice = false) :
    handle (.uevent u) = (pure () : Act Service Unit) := by
  simp [handle, onUevent, twin]

/-- The loop goes on after a uevent that was handled, and fails as that did unless the name was
lost. -/
theorem ends_react {Q : Except Failure Unit → Host Service → Prop}
    (handled : (handle (.uevent u)).Ends h Q)
    (other : ∀ e h', Q (.error e) h' → e.fault.isNameLoss = false) :
    (Supervisor.react (.uevent u)).Ends h fun r h' =>
      Q (r.map fun _ => ()) h' ∧ ∀ status, r = .ok status → status = none := by
  have going : (do handle (.uevent u); return none : Act Service (Option Int)).Ends h fun r h' =>
      Q (r.map fun _ => ()) h' ∧ ∀ status, r = .ok status → status = none := by
    refine handled.bind ?_ ?_
    · exact fun _ h' first => ⟨first, fun _ ok => by cases ok; rfl⟩
    · exact fun e h' first => ⟨first, fun _ ok => by cases ok⟩
  unfold Supervisor.react
  refine going.recover ?_ ?_ ?_
  · exact fun _ _ facts => facts
  · exact fun _ _ facts _ => facts
  · rintro e h' ⟨first, -⟩ lost
    rw [other e h' first] at lost
    cases lost

/-- A report was handled, and the reports after it end as expected from there on. -/
structure Proceeds (us : List Uevent) (Q : Except Failure Unit → Service → Prop)
    (r : Except Failure Unit) (b : Service) : Prop where
  failed : ∀ e, r = .error e → Q (.error e) b
  going : ∀ u, r = .ok u → (us.forM fun u => handle (.uevent u)).Ends { state := b }
    fun r h' => Q r h'.state

/-- The loop over the uevents that wait handles them one after another, up to the first failure. -/
theorem ends_takeEvents {us : List Uevent} {Q : Except Failure Unit → Service → Prop}
    (waiting : h.queue = us.map .uevent)
    (handled : (us.forM fun u => handle (.uevent u)).Ends h fun r h' => Q r h'.state)
    (other : ∀ e b, Q (.error e) b → e.fault.isNameLoss = false) :
    (Supervisor.takeEvents us.length).Ends h fun r h' =>
      ∃ r₀, r = r₀.map (fun _ => none) ∧ Q r₀ h'.state := by
  induction us generalizing h with
  | nil => exact ⟨.ok (), rfl, handled⟩
  | cons u us ih =>
    have rest := IsOblivious.forM isOblivious_handle us
    -- only the queue differs from the host that the reports were handled on, and nothing looks at
    -- it
    have handled : (handle (.uevent u)).Ends h fun r h' => Proceeds us Q r h'.state := by
      refine (ends_bind.1 (ends_forM_cons.1 handled)).mono ?_
      rintro (e | a) h' first
      · refine ⟨fun e' failed => ?_, fun a ok => by cases ok⟩
        cases failed
        exact first
      · refine ⟨fun e' failed => ?_, fun _ _ => rest.ends_congr first _ rfl⟩
        cases failed
    have popped : (handle (.uevent u)).Ends { h with queue := us.map .uevent } fun r h' =>
        h'.queue = us.map .uevent ∧ Proceeds us Q r h'.state :=
      ((isOblivious_handle u).ends_queue _).and ((isOblivious_handle u).ends_congr handled _ rfl)
    have reacted := ends_react popped fun e h' first => other e _ (first.2.failed e rfl)
    rw [List.length_cons]
    unfold Supervisor.takeEvents Supervisor.takeEvent
    simp only [ends_bind, ends_take?, waiting, List.map_cons]
    refine reacted.mono ?_
    rintro (e | status) h' ⟨⟨queue, first⟩, going⟩
    · exact ⟨.error e, rfl, first.failed e rfl⟩
    · obtain rfl := going status rfl
      exact ih queue (rest.ends_congr (first.going () rfl) _ rfl)

end Broker

/-! ### The start -/

/-- A start of the broker in a world whose devices change. -/
structure Startup where
  /-- The name that is acquired. -/
  name : Value
  /-- The devices that are listed. -/
  listed : List ManagedDevice
  /-- The reports of what happens between the subscription and the listing. -/
  during : List ManagedDevice
  /-- The reports of what happens after the listing. -/
  later : List ManagedDevice

namespace Startup

/-- The broker notes that it acquired its name, and subscribes to uevents. -/
def subscribe (name : Value) : Act Service Unit := do
  Act.log .debug ("DBus name acquired: '" ++ name.display ++ "'")
  Broker.setOwnership .acquired
  Broker.withinSource UeventSource.subscribe

/-- The broker lists the devices and adds them. -/
def catchUp : Act Service Unit := do
  let listing ← Broker.withinSource UeventSource.enumerate
  Broker.addListed listing

/-- The broker follows the acquisition of its name in these two steps. -/
theorem onNameAcquired_eq (name : Value) :
    Broker.onNameAcquired name = (do subscribe name; catchUp) := rfl

/-- The broker subscribes, and the world goes on before the devices are listed. -/
def meet (s : Startup) : Act Service Unit := do
  subscribe s.name
  Broker.withinSource do
    MonitorSource.replaceDevices s.listed
    MonitorSource.enqueue s.during

/-- The world goes on, and what was reported since the subscription is brought. -/
def deliver (s : Startup) : Act Service Unit :=
  Broker.withinSource do
    MonitorSource.enqueue s.later
    UeventSource.poll

/-- The broker is ready to handle what was reported. -/
def prepare (s : Startup) : Act Service Unit := do
  s.meet
  catchUp
  s.deliver

/-- The whole start: the name is acquired, and then all that was reported is handled. -/
def run (s : Startup) : Act Service (Option Int) := do
  s.prepare
  let count ← Act.waiting
  Supervisor.takeEvents count

/-- The reports since the subscription. -/
def reports (s : Startup) : List Uevent := (s.during ++ s.later).map fun d => d.uevent

/-- A broker before its start. -/
def fresh (bindings : Bindings) (bus : Connection Value) (manager : DeviceManager) :
    Host Service where
  state := { bindings, roster := { bus }, source := { manager } }

/-- All that the broker tries succeeds, as it adds what is listed and as it follows the reports. -/
def isUndisturbed (s : Startup) (h : Host Service) : Bool :=
  Broker.undisturbed Broker.addEntry (s.listed.map listedUevent) (s.meet.run h).2.state &&
    Broker.undisturbed Broker.handle s.reports (s.prepare.run h).2.state

/-- The device manager works, and nothing waits to be reported. -/
structure IsCalm (m : DeviceManager) : Prop where
  pending : m.pending = []
  monitor : m.monitorFault = none
  filter : m.filterFault = none
  start : m.startFault = none
  watch : m.watchFault = none
  list : m.listFault = none
  polls : ∀ f, some f ∉ m.pollFaults

/-- The source watches a monitor, on which these reports wait. -/
structure Watches (source : MonitorSource) (devices pending : List ManagedDevice) : Prop where
  devices : source.manager.devices = devices
  pending : source.manager.pending = pending
  list : source.manager.listFault = none
  polls : ∀ f, some f ∉ source.manager.pollFaults
  subscribed : source.isSubscribed = true
  watched : source.watched.isEmpty = false

variable {s : Startup} {h : Host Service}

theorem ends_monitor {h : Host MonitorSource} (fresh : h.state.monitor = none)
    (calm : IsCalm h.state.manager) :
    MonitorSource.subscribe.Ends h fun r h' => r = .ok () ∧ h'.queue = h.queue ∧
      Watches h'.state h.state.manager.devices [] := by
  refine (MonitorSource.ends_subscribe h).mono ?_
  intro r h' subscribing
  cases subscribing with
  | held subscribed same => simp [MonitorSource.isSubscribed, fresh] at subscribed
  | opened _ _ state queue calls =>
    refine ⟨rfl, queue, ?_⟩
    rw [state]
    exact ⟨rfl, calm.pending, calm.list, calm.polls, rfl, rfl⟩
  | failed f _ fault state queue asked first calls =>
    simp [MonitorSource.openingFault, calm.monitor, calm.filter, calm.start, calm.watch] at fault

theorem ends_meet (fresh : h.state.source.monitor = none) (calm : IsCalm h.state.source.manager) :
    s.meet.Ends h fun r h' => r = .ok () ∧ h'.queue = h.queue ∧ h'.state.roster = h.state.roster ∧
      Watches h'.state.source s.listed s.during := by
  unfold meet subscribe Broker.setOwnership
  simp only [ends_bind, ends_log, ends_update]
  refine Ends.within (Ends.mono (ends_monitor fresh calm) ?_)
  rintro r h₁ ⟨rfl, queue, watches⟩
  refine Ends.within ?_
  unfold MonitorSource.replaceDevices MonitorSource.enqueue
  simp only [ends_bind, ends_update]
  refine ⟨trivial, queue, rfl, rfl, ?_, watches.list, watches.polls, watches.subscribed,
    watches.watched⟩
  exact congrArg (· ++ s.during) watches.pending

/-- Adding a device leaves the source and the events as they are. -/
theorem keeps_addEntry (source : MonitorSource) (queue : List Event) (u : Uevent) :
    (Broker.addEntry (.uevent u)).Keeps fun h : Host Service =>
      h.state.source = source ∧ h.queue = queue := by
  rintro h ⟨rfl, rfl⟩
  have silent := (Broker.isOblivious_addEntry u).ends_queue h
  refine Ends.and ?_ silent
  unfold Broker.addEntry
  refine ends_ite (fun _ => ?_) fun _ => rfl
  exact ends_discard.2 ((Broker.ends_addChip _).mono fun _ _ added => added.1.source)

theorem ends_catchUp {present : Finset Text} (holds : h.state.Holds ∅)
    (watches : Watches h.state.source s.listed s.during) (listed : AreListed present s.listed)
    (smooth : Broker.undisturbed Broker.addEntry (s.listed.map listedUevent) h.state = true) :
    catchUp.Ends h fun r h' => r = .ok () ∧ h'.state.Holds present ∧
      h'.state.source = h.state.source ∧ h'.queue = h.queue := by
  unfold catchUp
  rw [ends_bind]
  refine Ends.within ?_
  change MonitorSource.enumerate.Ends _ _
  unfold MonitorSource.enumerate Broker.addListed
  simp only [ends_bind, ends_state, ends_note, ends_pure, Host.withState]
  have events : h.state.source.manager.devices.map
      (fun d => Event.uevent (d.uevent (some (.text "add")))) =
        (s.listed.map listedUevent).map .uevent := by
    rw [watches.devices, List.map_map]
    rfl
  have added := fun calls => Broker.ends_forM_react (areReported_listing s.listed)
    Broker.isOblivious_addEntry (fun _ => Ledger.addEntry_twin) Broker.ends_addEntry_listed
    (h := { h with calls }) holds smooth
  have kept := fun calls => Keeps.forM (keeps_addEntry h.state.source h.queue)
    (s.listed.map listedUevent) { h with calls } ⟨rfl, rfl⟩
  simp only [listed.lead] at added
  rw [events, forM_map]
  refine ((added _).and (kept _)).mono ?_
  rintro r h₁ ⟨⟨rfl, holds₁⟩, source, queue⟩
  rw [watches.list]
  exact ⟨rfl, holds₁, source, queue⟩

theorem ends_deliver (watches : Watches h.state.source s.listed s.during) :
    s.deliver.Ends h fun r h' => r = .ok () ∧ h'.state.roster = h.state.roster ∧
      h'.queue = h.queue ++ s.reports.map .uevent := by
  unfold deliver
  refine Ends.within ?_
  rw [ends_bind]
  unfold MonitorSource.enqueue
  simp only [ends_update]
  change MonitorSource.poll.Ends _ _
  unfold MonitorSource.poll
  simp only [ends_bind, ends_state, Host.withState, watches.watched]
  refine ends_discard.2 (Ends.attempt ((MonitorSource.ends_drain _).mono ?_))
  rintro r h' (⟨-, drains⟩ | ⟨unsubscribed, -⟩)
  · obtain ⟨-, -, queue⟩ := drains.all watches.polls
    refine ⟨rfl, trivial, ?_⟩
    rw [queue, reports, List.map_map, MonitorSource.waiting, watches.pending]
    rfl
  · cases watches.subscribed.symm.trans unsubscribed

theorem holds_empty {b : Service} (empty : b.roster.entries = []) : b.Holds ∅ where
  once := by simp [Roster.keys, empty]
  all := by simp [Roster.keys, empty]

theorem ends_prepare {present : Finset Text} (empty : h.state.roster.entries = [])
    (fresh : h.state.source.monitor = none) (calm : IsCalm h.state.source.manager)
    (listed : AreListed present s.listed)
    (smooth : Broker.undisturbed Broker.addEntry (s.listed.map listedUevent)
      (s.meet.run h).2.state = true) :
    s.prepare.Ends h fun r h' => r = .ok () ∧ h'.state.Holds present ∧
      h'.queue = h.queue ++ s.reports.map .uevent := by
  unfold prepare
  refine ((ends_run _ h).and (ends_meet fresh calm)).bind ?_ ?_
  · rintro _ h₁ ⟨ran, -, queue₁, roster, watches⟩
    rw [ran] at smooth
    have holds : h₁.state.Holds ∅ := holds_empty (by rw [roster, empty])
    refine (ends_catchUp holds watches listed smooth).bind ?_ ?_
    · rintro _ h₂ ⟨-, holds, source, queue₂⟩
      rw [← source] at watches
      refine (ends_deliver watches).mono ?_
      rintro r h₃ ⟨rfl, roster, queue₃⟩
      refine ⟨rfl, ⟨?_, ?_⟩, ?_⟩
      · rw [roster]
        exact holds.once
      · rw [roster]
        exact holds.all
      · rw [queue₃, queue₂, queue₁]
    · rintro e h₂ ⟨failed, -⟩
      cases failed
  · rintro e h₁ ⟨-, failed, -⟩
    cases failed

/-- Following the reports since the subscription, once what was listed is exposed. -/
theorem ends_follow {subscribed listed present : Finset Text} {during later : List Change}
    {us : List Uevent} (window : Change.lead subscribed during = some listed)
    (further : Change.lead listed later = some present)
    (reported : Change.AreReported (during ++ later) us) (holds : h.state.Holds listed)
    (queue : h.queue = us.map .uevent)
    (smooth : Broker.undisturbed Broker.handle us h.state = true) :
    (Supervisor.takeEvents us.length).Ends h fun r h' =>
      ((∃ e, r = .error e ∧ e.fault.kind = .roster) ↔ subscribed ≠ listed) ∧
        (subscribed = listed → r = .ok none) ∧
        ∀ status, r = .ok status → h'.state.Holds present := by
  have handled := Broker.ends_forM_react reported Broker.isOblivious_handle
    (fun _ => Broker.handle_twin)
    (fun _ _ _ _ _ holds chip name action succeeds =>
      Broker.ends_handle_change holds chip name action succeeds) holds smooth
  rw [Change.lead_again window further] at handled
  by_cases same : subscribed = listed
  · simp only [if_pos same] at handled
    refine (Broker.ends_takeEvents (Q := fun r b => r = .ok () ∧ b.Holds present) queue
      handled ?_).mono ?_
    · rintro e b ⟨failed, -⟩
      cases failed
    · rintro r h' ⟨_, rfl, rfl, holds⟩
      refine ⟨⟨?_, fun apart => absurd same apart⟩, fun _ => rfl, fun _ _ => holds⟩
      rintro ⟨e, failed, -⟩
      cases failed
  · simp only [if_neg same] at handled
    refine (Broker.ends_takeEvents
      (Q := fun r _ => ∃ e, r = .error e ∧ e.fault.kind = .roster) queue handled ?_).mono ?_
    · rintro e b ⟨_, failed, kind⟩
      cases failed
      unfold Fault.isNameLoss
      rw [kind]
      rfl
    · rintro r h' ⟨_, rfl, e, rfl, kind⟩
      refine ⟨⟨fun _ => same, fun _ => ⟨e, rfl, kind⟩⟩, fun there => absurd there same, ?_⟩
      rintro status ok
      cases ok

/-- Unless something else disturbs it, the start fails exactly if the devices that were there at the
subscription are not those that were listed, and then with a fault of the roster.  If it does not
fail, the broker exposes the devices that are there in the end. -/
theorem ends_start (s : Startup) (bindings : Bindings) (bus : Connection Value)
    (manager : DeviceManager) {subscribed listed present : Finset Text} {during later : List Change}
    (calm : IsCalm manager)
    (window : Change.lead subscribed during = some listed)
    (further : Change.lead listed later = some present)
    (lists : AreListed listed s.listed)
    (reported : Change.AreReported during (s.during.map fun d => d.uevent))
    (reportedLater : Change.AreReported later (s.later.map fun d => d.uevent))
    (smooth : s.isUndisturbed (fresh bindings bus manager) = true) :
    s.run.Ends (fresh bindings bus manager) fun r h' =>
      ((∃ e, r = .error e ∧ e.fault.kind = .roster) ↔ subscribed ≠ listed) ∧
        (subscribed = listed → r = .ok none) ∧
        ∀ status, r = .ok status → h'.state.Holds present := by
  unfold isUndisturbed at smooth
  obtain ⟨smooth, smoothLater⟩ := Bool.and_eq_true_iff.1 smooth
  have prepared := ends_prepare (h := fresh bindings bus manager) rfl rfl calm lists smooth
  unfold run
  refine ((ends_run _ _).and prepared).bind ?_ ?_
  · rintro _ h₁ ⟨ran, -, holds, queue⟩
    rw [ran] at smoothLater
    have reports : Change.AreReported (during ++ later) s.reports := by
      rw [Startup.reports, List.map_append]
      exact reported.append reportedLater
    rw [ends_bind, ends_waiting, queue]
    change (Supervisor.takeEvents (s.reports.map Event.uevent).length).Ends h₁ _
    rw [List.length_map]
    exact ends_follow window further reports holds queue smoothLater
  · rintro e h₁ ⟨-, failed, -⟩
    cases failed

def firstChip : Text := "gpiochip0"

def secondChip : Text := "gpiochip1"

/-- Bindings with two chips. -/
def sampleBindings : Bindings where
  devices := [
    { path := "/dev/gpiochip0", numLines := .int 8 },
    { path := "/dev/gpiochip1", numLines := .int 4 }]

/-- A connection that is up. -/
def sampleBus : Connection Value where
  buses := [{ isConnected := true }]
  link := some 0

/-- A start during which the first chip goes and comes back; the second one comes after the
listing. -/
def sample : Startup where
  name := .text "org.gpiod"
  listed := [
    { name := .text "gpio0" },
    { name := .text firstChip, node := some (.text "/dev/gpiochip0") }]
  during := [
    { name := .text firstChip, node := some (.text "/dev/gpiochip0"), action := .text "remove" },
    { name := .text firstChip, node := some (.text "/dev/gpiochip0"), action := .text "add" }]
  later := [
    { name := .text "gpio1", action := .text "add" },
    { name := .text secondChip, node := some (.text "/dev/gpiochip1"), action := .text "add" }]

theorem areListed_sample : AreListed {firstChip} sample.listed where
  once := by decide +kernel
  all id := by simp [chipNames, sample, Value.display]

theorem ends_start_sample :
    sample.run.Ends (fresh sampleBindings sampleBus {}) fun r h' =>
      r = .ok none ∧ h'.state.Holds {firstChip, secondChip} := by
  have reported : Change.AreReported [.removed firstChip, .added firstChip]
      (sample.during.map fun d => d.uevent) :=
    .change rfl rfl rfl (.change rfl rfl rfl .done)
  have reportedLater :
      Change.AreReported [.added secondChip] (sample.later.map fun d => d.uevent) :=
    .twin rfl (.change rfl rfl rfl .done)
  have ends := ends_start sample sampleBindings sampleBus {} ⟨rfl, rfl, rfl, rfl, rfl, rfl, by simp⟩
    (by decide +kernel : Change.lead {firstChip} _ = some {firstChip})
    (by decide +kernel : Change.lead {firstChip} _ = some {firstChip, secondChip})
    areListed_sample reported reportedLater (by decide +kernel)
  refine ends.mono ?_
  rintro r h' ⟨-, same, holds⟩
  obtain rfl := same rfl
  exact ⟨rfl, holds none rfl⟩

end Startup

end GpioBroker
