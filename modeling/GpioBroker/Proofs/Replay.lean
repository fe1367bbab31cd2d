import GpioBroker.Proofs.Startup

/-!
# The enumeration replayed

Acquiring the name adds the chips of the devices that are there.  That is what their uevents would
have done had they come one by one after the subscription: the broker is the same in the end, the
chips and the bus see the same calls, the same fault comes out, and the logs differ in the lines
that tell of uevents.  A fault of the listing itself comes out if no addition has failed.
-/

namespace GpioBroker

open Act

/-- The line that the log has for an action on a device. -/
def Uevent.line (u : Uevent) : LogRecord :=
  ⟨Level.debug.number,
    "uevent: " ++ u.action.display ++ " action on " ++ u.deviceId.display ++ " device"⟩

/-- The second log is the first with lines that tell of uevents among its records. -/
inductive Interlined : List LogRecord → List LogRecord → Prop
  | nil : Interlined [] []
  | same (r : LogRecord) {xs ys : List LogRecord} (interlined : Interlined xs ys) :
      Interlined (r :: xs) (r :: ys)
  | line (u : Uevent) {xs ys : List LogRecord} (interlined : Interlined xs ys) :
      Interlined xs (u.line :: ys)

namespace Interlined

theorem refl (xs : List LogRecord) : Interlined xs xs := by
  induction xs with
  | nil => exact .nil
  | cons r xs ih => exact .same r ih

theorem append {xs ys xs' ys' : List LogRecord} (front : Interlined xs ys)
    (back : Interlined xs' ys') :
    Interlined (xs ++ xs') (ys ++ ys') := by
  induction front with
  | nil => exact back
  | same r _ ih => exact .same r ih
  | line u _ ih => exact .line u ih

end Interlined

/-! ### Actions with lines in between -/

namespace Act

variable {σ α β γ : Type}

/-- What a run does, another does with lines in between. -/
structure Echo (x y : Except Failure α × Host σ) : Prop where
  outcome : y.1 = x.1
  state : y.2.state = x.2.state
  calls : y.2.calls = x.2.calls
  records : Interlined x.2.records y.2.records

/-- From every state, the second action does what the first does, with lines in between. -/
structure Echoes (x y : Act σ α) : Prop where
  first : x.IsOblivious
  second : y.IsOblivious
  echo : ∀ s, Echo (x.run { state := s }) (y.run { state := s })

namespace Echoes

theorem refl {x : Act σ α} (hx : x.IsOblivious) : Echoes x x where
  first := hx
  second := hx
  echo _ := ⟨rfl, rfl, rfl, .refl _⟩

theorem bind {x y : Act σ α} {k l : α → Act σ β} (hx : Echoes x y) (hk : ∀ a, Echoes (k a) (l a)) :
    Echoes (x >>= k) (y >>= l) where
  first := hx.first.bind fun a => (hk a).first
  second := hx.second.bind fun a => (hk a).second
  echo s := by
    have echo := hx.echo s
    rw [run_bind, run_bind]
    generalize x.run { state := s } = one at echo
    generalize y.run { state := s } = other at echo
    obtain ⟨r, h⟩ := one
    obtain ⟨r', h'⟩ := other
    obtain ⟨rfl, state, calls, records⟩ := echo
    cases r' with
    | error e => exact ⟨rfl, state, calls, records⟩
    | ok a =>
      dsimp only at state calls records ⊢
      rw [(hk a).first h, (hk a).second h', state]
      obtain ⟨outcome', state', calls', records'⟩ := (hk a).echo h.state
      exact ⟨outcome', state', by simp [Host.before, calls, calls'], records.append records'⟩

/-- A line before the second action. -/
theorem line {x y : Act σ α} (u : Uevent) (hx : Echoes x y) :
    Echoes x
      (do Act.log .debug ("uevent: " ++ u.action.display ++ " action on " ++ u.deviceId.display ++
      " device"); y) where
  first := hx.first
  second := (isOblivious_log _ _).bind fun _ => hx.second
  echo s := by
    obtain ⟨outcome, state, calls, records⟩ := hx.echo s
    rw [run_bind, run_log]
    dsimp only
    rw [hx.second { state := s, records := _ }]
    exact ⟨outcome, state, calls, .line u records⟩

theorem forM {f g : γ → Act σ Unit} {cs : List γ} (hf : ∀ c ∈ cs, Echoes (f c) (g c)) :
    Echoes (cs.forM f) (cs.forM g) := by
  induction cs with
  | nil => exact refl (isOblivious_pure ())
  | cons c cs ih =>
    exact (hf c (List.mem_cons_self ..)).bind fun _ =>
      ih fun c there => hf c (List.mem_cons_of_mem _ there)

end Echoes

end Act

/-- The uevents that add the devices a source lists. -/
def MonitorSource.additions (s : MonitorSource) : List Uevent :=
  s.manager.devices.map listedUevent

namespace Broker

/-- Follows the acquisition of the name up to the subscription, and then the uevents of the devices
that are there one by one. -/
def replay (name : Value) : Act Service Unit := do
  Startup.subscribe name
  let s ← Act.state
  s.source.additions.forM fun u => handle (.uevent u)

theorem handle_nameAcquired_eq (name : Value) :
    (handle (.nameAcquired name) : Act Service Unit) =
      (do Startup.subscribe name; Startup.catchUp) :=
  Startup.onNameAcquired_eq name

/-! ### The additions -/

/-- A uevent that adds a device does what its entry in a listing does. -/
theorem echoes_addEntry {u : Uevent} (add : u.action = .text "add") :
    Echoes (addEntry (.uevent u) : Act Service Unit) (handle (.uevent u)) := by
  change Echoes (addEntry (.uevent u)) (onUevent u)
  unfold onUevent
  cases chip : u.isChipDevice with
  | false =>
    rw [Ledger.addEntry_twin chip]
    exact .refl (isOblivious_pure ())
  | true =>
    rw [Ledger.addEntry_chip chip]
    simp only [add, if_true]
    have line :=
      Echoes.line u (Echoes.refl (isOblivious_addChip (η := MonitorSource) u.deviceId).discard)
    rwa [add] at line

/-- The uevents that add some devices do what a listing of them does. -/
theorem echoes_addEntries {us : List Uevent} (adds : ∀ u ∈ us, u.action = .text "add") :
    Echoes ((us.map .uevent).forM addEntry : Act Service Unit)
      (us.forM fun u => handle (.uevent u)) := by
  have whole : ((us.map .uevent).forM addEntry : Act Service Unit) =
      us.forM fun u => addEntry (.uevent u) := by
    simp [List.forM_map]
  rw [whole]
  exact .forM fun u there => echoes_addEntry (adds u there)

/-! ### The acquisition of the name -/

/-- From a host on which the source was subscribed to, the listing has done what the uevents did. -/
structure Replays (h : Host Service)
    (listed replayed : Except Failure Unit × Host Service) : Prop where
  state : listed.2.state = replayed.2.state
  queue : listed.2.queue = replayed.2.queue
  deferred : listed.2.deferred = replayed.2.deferred
  /-- The same was asked of the chips and of the bus. -/
  calls : ∃ more, replayed.2.calls = h.calls ++ more ∧
    listed.2.calls = h.calls ++ .listDevices h.state.source.subsystem :: more
  /-- The logs differ in the lines that tell of uevents. -/
  records : ∃ xs ys, Interlined xs ys ∧ listed.2.records = h.records ++ xs ∧
    replayed.2.records = h.records ++ ys
  raised : ∀ e, replayed.1 = .error e → listed.1 = .error e
  /-- The listing's own fault comes out when all devices were added. -/
  ended : replayed.1 = .ok () →
    listed.1 = h.state.source.manager.listFault.elim (.ok ()) fun f => .error { fault := f }

/-- How the acquisition of the name ends that fails to subscribe: nothing was listed or added. -/
structure Stops (h : Host Service) (e : Failure)
    (listed : Except Failure Unit × Host Service) : Prop where
  raised : listed.1 = .error e
  roster : listed.2.state.roster = h.state.roster
  bindings : listed.2.state.bindings = h.state.bindings
  calls : ∃ more, listed.2.calls = h.calls ++ more ∧
    more <+: [.openMonitor, .filterMonitor h.state.source.subsystem, .startMonitor]

/-- Up to the subscription the broker only asks for a monitor. -/
theorem ends_subscribe_source (name : Value) (h : Host Service) :
    (Startup.subscribe name).Ends h fun _ h' =>
    h'.state.roster = h.state.roster ∧ h'.state.bindings = h.state.bindings ∧
      ∃ more, h'.calls = h.calls ++ more ∧
        more <+: [.openMonitor, .filterMonitor h.state.source.subsystem, .startMonitor] := by
  unfold Startup.subscribe setOwnership
  simp only [ends_bind, ends_log, ends_update]
  refine Ends.within ((MonitorSource.ends_subscribe _).mono fun _ _ subscribing => ?_)
  obtain ⟨asked, first, calls⟩ := subscribing.asked
  exact ⟨rfl, rfl, asked, calls, first⟩

/-- What is listed is added after the call for the listing, and the listing's fault comes last. -/
theorem replays_of_subscribed (h : Host Service) :
    Replays h (Startup.catchUp.run h)
      ((h.state.source.additions.forM fun u => handle (.uevent u) : Act Service Unit).run h) := by
  have echoes := echoes_addEntries fun u (there : u ∈ h.state.source.additions) => by
    obtain ⟨d, -, rfl⟩ := List.mem_map.1 there
    rfl
  obtain ⟨outcome, state, calls, records⟩ := echoes.echo h.state
  have listing : (withinSource UeventSource.enumerate : Act Service Listing).run h =
      (.ok ⟨h.state.source.additions.map .uevent, h.state.source.manager.listFault⟩,
        { h with calls := h.calls ++ [.listDevices h.state.source.subsystem] }) := by
    rw [MonitorSource.additions, List.map_map]
    rfl
  unfold Startup.catchUp
  rw [run_bind, listing]
  dsimp only
  unfold addListed
  rw [run_bind, echoes.first, echoes.second h]
  generalize ((h.state.source.additions.map Event.uevent).forM addEntry : Act Service Unit).run
    { state := h.state } = one at outcome state calls records
  generalize (h.state.source.additions.forM fun u => handle (.uevent u) : Act Service Unit).run
    { state := h.state } = other at outcome state calls records
  obtain ⟨r, h₁⟩ := one
  obtain ⟨r', h₂⟩ := other
  dsimp only at outcome state calls records
  subst outcome
  have replays {listed : Except Failure Unit} (raised : ∀ e, r' = .error e → listed = .error e)
      (ended : r' = .ok () →
        listed = h.state.source.manager.listFault.elim (.ok ()) fun f => .error { fault := f }) :
      Replays h (listed,
        Host.before { h with calls := h.calls ++ [.listDevices h.state.source.subsystem] } h₁)
        (r', h.before h₂) := {
    state := state.symm
    queue := rfl
    deferred := rfl
    calls := ⟨h₁.calls, by simp [Host.before, calls], by simp [Host.before]⟩
    records := ⟨_, _, records, rfl, rfl⟩
    raised
    ended }
  -- The listing's fault only decides how additions end that did not fail.
  cases r' with
  | error e => exact replays (fun _ same => same) (by simp)
  | ok _ =>
    cases fault : h.state.source.manager.listFault with
    | none => exact replays (by simp) fun _ => by rw [fault]; rfl
    | some f => exact replays (by simp) fun _ => by rw [fault]; rfl

/-- Acquiring the name is replayed by the uevents of the devices that are there, unless it fails to
subscribe and does nothing. -/
structure IsReplayed (name : Value) (h : Host Service) : Prop where
  subscribed : ∀ h₁, (Startup.subscribe name).run h = (.ok (), h₁) →
    Replays h₁ ((handle (.nameAcquired name)).run h) ((replay name).run h)
  unsubscribed : ∀ e h₁, (Startup.subscribe name).run h = (.error e, h₁) →
    Stops h e ((handle (.nameAcquired name)).run h)

/-- Whatever the devices, the faults and the state before, acquiring the name is replayed. -/
theorem isReplayed (name : Value) (h : Host Service) : IsReplayed name h where
  subscribed h₁ subscribes := by
    rw [handle_nameAcquired_eq, replay, run_bind, run_bind, subscribes]
    exact replays_of_subscribed h₁
  unsubscribed e h₁ subscribes := by
    rw [handle_nameAcquired_eq, run_bind, subscribes]
    obtain ⟨roster, bindings, calls⟩ := ends_subscribe_source name h
    rw [subscribes] at roster bindings calls
    exact ⟨rfl, roster, bindings, calls⟩

end Broker

end GpioBroker
