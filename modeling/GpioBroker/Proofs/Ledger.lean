import GpioBroker.Proofs.Addition

/-!
# The ledger of outstanding additions

A ledger says which devices are exposed, in the order in which they were added.  It is kept from
what is seen of the events alone: an addition counts if the device can be opened and the bus takes
its object, a removal counts whatever happens to the chip, and nothing else counts.  The keys of the
roster are this ledger, through any events, any faults, and any changes around the broker.
-/

namespace GpioBroker

open Act

/-- Whether records were added to a log, exactly one of them a warning. -/
def WarnedOnce (old new : List LogRecord) : Prop :=
  ∃ more, new = old ++ more ∧ (more.countP fun l => l.level == Level.warning.number) = 1

namespace Broker

variable {η : Type}

/-- Whether a device could be exposed now: it can be opened, and the bus takes its object. -/
def exposes (b : Broker (Connection Value) η) (deviceId : Value) : Bool :=
  b.bindings.opens deviceId && b.roster.bus.takes (objectPath deviceId.display) deviceId

/-- Follows the acquisition of the name up to the listing of the devices. -/
def list [UeventSource η] (name : Value) : Act (Broker (Connection Value) η) Listing := do
  Act.log .debug ("DBus name acquired: '" ++ name.display ++ "'")
  setOwnership .acquired
  withinSource UeventSource.subscribe
  withinSource UeventSource.enumerate

/-- What is listed when the name is acquired is added. -/
theorem onNameAcquired_eq_list [UeventSource η] (name : Value) :
    (onNameAcquired name : Act (Broker (Connection Value) η) Unit) = list name >>= addListed := by
  unfold onNameAcquired list
  simp only [bind_assoc]

end Broker

namespace Ledger

variable {η : Type}

/-- How the addition of a device ends, and what the ledger is then. -/
inductive Added (deviceId : Value) (h : Host (Broker (Connection Value) η)) (ledger : List Key)
    (h' : Host (Broker (Connection Value) η)) : Except Failure (Option Nat) → List Key → Prop
  /-- A device that is there already is refused. -/
  | refused (key : Key) (named : deviceId.toKey = .ok key) (there : key ∈ ledger) (e : Failure)
      (kind : e.fault.kind = .roster) (same : h'.state = h.state) :
      Added deviceId h ledger h' (.error e) ledger
  /-- A device that can be exposed is. -/
  | exposed (key : Key) (named : deviceId.toKey = .ok key) (absent : key ∉ ledger)
      (exposes : h.state.exposes deviceId = true) (number : Nat) :
      Added deviceId h ledger h' (.ok (some number)) (ledger ++ [key])
  /-- Any other device is dropped, with a failure or with a warning. -/
  | dropped (absent : ∀ key, deviceId.toKey = .ok key → key ∉ ledger)
      (exposes : h.state.exposes deviceId = false) (r : Except Failure (Option Nat))
      (dropped : Dropped h.records h'.records r) : Added deviceId h ledger h' r ledger

variable {h h' : Host (Broker (Connection Value) η)}

theorem exposes_text {deviceId : Value} (b : Broker (Connection Value) η)
    (exposes : b.exposes deviceId = true) : ∃ t, deviceId = .text t := by
  have opening := Bindings.ends_openDevice (h := { state := b.bindings }) deviceId
  have isOk := Bindings.isOk_run_openDevice deviceId { state := b.bindings }
  rw [Broker.exposes, Bool.and_eq_true] at exposes
  unfold Ends at opening
  rw [exposes.1] at isOk
  generalize ((Bindings.openDevice deviceId).run { state := b.bindings }).1 = r at opening isOk
  cases opening with
  | refused | undone | abandoned => cases isOk
  | opened t _ _ named _ _ _ => exact ⟨t, named⟩

/-- Whatever an addition does, the keys of the roster follow the ledger. -/
theorem added_of_adding {deviceId : Value} {r : Except Failure (Option Nat)}
    (adding : Broker.Adding deviceId h h' r) :
    Added deviceId h h.state.roster.keys h' r h'.state.roster.keys := by
  cases adding with
  | refused e same known =>
    subst same
    cases named : deviceId.toKey with
    | ok key =>
      obtain ⟨there, fault⟩ := known key named
      exact .refused key named ((Roster.contains_iff _ _).1 there) e (by rw [fault]; rfl) rfl
    | error f =>
      refine .dropped (fun key named' => ?_) (Bool.eq_false_iff.2 fun exposes => ?_) _
        (.inl ⟨e, rfl⟩)
      · rw [named] at named'
        cases named'
      · obtain ⟨t, rfl⟩ := exposes_text h'.state exposes
        cases named
  | dropped _ key named absent misses dropped entries objects next records evens =>
    have keys : h'.state.roster.keys = h.state.roster.keys := by
      unfold Roster.keys
      rw [entries]
    rw [keys]
    refine .dropped (fun key' named' there => ?_) misses _ dropped
    rw [named] at named'
    cases named'
    rw [(Roster.contains_iff _ _).2 there] at absent
    cases absent
  | exposed x named absent meets number registration serial device entries objects records next
      opened kept =>
    have keys : h'.state.roster.keys = h.state.roster.keys ++ [.text x.id] := by
      unfold Roster.keys
      rw [entries, List.map_append]
      rfl
    rw [keys]
    refine .exposed (.text x.id) (by rw [named]; rfl) (fun there => ?_) meets x.number
    rw [(Roster.contains_iff _ _).2 there] at absent
    cases absent

theorem ends_addChip (deviceId : Value) :
    (Broker.addChip deviceId).Ends h fun r h' =>
      Added deviceId h h.state.roster.keys h' r h'.state.roster.keys :=
  (Broker.ends_addChip deviceId).mono fun _ _ ⟨_, adding⟩ => added_of_adding adding

/-- An addition that comes after something was logged counts as one from before. -/
theorem Added.since {deviceId : Value} {ledger ledger' : List Key}
    {h₁ : Host (Broker (Connection Value) η)} {r : Except Failure (Option Nat)}
    (added : Added deviceId h₁ ledger h' r ledger') (state : h₁.state = h.state)
    (records : h.records <+: h₁.records) :
    Added deviceId h ledger h' r ledger' := by
  cases added with
  | refused key named there e kind same =>
    rw [state] at same
    exact .refused key named there e kind same
  | exposed key named absent exposes number =>
    rw [state] at exposes
    exact .exposed key named absent exposes number
  | dropped absent exposes _ dropped =>
    rw [state] at exposes
    exact .dropped absent exposes _ (dropped.since records)

/-- The ledger after an addition does not depend on how the addition ended. -/
theorem Added.unique {deviceId : Value} {ledger ledger₁ ledger₂ : List Key}
    {h₁ h₂ : Host (Broker (Connection Value) η)} {r₁ r₂ : Except Failure (Option Nat)}
    (first : Added deviceId h ledger h₁ r₁ ledger₁)
    (second : Added deviceId h ledger h₂ r₂ ledger₂) :
    ledger₁ = ledger₂ := by
  cases first with
  | refused key named there e kind same =>
    cases second with
    | refused => rfl
    | exposed key' named' absent' =>
      cases named.symm.trans named'
      exact absurd there absent'
    | dropped absent' => exact absurd there (absent' key named)
  | exposed key named absent exposes number =>
    cases second with
    | refused key' named' there' =>
      cases named.symm.trans named'
      exact absurd there' absent
    | exposed key' named' absent' =>
      cases named.symm.trans named'
      rfl
    | dropped absent' exposes' =>
      rw [exposes] at exposes'
      cases exposes'
  | dropped absent exposes r dropped =>
    cases second with
    | refused key' named' there' => rfl
    | exposed key' named' absent' exposes' =>
      rw [exposes] at exposes'
      cases exposes'
    | dropped => rfl

/-! ### Listings -/

/-- How the additions of a listing end: they go on up to the first that fails. -/
inductive Listed : List Event → Host (Broker (Connection Value) η) → List Key →
    Except Failure Unit → Host (Broker (Connection Value) η) → List Key → Prop
  | done (h ledger) : Listed [] h ledger (.ok ()) h ledger
  /-- The twin of a chip device is passed over. -/
  | twin {u es h ledger r h' ledger'} (twin : u.isChipDevice = false)
      (rest : Listed es h ledger r h' ledger') : Listed (.uevent u :: es) h ledger r h' ledger'
  | added {u es h ledger h₁ number ledger₁ r h' ledger'} (chip : u.isChipDevice = true)
      (ran : (Broker.addChip u.deviceId).run h = (.ok number, h₁))
      (added : Added u.deviceId h ledger h₁ (.ok number) ledger₁)
      (rest : Listed es h₁ ledger₁ r h' ledger') : Listed (.uevent u :: es) h ledger r h' ledger'
  | failed {u es h ledger e h₁ ledger₁} (chip : u.isChipDevice = true)
      (ran : (Broker.addChip u.deviceId).run h = (.error e, h₁))
      (added : Added u.deviceId h ledger h₁ (.error e) ledger₁) :
      Listed (.uevent u :: es) h ledger (.error e) h₁ ledger₁
  /-- What is no action on a device cannot be added. -/
  | alien {e es h ledger failure} (alien : ∀ u, e ≠ .uevent u) :
      Listed (e :: es) h ledger (.error failure) h ledger

theorem addEntry_twin {u : Uevent} (twin : u.isChipDevice = false) :
    Broker.addEntry (.uevent u) = (pure () : Act (Broker (Connection Value) η) Unit) := by
  simp [Broker.addEntry, twin]

theorem addEntry_chip {u : Uevent} (chip : u.isChipDevice = true) :
    Broker.addEntry (.uevent u) =
      (discard (Broker.addChip u.deviceId) : Act (Broker (Connection Value) η) Unit) := by
  simp [Broker.addEntry, chip]

/-- The additions of a listing follow the ledger. -/
theorem ends_addEntries (es : List Event) :
    (es.forM Broker.addEntry).Ends h fun r h' =>
      Listed es h h.state.roster.keys r h' h'.state.roster.keys := by
  induction es generalizing h with
  | nil => exact .done h _
  | cons e es ih =>
    rw [ends_forM_cons]
    cases e with
    | uevent u =>
      cases chip : u.isChipDevice with
      | false =>
        rw [addEntry_twin chip, ends_bind, ends_pure]
        exact ih.mono fun _ _ rest => .twin chip rest
      | true =>
        rw [addEntry_chip chip, ends_bind, ends_discard]
        refine ((ends_run _ h).and (ends_addChip u.deviceId)).mono ?_
        rintro (e | number) h₁ ⟨ran, added⟩
        · exact .failed chip ran added
        · exact ih.mono fun _ _ rest => .added chip ran added rest
    | _ => exact .alien fun u => by simp

theorem Listed.unique {es : List Event} {ledger ledger₁ ledger₂ : List Key}
    {h₁ h₂ : Host (Broker (Connection Value) η)} {r₁ r₂ : Except Failure Unit}
    (first : Listed es h ledger r₁ h₁ ledger₁) (second : Listed es h ledger r₂ h₂ ledger₂) :
    ledger₁ = ledger₂ := by
  induction first with
  | done => cases second; rfl
  | twin twin rest ih =>
    cases second with
    | twin _ rest' => exact ih rest'
    | added chip | failed chip =>
      rw [twin] at chip
      cases chip
    | alien alien => exact absurd rfl (alien _)
  | added chip ran added rest ih =>
    cases second with
    | twin twin =>
      rw [twin] at chip
      cases chip
    | added _ ran' added' rest' =>
      cases ran.symm.trans ran'
      cases added.unique added'
      exact ih rest'
    | failed _ ran' => cases ran.symm.trans ran'
    | alien alien => exact absurd rfl (alien _)
  | failed chip ran added =>
    cases second with
    | twin twin =>
      rw [twin] at chip
      cases chip
    | added _ ran' => cases ran.symm.trans ran'
    | failed _ ran' added' =>
      cases ran.symm.trans ran'
      exact added.unique added'
    | alien alien => exact absurd rfl (alien _)
  | alien alien =>
    cases second with
    | twin | added | failed => exact absurd rfl (alien _)
    | alien => rfl

/-! ### Events -/

variable [UeventSource η]

/-- How an event ends, and what the ledger is then. -/
inductive Step (h : Host (Broker (Connection Value) η)) (ledger : List Key) :
    Event → Except Failure Unit → Host (Broker (Connection Value) η) → List Key → Prop
  /-- An action on the twin of a chip device changes and logs nothing. -/
  | twin (u : Uevent) (twin : u.isChipDevice = false) : Step h ledger (.uevent u) (.ok ()) h ledger
  | add (u : Uevent) (chip : u.isChipDevice = true) (action : u.action = .text "add")
      (r : Except Failure (Option Nat)) (h' : Host _) (ledger')
      (added : Added u.deviceId h ledger h' r ledger') :
      Step h ledger (.uevent u) (r.map fun _ => ()) h' ledger'
  /-- A device that is there goes, whether or not giving up its parts fails. -/
  | remove (u : Uevent) (chip : u.isChipDevice = true) (action : u.action = .text "remove")
      (key : Key) (named : u.deviceId.toKey = .ok key) (there : key ∈ ledger) (r) (h' : Host _) :
      Step h ledger (.uevent u) r h' (ledger.filter (· != key))
  /-- A device that is not there cannot go. -/
  | removeAbsent (u : Uevent) (chip : u.isChipDevice = true) (action : u.action = .text "remove")
      (absent : ∀ key, u.deviceId.toKey = .ok key → key ∉ ledger) (e : Failure)
      (kind : ∀ key, u.deviceId.toKey = .ok key → e.fault.kind = .roster) (h' : Host _)
      (same : h'.state = h.state) : Step h ledger (.uevent u) (.error e) h' ledger
  | unknownAction (u : Uevent) (chip : u.isChipDevice = true) (add : u.action ≠ .text "add")
      (remove : u.action ≠ .text "remove") (h' : Host _) (same : h'.state = h.state)
      (warned : WarnedOnce h.records h'.records) : Step h ledger (.uevent u) (.ok ()) h' ledger
  | unknownSignal (number : Value) (h' : Host _) (same : h'.state = h.state)
      (warned : WarnedOnce h.records h'.records) : Step h ledger (.signal number) (.ok ()) h' ledger
  | unknownEvent (v : Value) (h' : Host _) (same : h'.state = h.state)
      (warned : WarnedOnce h.records h'.records) : Step h ledger (.other v) (.ok ()) h' ledger
  | busAcquired (h' : Host _) (same : h'.state.roster = h.state.roster) :
      Step h ledger .busAcquired (.ok ()) h' ledger
  | nameLost (loss : NameLoss) (e : Failure) (h' : Host _)
      (same : h'.state.roster = h.state.roster) :
      Step h ledger (.nameLost loss) (.error e) h' ledger
  /-- The devices could not be subscribed to or listed. -/
  | unlisted (name : Value) (e : Failure) (h' : Host _)
      (ran : (Broker.list name).run h = (.error e, h')) :
      Step h ledger (.nameAcquired name) (.error e) h' ledger
  /-- The devices that are there are added, unless one fails, and a listing that broke off fails. -/
  | listed (name : Value) (listing : Listing) (h₁ : Host _)
      (ran : (Broker.list name).run h = (.ok listing, h₁))
      (r) (h' : Host _) (ledger') (listed : Listed listing.events h₁ ledger r h' ledger') :
      Step h ledger (.nameAcquired name)
        (match r, listing.failure with
          | .ok _, some f => .error { fault := f }
          | r, _ => r) h' ledger'

theorem warnedOnce_log (old : List LogRecord) (text text' : Text) :
    WarnedOnce old (old ++ [⟨Level.debug.number, text⟩] ++ [⟨Level.warning.number, text'⟩]) :=
  ⟨_, List.append_assoc .., rfl⟩

/-- Removing a device takes it out of the keys, or finds it absent and changes nothing. -/
theorem ends_remove {β : Type} [ObjectBus β] {h : Host (Roster β)} (deviceId : Value) :
    (Roster.remove deviceId).Ends h fun r h' =>
      (∃ key, deviceId.toKey = .ok key ∧ key ∈ h.state.keys ∧
        h'.state.keys = h.state.keys.filter (· != key)) ∨
      (∀ key, deviceId.toKey = .ok key → key ∉ h.state.keys) ∧ h' = h ∧
        ∃ e, r = .error e ∧ ∀ key, deviceId.toKey = .ok key → e.fault.kind = .roster := by
  unfold Ends
  cases named : deviceId.toKey with
  | error f =>
    have failed : (Roster.remove deviceId).run h = (.error { fault := f }, h) := by
      simp only [Roster.remove, run_bind, run_state, named, run_ofExcept_error]
    rw [failed]
    exact .inr ⟨fun _ named => (by cases named), rfl, _, rfl, fun _ named => (by cases named)⟩
  | ok key =>
    cases contained : h.state.contains key with
    | false =>
      rw [Roster.run_remove_of_not_contains deviceId key h named contained]
      refine .inr ⟨fun key' named' there => ?_, rfl, _, rfl, fun _ _ => rfl⟩
      cases named'
      rw [(Roster.contains_iff _ _).2 there] at contained
      cases contained
    | true =>
      refine .inl ⟨key, rfl, (Roster.contains_iff _ _).1 contained, ?_⟩
      unfold Roster.keys
      rw [Roster.entries_run_remove deviceId key h named contained, List.filter_map]
      rfl

theorem ends_removeChip {h₁ : Host (Broker (Connection Value) η)} (state : h₁.state = h.state)
    (u : Uevent) (chip : u.isChipDevice = true) (action : u.action = .text "remove") :
    (Broker.removeChip u.deviceId).Ends h₁ fun r h' =>
      Step h h.state.roster.keys (.uevent u) r h' h'.state.roster.keys := by
  unfold Broker.removeChip
  simp only [ends_bind, ends_log]
  refine Ends.within (Ends.mono (ends_remove u.deviceId) ?_)
  rw [← state]
  rintro r h' (⟨key, named, there, keys⟩ | ⟨absent, rfl, e, rfl, kind⟩)
  · have gone := Step.remove (h := h) u chip action key named there r
      (h'.withState { h₁.state with roster := h'.state })
    rw [← keys] at gone
    exact gone
  · exact .removeAbsent u chip action absent e kind _ state

theorem ends_onUevent (u : Uevent) :
    (Broker.onUevent u).Ends h fun r h' =>
      Step h h.state.roster.keys (.uevent u) r h' h'.state.roster.keys := by
  unfold Broker.onUevent
  refine ends_ite (fun chip => ?_) fun twin => (ends_pure ()).2 (.twin u (by simpa using twin))
  simp only [ends_bind, ends_log]
  refine ends_ite (fun add => ?_) fun notAdd => ends_ite (fun remove => ?_) fun notRemove => ?_
  · refine ends_discard.2 ((ends_addChip u.deviceId).mono fun r h' added => ?_)
    exact .add u chip add r h' _ (added.since rfl (List.prefix_append ..))
  · refine ends_removeChip ?_ u chip remove
    rfl
  · exact (ends_log _ _).2 (.unknownAction u chip notAdd notRemove _ rfl (warnedOnce_log ..))

theorem ends_onNameAcquired (name : Value) :
    (Broker.onNameAcquired name).Ends h fun r h' =>
      Step h h.state.roster.keys (.nameAcquired name) r h' h'.state.roster.keys := by
  have still : (Broker.list (η := η) name).Keeps fun h₁ => h₁.state.roster = h.state.roster := by
    refine Keeps.bind (fun _ same => same) fun _ => Keeps.bind (fun _ same => same) fun _ => ?_
    refine Keeps.bind ?_ fun _ => ?_
    · exact fun _ same => Ends.within same
    · exact fun _ same => Ends.within same
  rw [Broker.onNameAcquired_eq_list]
  refine Ends.bind ((ends_run _ h).and (still h rfl)) ?_ ?_
  · rintro listing h₁ ⟨ran, roster⟩
    refine Ends.bind (ends_addEntries listing.events) ?_ ?_
    · rintro u h₂ listed
      rw [roster] at listed
      refine ends_failing _ (fun whole => ?_) fun f broken => ?_
      · have step := Step.listed name listing h₁ ran _ h₂ _ listed
        rwa [whole] at step
      · have step := Step.listed name listing h₁ ran _ h₂ _ listed
        rwa [broken] at step
    · rintro e h₂ listed
      rw [roster] at listed
      have step := Step.listed name listing h₁ ran _ h₂ _ listed
      exact step
  · rintro e h₁ ⟨ran, roster⟩
    rw [roster]
    exact .unlisted name e h₁ ran

/-- Whatever an event does, the keys of the roster follow the ledger. -/
theorem ends_handle (e : Event) :
    (Broker.handle e).Ends h fun r h' =>
      Step h h.state.roster.keys e r h' h'.state.roster.keys := by
  cases e with
  | uevent u => exact ends_onUevent u
  | busAcquired => exact .busAcquired _ rfl
  | nameAcquired name => exact ends_onNameAcquired name
  | nameLost loss => exact .nameLost loss _ _ rfl
  | signal number => exact .unknownSignal number _ rfl ⟨_, rfl, rfl⟩
  | other v => exact .unknownEvent v _ rfl ⟨_, rfl, rfl⟩

/-- The ledger after an event does not depend on how the event ended. -/
theorem Step.unique {e : Event} {ledger ledger₁ ledger₂ : List Key}
    {h₁ h₂ : Host (Broker (Connection Value) η)} {r₁ r₂ : Except Failure Unit}
    (first : Step h ledger e r₁ h₁ ledger₁) (second : Step h ledger e r₂ h₂ ledger₂) :
    ledger₁ = ledger₂ := by
  have apart : (.text "add" : Value) ≠ .text "remove" := by decide
  cases first with
  | twin u twin => cases second <;> simp_all
  | add u chip action _ _ _ added =>
    cases second with
    | add _ _ _ _ _ _ added' => exact added.unique added'
    | _ => simp_all
  | remove u chip action key named there =>
    cases second with
    | add _ _ action' => exact absurd (action'.symm.trans action) apart
    | remove _ _ _ key' named' =>
      cases named.symm.trans named'
      rfl
    | removeAbsent _ _ _ absent => exact absurd there (absent key named)
    | _ => simp_all
  | removeAbsent u chip action absent =>
    cases second with
    | add _ _ action' => exact absurd (action'.symm.trans action) apart
    | remove _ _ _ key named there => exact absurd there (absent key named)
    | _ => simp_all
  | unknownAction u chip notAdd notRemove => cases second <;> simp_all
  | unlisted name e _ ran =>
    cases second with
    | unlisted => rfl
    | listed _ _ _ ran' => cases ran.symm.trans ran'
  | listed name listing h₁ ran _ _ _ listed =>
    cases second with
    | unlisted _ _ _ ran' => cases ran.symm.trans ran'
    | listed _ _ _ ran' _ _ _ listed' =>
      cases ran.symm.trans ran'
      exact listed.unique listed'
  | _ => cases second; rfl

/-! ### Runs -/

/-- What the world may change between two events: all but the roster itself. -/
structure Surroundings (η : Type) where
  bindings : Bindings
  bus : Connection Value
  source : η

/-- The same host in other surroundings. -/
def Surroundings.around (s : Surroundings η) (h : Host (Broker (Connection Value) η)) :
    Host (Broker (Connection Value) η) :=
  { h with state :=
    { h.state with
      bindings := s.bindings
      roster := { h.state.roster with bus := s.bus }
      source := s.source } }

/-- Handles events, each in its own surroundings, and goes on after failures. -/
def handleAll (events : List (Surroundings η × Event)) (h : Host (Broker (Connection Value) η)) :
    Host (Broker (Connection Value) η) :=
  events.foldl (fun h e => ((Broker.handle e.2).run (e.1.around h)).2) h

/-- A run over events, and the ledger that is kept of it. -/
inductive Run : List (Surroundings η × Event) → Host (Broker (Connection Value) η) → List Key →
    Host (Broker (Connection Value) η) → List Key → Prop
  | done (h ledger) : Run [] h ledger h ledger
  | next {s e es h ledger r h₁ ledger₁ h' ledger'}
      (ran : (Broker.handle e).run (s.around h) = (r, h₁))
      (step : Step (s.around h) ledger e r h₁ ledger₁) (rest : Run es h₁ ledger₁ h' ledger') :
      Run ((s, e) :: es) h ledger h' ledger'

theorem run_handleAll (events : List (Surroundings η × Event))
    (h : Host (Broker (Connection Value) η)) :
    Run events h h.state.roster.keys (handleAll events h)
      (handleAll events h).state.roster.keys := by
  induction events generalizing h with
  | nil => exact .done h _
  | cons e es ih =>
    obtain ⟨s, e⟩ := e
    have step := ends_handle (h := s.around h) e
    exact .next rfl step (ih _)

theorem Run.unique {events : List (Surroundings η × Event)}
    {h h₁ h₂ : Host (Broker (Connection Value) η)} {ledger ledger₁ ledger₂ : List Key}
    (first : Run events h ledger h₁ ledger₁) (second : Run events h ledger h₂ ledger₂) :
    ledger₁ = ledger₂ := by
  induction first with
  | done => cases second; rfl
  | next ran step rest ih =>
    cases second with
    | next ran' step' rest' =>
      cases ran.symm.trans ran'
      cases step.unique step'
      exact ih rest'

/-- After any events, in any surroundings and however they ended, the keys of the roster are the
ledger that was kept of them. -/
theorem run_iff_eq_keys (events : List (Surroundings η × Event))
    (h : Host (Broker (Connection Value) η)) (ledger : List Key) :
    Run events h h.state.roster.keys (handleAll events h) ledger ↔
      ledger = (handleAll events h).state.roster.keys := by
  constructor
  · exact fun run => run.unique (run_handleAll events h)
  · rintro rfl
    exact run_handleAll events h

end Ledger

end GpioBroker
