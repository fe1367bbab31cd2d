import GpioBroker.Proofs.Abstention
import GpioBroker.Proofs.Accounts
import GpioBroker.Proofs.Telling

/-!
# What follows from an event

The broker handles an event in two steps: it takes note of what the event tells of its name, and
does what follows from it.  Only a uevent and the acquisition of the name lead to guarded calls.
What follows leaves the state of the name, the queue and the attempt to own the name alone.
-/

namespace GpioBroker

open Act

/-! ### The state of the name -/

/-- The order in which a name's state goes on. -/
def Ownership.rank : Ownership → Nat
  | .unowned => 0
  | .connected => 1
  | .acquired => 2
  | .lost => 3

theorem Ownership.rank_le_lost (o : Ownership) : o.rank ≤ Ownership.lost.rank := by
  cases o <;> decide

/-- The state of the name that an event tells of. -/
def Event.ownership? : Event → Option Ownership
  | .busAcquired => some .connected
  | .nameAcquired _ => some .acquired
  | .nameLost _ => some .lost
  | _ => none

/-- Whether an event tells that the bus or the name was acquired. -/
def Event.isAdvance : Event → Bool
  | .busAcquired | .nameAcquired _ => true
  | _ => false

def Event.isNameAcquired : Event → Bool
  | .nameAcquired _ => true
  | _ => false

/-- The advances among some events. -/
def advances (events : List Event) : List Event := events.filter Event.isAdvance

@[simp] theorem advances_append (before after : List Event) :
    advances (before ++ after) = advances before ++ advances after := List.filter_append ..

/-- All advances that an attempt to own a name can make. -/
def allAdvances (name : Text) : List Event := [.busAcquired, .nameAcquired (.text name)]

/-- The state of the name after some advances. -/
inductive Ownership.Follows (name : Text) : Ownership → List Event → Prop
  | unowned : Follows name .unowned []
  | connected : Follows name .connected [.busAcquired]
  | acquired : Follows name .acquired [.busAcquired, .nameAcquired (.text name)]

/-- There are two advances, and each leads to the next state. -/
theorem Ownership.Follows.next {name : Text} {o : Ownership} {before : List Event} {e : Event}
    (follows : o.Follows name before) (begun : before ++ [e] <+: allAdvances name) :
    ∃ o', e.ownership? = some o' ∧ o'.rank = o.rank + 1 ∧ o'.Follows name (before ++ [e]) := by
  cases follows with
  | unowned =>
    obtain ⟨rfl, -⟩ := List.cons_prefix_cons.1 begun
    exact ⟨.connected, rfl, rfl, .connected⟩
  | connected =>
    obtain ⟨-, rest⟩ := List.cons_prefix_cons.1 begun
    obtain ⟨rfl, -⟩ := List.cons_prefix_cons.1 rest
    exact ⟨.acquired, rfl, rfl, .acquired⟩
  | acquired =>
    have longer := begun.length_le
    simp [allAdvances] at longer

/-- An event that comes next leads the state of the name forward, and to where it belongs unless the
name is lost. -/
theorem Ownership.Follows.after {name : Text} {o : Ownership} {before : List Event} {e : Event}
    (follows : o.Follows name before) (begun : before ++ advances [e] <+: allAdvances name) :
    o.rank ≤ (e.ownership?.getD o).rank ∧
      ((∀ loss, e ≠ .nameLost loss) →
        (e.ownership?.getD o).Follows name (before ++ advances [e])) := by
  have steps (advance : advances [e] = [e]) : o.rank ≤ (e.ownership?.getD o).rank ∧
      (e.ownership?.getD o).Follows name (before ++ [e]) := by
    rw [advance] at begun
    obtain ⟨o', tells, next, follows'⟩ := follows.next begun
    rw [tells]
    exact ⟨by rw [Option.getD_some]; omega, follows'⟩
  have stays : o.Follows name (before ++ []) := by
    rw [List.append_nil]
    exact follows
  cases e with
  | busAcquired => exact ⟨(steps rfl).1, fun _ => (steps rfl).2⟩
  | nameAcquired v => exact ⟨(steps rfl).1, fun _ => (steps rfl).2⟩
  | nameLost loss => exact ⟨o.rank_le_lost, fun other => absurd rfl (other loss)⟩
  | _ => exact ⟨Nat.le_refl _, fun _ => stays⟩

theorem Ownership.Follows.eq_acquired {name : Text} {o : Ownership} {before : List Event}
    (follows : o.Follows name before) (late : Ownership.acquired.rank ≤ o.rank) :
    o = .acquired := by
  cases follows with
  | unowned => exact absurd late (by decide)
  | connected => exact absurd late (by decide)
  | acquired => rfl

/-- An attempt tells the bus before the name, and each at most once. -/
theorem Telling.begun_advances {name : Text} {script : BusScript} {s : Story} {told : List Event}
    (telling : Telling name script s told) : advances told <+: allAdvances name := by
  obtain ⟨course, is, begun⟩ := telling.exists_course
  refine (List.IsPrefix.filter _ begun).trans ?_
  cases is with
  | unconnected detail => exact List.nil_prefix
  | refused detail late => exact List.prefix_append [Event.busAcquired] _
  | owned detail => exact List.prefix_refl _

/-! ### The story is kept -/

namespace Connection

theorem keeps_story_unregister (registration : Value) (s : Story) :
    (unregister registration : Act (Connection Value) Unit).Keeps fun h => h.state.story = s := by
  rintro h rfl
  have silent : (unregister registration : Act (Connection Value) Unit).Keeps (Silent h) := by
    refine keeps_unregister_of (fun _ => silent_update fun _ => rfl) (fun _ _ _ => ?_) registration
    exact silent_withinBus fun _ =>
      MessageBus.ends_unexportObject_of (fun _ => ⟨rfl, rfl⟩) fun _ _ => ⟨rfl, rfl⟩
  exact (silent h ⟨rfl, rfl⟩).mono fun _ _ same => same.1

end Connection

namespace Roster

/-- As records are given up, the bus tells nothing. -/
theorem upholds_story (s : Story) :
    Upholds fun r : Roster (Connection Value) => r.bus.story = s where
  empty _ _ _ same := same
  erase _ _ same := same
  unregister id _ same := Ends.within (Connection.keeps_story_unregister id s _ same)

end Roster

namespace Broker

theorem isKept_story (s : Story) : IsKept fun h : Host Service => h.state.roster.bus.story = s where
  loose := isLoose_of_state fun b : Service => b.roster.bus.story = s
  setOwnership _ _ same := same
  addChip deviceId _ same := (ends_addChip deviceId).mono fun _ _ added =>
    (Connection.story_of_line added.1.line).trans same
  removeChip deviceId :=
    Keeps.bind (fun _ same => same) fun _ _ same =>
      Ends.within ((Roster.upholds_story s).remove deviceId _ same)
  subscribe _ same := Ends.within same
  enumerate _ same := Ends.within same

/-! ### Two steps of handling an event -/

section Steps

variable {β η : Type}

/-- The broker takes note of what an event tells of its name. -/
def follow (e : Event) : Act (Broker β η) Unit :=
  match e with
  | .busAcquired => do
    Act.log .debug "DBus connection acquired"
    setOwnership .connected
  | .nameAcquired name => do
    Act.log .debug ("DBus name acquired: '" ++ name.display ++ "'")
    setOwnership .acquired
  | .nameLost loss => do
    Act.log .debug ("DBus name lost: '" ++ loss.name.display ++ "'")
    setOwnership .lost
  | _ => pure ()

variable [ObjectBus β] [UeventSource η]

/-- The broker does what follows from an event. -/
def pursue (e : Event) : Act (Broker β η) Unit :=
  match e with
  | .busAcquired => pure ()
  | .nameAcquired _ => do
    withinSource UeventSource.subscribe
    let listing ← withinSource UeventSource.enumerate
    addListed listing
  | .nameLost loss => Act.fail (.nameLost loss)
  | e => handle e

/-- The broker handles an event in these two steps. -/
theorem handle_eq (e : Event) : (handle e : Act (Broker β η) Unit) = (do follow e; pursue e) := by
  cases e <;> rfl

end Steps

theorem run_follow (e : Event) (h : Host Service) :
    ∃ records, (follow e).run h = (.ok (),
      { h with
        state := { h.state with ownership := e.ownership?.getD h.state.ownership }
        records }) := by
  cases e <;> exact ⟨_, rfl⟩

/-- What is kept by each thing that may follow from an event is kept by all of it. -/
theorem keeps_pursue {I : Host Service → Prop} (log : ∀ level text, (Act.log level text).Keeps I)
    (add : ∀ deviceId, (addChip deviceId).Keeps I)
    (remove : ∀ deviceId, (removeChip deviceId).Keeps I)
    (subscribe : (withinSource MonitorSource.subscribe).Keeps I)
    (enumerate : (withinSource MonitorSource.enumerate).Keeps I) (e : Event) :
    (pursue e).Keeps I := by
  cases e with
  | busAcquired => exact keeps_pure ()
  | nameAcquired name =>
    exact subscribe.bind fun _ => enumerate.bind fun l => keeps_addListed add l
  | nameLost loss => exact keeps_fail _
  | uevent u => exact keeps_onUevent log add remove u
  | signal number => exact log _ _
  | other v => exact log _ _

/-- The state of the name, the story of the connection, and the events are as they were. -/
structure Stays (h₀ h : Host Service) : Prop where
  ownership : h.state.ownership = h₀.state.ownership
  story : h.state.roster.bus.story = h₀.state.roster.bus.story
  queue : h.queue = h₀.queue
  deferred : h.deferred = h₀.deferred

theorem keeps_stays {α : Type} {x : Act Service α} {h₀ : Host Service}
    (ownership : ∀ o, x.Keeps fun h => h.state.ownership = o)
    (story : ∀ s, x.Keeps fun h => h.state.roster.bus.story = s)
    (events : x.Abstains (fun _ => false) fun _ => true) : x.Keeps (Stays h₀) := by
  intro h stays
  have kept := ((ownership _ h rfl).and (story _ h rfl)).and (events.ends_share h)
  refine kept.mono ?_
  rintro _ h' ⟨⟨ownership, story⟩, events⟩
  obtain ⟨queue, deferred⟩ : h'.queue = h.queue ∧ h'.deferred = h.deferred := by
    simpa [share] using events
  exact ⟨ownership.trans stays.ownership, story.trans stays.story, queue.trans stays.queue,
    deferred.trans stays.deferred⟩

theorem stays_pursue (e : Event) (h : Host Service) : (pursue e).Ends h fun _ h' => Stays h h' := by
  have never {r : Call → Bool} : Only (fun _ => false) r := fun _ meant => by cases meant
  refine keeps_pursue (fun _ _ => ?_) (fun deviceId => ?_) (fun deviceId => ?_) ?_ ?_ e h
    ⟨rfl, rfl, rfl, rfl⟩
  · exact keeps_stays (fun _ _ same => same) (fun _ _ same => same) (abstains_log _ _)
  · refine keeps_stays (fun o h same => ?_) (fun s => (isKept_story s).addChip deviceId)
      (abstains_addChip never deviceId)
    exact (ends_addChip deviceId).mono fun _ _ added => added.1.ownership.trans same
  · refine keeps_stays (fun o => Keeps.bind (fun _ same => same) fun _ _ same => Ends.within same)
      (fun s => (isKept_story s).removeChip deviceId) (abstains_removeChip never deviceId)
  · exact keeps_stays (fun _ _ same => Ends.within same) (fun s => (isKept_story s).subscribe)
      (abstains_withinSource (MonitorSource.abstains_subscribe never))
  · exact keeps_stays (fun _ _ same => Ends.within same) (fun s => (isKept_story s).enumerate)
      (abstains_withinSource (MonitorSource.abstains_enumerate never))

/-- Only the acquisition of the name makes the broker ask for devices. -/
theorem abstains_pursue {q : Event → Bool} {e : Event} (other : e.isNameAcquired = false) :
    (pursue e : Act Service Unit).Abstains Call.isAsking q := by
  have asking : Only Call.isAsking Call.isAsking := fun _ meant => meant
  cases e with
  | busAcquired => exact abstains_pure ()
  | nameAcquired name => cases other
  | nameLost loss => exact abstains_fail _
  | uevent u =>
    exact fun kept => keeps_onUevent (fun level text => abstains_log level text kept)
      (fun deviceId => abstains_addChip asking deviceId kept)
      (fun deviceId => abstains_removeChip asking.guarded deviceId kept) u
  | signal number => exact abstains_log _ _
  | other v => exact abstains_log _ _

/-- Other events lead to no guarded call, and leave the source alone. -/
theorem idle_pursue {e : Event} (noUevent : e.isUevent = false) (other : e.isNameAcquired = false)
    (h : Host Service) : (pursue e).Ends h fun _ h' =>
      h'.calls = h.calls ∧ h'.state.source = h.state.source := by
  cases e with
  | nameAcquired name => cases other
  | uevent u => cases noUevent
  | _ => exact ⟨rfl, rfl⟩

/-- The acquisition of the name makes the broker open one monitor at most and list the devices once
at most. -/
theorem counts_pursue (name : Value) (h : Host Service) :
    (pursue (.nameAcquired name)).Ends h fun _ h' =>
    h'.calls.countP Call.isMonitoring ≤ h.calls.countP Call.isMonitoring + 1 ∧
      h'.calls.countP Call.isListing ≤ h.calls.countP Call.isListing + 1 := by
  have monitoring : Only Call.isMonitoring Call.isAsking := fun _ => Call.isAsking_of_isMonitoring
  have listing : Only Call.isListing Call.isAsking := fun _ => Call.isAsking_of_isListing
  have subscribes : (withinSource UeventSource.subscribe : Act Service Unit).Ends h fun _ h₁ =>
      h₁.calls.countP Call.isMonitoring ≤ h.calls.countP Call.isMonitoring + 1 ∧
        h₁.calls.countP Call.isListing = h.calls.countP Call.isListing :=
    Ends.within (((MonitorSource.ends_subscribe _).mono fun _ _ ends => ends.monitors_le).and
      ((MonitorSource.abstains_subscribe (q := Event.isUevent) fun _ meant => meant).ends_countP _))
  have lists (h₁ : Host Service) :
      (withinSource UeventSource.enumerate : Act Service Listing).Ends h₁ fun _ h₂ =>
      h₂.calls.countP Call.isMonitoring = h₁.calls.countP Call.isMonitoring ∧
        h₂.calls.countP Call.isListing = h₁.calls.countP Call.isListing + 1 :=
    have same :=
      (MonitorSource.abstains_enumerate (q := Event.isUevent) fun _ meant => meant).ends_countP _
    Ends.within (same.and (MonitorSource.ends_enumerate_listings _))
  have adds {p : Call → Bool} (asking : Only p Call.isAsking) (l : Listing) :
      (addListed l : Act Service Unit).Abstains p Event.isUevent := fun kept =>
    keeps_addListed (fun deviceId => abstains_addChip asking deviceId kept) l
  refine subscribes.bind
    (fun _ h₁ first => (lists h₁).bind (fun l h₂ second => ?_) fun _ h₂ second => ?_)
    fun _ h₁ first => ?_
  · refine (((adds monitoring l).ends_countP h₂).and ((adds listing l).ends_countP h₂)).mono ?_
    rintro _ h₃ third
    omega
  · omega
  · omega

end Broker

end GpioBroker
