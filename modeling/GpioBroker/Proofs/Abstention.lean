import GpioBroker.Proofs.Monitoring
import GpioBroker.Proofs.Queueing
import GpioBroker.Proofs.Ownership

/-!
# What an action abstains from

An action abstains from some calls and some events if it makes none of the calls and has no part in
the events, deferred ones included.  Guarded calls are those that open a chip, export an object,
open a monitor or list the devices.  Only the addition of a chip exposes one, and only the device
monitor asks for devices; all else that the service does abstains from guarded calls.
-/

namespace GpioBroker

/-- Whether a call opens a chip or exports an object. -/
def Call.isExposing : Call → Bool
  | .openChip _ | .exportObject _ => true
  | _ => false

/-- Whether a call opens a monitor. -/
def Call.isMonitoring : Call → Bool
  | .openMonitor => true
  | _ => false

/-- Whether a call lists the devices that are there. -/
def Call.isListing : Call → Bool
  | .listDevices _ => true
  | _ => false

/-- Whether a call asks the device manager for devices. -/
def Call.isAsking (c : Call) : Bool := c.isMonitoring || c.isListing

/-- Whether a call is only made once the name was acquired. -/
def Call.isGuarded (c : Call) : Bool := c.isExposing || c.isAsking

theorem Call.isGuarded_of_isExposing {c : Call} (exposing : c.isExposing = true) :
    c.isGuarded = true := by
  simp [isGuarded, exposing]

theorem Call.isAsking_of_isMonitoring {c : Call} (monitoring : c.isMonitoring = true) :
    c.isAsking = true := by
  simp [isAsking, monitoring]

theorem Call.isAsking_of_isListing {c : Call} (listing : c.isListing = true) :
    c.isAsking = true := by
  simp [isAsking, listing]

theorem Call.isGuarded_of_isAsking {c : Call} (asking : c.isAsking = true) :
    c.isGuarded = true := by
  simp [isGuarded, asking]

theorem Call.isGuarded_of_isMonitoring {c : Call} (monitoring : c.isMonitoring = true) :
    c.isGuarded = true :=
  isGuarded_of_isAsking (isAsking_of_isMonitoring monitoring)

theorem Call.isGuarded_of_isListing {c : Call} (listing : c.isListing = true) :
    c.isGuarded = true :=
  isGuarded_of_isAsking (isAsking_of_isListing listing)

/-- Whether an event is an action on a device. -/
def Event.isUevent : Event → Bool
  | .uevent _ => true
  | _ => false

/-- What is meant by one test is meant by another. -/
def Only {γ : Type} (p r : γ → Bool) : Prop := ∀ c, p c = true → r c = true

theorem Only.eq_false {γ : Type} {p r : γ → Bool} (only : Only p r) {c : γ} (other : r c = false) :
    p c = false := by
  cases meant : p c with
  | false => rfl
  | true =>
    have also := only c meant
    rw [other] at also
    cases also

namespace Act

variable {σ τ α β : Type} {p : Call → Bool} {q : Event → Bool}

/-- What a host has of some calls and of some events, and what it has deferred. -/
def share (p : Call → Bool) (q : Event → Bool) (h : Host σ) : List Call × List Event × List Event :=
  (h.calls.filter p, h.queue.filter q, h.deferred)

/-- The action makes none of some calls, has no part in some events and defers nothing. -/
def Abstains (p : Call → Bool) (q : Event → Bool) (x : Act σ α) : Prop :=
  ∀ kept, x.Keeps fun h => share p q h = kept

section Abstains

variable {x : Act σ α}

theorem Abstains.ends_share (hx : x.Abstains p q) (h : Host σ) :
    x.Ends h fun _ h' => share p q h' = share p q h := hx _ h rfl

theorem Abstains.ends_parts (hx : x.Abstains p q) (h : Host σ) : x.Ends h fun _ h' =>
    h'.calls.filter p = h.calls.filter p ∧ h'.queue.filter q = h.queue.filter q ∧
      h'.deferred = h.deferred := by
  refine (hx.ends_share h).mono fun _ h' same => ?_
  obtain ⟨calls, rest⟩ := Prod.mk.inj same
  exact ⟨calls, Prod.mk.inj rest⟩

theorem Abstains.ends_calls (hx : x.Abstains p q) (h : Host σ) :
    x.Ends h fun _ h' => h'.calls.filter p = h.calls.filter p :=
  (hx.ends_parts h).mono fun _ _ parts => parts.1

theorem Abstains.ends_countP (hx : x.Abstains p q) (h : Host σ) :
    x.Ends h fun _ h' => h'.calls.countP p = h.calls.countP p := by
  refine (hx.ends_calls h).mono fun _ h' same => ?_
  rw [List.countP_eq_length_filter, same, List.countP_eq_length_filter]

theorem abstains_pure (a : α) : (pure a : Act σ α).Abstains p q := fun _ => keeps_pure a

theorem abstains_fail (f : Fault) : (fail f : Act σ α).Abstains p q := fun _ => keeps_fail f

theorem abstains_state : (state : Act σ σ).Abstains p q := fun _ => keeps_state

theorem abstains_update (f : σ → σ) : (update f).Abstains p q := fun _ _ same => same

theorem abstains_log (level : Level) (text : Text) : (log level text : Act σ Unit).Abstains p q :=
  fun _ _ same => same

theorem abstains_failing (fault : Option Fault) : (failing fault : Act σ Unit).Abstains p q :=
  fun _ => keeps_failing fault

theorem abstains_ofExcept (r : Except Fault α) : (ofExcept r : Act σ α).Abstains p q :=
  fun _ => keeps_ofExcept r

theorem abstains_ofOutcome (r : Except Failure α) : (ofOutcome r : Act σ α).Abstains p q :=
  fun _ => keeps_ofOutcome r

theorem abstains_note {c : Call} (other : p c = false) : (note c : Act σ Unit).Abstains p q := by
  rintro _ h rfl
  simp [Ends, share, List.filter_append, other]

theorem abstains_post {e : Event} (other : q e = false) : (post e : Act σ Unit).Abstains p q := by
  rintro _ h rfl
  simp [Ends, share, List.filter_append, other]

theorem Abstains.bind {k : α → Act σ β} (hx : x.Abstains p q) (hk : ∀ a, (k a).Abstains p q) :
    (x >>= k).Abstains p q := fun kept => (hx kept).bind fun a => hk a kept

theorem Abstains.ite {c : Prop} [Decidable c] {y : Act σ α} (hx : x.Abstains p q)
    (hy : y.Abstains p q) :
    (if c then x else y).Abstains p q := fun kept => (hx kept).ite (hy kept)

/-- A guard that may fail before an action. -/
theorem Abstains.guard {c : Prop} [Decidable c] {f : Fault} (hx : x.Abstains p q) :
    (if c then (fail f : Act σ Unit) >>= fun _ => x else x).Abstains p q :=
  Abstains.ite ((abstains_fail f).bind fun _ => hx) hx

theorem Abstains.forM {γ : Type} {f : γ → Act σ Unit} (hf : ∀ c, (f c).Abstains p q) (cs : List γ) :
    (cs.forM f).Abstains p q := fun kept => Keeps.forM (fun c => hf c kept) cs

theorem Abstains.map {f : α → β} (hx : x.Abstains p q) : (f <$> x).Abstains p q :=
  fun kept => (hx kept).map

theorem Abstains.discard (hx : x.Abstains p q) : (discard x).Abstains p q := hx.map

theorem Abstains.within {get : σ → τ} {set : σ → τ → σ} {x : Act τ α} (hx : x.Abstains p q) :
    (within get set x).Abstains p q := fun kept _ same => Ends.within (hx kept _ same)

theorem Abstains.ensure {cleanup : Act σ Unit} (hx : x.Abstains p q) (hc : cleanup.Abstains p q) :
    (ensure x cleanup).Abstains p q := fun kept => (hx kept).ensure (hc kept)

theorem Abstains.recover {handles : Fault → Bool} {handler : Fault → Act σ α} (hx : x.Abstains p q)
    (hh : ∀ f, (handler f).Abstains p q) : (recover handles x handler).Abstains p q :=
  fun kept => (hx kept).recover fun f => hh f kept

theorem Abstains.undo {handles : Fault → Bool} {cleanup : Act σ Unit} (hx : x.Abstains p q)
    (hc : cleanup.Abstains p q) : (undo handles x cleanup).Abstains p q :=
  fun kept => (hx kept).undo (hc kept)

theorem Abstains.explain {handles : Fault → Bool} {explanation : Fault → Fault}
    (hx : x.Abstains p q) :
    (explain handles x explanation).Abstains p q := fun kept => (hx kept).explain

theorem Abstains.attempt (hx : x.Abstains p q) : (attempt x).Abstains p q :=
  fun kept => (hx kept).attempt

end Abstains

end Act

open Act

variable {α : Type} {p : Call → Bool} {q : Event → Bool}

/-! ### What abstains from guarded calls -/

section Guarded

variable (guarded : Only p Call.isGuarded)
include guarded

theorem OpenChip.abstains_call {σ : Type} (chip : OpenChip) (c : ChipCall) :
    (chip.call c : Act σ Unit).Abstains p q :=
  (abstains_note (guarded.eq_false rfl)).bind fun _ => abstains_failing _

theorem OpenChip.abstains_readInfo {σ : Type} (chip : OpenChip) (g : Generation) :
    (chip.readInfo g : Act σ ChipInfo).Abstains p q := by
  have calls (c : ChipCall) : (chip.call c : Act σ Unit).Abstains p q :=
    chip.abstains_call guarded c
  cases g with
  | first =>
    refine (calls .name).bind fun _ =>
      (calls .label).bind fun _ => (calls .numLines).bind fun _ => ?_
    exact abstains_ofExcept _
  | second => exact (calls .getInfo).bind fun _ => abstains_ofExcept _

theorem Handle.abstains_closeChip {σ : Type} (x : Handle) :
    (x.closeChip : Act σ Unit).Abstains p q := by
  unfold closeChip
  split
  · exact abstains_pure ()
  · exact (OpenChip.abstains_call guarded _ _).recover fun _ => abstains_log _ _

namespace Connection

variable {ρ : Type}

theorem abstains_unregister (registration : Value) :
    (unregister registration : Act (Connection ρ) Unit).Abstains p q := by
  refine (abstains_ofExcept _).discard.bind fun _ => abstains_state.bind fun c => ?_
  split
  · exact abstains_fail _
  · refine (abstains_update _).bind fun _ => ?_
    split
    · exact abstains_pure _
    · refine Abstains.within ((abstains_note (guarded.eq_false rfl)).bind fun _ => ?_)
      exact abstains_state.bind fun _ => (abstains_failing _).bind fun _ => abstains_update _

end Connection

namespace Roster

omit guarded in
theorem abstains_withinBus {x : Act (Connection Value) α} (hx : x.Abstains p q) :
    (withinBus x).Abstains p q := hx.within

theorem abstains_destroy (number : Nat) :
    (destroy number : Act (Roster (Connection Value)) Unit).Abstains p q := by
  refine abstains_state.bind fun r => ?_
  split
  · exact abstains_fail _
  · rename_i record _
    refine (abstains_update _).bind fun _ => Abstains.ensure ?_ ?_
    · cases record.handle with
      | none => exact abstains_pure ()
      | some x => exact x.abstains_closeChip guarded
    · cases record.registration with
      | none => exact abstains_pure ()
      | some id => exact abstains_withinBus (Connection.abstains_unregister guarded id)

theorem abstains_removeEntry (key : Key) (number : Nat) :
    (removeEntry key number : Act (Roster (Connection Value)) Unit).Abstains p q :=
  (abstains_destroy guarded number).ensure (abstains_update _)

theorem abstains_remove (deviceId : Value) :
    (remove deviceId : Act (Roster (Connection Value)) Unit).Abstains p q := by
  refine abstains_state.bind fun r => (abstains_ofExcept _).bind fun key => ?_
  split
  · exact abstains_fail _
  · exact abstains_removeEntry guarded _ _

theorem abstains_clear : (clear : Act (Roster (Connection Value)) Unit).Abstains p q :=
  abstains_state.bind fun _ => Abstains.forM (fun _ => abstains_removeEntry guarded _ _) _

end Roster

namespace Broker

variable {η : Type}

omit guarded in
theorem abstains_withinRoster {x : Act (Roster (Connection Value)) α} (hx : x.Abstains p q) :
    (withinRoster x : Act (Broker (Connection Value) η) α).Abstains p q := hx.within

omit guarded in
theorem abstains_withinBus {x : Act (Connection Value) α} (hx : x.Abstains p q) :
    (withinBus x : Act (Broker (Connection Value) η) α).Abstains p q :=
  abstains_withinRoster (Roster.abstains_withinBus hx)

omit guarded in
theorem abstains_withinSource {x : Act η α} (hx : x.Abstains p q) :
    (withinSource x : Act (Broker (Connection Value) η) α).Abstains p q := hx.within

theorem abstains_removeChip (deviceId : Value) :
    (removeChip deviceId : Act (Broker (Connection Value) η) Unit).Abstains p q :=
  (abstains_log _ _).bind fun _ => (Roster.abstains_remove guarded deviceId).within

theorem abstains_destroyAll :
    (destroyAll : Act (Broker (Connection Value) η) Unit).Abstains p q := by
  have clears : (withinRoster Roster.clear : Act (Broker (Connection Value) η) Unit).Abstains p q :=
    (Roster.abstains_clear guarded).within
  exact abstains_state.bind fun _ => Abstains.ite ((abstains_log _ _).bind fun _ => clears) clears

end Broker

/-! ### The attempt to own the name -/

namespace Connection

variable {ρ : Type}

variable (uevents : Only q Event.isUevent)
include uevents

omit guarded in
theorem abstains_postLoss (reason : LossReason) (detail : Text) :
    (postLoss reason detail : Act (Connection ρ) Unit).Abstains p q :=
  abstains_state.bind fun _ => abstains_post (uevents.eq_false rfl)

omit guarded in
theorem abstains_end (attempt : Nat) (reason : LossReason) (detail : Text) :
    (do postLoss reason detail; setPhase attempt .ended : Act (Connection ρ) Unit).Abstains p q :=
  (abstains_postLoss uevents reason detail).bind fun _ => abstains_update _

theorem abstains_makeBus (attempt : Nat) (script : BusScript) :
    (makeBus attempt script : Act (Connection ρ) Unit).Abstains p q := by
  unfold makeBus
  split
  · exact abstains_end uevents attempt _ _
  · refine abstains_state.bind fun _ => (abstains_note (guarded.eq_false rfl)).bind fun _ => ?_
    refine (abstains_note (guarded.eq_false rfl)).bind fun _ => ?_
    exact (abstains_update _).bind fun _ => abstains_update _

theorem abstains_afterConnect (attempt bus : Nat) (script : BusScript) :
    (afterConnect attempt bus script : Act (Connection ρ) Unit).Abstains p q := by
  unfold afterConnect
  split
  · exact abstains_end uevents attempt _ _
  · refine (abstains_update _).bind fun _ => (abstains_post (uevents.eq_false rfl)).bind fun _ => ?_
    refine (abstains_note (guarded.eq_false rfl)).bind fun _ => (abstains_update _).bind fun _ => ?_
    refine abstains_state.bind fun _ => (abstains_note (guarded.eq_false rfl)).bind fun _ => ?_
    exact abstains_update _

theorem abstains_afterRequest (attempt : Nat) (script : BusScript) :
    (afterRequest attempt script : Act (Connection ρ) Unit).Abstains p q := by
  unfold afterRequest
  split
  · exact abstains_end uevents attempt _ _
  · refine Abstains.ite ?_ (abstains_end uevents attempt _ _)
    refine (abstains_update _).bind fun _ => abstains_state.bind fun _ => ?_
    refine (abstains_post (uevents.eq_false rfl)).bind fun _ => ?_
    split
    · exact (abstains_note (guarded.eq_false rfl)).bind fun _ => abstains_update _
    · exact abstains_end uevents attempt _ _

/-- Whatever an attempt to own the name does next, it reports no uevent. -/
theorem abstains_resume (attempt : Nat) :
    (resume attempt : Act (Connection ρ) Unit).Abstains p q := by
  refine abstains_state.bind fun c => ?_
  split
  · exact abstains_makeBus guarded uevents attempt _
  · split
    · exact abstains_afterConnect guarded uevents attempt _ _
    · exact abstains_pure ()
  · split
    · exact abstains_afterRequest guarded uevents attempt _
    · exact abstains_pure ()
  · split
    · unfold afterHangup
      split
      · exact abstains_end uevents attempt _ _
      · exact abstains_end uevents attempt _ _
    · exact abstains_pure ()
  · exact abstains_pure ()

omit guarded in
theorem abstains_deliver (m : Message) : (deliver m : Act (Connection ρ) Unit).Abstains p q := by
  refine abstains_state.bind fun _ => Abstains.forM (fun m => ?_) _
  refine abstains_state.bind fun c => (abstains_ofExcept _).bind fun revoked => ?_
  refine Abstains.ite ?_ (abstains_pure ())
  exact (abstains_update _).bind fun _ => abstains_postLoss uevents _ _

omit uevents

omit guarded in
theorem abstains_abandon : (abandon : Act (Connection ρ) Unit).Abstains p q := by
  refine abstains_state.bind fun c => abstains_state.bind fun c => ?_
  split
  · exact Abstains.ite (abstains_update _) (abstains_pure ())
  · exact abstains_pure ()

theorem abstains_beginRelease : (beginRelease : Act (Connection ρ) Request).Abstains p q := by
  refine abstains_state.bind fun c => ?_
  split
  · exact abstains_pure _
  · refine (abstains_update _).bind fun _ => Abstains.ite ?_ (abstains_pure _)
    refine Abstains.bind (Abstains.attempt ?_) fun _ => abstains_pure _
    refine Abstains.within ((abstains_note (guarded.eq_false rfl)).bind fun _ => ?_)
    exact abstains_state.bind fun _ => abstains_failing _

theorem abstains_finishRelease (request : Request) :
    (finishRelease request : Act (Connection ρ) Unit).Abstains p q := by
  cases request with
  | none => exact abstains_pure ()
  | some asked =>
    have disconnects (number : Nat) : (do
        update fun c => { c with isOwner := false }
        withinBus number MessageBus.disconnect : Act (Connection ρ) Unit).Abstains p q :=
      (abstains_update _).bind fun _ =>
        ((abstains_note (guarded.eq_false rfl)).bind fun _ => abstains_update _).within
    refine abstains_state.bind fun c => Abstains.bind ?_ fun _ => disconnects _
    exact (abstains_ofOutcome _).recover fun _ => abstains_log _ _

end Connection

end Guarded

/-! ### What asks for no devices -/

section Asking

variable (asking : Only p Call.isAsking)
include asking

theorem Only.guarded : Only p Call.isGuarded :=
  fun c meant => Call.isGuarded_of_isAsking (asking c meant)

theorem Bindings.abstains_openDevice (deviceId : Value) : (openDevice deviceId).Abstains p q := by
  have opens (path : Text) : (openPath path).Abstains p q := by
    refine (abstains_note (asking.eq_false rfl)).bind fun _ => abstains_state.bind fun b => ?_
    split
    · exact abstains_fail _
    · exact (abstains_failing _).bind fun _ => (abstains_update _).bind fun _ => abstains_pure _
  refine abstains_state.bind fun b =>
    (abstains_ofExcept _).bind fun path => (opens path).bind fun chip => ?_
  refine Abstains.bind ?_ fun info => (abstains_log _ _).bind fun _ => abstains_pure _
  refine abstains_state.bind fun b => Abstains.undo ?_ ?_
  · exact chip.abstains_readInfo asking.guarded _
  · exact chip.abstains_call asking.guarded _

theorem Connection.abstains_register {ρ : Type} (path : Text) (reader : ρ) :
    (register path reader).Abstains p q := by
  have exports (object : ChipObject ρ) : (MessageBus.exportObject path object).Abstains p q := by
    refine (abstains_note (asking.eq_false rfl)).bind fun _ => abstains_state.bind fun b => ?_
    refine (abstains_failing _).bind fun _ => (abstains_ofExcept _).bind fun _ => ?_
    exact Abstains.guard (abstains_update _)
  refine abstains_state.bind fun c => ?_
  split
  · exact abstains_fail _
  · refine Abstains.guard ((abstains_update _).bind fun _ => ?_)
    refine Abstains.bind (exports _).within.explain fun _ => ?_
    exact (abstains_update _).bind fun _ => abstains_pure _

namespace Broker

variable {η : Type}

theorem abstains_openChip (deviceId : Value) :
    (openChip deviceId : Act (Broker (Connection Value) η) (Option Handle)).Abstains p q := by
  refine Abstains.recover ?_ fun f => (abstains_log _ _).bind fun _ => abstains_pure _
  exact (Bindings.abstains_openDevice asking deviceId).within.map

theorem abstains_registerRecord (number : Nat) (record : Record) :
    (registerRecord number record : Act (Broker (Connection Value) η) (Option Int)).Abstains p
      q := by
  refine Abstains.recover ?_ fun f => ?_
  · exact (abstains_withinBus (Connection.abstains_register asking _ _)).map
  · refine Abstains.bind (Roster.abstains_destroy asking.guarded number).within fun _ => ?_
    exact (abstains_log _ _).bind fun _ => abstains_pure _

theorem abstains_addChip (deviceId : Value) :
    (addChip deviceId : Act (Broker (Connection Value) η) (Option Nat)).Abstains p q := by
  have inserts (number : Nat) :
      (Roster.insert number : Act (Roster (Connection Value)) Unit).Abstains p q := by
    refine abstains_state.bind fun r => ?_
    split
    · exact abstains_fail _
    · refine (abstains_ofExcept _).bind fun key => ?_
      exact Abstains.ite (abstains_fail _) (abstains_update _)
  refine abstains_state.bind fun b => (abstains_ofExcept _).bind fun key => Abstains.guard ?_
  refine (abstains_log _ _).bind fun _ => (abstains_openChip asking deviceId).bind fun opened => ?_
  split
  · exact abstains_pure _
  · refine Abstains.bind ?_ fun number =>
      (abstains_registerRecord asking number _).bind fun registered => ?_
    · exact (abstains_state.bind fun _ => (abstains_update _).bind fun _ => abstains_pure _).within
    · split
      · exact abstains_pure _
      · exact Abstains.bind ((abstains_update _).bind fun _ => inserts _).within fun _ =>
          abstains_pure _

end Broker

end Asking

/-! ### The device monitor -/

namespace MonitorSource

theorem abstains_subscribe (listing : Only p Call.isListing) : subscribe.Abstains p q := by
  refine abstains_state.bind fun s => Abstains.ite ?_ (abstains_pure ())
  refine (abstains_note (listing.eq_false rfl)).bind fun _ => (abstains_failing _).bind fun _ => ?_
  refine (abstains_note (listing.eq_false rfl)).bind fun _ => (abstains_failing _).bind fun _ => ?_
  refine (abstains_note (listing.eq_false rfl)).bind fun _ => (abstains_failing _).bind fun _ => ?_
  refine (abstains_failing _).bind fun _ => ?_
  exact (abstains_update _).bind fun _ => abstains_log _ _

theorem abstains_enumerate (monitoring : Only p Call.isMonitoring) : enumerate.Abstains p q :=
  abstains_state.bind fun _ =>
    (abstains_note (monitoring.eq_false rfl)).bind fun _ => abstains_pure _

theorem abstains_takeFirst (left : List ManagedDevice) : (takeFirst left).Abstains p q := by
  refine abstains_state.bind fun _ => (abstains_update _).bind fun _ => ?_
  exact (abstains_failing _).bind fun _ => abstains_update _

theorem abstains_drainEach (uevents : ∀ u, q (.uevent u) = false) (ds : List ManagedDevice) :
    (drainEach ds).Abstains p q := by
  induction ds with
  | nil => exact abstains_takeFirst []
  | cons d ds ih =>
    exact (abstains_takeFirst ds).bind fun _ => (abstains_post (uevents _)).bind fun _ => ih

theorem abstains_poll (uevents : ∀ u, q (.uevent u) = false) : poll.Abstains p q := by
  refine abstains_state.bind fun _ => Abstains.ite (Abstains.discard (Abstains.attempt ?_))
    (abstains_pure ())
  exact abstains_state.bind fun _ => Abstains.ite (abstains_drainEach uevents _) (abstains_pure ())

theorem abstains_close : close.Abstains p q := by
  refine abstains_state.bind fun s => ?_
  split
  · exact abstains_pure ()
  · refine (abstains_update _).bind fun _ => (abstains_failing _).bind fun _ => ?_
    exact abstains_update _

/-- Subscribing opens one monitor at most. -/
theorem Subscribing.monitors_le {h h' : Host MonitorSource} {r : Except Failure Unit}
    (subscribing : Subscribing h h' r) :
    h'.calls.countP Call.isMonitoring ≤ h.calls.countP Call.isMonitoring + 1 := by
  obtain ⟨asked, first, calls⟩ := subscribing.asked
  have one : h.state.requests.countP Call.isMonitoring = 1 := rfl
  have fewer := first.sublist.countP_le (p := Call.isMonitoring)
  rw [calls, List.countP_append]
  omega

theorem ends_enumerate_listings (h : Host MonitorSource) : enumerate.Ends h fun _ h' =>
    h'.calls.countP Call.isListing = h.calls.countP Call.isListing + 1 := by
  unfold enumerate
  simp [ends_bind, List.countP_append, Call.isListing]

end MonitorSource

end GpioBroker
