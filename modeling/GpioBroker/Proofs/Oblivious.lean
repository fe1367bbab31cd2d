import GpioBroker.Broker
import GpioBroker.MessageBus.Ownership
import GpioBroker.Proofs.Outcome

/-!
# Oblivious actions

An action is oblivious if what it does follows from the state alone: it adds to the calls and to the
log of its host without looking at them, and has no part in its events.  Whether a device can be
opened, whether a connection takes an object, and whether a record can be given up are then
properties of the bindings, of the connection and of the roster.
-/

namespace GpioBroker

variable {σ τ α β : Type}

/-- A host after what was done on a host that had nothing behind it. -/
def Host.before (h : Host σ) (later : Host τ) : Host τ where
  state := later.state
  calls := h.calls ++ later.calls
  records := h.records ++ later.records
  queue := h.queue
  deferred := h.deferred

theorem Host.state_before (h : Host σ)
    (later : Host τ) : (h.before later).state = later.state := rfl

@[simp] theorem Host.before_before {υ : Type} (h : Host σ) (later : Host τ) (last : Host υ) :
    (h.before later).before last = h.before (later.before last) := by
  simp [before]

namespace Act

/-- What the action does follows from the state, and it only adds to the calls and to the log. -/
def IsOblivious (x : Act σ α) : Prop :=
  ∀ h : Host σ, x.run h = ((x.run { state := h.state }).1, h.before (x.run { state := h.state }).2)

theorem IsOblivious.ends_records {x : Act σ α} (hx : x.IsOblivious) (h : Host σ) :
    x.Ends h fun _ h' => h.records <+: h'.records := by
  unfold Ends
  rw [hx h]
  exact List.prefix_append ..

theorem IsOblivious.ends_queue {x : Act σ α} (hx : x.IsOblivious) (h : Host σ) :
    x.Ends h fun _ h' => h'.queue = h.queue := by
  unfold Ends
  rw [hx h]
  rfl

/-- What an oblivious action does to the state depends on the state only. -/
theorem IsOblivious.ends_congr {x : Act σ α} (hx : x.IsOblivious) {h : Host σ}
    {Q : Except Failure α → σ → Prop} (ends : x.Ends h fun r h' => Q r h'.state) (h₁ : Host σ)
    (same : h₁.state = h.state) : x.Ends h₁ fun r h' => Q r h'.state := by
  unfold Ends at ends ⊢
  rw [hx h] at ends
  rw [hx h₁, same]
  exact ends

theorem isOblivious_pure (a : α) : (pure a : Act σ α).IsOblivious := fun h => by
  simp [Host.before]

theorem isOblivious_fail (f : Fault) : (fail f : Act σ α).IsOblivious := fun h => by
  simp [Host.before]

theorem isOblivious_state : (state : Act σ σ).IsOblivious := fun h => by
  simp [Host.before]

theorem isOblivious_update (f : σ → σ) : (update f).IsOblivious := fun h => by
  simp [Host.before]

theorem isOblivious_note (c : Call) : (note c : Act σ Unit).IsOblivious := fun h => by
  simp [Host.before]

theorem isOblivious_log (level : Level) (text : Text) :
    (log level text : Act σ Unit).IsOblivious := fun h => by
  simp [Host.before]

theorem isOblivious_failing (fault : Option Fault) : (failing fault : Act σ Unit).IsOblivious := by
  cases fault with
  | none => exact isOblivious_pure ()
  | some f => exact isOblivious_fail f

theorem isOblivious_ofExcept (r : Except Fault α) : (ofExcept r : Act σ α).IsOblivious := by
  cases r with
  | ok a => exact isOblivious_pure a
  | error f => exact isOblivious_fail f

theorem IsOblivious.ite {c : Prop} [Decidable c] {x y : Act σ α} (hx : x.IsOblivious)
    (hy : y.IsOblivious) : (if c then x else y).IsOblivious := by
  split
  · exact hx
  · exact hy

theorem IsOblivious.bind {x : Act σ α} {k : α → Act σ β} (hx : x.IsOblivious)
    (hk : ∀ a, (k a).IsOblivious) : (x >>= k).IsOblivious := fun h => by
  rw [run_bind, run_bind, hx h]
  rcases x.run { state := h.state } with ⟨e | a, h₁⟩
  · rfl
  · dsimp only
    rw [hk a (h.before h₁), hk a h₁, Host.before_before]
    rfl

/-- A guard that may fail before an action. -/
theorem IsOblivious.guard {c : Prop} [Decidable c] {f : Fault} {x : Act σ α} (hx : x.IsOblivious) :
    (if c then (fail f : Act σ Unit) >>= fun _ => x else x).IsOblivious :=
  IsOblivious.ite ((isOblivious_fail f).bind fun _ => hx) hx

theorem IsOblivious.forM {γ : Type} {f : γ → Act σ Unit} (hf : ∀ c, (f c).IsOblivious)
    (cs : List γ) :
    (cs.forM f).IsOblivious := by
  induction cs with
  | nil => exact isOblivious_pure ()
  | cons c cs ih => exact (hf c).bind fun _ => ih

theorem IsOblivious.map {f : α → β} {x : Act σ α} (hx : x.IsOblivious) : (f <$> x).IsOblivious :=
  hx.bind fun a => isOblivious_pure (f a)

theorem IsOblivious.discard {x : Act σ α} (hx : x.IsOblivious) : (discard x).IsOblivious := hx.map

theorem IsOblivious.within {get : σ → τ} {set : σ → τ → σ} {x : Act τ α} (hx : x.IsOblivious) :
    (within get set x).IsOblivious := fun h => by
  rw [run_within, run_within, hx (h.withState _)]
  rfl

theorem IsOblivious.recover {handles : Fault → Bool} {x : Act σ α} {handler : Fault → Act σ α}
    (hx : x.IsOblivious) (hh : ∀ f, (handler f).IsOblivious) :
    (recover handles x handler).IsOblivious := fun h => by
  rw [run_recover, run_recover, hx h]
  rcases x.run { state := h.state } with ⟨e | a, h₁⟩
  · dsimp only
    by_cases handled : handles e.fault
    · rw [if_pos handled, if_pos handled, hh _ (h.before h₁), hh _ h₁,
        Host.state_before]
      rcases (handler e.fault).run { state := h₁.state } with ⟨e' | a, h₂⟩ <;> simp
    · rw [if_neg handled, if_neg handled]
  · rfl

theorem IsOblivious.undo {handles : Fault → Bool} {x : Act σ α} {cleanup : Act σ Unit}
    (hx : x.IsOblivious) (hc : cleanup.IsOblivious) :
    (undo handles x cleanup).IsOblivious := fun h => by
  rw [run_undo, run_undo, hx h]
  rcases x.run { state := h.state } with ⟨e | a, h₁⟩
  · dsimp only
    by_cases handled : handles e.fault
    · rw [if_pos handled, if_pos handled, hc (h.before h₁), hc h₁, Host.state_before]
      rcases cleanup.run { state := h₁.state } with ⟨e' | a, h₂⟩ <;> simp
    · rw [if_neg handled, if_neg handled]
  · rfl

theorem IsOblivious.explain {handles : Fault → Bool} {x : Act σ α} {explanation : Fault → Fault}
    (hx : x.IsOblivious) : (explain handles x explanation).IsOblivious := fun h => by
  rw [run_explain, run_explain, hx h]
  rcases x.run { state := h.state } with ⟨e | a, h₁⟩
  · dsimp only
    split <;> rfl
  · rfl

theorem IsOblivious.ensure {x : Act σ α} {cleanup : Act σ Unit} (hx : x.IsOblivious)
    (hc : cleanup.IsOblivious) : (ensure x cleanup).IsOblivious := fun h => by
  rw [run_ensure, run_ensure, hx h]
  rcases x.run { state := h.state } with ⟨r, h₁⟩
  dsimp only
  rw [hc (h.before h₁), hc h₁, Host.state_before]
  rcases cleanup.run { state := h₁.state } with ⟨e | a, h₂⟩ <;> simp

end Act

open Act

/-! ### Chips -/

theorem OpenChip.isOblivious_call (chip : OpenChip) (c : ChipCall) :
    (chip.call c : Act σ Unit).IsOblivious :=
  (isOblivious_note _).bind fun _ => isOblivious_failing _

theorem OpenChip.isOblivious_readInfo (chip : OpenChip) (g : Generation) :
    (chip.readInfo g : Act σ ChipInfo).IsOblivious := by
  cases g with
  | first =>
    refine (chip.isOblivious_call .name).bind fun _ => ?_
    refine (chip.isOblivious_call .label).bind fun _ => ?_
    refine (chip.isOblivious_call .numLines).bind fun _ => ?_
    exact isOblivious_ofExcept _
  | second => exact (chip.isOblivious_call .getInfo).bind fun _ => isOblivious_ofExcept _

theorem Handle.isOblivious_closeChip (x : Handle) : (x.closeChip : Act σ Unit).IsOblivious := by
  unfold closeChip
  split
  · exact isOblivious_pure ()
  · exact (OpenChip.isOblivious_call _ _).recover fun _ => isOblivious_log _ _

namespace Bindings

theorem isOblivious_openPath (path : Text) : (openPath path).IsOblivious := by
  refine (isOblivious_note _).bind fun _ => isOblivious_state.bind fun b => ?_
  cases b.find? path with
  | none => exact isOblivious_fail _
  | some device =>
    refine (isOblivious_failing _).bind fun _ => ?_
    exact (isOblivious_update _).bind fun _ => isOblivious_pure _

theorem isOblivious_openDevice (deviceId : Value) : (openDevice deviceId).IsOblivious := by
  refine isOblivious_state.bind fun b => ?_
  refine (isOblivious_ofExcept _).bind fun path => ?_
  refine (isOblivious_openPath path).bind fun chip => ?_
  refine IsOblivious.bind ?_ fun info => (isOblivious_log _ _).bind fun _ => isOblivious_pure _
  refine isOblivious_state.bind fun b => ?_
  exact (chip.isOblivious_readInfo _).undo (chip.isOblivious_call _)

/-- Whether a device can be opened by its name. -/
def opens (b : Bindings) (deviceId : Value) : Bool :=
  ((openDevice deviceId).run { state := b }).1.isOk

theorem isOk_run_openDevice (deviceId : Value) (h : Host Bindings) :
    ((openDevice deviceId).run h).1.isOk = h.state.opens deviceId := by
  rw [isOblivious_openDevice deviceId h, opens]

end Bindings

/-! ### Objects -/

theorem MessageBus.isOblivious_unexportObject {ρ : Type} (path : Text) (object : ChipObject ρ) :
    (unexportObject path object).IsOblivious := by
  refine (isOblivious_note _).bind fun _ => isOblivious_state.bind fun b => ?_
  exact (isOblivious_failing _).bind fun _ => isOblivious_update _

theorem MessageBus.isOblivious_exportObject {ρ : Type} (path : Text) (object : ChipObject ρ) :
    (exportObject path object).IsOblivious := by
  refine (isOblivious_note _).bind fun _ => isOblivious_state.bind fun b => ?_
  refine (isOblivious_failing _).bind fun _ => (isOblivious_ofExcept _).bind fun _ => ?_
  exact IsOblivious.guard (isOblivious_update _)

namespace Connection

variable {ρ : Type}

theorem isOblivious_register (path : Text) (reader : ρ) : (register path reader).IsOblivious := by
  refine isOblivious_state.bind fun c => ?_
  cases c.live? with
  | none => exact isOblivious_fail _
  | some number =>
    refine IsOblivious.guard ((isOblivious_update _).bind fun _ => ?_)
    refine (IsOblivious.explain ?_).bind fun _ =>
      (isOblivious_update _).bind fun _ => isOblivious_pure _
    exact (MessageBus.isOblivious_exportObject path _).within

theorem isOblivious_unregister (registration : Value) :
    (unregister registration : Act (Connection ρ) Unit).IsOblivious := by
  refine (isOblivious_ofExcept _).discard.bind fun _ => ?_
  refine isOblivious_state.bind fun c => ?_
  split
  · exact isOblivious_fail _
  · refine (isOblivious_update _).bind fun _ => ?_
    split
    · exact isOblivious_pure _
    · exact (MessageBus.isOblivious_unexportObject _ _).within

/-- Whether the connection takes an object at a path. -/
def takes (c : Connection ρ) (path : Text) (reader : ρ) : Bool :=
  ((register path reader).run { state := c }).1.isOk

theorem isOk_run_register (path : Text) (reader : ρ) (h : Host (Connection ρ)) :
    ((register path reader).run h).1.isOk = h.state.takes path reader := by
  rw [isOblivious_register path reader h, takes]

end Connection

/-! ### Records -/

namespace Roster

theorem isOblivious_withinBus {x : Act (Connection Value) α} (hx : x.IsOblivious) :
    (withinBus x).IsOblivious := hx.within

theorem isOblivious_destroy (number : Nat) :
    (destroy number : Act (Roster (Connection Value)) Unit).IsOblivious := by
  refine isOblivious_state.bind fun r => ?_
  split
  · exact isOblivious_fail _
  · rename_i record _
    refine (isOblivious_update _).bind fun _ => IsOblivious.ensure ?_ ?_
    · cases record.handle with
      | none => exact isOblivious_pure ()
      | some x => exact x.isOblivious_closeChip
    · cases record.registration with
      | none => exact isOblivious_pure ()
      | some id => exact isOblivious_withinBus (Connection.isOblivious_unregister id)

/-- Whether the parts of the record with a number can be given up without a failure. -/
def yields (r : Roster (Connection Value)) (number : Nat) : Bool :=
  ((destroy number).run { state := r }).1.isOk

theorem isOk_run_destroy (number : Nat) (h : Host (Roster (Connection Value))) :
    ((destroy number).run h).1.isOk = h.state.yields number := by
  rw [isOblivious_destroy number h, yields]

theorem isOblivious_insert (number : Nat) :
    (insert number : Act (Roster (Connection Value)) Unit).IsOblivious := by
  refine isOblivious_state.bind fun r => ?_
  split
  · exact isOblivious_fail _
  · refine (isOblivious_ofExcept _).bind fun key => ?_
    exact IsOblivious.ite (isOblivious_fail _) (isOblivious_update _)

theorem isOblivious_remove (deviceId : Value) :
    (remove deviceId : Act (Roster (Connection Value)) Unit).IsOblivious := by
  refine isOblivious_state.bind fun r => (isOblivious_ofExcept _).bind fun key => ?_
  split
  · exact isOblivious_fail _
  · exact (isOblivious_destroy _).ensure (isOblivious_update _)

end Roster

/-! ### Operations of the broker -/

namespace Broker

variable {η : Type}

theorem isOblivious_withinRoster {x : Act (Roster (Connection Value)) α} (hx : x.IsOblivious) :
    (withinRoster x : Act (Broker (Connection Value) η) α).IsOblivious := hx.within

theorem isOblivious_withinBus {x : Act (Connection Value) α} (hx : x.IsOblivious) :
    (withinBus x : Act (Broker (Connection Value) η) α).IsOblivious :=
  isOblivious_withinRoster (Roster.isOblivious_withinBus hx)

theorem isOblivious_openChip (deviceId : Value) :
    (openChip deviceId : Act (Broker (Connection Value) η) (Option Handle)).IsOblivious := by
  refine IsOblivious.recover ?_ fun f => (isOblivious_log _ _).bind fun _ => isOblivious_pure _
  exact (Bindings.isOblivious_openDevice deviceId).within.map

theorem isOblivious_registerRecord (number : Nat) (record : Record) :
    (registerRecord number record : Act (Broker (Connection Value) η)
      (Option Int)).IsOblivious := by
  refine IsOblivious.recover ?_ fun f => ?_
  · exact (isOblivious_withinBus (Connection.isOblivious_register _ _)).map
  · refine (isOblivious_withinRoster (Roster.isOblivious_destroy number)).bind fun _ => ?_
    exact (isOblivious_log _ _).bind fun _ => isOblivious_pure _

theorem isOblivious_addChip (deviceId : Value) :
    (addChip deviceId : Act (Broker (Connection Value) η) (Option Nat)).IsOblivious := by
  have rest : ∀ number (record : Record) (registration : Int),
      (withinRoster (do
        Act.update fun r =>
          r.setRecord number { record with registration := some (.int registration) }
        Roster.insert number) : Act (Broker (Connection Value) η) Unit).IsOblivious := fun _ _ _ =>
    isOblivious_withinRoster ((isOblivious_update _).bind fun _ => Roster.isOblivious_insert _)
  have keep : ∀ record : Record,
      (withinRoster (Roster.keep record) : Act (Broker (Connection Value) η) Nat).IsOblivious :=
    fun _ =>
    isOblivious_withinRoster (isOblivious_state.bind fun _ =>
      (isOblivious_update _).bind fun _ => isOblivious_pure _)
  refine isOblivious_state.bind fun b =>
    (isOblivious_ofExcept _).bind fun key => IsOblivious.guard ?_
  refine (isOblivious_log _ _).bind fun _ => (isOblivious_openChip deviceId).bind fun opened => ?_
  split
  · exact isOblivious_pure _
  · refine (keep _).bind fun number =>
      (isOblivious_registerRecord number _).bind fun registered => ?_
    split
    · exact isOblivious_pure _
    · exact (rest _ _ _).bind fun _ => isOblivious_pure _

theorem isOblivious_removeChip (deviceId : Value) :
    (removeChip deviceId : Act (Broker (Connection Value) η) Unit).IsOblivious :=
  (isOblivious_log _ _).bind fun _ => isOblivious_withinRoster (Roster.isOblivious_remove deviceId)

theorem isOblivious_onUevent (u : Uevent) :
    (onUevent u : Act (Broker (Connection Value) η) Unit).IsOblivious := by
  refine IsOblivious.ite ?_ (isOblivious_pure ())
  refine (isOblivious_log _ _).bind fun _ => IsOblivious.ite ?_ (IsOblivious.ite ?_ ?_)
  · exact (isOblivious_addChip _).discard
  · exact isOblivious_removeChip _
  · exact isOblivious_log _ _

end Broker

end GpioBroker
