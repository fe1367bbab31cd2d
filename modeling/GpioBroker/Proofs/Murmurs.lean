import GpioBroker.Proofs.Interleaving

/-!
# What is only murmured

A record of a level other than debug and warning is loud.  Loud records tell of a program as a
whole: that it begins and ends, and what it ends for.  Whatever the service does with its chips, its
bus and its devices is at most murmured: it leaves the loud records as they are.
-/

namespace GpioBroker

/-- Whether a level is above debug, warnings apart. -/
def Level.isLoud : Level → Bool
  | .debug | .warning => false
  | .info | .error | .critical => true

/-- Whether a record is of another level than debug and warning. -/
def LogRecord.isLoud (r : LogRecord) : Bool :=
  r.level != Level.debug.number && r.level != Level.warning.number

theorem LogRecord.isLoud_level (level : Level) (text : Text) :
    (⟨level.number, text⟩ : LogRecord).isLoud = level.isLoud := by
  cases level <;> rfl

/-- The loud records of a host. -/
def Host.loud {σ : Type} (h : Host σ) : List LogRecord := h.records.filter LogRecord.isLoud

namespace Act

variable {σ τ α β : Type}

/-- The action leaves the loud records as they are. -/
def Murmurs (x : Act σ α) : Prop := ∀ kept, x.Keeps fun h => h.loud = kept

section Murmurs

variable {x : Act σ α}

theorem Murmurs.ends_loud (hx : x.Murmurs) (h : Host σ) : x.Ends h fun _ h' =>
    h'.loud = h.loud := hx _ h rfl

theorem murmurs_pure (a : α) : (pure a : Act σ α).Murmurs := fun _ => keeps_pure a

theorem murmurs_fail (f : Fault) : (fail f : Act σ α).Murmurs := fun _ => keeps_fail f

theorem murmurs_state : (state : Act σ σ).Murmurs := fun _ => keeps_state

theorem murmurs_update (f : σ → σ) : (update f).Murmurs := fun _ _ same => same

theorem murmurs_note (c : Call) : (note c : Act σ Unit).Murmurs := fun _ _ same => same

theorem murmurs_post (e : Event) : (post e : Act σ Unit).Murmurs := fun _ _ same => same

theorem murmurs_defer (e : Event) : (defer e : Act σ Unit).Murmurs := fun _ _ same => same

theorem murmurs_deliver : (deliver : Act σ Unit).Murmurs := fun _ _ same => same

theorem murmurs_failing (fault : Option Fault) : (failing fault : Act σ Unit).Murmurs :=
  fun _ => keeps_failing fault

theorem murmurs_ofExcept (r : Except Fault α) : (ofExcept r : Act σ α).Murmurs :=
  fun _ => keeps_ofExcept r

theorem murmurs_ofOutcome (r : Except Failure α) : (ofOutcome r : Act σ α).Murmurs :=
  fun _ => keeps_ofOutcome r

theorem murmurs_log {level : Level} (low : level.isLoud = false) (text : Text) :
    (log level text : Act σ Unit).Murmurs := by
  rintro _ h rfl
  simp [Ends, Host.loud, LogRecord.isLoud_level, low]

/-- What is logged loudly is one more loud record. -/
theorem ends_log_loud {level : Level} (loud : level.isLoud = true) (text : Text) (h : Host σ) :
    (log level text).Ends h fun r h' =>
      r = .ok () ∧ h'.loud = h.loud ++ [⟨level.number, text⟩] := by
  simp [Host.loud, LogRecord.isLoud_level, loud]

theorem Murmurs.bind {k : α → Act σ β} (hx : x.Murmurs) (hk : ∀ a, (k a).Murmurs) :
    (x >>= k).Murmurs :=
  fun kept => (hx kept).bind fun a => hk a kept

theorem Murmurs.ite {c : Prop} [Decidable c] {y : Act σ α} (hx : x.Murmurs) (hy : y.Murmurs) :
    (if c then x else y).Murmurs := fun kept => (hx kept).ite (hy kept)

/-- A guard that may fail before an action. -/
theorem Murmurs.guard {c : Prop} [Decidable c] {f : Fault} (hx : x.Murmurs) :
    (if c then (fail f : Act σ Unit) >>= fun _ => x else x).Murmurs :=
  Murmurs.ite ((murmurs_fail f).bind fun _ => hx) hx

theorem Murmurs.forM {γ : Type} {f : γ → Act σ Unit} (hf : ∀ c, (f c).Murmurs) (cs : List γ) :
    (cs.forM f).Murmurs := fun kept => Keeps.forM (fun c => hf c kept) cs

theorem Murmurs.map {f : α → β} (hx : x.Murmurs) : (f <$> x).Murmurs := fun kept => (hx kept).map

theorem Murmurs.discard (hx : x.Murmurs) : (discard x).Murmurs := hx.map

theorem Murmurs.within {get : σ → τ} {set : σ → τ → σ} {x : Act τ α} (hx : x.Murmurs) :
    (within get set x).Murmurs := fun kept _ same => Ends.within (hx kept _ same)

theorem Murmurs.ensure {cleanup : Act σ Unit} (hx : x.Murmurs) (hc : cleanup.Murmurs) :
    (ensure x cleanup).Murmurs := fun kept => (hx kept).ensure (hc kept)

theorem Murmurs.recover {handles : Fault → Bool} {handler : Fault → Act σ α} (hx : x.Murmurs)
    (hh : ∀ f, (handler f).Murmurs) : (recover handles x handler).Murmurs :=
  fun kept => (hx kept).recover fun f => hh f kept

theorem Murmurs.undo {handles : Fault → Bool} {cleanup : Act σ Unit} (hx : x.Murmurs)
    (hc : cleanup.Murmurs) : (undo handles x cleanup).Murmurs :=
  fun kept => (hx kept).undo (hc kept)

theorem Murmurs.explain {handles : Fault → Bool} {explanation : Fault → Fault} (hx : x.Murmurs) :
    (explain handles x explanation).Murmurs := fun kept => (hx kept).explain

theorem Murmurs.attempt (hx : x.Murmurs) : (attempt x).Murmurs := fun kept => (hx kept).attempt

end Murmurs

end Act

open Act

variable {σ α ρ : Type}

/-! ### Chips -/

theorem OpenChip.murmurs_call (chip : OpenChip) (c : ChipCall) :
    (chip.call c : Act σ Unit).Murmurs :=
  (murmurs_note _).bind fun _ => murmurs_failing _

theorem OpenChip.murmurs_readInfo (chip : OpenChip) (g : Generation) :
    (chip.readInfo g : Act σ ChipInfo).Murmurs := by
  have calls (c : ChipCall) : (chip.call c : Act σ Unit).Murmurs := chip.murmurs_call c
  cases g with
  | first =>
    refine (calls .name).bind fun _ =>
      (calls .label).bind fun _ => (calls .numLines).bind fun _ => ?_
    exact murmurs_ofExcept _
  | second => exact (calls .getInfo).bind fun _ => murmurs_ofExcept _

theorem Handle.murmurs_closeChip (x : Handle) : (x.closeChip : Act σ Unit).Murmurs := by
  unfold closeChip
  split
  · exact murmurs_pure ()
  · exact (OpenChip.murmurs_call _ _).recover fun _ => murmurs_log rfl _

theorem Bindings.murmurs_openPath (path : Text) : (openPath path).Murmurs := by
  refine (murmurs_note _).bind fun _ => murmurs_state.bind fun b => ?_
  split
  · exact murmurs_fail _
  · exact (murmurs_failing _).bind fun _ => (murmurs_update _).bind fun _ => murmurs_pure _

theorem Bindings.murmurs_openDevice (deviceId : Value) : (openDevice deviceId).Murmurs := by
  refine murmurs_state.bind fun b =>
    (murmurs_ofExcept _).bind fun path => (murmurs_openPath path).bind fun chip => ?_
  refine Murmurs.bind ?_ fun info => (murmurs_log rfl _).bind fun _ => murmurs_pure _
  exact murmurs_state.bind fun b => (chip.murmurs_readInfo _).undo (chip.murmurs_call _)

/-! ### The connection -/

namespace MessageBus

theorem murmurs_exportObject (path : Text) (object : ChipObject ρ) :
    (exportObject path object).Murmurs := by
  refine (murmurs_note _).bind fun _ =>
    murmurs_state.bind fun b => (murmurs_failing _).bind fun _ => ?_
  exact (murmurs_ofExcept _).bind fun _ => Murmurs.guard (murmurs_update _)

theorem murmurs_unexportObject (path : Text) (object : ChipObject ρ) :
    (unexportObject path object).Murmurs :=
  (murmurs_note _).bind fun _ =>
    murmurs_state.bind fun _ => (murmurs_failing _).bind fun _ => murmurs_update _

theorem murmurs_releaseName (name : Text) : (releaseName name : Act (MessageBus ρ) Unit).Murmurs :=
  (murmurs_note _).bind fun _ => murmurs_state.bind fun _ => murmurs_failing _

theorem murmurs_disconnect : (disconnect : Act (MessageBus ρ) Unit).Murmurs :=
  (murmurs_note _).bind fun _ => murmurs_update _

end MessageBus

namespace Connection

theorem murmurs_register (path : Text) (reader : ρ) : (register path reader).Murmurs := by
  refine murmurs_state.bind fun c => ?_
  split
  · exact murmurs_fail _
  · refine Murmurs.guard ((murmurs_update _).bind fun _ => ?_)
    refine Murmurs.bind (MessageBus.murmurs_exportObject _ _).within.explain fun _ => ?_
    exact (murmurs_update _).bind fun _ => murmurs_pure _

theorem murmurs_unregister (registration : Value) :
    (unregister registration : Act (Connection ρ) Unit).Murmurs := by
  refine (murmurs_ofExcept _).discard.bind fun _ => murmurs_state.bind fun c => ?_
  split
  · exact murmurs_fail _
  · refine (murmurs_update _).bind fun _ => ?_
    split
    · exact murmurs_pure _
    · exact (MessageBus.murmurs_unexportObject _ _).within

theorem murmurs_postLoss (reason : LossReason) (detail : Text) :
    (postLoss reason detail : Act (Connection ρ) Unit).Murmurs :=
  murmurs_state.bind fun _ => murmurs_post _

/-- The end of an attempt with the report of a loss. -/
theorem murmurs_end (attempt : Nat) (reason : LossReason) (detail : Text) :
    (do postLoss reason detail; setPhase attempt .ended : Act (Connection ρ) Unit).Murmurs :=
  (murmurs_postLoss reason detail).bind fun _ => murmurs_update _

theorem murmurs_makeBus (attempt : Nat) (script : BusScript) :
    (makeBus attempt script : Act (Connection ρ) Unit).Murmurs := by
  unfold makeBus
  split
  · exact murmurs_end attempt _ _
  · refine murmurs_state.bind fun _ =>
      (murmurs_note _).bind fun _ => (murmurs_note _).bind fun _ => ?_
    exact (murmurs_update _).bind fun _ => murmurs_update _

theorem murmurs_afterConnect (attempt bus : Nat) (script : BusScript) :
    (afterConnect attempt bus script : Act (Connection ρ) Unit).Murmurs := by
  unfold afterConnect
  split
  · exact murmurs_end attempt _ _
  · refine (murmurs_update _).bind fun _ =>
      (murmurs_post _).bind fun _ => (murmurs_note _).bind fun _ => ?_
    refine (murmurs_update _).bind fun _ =>
      murmurs_state.bind fun _ => (murmurs_note _).bind fun _ => ?_
    exact murmurs_update _

theorem murmurs_afterRequest (attempt : Nat) (script : BusScript) :
    (afterRequest attempt script : Act (Connection ρ) Unit).Murmurs := by
  unfold afterRequest
  split
  · exact murmurs_end attempt _ _
  · refine Murmurs.ite ?_ (murmurs_end attempt _ _)
    refine (murmurs_update _).bind fun _ =>
      murmurs_state.bind fun _ => (murmurs_post _).bind fun _ => ?_
    split
    · exact (murmurs_note _).bind fun _ => murmurs_update _
    · exact murmurs_end attempt _ _

theorem murmurs_resume (attempt : Nat) : (resume attempt : Act (Connection ρ) Unit).Murmurs := by
  refine murmurs_state.bind fun c => ?_
  split
  · exact murmurs_makeBus attempt _
  · split
    · exact murmurs_afterConnect attempt _ _
    · exact murmurs_pure ()
  · split
    · exact murmurs_afterRequest attempt _
    · exact murmurs_pure ()
  · split
    · unfold afterHangup
      split
      · exact murmurs_end attempt _ _
      · exact murmurs_end attempt _ _
    · exact murmurs_pure ()
  · exact murmurs_pure ()

theorem murmurs_progress : (progress : Act (Connection ρ) Unit).Murmurs := by
  refine murmurs_state.bind fun c => Murmurs.forM (fun attempt => ?_) _
  refine (murmurs_resume attempt).bind fun _ => (murmurs_resume attempt).bind fun _ => ?_
  exact (murmurs_resume attempt).bind fun _ => murmurs_resume attempt

theorem murmurs_deliver (m : Message) : (deliver m : Act (Connection ρ) Unit).Murmurs := by
  refine murmurs_state.bind fun _ => Murmurs.forM (fun m => ?_) _
  refine murmurs_state.bind fun c => (murmurs_ofExcept _).bind fun revoked => ?_
  exact Murmurs.ite ((murmurs_update _).bind fun _ => murmurs_postLoss _ _) (murmurs_pure ())

theorem murmurs_abandon : (abandon : Act (Connection ρ) Unit).Murmurs := by
  refine murmurs_state.bind fun c => murmurs_state.bind fun c => ?_
  split
  · exact Murmurs.ite (murmurs_update _) (murmurs_pure ())
  · exact murmurs_pure ()

theorem murmurs_beginRelease : (beginRelease : Act (Connection ρ) Request).Murmurs := by
  refine murmurs_state.bind fun c => ?_
  split
  · exact murmurs_pure _
  · refine (murmurs_update _).bind fun _ => Murmurs.ite ?_ (murmurs_pure _)
    exact (MessageBus.murmurs_releaseName _).within.attempt.bind fun _ => murmurs_pure _

/-- That the bus did not give the name back is a warning. -/
theorem murmurs_finishRelease (request : Request) :
    (finishRelease request : Act (Connection ρ) Unit).Murmurs := by
  cases request with
  | none => exact murmurs_pure ()
  | some asked =>
    refine murmurs_state.bind fun c => Murmurs.bind ?_ fun _ => ?_
    · exact (murmurs_ofOutcome _).recover fun _ => murmurs_log rfl _
    · exact (murmurs_update _).bind fun _ => MessageBus.murmurs_disconnect.within

end Connection

/-! ### The device monitor -/

namespace MonitorSource

theorem murmurs_connect : connect.Murmurs :=
  (murmurs_note _).bind fun _ => murmurs_state.bind fun _ => murmurs_failing _

theorem murmurs_subscribe : subscribe.Murmurs := by
  refine murmurs_state.bind fun s => Murmurs.ite ?_ (murmurs_pure ())
  refine (murmurs_note _).bind fun _ => (murmurs_failing _).bind fun _ => ?_
  refine (murmurs_note _).bind fun _ => (murmurs_failing _).bind fun _ => ?_
  refine (murmurs_note _).bind fun _ => (murmurs_failing _).bind fun _ => ?_
  refine (murmurs_failing _).bind fun _ => ?_
  exact (murmurs_update _).bind fun _ => murmurs_log rfl _

theorem murmurs_enumerate : enumerate.Murmurs :=
  murmurs_state.bind fun _ => (murmurs_note _).bind fun _ => murmurs_pure _

theorem murmurs_takeFirst (left : List ManagedDevice) : (takeFirst left).Murmurs := by
  refine murmurs_state.bind fun _ => (murmurs_update _).bind fun _ => ?_
  exact (murmurs_failing _).bind fun _ => murmurs_update _

theorem murmurs_drainEach (ds : List ManagedDevice) : (drainEach ds).Murmurs := by
  induction ds with
  | nil => exact murmurs_takeFirst []
  | cons d ds ih => exact (murmurs_takeFirst ds).bind fun _ => (murmurs_post _).bind fun _ => ih

theorem murmurs_poll : poll.Murmurs := by
  refine murmurs_state.bind fun _ =>
    Murmurs.ite (Murmurs.discard (Murmurs.attempt ?_)) (murmurs_pure ())
  exact murmurs_state.bind fun _ => Murmurs.ite (murmurs_drainEach _) (murmurs_pure ())

theorem murmurs_close : close.Murmurs := by
  refine murmurs_state.bind fun s => ?_
  split
  · exact murmurs_pure ()
  · refine (murmurs_update _).bind fun _ => (murmurs_failing _).bind fun _ => ?_
    exact murmurs_update _

end MonitorSource

/-! ### The roster -/

namespace Roster

theorem murmurs_withinBus {x : Act (Connection Value) α}
    (hx : x.Murmurs) : (withinBus x).Murmurs := hx.within

theorem murmurs_insert (number : Nat) :
    (insert number : Act (Roster (Connection Value)) Unit).Murmurs := by
  refine murmurs_state.bind fun r => ?_
  split
  · exact murmurs_fail _
  · exact (murmurs_ofExcept _).bind fun key => Murmurs.ite (murmurs_fail _) (murmurs_update _)

theorem murmurs_destroy (number : Nat) :
    (destroy number : Act (Roster (Connection Value)) Unit).Murmurs := by
  refine murmurs_state.bind fun r => ?_
  split
  · exact murmurs_fail _
  · rename_i record _
    refine (murmurs_update _).bind fun _ => Murmurs.ensure ?_ ?_
    · cases record.handle with
      | none => exact murmurs_pure ()
      | some x => exact x.murmurs_closeChip
    · cases record.registration with
      | none => exact murmurs_pure ()
      | some id => exact murmurs_withinBus (Connection.murmurs_unregister id)

theorem murmurs_removeEntry (key : Key) (number : Nat) :
    (removeEntry key number : Act (Roster (Connection Value)) Unit).Murmurs :=
  (murmurs_destroy number).ensure (murmurs_update _)

theorem murmurs_remove (deviceId : Value) :
    (remove deviceId : Act (Roster (Connection Value)) Unit).Murmurs := by
  refine murmurs_state.bind fun r => (murmurs_ofExcept _).bind fun key => ?_
  split
  · exact murmurs_fail _
  · exact murmurs_removeEntry _ _

theorem murmurs_clear : (clear : Act (Roster (Connection Value)) Unit).Murmurs :=
  murmurs_state.bind fun _ => Murmurs.forM (fun _ => murmurs_removeEntry _ _) _

end Roster

/-! ### The broker -/

namespace Broker

theorem murmurs_withinRoster {x : Act (Roster (Connection Value)) α} (hx : x.Murmurs) :
    (withinRoster x : Act Service α).Murmurs := hx.within

theorem murmurs_withinBus {x : Act (Connection Value) α} (hx : x.Murmurs) :
    (withinBus x : Act Service α).Murmurs := murmurs_withinRoster (Roster.murmurs_withinBus hx)

theorem murmurs_withinSource {x : Act MonitorSource α} (hx : x.Murmurs) :
    (withinSource x : Act Service α).Murmurs := hx.within

theorem murmurs_openChip (deviceId : Value) :
    (openChip deviceId : Act Service (Option Handle)).Murmurs :=
  (Bindings.murmurs_openDevice deviceId).within.map.recover fun _ =>
    (murmurs_log rfl _).bind fun _ => murmurs_pure _

theorem murmurs_registerRecord (number : Nat) (record : Record) :
    (registerRecord number record : Act Service (Option Int)).Murmurs := by
  refine Murmurs.recover (murmurs_withinBus (Connection.murmurs_register _ _)).map fun f => ?_
  refine Murmurs.bind (Roster.murmurs_destroy number).within fun _ => ?_
  exact (murmurs_log rfl _).bind fun _ => murmurs_pure _

theorem murmurs_addChip (deviceId : Value) :
    (addChip deviceId : Act Service (Option Nat)).Murmurs := by
  refine murmurs_state.bind fun b => (murmurs_ofExcept _).bind fun key => Murmurs.guard ?_
  refine (murmurs_log rfl _).bind fun _ => (murmurs_openChip deviceId).bind fun opened => ?_
  split
  · exact murmurs_pure _
  · refine Murmurs.bind ?_ fun number => (murmurs_registerRecord number _).bind fun registered => ?_
    · exact (murmurs_state.bind fun _ => (murmurs_update _).bind fun _ => murmurs_pure _).within
    · split
      · exact murmurs_pure _
      · refine Murmurs.bind ?_ fun _ => murmurs_pure _
        exact ((murmurs_update _).bind fun _ => Roster.murmurs_insert _).within

theorem murmurs_removeChip (deviceId : Value) : (removeChip deviceId : Act Service Unit).Murmurs :=
  (murmurs_log rfl _).bind fun _ => (Roster.murmurs_remove deviceId).within

theorem murmurs_onUevent (e : Uevent) : (onUevent e : Act Service Unit).Murmurs := by
  refine Murmurs.ite ((murmurs_log rfl _).bind fun _ => ?_) (murmurs_pure ())
  refine Murmurs.ite (murmurs_addChip _).discard ?_
  exact Murmurs.ite (murmurs_removeChip _) (murmurs_log rfl _)

theorem murmurs_addListed (l : Listing) : (addListed l : Act Service Unit).Murmurs := by
  refine Murmurs.bind (Murmurs.forM (fun e => ?_) _) fun _ => murmurs_failing _
  unfold addEntry
  split
  · exact Murmurs.ite (murmurs_addChip _).discard (murmurs_pure ())
  · exact murmurs_fail _

theorem murmurs_onNameAcquired (name : Value) :
    (onNameAcquired name : Act Service Unit).Murmurs := by
  refine (murmurs_log rfl _).bind fun _ => (murmurs_update _).bind fun _ => ?_
  refine (murmurs_withinSource MonitorSource.murmurs_subscribe).bind fun _ => ?_
  exact (murmurs_withinSource MonitorSource.murmurs_enumerate).bind murmurs_addListed

/-- What an event brings is murmured; the loss of the name is a fault, and is not told here. -/
theorem murmurs_handle (e : Event) : (handle e : Act Service Unit).Murmurs := by
  cases e with
  | uevent e => exact murmurs_onUevent e
  | busAcquired => exact (murmurs_log rfl _).bind fun _ => murmurs_update _
  | nameAcquired name => exact murmurs_onNameAcquired name
  | nameLost loss =>
    exact (murmurs_log rfl _).bind fun _ => (murmurs_update _).bind fun _ => murmurs_fail _
  | signal number => exact murmurs_log rfl _
  | other v => exact murmurs_log rfl _

theorem murmurs_destroyAll : (destroyAll : Act Service Unit).Murmurs := by
  have clears : (withinRoster Roster.clear : Act Service Unit).Murmurs :=
    Roster.murmurs_clear.within
  exact murmurs_state.bind fun _ => Murmurs.ite ((murmurs_log rfl _).bind fun _ => clears) clears

theorem murmurs_getProperty (deviceId name : Value) :
    (getProperty deviceId name : Act Service (Option Value)).Murmurs := by
  refine (murmurs_log rfl _).bind fun _ =>
    murmurs_state.bind fun _ => (murmurs_ofExcept _).bind fun _ => ?_
  exact (murmurs_ofExcept _).bind fun _ => murmurs_pure _

end Broker

/-! ### The world -/

namespace Service

theorem murmurs_readObject (path : Text) (property : Value) :
    (readObject path property).Murmurs := by
  refine murmurs_state.bind fun b => ?_
  split
  · exact murmurs_pure _
  · refine Murmurs.map ((murmurs_ofExcept _).bind fun target => ?_)
    split
    · exact murmurs_pure _
    · exact (Broker.murmurs_getProperty _ _).bind fun _ => murmurs_ofExcept _

mutual

theorem murmurs_stimulate (s : Stimulus) : (stimulate s).Murmurs := by
  cases s with
  | uevents devices =>
    unfold stimulate
    exact (Broker.murmurs_withinSource (murmurs_update _)).bind fun _ => murmurs_pure _
  | signal number =>
    unfold stimulate
    refine (murmurs_ofExcept _).discard.bind fun _ => Murmurs.ite ?_ (murmurs_pure _)
    exact (murmurs_defer _).bind fun _ => murmurs_pure _
  | message m =>
    unfold stimulate
    refine (murmurs_ofExcept _).bind fun _ => Murmurs.bind ?_ fun _ => murmurs_pure _
    exact Broker.murmurs_withinBus (Connection.murmurs_deliver m)
  | hangup fault =>
    unfold stimulate
    exact (Broker.murmurs_withinBus (murmurs_update _)).bind fun _ => murmurs_pure _
  | read path property =>
    unfold stimulate
    exact murmurs_readObject path property
  | putDevice device =>
    unfold stimulate
    exact (murmurs_update _).bind fun _ => murmurs_pure _
  | dropDevice path =>
    unfold stimulate
    exact (murmurs_update _).bind fun _ => murmurs_pure _
  | present devices =>
    unfold stimulate
    exact (Broker.murmurs_withinSource (murmurs_update _)).bind fun _ => murmurs_pure _
  | together stimuli =>
    unfold stimulate
    exact (murmurs_stimulateEach stimuli).bind fun _ => murmurs_pure _

theorem murmurs_stimulateEach (stimuli : List Stimulus) : (stimulateEach stimuli).Murmurs := by
  cases stimuli with
  | nil =>
    unfold stimulateEach
    exact murmurs_pure ()
  | cons s rest =>
    unfold stimulateEach
    exact (murmurs_stimulate s).discard.bind fun _ => murmurs_stimulateEach rest

end

end Service

end GpioBroker
