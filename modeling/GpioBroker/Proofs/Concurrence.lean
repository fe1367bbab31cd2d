import GpioBroker.MessageBus.Ownership
import GpioBroker.Proofs.Comparison
import GpioBroker.UeventSource.Monitor

/-!
# Runs that concur

The bindings of the second generation read the metadata of a chip with one call, those of the first
one with one call for each item.  Two runs concur if they end in the same way and leave the same
behind, once each reading of the one is told as the readings of the other.  There is one rule for
each combinator; what has no part in chips concurs with itself.
-/

namespace GpioBroker

/-- What the first generation of the bindings calls where the second one makes a call. -/
def Call.itemized : Call → List Call
  | .chip serial path .getInfo =>
    [.chip serial path .name, .chip serial path .label, .chip serial path .numLines]
  | c => [c]

/-- Calls of the second generation as the first one makes them. -/
def itemize (calls : List Call) : List Call := calls.flatMap Call.itemized

theorem itemize_append (calls more : List Call) :
    itemize (calls ++ more) = itemize calls ++ itemize more :=
  List.flatMap_append

namespace Act

variable {σ τ α β : Type} {P : σ → σ → Prop} {Q : τ → τ → Prop}

/-- Two hosts that differ in how metadata were read, with states that are related by `P`. -/
structure Concur (P : σ → σ → Prop) (h h' : Host σ) : Prop where
  state : P h.state h'.state
  calls : h.calls = itemize h'.calls
  records : h.records = h'.records
  queue : h.queue = h'.queue
  deferred : h.deferred = h'.deferred

/-- On hosts that concur two actions end in the same way, with the same value, and leave hosts that
concur. -/
def Concurs (P : σ → σ → Prop) (x x' : Act σ α) : Prop :=
  ∀ h h', Concur P h h' → Abreast x x' h h' (fun a a' k k' => a = a' ∧ Concur P k k') (Concur P)

/-! ### Single steps -/

theorem concurs_pure (a : α) : Concurs P (pure a) (pure a) :=
  fun _ _ concur => abreast_pure ⟨rfl, concur⟩

theorem concurs_fail (f : Fault) : Concurs P (fail f : Act σ α) (fail f) := fun _ _ concur =>
  abreast_fail f concur

theorem concurs_failing (fault : Option Fault) : Concurs P (failing fault) (failing fault) :=
  fun _ _ concur =>
  abreast_failing fault (fun _ => ⟨rfl, concur⟩) fun _ _ => concur

theorem concurs_ofExcept (r : Except Fault α) : Concurs P (ofExcept r) (ofExcept r) :=
  fun _ _ concur =>
  abreast_ofExcept r (fun _ _ => ⟨rfl, concur⟩) fun _ _ => concur

theorem concurs_update {f f' : σ → σ} (keeps : ∀ s s', P s s' → P (f s) (f' s')) :
    Concurs P (update f) (update f') := fun _ _ concur =>
  abreast_update
    ⟨rfl, keeps _ _ concur.state, concur.calls, concur.records, concur.queue, concur.deferred⟩

theorem concurs_log (level : Level) (text : Text) : Concurs P (log level text) (log level text) :=
  fun _ _ concur =>
    abreast_log
      ⟨rfl, concur.state, concur.calls, by rw [concur.records], concur.queue, concur.deferred⟩

theorem concurs_post (e : Event) : Concurs P (post e) (post e) := fun _ _ concur =>
  .value rfl rfl
    ⟨rfl, concur.state, concur.calls, concur.records, by rw [concur.queue], concur.deferred⟩

/-- A call other than a reading of metadata. -/
theorem concurs_note {c : Call} (plain : c.itemized = [c]) : Concurs P (note c) (note c) :=
  fun h h' concur => by
  have single : itemize [c] = [c] := by simp [itemize, plain]
  refine .value rfl rfl ⟨rfl, concur.state, ?_, concur.records, concur.queue, concur.deferred⟩
  change h.calls ++ [c] = itemize (h'.calls ++ [c])
  rw [itemize_append, concur.calls, single]

/-! ### Combinators -/

theorem Concurs.bind {x x' : Act σ α} {k k' : α → Act σ β} (hx : Concurs P x x')
    (hk : ∀ a, Concurs P (k a) (k' a)) : Concurs P (x >>= k) (x' >>= k') := fun h h' concur =>
  (hx h h' concur).bind (fun a _ _ _ next => next.1 ▸ hk a _ _ next.2) fun _ _ failed => failed

theorem concurs_state_bind {k k' : σ → Act σ α} (hk : ∀ s s', P s s' → Concurs P (k s) (k' s')) :
    Concurs P (state >>= k) (state >>= k') := fun h h' concur =>
  abreast_state_bind (hk _ _ concur.state h h' concur)

/-- Where the states are the same. -/
theorem concurs_state_bind_eq {k : σ → Act σ α} (hk : ∀ s, Concurs Eq (k s) (k s)) :
    Concurs Eq (state >>= k) (state >>= k) := concurs_state_bind fun s _ same => same ▸ hk s

theorem concurs_update_eq (f : σ → σ) : Concurs Eq (update f) (update f) :=
  concurs_update fun _ _ same => congrArg f same

theorem Concurs.ite {c : Prop} [Decidable c] {x x' y y' : Act σ α} (hx : Concurs P x x')
    (hy : Concurs P y y') :
    Concurs P (if c then x else y) (if c then x' else y') := fun h h' concur =>
  abreast_ite (fun _ => hx h h' concur) fun _ => hy h h' concur

/-- A guard that may fail before an action. -/
theorem Concurs.guard {c : Prop} [Decidable c] {f : Fault} {x x' : Act σ α} (hx : Concurs P x x') :
    Concurs P (if c then (fail f : Act σ Unit) >>= fun _ => x else x)
      (if c then (fail f : Act σ Unit) >>= fun _ => x' else x') :=
  Concurs.ite ((concurs_fail f).bind fun _ => hx) hx

theorem Concurs.map {f : α → β} {x x' : Act σ α} (hx : Concurs P x x') :
    Concurs P (f <$> x) (f <$> x') :=
  fun h h' concur =>
    ((hx h h' concur).mono (fun _ _ _ _ next => ⟨congrArg f next.1, next.2⟩)
      fun _ _ failed => failed).map

theorem Concurs.discard {x x' : Act σ α}
    (hx : Concurs P x x') : Concurs P (discard x) (discard x') := hx.map

theorem Concurs.forM {γ : Type} {f f' : γ → Act σ Unit} (hf : ∀ c, Concurs P (f c) (f' c))
    (cs : List γ) :
    Concurs P (cs.forM f) (cs.forM f') := fun _ _ concur =>
  (abreast_forM (I := fun _ => Concur P)
    (fun c _ k k' concur =>
      (hf c k k' concur).mono (fun _ _ _ _ next => next.2) fun _ _ failed => failed) cs
    concur).mono (fun _ _ _ _ concur => ⟨rfl, concur⟩) fun _ _ failed => failed

theorem Concurs.within {get : σ → τ} {set : σ → τ → σ} {x x' : Act τ α}
    (gets : ∀ s s', P s s' → Q (get s) (get s'))
    (sets : ∀ s s' t t', P s s' → Q t t' → P (set s t) (set s' t')) (hx : Concurs Q x x') :
    Concurs P (within get set x) (within get set x') := by
  intro h h' concur
  have under : Concur Q (h.withState (get h.state)) (h'.withState (get h'.state)) :=
    ⟨gets _ _ concur.state, concur.calls, concur.records, concur.queue, concur.deferred⟩
  have back (k k' : Host τ) (under : Concur Q k k') :
      Concur P (k.withState (set h.state k.state)) (k'.withState (set h'.state k'.state)) :=
    ⟨sets _ _ _ _ concur.state under.state, under.calls, under.records, under.queue, under.deferred⟩
  exact Abreast.within ((hx _ _ under).mono (fun _ _ k k' next => ⟨next.1, back k k' next.2⟩) back)

theorem Concurs.within_eq {get : σ → τ} {set : σ → τ → σ} {x : Act τ α} (hx : Concurs Eq x x) :
    Concurs Eq (Act.within get set x) (Act.within get set x) :=
  Concurs.within (fun _ _ same => congrArg get same)
    (fun _ _ _ _ same same' => by rw [same, same']) hx

theorem Concurs.ensure {x x' : Act σ α} {cleanup cleanup' : Act σ Unit} (hx : Concurs P x x')
    (hc : Concurs P cleanup cleanup') : Concurs P (ensure x cleanup) (ensure x' cleanup') :=
  fun h h' concur =>
  (hx h h' concur).ensure
    (fun _ _ _ _ next =>
      (hc _ _ next.2).mono (fun _ _ _ _ cleaned => ⟨next.1, cleaned.2⟩) fun _ _ failed => failed)
    fun _ _ failed =>
      (hc _ _ failed).mono (fun _ _ _ _ cleaned => cleaned.2) fun _ _ failed => failed

theorem Concurs.recover {handles : Fault → Bool} {x x' : Act σ α}
    {handler handler' : Fault → Act σ α} (hx : Concurs P x x')
    (hh : ∀ f, Concurs P (handler f) (handler' f)) :
    Concurs P (recover handles x handler) (recover handles x' handler') := fun h h' concur =>
  (hx h h' concur).recover (fun _ _ _ _ next => next) (fun _ _ failed => failed)
    fun f _ _ failed _ => hh f _ _ failed

theorem Concurs.undo {handles : Fault → Bool} {x x' : Act σ α} {cleanup cleanup' : Act σ Unit}
    (hx : Concurs P x x') (hc : Concurs P cleanup cleanup') :
    Concurs P (undo handles x cleanup) (undo handles x' cleanup') := fun h h' concur =>
  (hx h h' concur).undo (fun _ _ _ _ next => next) (fun _ _ failed => failed)
    fun _ _ failed =>
      (hc _ _ failed).mono (fun _ _ _ _ cleaned => cleaned.2) fun _ _ failed => failed

theorem Concurs.explain {handles : Fault → Bool} {explanation : Fault → Fault} {x x' : Act σ α}
    (hx : Concurs P x x') :
    Concurs P (explain handles x explanation) (explain handles x' explanation) :=
  fun h h' concur => (hx h h' concur).explain

end Act

open Act

/-! ### The connection -/

namespace MessageBus

variable {ρ : Type}

theorem concurs_exportObject (path : Text) (object : ChipObject ρ) :
    Concurs Eq (exportObject path object) (exportObject path object) := by
  refine (concurs_note rfl).bind fun _ =>
    concurs_state_bind_eq fun b => (concurs_failing _).bind fun _ => ?_
  refine (concurs_ofExcept _).bind fun _ => Concurs.ite ((concurs_fail _).bind fun _ => ?_) ?_
  all_goals exact concurs_update_eq _

theorem concurs_unexportObject (path : Text) (object : ChipObject ρ) :
    Concurs Eq (unexportObject path object) (unexportObject path object) :=
  (concurs_note rfl).bind fun _ => concurs_state_bind_eq fun _ =>
    (concurs_failing _).bind fun _ => concurs_update_eq _

end MessageBus

namespace Connection

variable {ρ : Type}

theorem concurs_withinBus {α : Type} (number : Nat) {x : Act (MessageBus ρ) α}
    (hx : Concurs Eq x x) :
    Concurs Eq (withinBus number x) (withinBus number x) := hx.within_eq

theorem concurs_register (path : Text) (reader : ρ) :
    Concurs Eq (register path reader) (register path reader) := by
  refine concurs_state_bind_eq fun c => ?_
  split
  · exact concurs_fail _
  · refine Concurs.ite ((concurs_fail _).bind fun _ => ?_) ?_
    all_goals
      refine (concurs_update_eq _).bind fun _ => Concurs.bind ?_ fun _ => ?_
      · exact (concurs_withinBus _ (MessageBus.concurs_exportObject path _)).explain
      · exact (concurs_update_eq _).bind fun _ => concurs_pure _

theorem concurs_unregister (registration : Value) :
    Concurs Eq (unregister registration : Act (Connection ρ) Unit) (unregister registration) := by
  refine (concurs_ofExcept _).discard.bind fun _ => concurs_state_bind_eq fun c => ?_
  split
  · exact concurs_fail _
  · refine (concurs_update_eq _).bind fun _ => ?_
    split
    · exact concurs_pure ()
    · exact concurs_withinBus _ (MessageBus.concurs_unexportObject _ _)

theorem concurs_postLoss (reason : LossReason) (detail : Text) :
    Concurs Eq (postLoss reason detail : Act (Connection ρ) Unit) (postLoss reason detail) :=
  concurs_state_bind_eq fun _ => concurs_post _

theorem concurs_setPhase (attempt : Nat) (phase : OwnershipPhase) :
    Concurs Eq (setPhase attempt phase : Act (Connection ρ) Unit) (setPhase attempt phase) :=
  concurs_update_eq _

theorem concurs_end (attempt : Nat) (reason : LossReason) (detail : Text) :
    Concurs Eq (do postLoss reason detail; setPhase attempt .ended : Act (Connection ρ) Unit)
      (do postLoss reason detail; setPhase attempt .ended) :=
  (concurs_postLoss reason detail).bind fun _ => concurs_setPhase attempt _

theorem concurs_makeBus (attempt : Nat) (script : BusScript) :
    Concurs Eq (makeBus attempt script : Act (Connection ρ) Unit) (makeBus attempt script) := by
  unfold makeBus
  split
  · exact concurs_end attempt _ _
  · refine concurs_state_bind_eq fun _ =>
      (concurs_note rfl).bind fun _ => (concurs_note rfl).bind fun _ => ?_
    exact (concurs_update_eq _).bind fun _ => concurs_setPhase attempt _

theorem concurs_afterConnect (attempt bus : Nat) (script : BusScript) :
    Concurs Eq (afterConnect attempt bus script : Act (Connection ρ) Unit)
      (afterConnect attempt bus script) := by
  unfold afterConnect
  split
  · exact concurs_end attempt _ _
  · refine (concurs_update_eq _).bind fun _ =>
      (concurs_post _).bind fun _ => (concurs_note rfl).bind fun _ => ?_
    refine (concurs_update_eq _).bind fun _ =>
      concurs_state_bind_eq fun c => (concurs_note rfl).bind fun _ => ?_
    exact concurs_setPhase attempt _

theorem concurs_afterRequest (attempt : Nat) (script : BusScript) :
    Concurs Eq (afterRequest attempt script : Act (Connection ρ) Unit)
      (afterRequest attempt script) := by
  unfold afterRequest
  split
  · exact concurs_end attempt _ _
  · refine Concurs.ite ?_ (concurs_end attempt _ _)
    refine (concurs_update_eq _).bind fun _ =>
      concurs_state_bind_eq fun c => (concurs_post _).bind fun _ => ?_
    split
    · exact (concurs_note rfl).bind fun _ => concurs_setPhase attempt _
    · exact concurs_end attempt _ _

theorem concurs_resume (attempt : Nat) :
    Concurs Eq (resume attempt : Act (Connection ρ) Unit) (resume attempt) := by
  refine concurs_state_bind_eq fun c => ?_
  split
  · exact concurs_makeBus attempt _
  · split
    · exact concurs_afterConnect attempt _ _
    · exact concurs_pure ()
  · split
    · exact concurs_afterRequest attempt _
    · exact concurs_pure ()
  · split
    · unfold afterHangup
      split
      · exact concurs_end attempt _ _
      · exact concurs_end attempt _ _
    · exact concurs_pure ()
  · exact concurs_pure ()

theorem concurs_cancel (attempt : Nat) :
    Concurs Eq (cancel attempt : Act (Connection ρ) Unit) (cancel attempt) := by
  refine concurs_state_bind_eq fun c => ?_
  split
  · exact Concurs.ite (concurs_setPhase attempt _) (concurs_pure ())
  · exact concurs_pure ()

theorem concurs_deliver (m : Message) :
    Concurs Eq (deliver m : Act (Connection ρ) Unit) (deliver m) := by
  refine concurs_state_bind_eq fun c => Concurs.forM (fun m => ?_) _
  refine concurs_state_bind_eq fun c => (concurs_ofExcept _).bind fun revoked => ?_
  exact Concurs.ite ((concurs_update_eq _).bind fun _ => concurs_postLoss _ _) (concurs_pure ())

theorem concurs_release : Concurs Eq (release : Act (Connection ρ) Unit) release := by
  have disconnects (number : Nat) :=
    (concurs_update_eq fun c : Connection ρ => { c with isOwner := false }).bind
    fun _ => concurs_withinBus number ((concurs_note (P := Eq) (c := .disconnect) rfl).bind fun _ =>
      concurs_update_eq fun b : MessageBus ρ =>
        { b.hungUp none with disconnects := b.disconnects + 1 })
  refine concurs_state_bind_eq fun c => ?_
  split
  · exact concurs_pure ()
  · refine (concurs_update_eq _).bind fun _ => Concurs.ite ?_ (disconnects _)
    refine Concurs.bind (Concurs.recover ?_ fun _ => concurs_log _ _) fun _ => disconnects _
    exact concurs_withinBus _ ((concurs_note rfl).bind fun _ =>
      concurs_state_bind_eq fun _ => concurs_failing _)

end Connection

/-! ### Sources -/

/-- A source that does not depend on how metadata are read, nor reads any. -/
structure UeventSource.IsIndifferent (η : Type) [UeventSource η] : Prop where
  subscribe : Concurs Eq (UeventSource.subscribe : Act η Unit) UeventSource.subscribe
  enumerate : Concurs Eq (UeventSource.enumerate : Act η Listing) UeventSource.enumerate

namespace MonitorSource

theorem concurs_subscribe : Concurs Eq subscribe subscribe := by
  refine concurs_state_bind_eq fun s => Concurs.ite ?_ (concurs_pure ())
  refine (concurs_note rfl).bind fun _ => (concurs_failing _).bind fun _ => ?_
  refine (concurs_note rfl).bind fun _ => (concurs_failing _).bind fun _ => ?_
  refine (concurs_note rfl).bind fun _ => (concurs_failing _).bind fun _ => ?_
  refine (concurs_failing _).bind fun _ => ?_
  exact (concurs_update_eq _).bind fun _ => concurs_log _ _

theorem concurs_enumerate : Concurs Eq enumerate enumerate :=
  concurs_state_bind_eq fun _ => (concurs_note rfl).bind fun _ => concurs_pure _

theorem isIndifferent : UeventSource.IsIndifferent MonitorSource :=
  ⟨concurs_subscribe, concurs_enumerate⟩

end MonitorSource

end GpioBroker
