import GpioBroker.ObjectBus.Scripted
import GpioBroker.Proofs.Oblivious
import GpioBroker.Supervisor
import GpioBroker.UeventSource.Monitor
import GpioBroker.UeventSource.Scripted

/-!
# What is put into the queue

The run alone takes events out of its queue.  An action posts if all that it may do to the queue is
to put events at its end, and it succeeds if it never fails.  The broker posts whatever it does,
over any bus and any source that do; what the bus and the source do beside the broker must not fail.
-/

namespace GpioBroker

namespace Act

variable {σ τ α β : Type}

/-- Some events are at the front of the queue. -/
def Queued (events : List Event) (h : Host σ) : Prop := events <+: h.queue

/-- The action takes no event out of the queue. -/
def Posts (x : Act σ α) : Prop := ∀ events, x.Keeps (Queued events)

theorem IsOblivious.posts {x : Act σ α} (oblivious : x.IsOblivious) : x.Posts :=
  fun events h queued => by
  refine (oblivious.ends_queue h).mono fun _ h' same => ?_
  unfold Queued
  rw [same]
  exact queued

theorem Posts.bind {x : Act σ α} {k : α → Act σ β} (hx : x.Posts) (hk : ∀ a, (k a).Posts) :
    (x >>= k).Posts := fun events => (hx events).bind fun a => hk a events

theorem Posts.ite {c : Prop} [Decidable c] {x y : Act σ α} (hx : x.Posts) (hy : y.Posts) :
    (if c then x else y).Posts := fun events => (hx events).ite (hy events)

/-- A guard that may fail before an action. -/
theorem Posts.guard {c : Prop} [Decidable c] {f : Fault} {x : Act σ α} (hx : x.Posts) :
    (if c then (fail f : Act σ Unit) >>= fun _ => x else x).Posts :=
  Posts.ite ((isOblivious_fail f).posts.bind fun _ => hx) hx

theorem Posts.forM {γ : Type} {f : γ → Act σ Unit} (hf : ∀ c, (f c).Posts) (cs : List γ) :
    (cs.forM f).Posts := fun events => Keeps.forM (fun c => hf c events) cs

theorem Posts.map {f : α → β} {x : Act σ α} (hx : x.Posts) : (f <$> x).Posts :=
  fun events => (hx events).map

theorem Posts.discard {x : Act σ α} (hx : x.Posts) : (discard x).Posts := hx.map

theorem Posts.within {get : σ → τ} {set : σ → τ → σ} {x : Act τ α} (hx : x.Posts) :
    (within get set x).Posts := fun events _ queued => Ends.within (hx events _ queued)

theorem Posts.ensure {x : Act σ α} {cleanup : Act σ Unit} (hx : x.Posts) (hc : cleanup.Posts) :
    (ensure x cleanup).Posts := fun events => (hx events).ensure (hc events)

theorem Posts.recover {handles : Fault → Bool} {x : Act σ α} {handler : Fault → Act σ α}
    (hx : x.Posts) (hh : ∀ f, (handler f).Posts) : (recover handles x handler).Posts :=
  fun events => (hx events).recover fun f => hh f events

/-- The action never fails. -/
def Succeeds (x : Act σ α) : Prop := ∀ h, x.Ends h fun r _ => ∃ a, r = .ok a

theorem succeeds_pure (a : α) : (pure a : Act σ α).Succeeds := fun _ => ⟨a, rfl⟩

theorem succeeds_state : (state : Act σ σ).Succeeds := fun h => ⟨h.state, rfl⟩

theorem succeeds_update (f : σ → σ) : (update f).Succeeds := fun _ => ⟨(), rfl⟩

theorem succeeds_note (c : Call) : (note c : Act σ Unit).Succeeds := fun _ => ⟨(), rfl⟩

theorem succeeds_log (level : Level) (text : Text) : (log level text : Act σ Unit).Succeeds :=
  fun _ => ⟨(), rfl⟩

theorem succeeds_post (e : Event) : (post e : Act σ Unit).Succeeds := fun _ => ⟨(), rfl⟩

theorem succeeds_deliver : (deliver : Act σ Unit).Succeeds := fun _ => ⟨(), rfl⟩

theorem Succeeds.bind {x : Act σ α} {k : α → Act σ β} (hx : x.Succeeds) (hk : ∀ a, (k a).Succeeds) :
    (x >>= k).Succeeds := fun h => by
  refine Ends.bind (hx h) (fun a h' _ => hk a h') ?_
  rintro e _ ⟨a, failed⟩
  cases failed

theorem Succeeds.ite {c : Prop} [Decidable c] {x y : Act σ α} (hx : x.Succeeds) (hy : y.Succeeds) :
    (if c then x else y).Succeeds := fun h => ends_ite (fun _ => hx h) fun _ => hy h

theorem Succeeds.forM {γ : Type} {f : γ → Act σ Unit} (hf : ∀ c, (f c).Succeeds) (cs : List γ) :
    (cs.forM f).Succeeds := by
  induction cs with
  | nil => exact succeeds_pure ()
  | cons c cs ih => exact (hf c).bind fun _ => ih

theorem succeeds_attempt (x : Act σ α) : (attempt x).Succeeds := fun h => by
  unfold Ends
  rw [run_attempt]
  exact ⟨_, rfl⟩

theorem Succeeds.discard {x : Act σ α} (hx : x.Succeeds) : (discard x).Succeeds := fun h =>
  ends_discard.2 ((hx h).mono fun _ _ ⟨_, ok⟩ => ⟨(), by rw [ok]; rfl⟩)

theorem Succeeds.within {get : σ → τ} {set : σ → τ → σ} {x : Act τ α} (hx : x.Succeeds) :
    (within get set x).Succeeds := fun _ => Ends.within (hx _)

theorem Succeeds.run_eq {x : Act σ Unit} (hx : x.Succeeds) (h : Host σ) :
    x.run h = (.ok (), (x.run h).2) := by
  obtain ⟨_, ok⟩ := hx h
  exact Prod.ext ok rfl

end Act

open Act

/-! ### Orderly buses and sources -/

/-- A bus that takes no event out of the queue of the run while it registers and unregisters objects
and while it is given up, and that does not fail while the ownership of the name goes on or is
abandoned. -/
class ObjectBus.IsOrderly (β : Type) [ObjectBus β] : Prop where
  register : ∀ path device, (ObjectBus.register path device : Act β Int).Posts
  unregister : ∀ registration, (ObjectBus.unregister registration : Act β Unit).Posts
  release : (ObjectBus.release : Act β Unit).Posts
  abandon : (ObjectBus.abandon : Act β Unit).Posts
  abandons : (ObjectBus.abandon : Act β Unit).Succeeds
  progresses : (ObjectBus.progress : Act β Unit).Succeeds

/-- A source that takes no event out of the queue of the run while it is subscribed to, listed and
closed, and that does not fail while it brings uevents. -/
class UeventSource.IsOrderly (η : Type) [UeventSource η] : Prop where
  subscribe : (UeventSource.subscribe : Act η Unit).Posts
  enumerate : (UeventSource.enumerate : Act η Listing).Posts
  close : (UeventSource.close : Act η Unit).Posts
  polls : (UeventSource.poll : Act η Unit).Succeeds

namespace ScriptedBus

theorem isOblivious_register (path : Text) (deviceId : Value) :
    (register path deviceId).IsOblivious := by
  refine (isOblivious_note _).bind fun _ => isOblivious_state.bind fun b => ?_
  refine (isOblivious_failing _).bind fun _ => (isOblivious_update _).bind fun _ => ?_
  exact isOblivious_pure _

theorem isOblivious_unregister (registration : Value) : (unregister registration).IsOblivious := by
  refine (isOblivious_note _).bind fun _ => (isOblivious_ofExcept _).discard.bind fun _ => ?_
  refine isOblivious_state.bind fun b => ?_
  split
  · exact isOblivious_fail _
  · exact (isOblivious_update _).bind fun _ => isOblivious_failing _

theorem isOblivious_release : release.IsOblivious :=
  (isOblivious_note _).bind fun _ => isOblivious_state.bind fun _ => isOblivious_failing _

theorem succeeds_progress : progress.Succeeds :=
  succeeds_state.bind fun b =>
    (succeeds_update _).bind fun _ => Succeeds.forM succeeds_post b.script

instance : ObjectBus.IsOrderly ScriptedBus where
  register path device := (isOblivious_register path device).posts
  unregister registration := (isOblivious_unregister registration).posts
  release := isOblivious_release.posts
  abandon := (isOblivious_pure ()).posts
  abandons := succeeds_pure ()
  progresses := succeeds_progress

end ScriptedBus

namespace ScriptedSource

theorem isOblivious_subscribe : subscribe.IsOblivious :=
  (isOblivious_note _).bind fun _ => isOblivious_state.bind fun _ => isOblivious_failing _

theorem isOblivious_enumerate : enumerate.IsOblivious :=
  (isOblivious_note _).bind fun _ => isOblivious_state.bind fun _ => isOblivious_pure _

theorem isOblivious_close : close.IsOblivious :=
  (isOblivious_note _).bind fun _ => isOblivious_state.bind fun _ => isOblivious_failing _

instance : UeventSource.IsOrderly ScriptedSource where
  subscribe := isOblivious_subscribe.posts
  enumerate := isOblivious_enumerate.posts
  close := isOblivious_close.posts
  polls := succeeds_pure ()

end ScriptedSource

namespace Connection

theorem succeeds_end (attempt : Nat) (reason : LossReason) (detail : Text) :
    (do postLoss reason detail; setPhase attempt .ended : Act (Connection Value) Unit).Succeeds :=
  (succeeds_state.bind fun _ => succeeds_post _).bind fun _ => succeeds_update _

theorem succeeds_resume (attempt : Nat) :
    (resume attempt : Act (Connection Value) Unit).Succeeds := by
  refine succeeds_state.bind fun c => ?_
  split
  · unfold makeBus
    split
    · exact succeeds_end attempt _ _
    · refine succeeds_state.bind fun _ =>
        (succeeds_note _).bind fun _ => (succeeds_note _).bind fun _ => ?_
      exact (succeeds_update _).bind fun _ => succeeds_update _
  · split
    · unfold afterConnect
      split
      · exact succeeds_end attempt _ _
      · refine (succeeds_update _).bind fun _ => (succeeds_post _).bind fun _ => ?_
        refine (succeeds_note _).bind fun _ => (succeeds_update _).bind fun _ => ?_
        exact succeeds_state.bind fun _ => (succeeds_note _).bind fun _ => succeeds_update _
    · exact succeeds_pure ()
  · split
    · unfold afterRequest
      split
      · exact succeeds_end attempt _ _
      · refine Succeeds.ite ?_ (succeeds_end attempt _ _)
        refine (succeeds_update _).bind fun _ => succeeds_state.bind fun _ => ?_
        refine (succeeds_post _).bind fun _ => ?_
        split
        · exact (succeeds_note _).bind fun _ => succeeds_update _
        · exact succeeds_end attempt _ _
    · exact succeeds_pure ()
  · split
    · unfold afterHangup
      split
      · exact succeeds_end attempt _ _
      · exact succeeds_end attempt _ _
    · exact succeeds_pure ()
  · exact succeeds_pure ()

theorem succeeds_progress : (progress : Act (Connection Value) Unit).Succeeds := by
  refine succeeds_state.bind fun c => Succeeds.forM (fun attempt => ?_) _
  refine (succeeds_resume attempt).bind fun _ => (succeeds_resume attempt).bind fun _ => ?_
  exact (succeeds_resume attempt).bind fun _ => succeeds_resume attempt

theorem succeeds_abandon : (abandon : Act (Connection Value) Unit).Succeeds := by
  refine succeeds_state.bind fun c => succeeds_state.bind fun c => ?_
  split
  · exact Succeeds.ite (succeeds_update _) (succeeds_pure ())
  · exact succeeds_pure ()

theorem isOblivious_abandon : (abandon : Act (Connection Value) Unit).IsOblivious := by
  refine isOblivious_state.bind fun c => isOblivious_state.bind fun c => ?_
  split
  · exact IsOblivious.ite (isOblivious_update _) (isOblivious_pure ())
  · exact isOblivious_pure ()

theorem isOblivious_release : (release : Act (Connection Value) Unit).IsOblivious := by
  have disconnects (number : Nat) : (do
      update fun c => { c with isOwner := false }
      withinBus number MessageBus.disconnect : Act (Connection Value) Unit).IsOblivious :=
    (isOblivious_update _).bind fun _ =>
      ((isOblivious_note _).bind fun _ => isOblivious_update _).within
  refine isOblivious_state.bind fun c => ?_
  split
  · exact isOblivious_pure ()
  · refine (isOblivious_update _).bind fun _ => IsOblivious.ite ?_ (disconnects _)
    refine IsOblivious.bind (IsOblivious.recover ?_ fun _ => isOblivious_log _ _)
      fun _ => disconnects _
    refine IsOblivious.within ((isOblivious_note _).bind fun _ => ?_)
    exact isOblivious_state.bind fun _ => isOblivious_failing _

instance : ObjectBus.IsOrderly (Connection Value) where
  register path device := (isOblivious_register path device).posts
  unregister registration := (isOblivious_unregister registration).posts
  release := isOblivious_release.posts
  abandon := isOblivious_abandon.posts
  abandons := succeeds_abandon
  progresses := succeeds_progress

end Connection

namespace MonitorSource

theorem isOblivious_subscribe : subscribe.IsOblivious := by
  refine isOblivious_state.bind fun s => IsOblivious.ite ?_ (isOblivious_pure ())
  refine (isOblivious_note _).bind fun _ => (isOblivious_failing _).bind fun _ => ?_
  refine (isOblivious_note _).bind fun _ => (isOblivious_failing _).bind fun _ => ?_
  refine (isOblivious_note _).bind fun _ => (isOblivious_failing _).bind fun _ => ?_
  refine (isOblivious_failing _).bind fun _ => ?_
  exact (isOblivious_update _).bind fun _ => isOblivious_log _ _

theorem isOblivious_enumerate : enumerate.IsOblivious :=
  isOblivious_state.bind fun _ => (isOblivious_note _).bind fun _ => isOblivious_pure _

theorem isOblivious_close : close.IsOblivious := by
  refine isOblivious_state.bind fun s => ?_
  split
  · exact isOblivious_pure ()
  · refine (isOblivious_update _).bind fun _ => (isOblivious_failing _).bind fun _ => ?_
    exact isOblivious_update _

theorem succeeds_poll : poll.Succeeds :=
  succeeds_state.bind fun _ => Succeeds.ite (succeeds_attempt drain).discard (succeeds_pure ())

instance : UeventSource.IsOrderly MonitorSource where
  subscribe := isOblivious_subscribe.posts
  enumerate := isOblivious_enumerate.posts
  close := isOblivious_close.posts
  polls := succeeds_poll

end MonitorSource

/-! ### The broker posts -/

section Broker

variable {β η α : Type}

namespace Roster

theorem posts_withinBus {x : Act β α} (hx : x.Posts) : (withinBus x).Posts := hx.within

theorem posts_insert (number : Nat) : (insert number : Act (Roster β) Unit).Posts := by
  refine isOblivious_state.posts.bind fun r => ?_
  split
  · exact (isOblivious_fail _).posts
  · refine (isOblivious_ofExcept _).posts.bind fun key => ?_
    exact Posts.ite (isOblivious_fail _).posts (isOblivious_update _).posts

variable [ObjectBus β] [ObjectBus.IsOrderly β]

theorem posts_destroy (number : Nat) : (destroy number : Act (Roster β) Unit).Posts := by
  refine isOblivious_state.posts.bind fun r => ?_
  split
  · exact (isOblivious_fail _).posts
  · rename_i record _
    refine (isOblivious_update _).posts.bind fun _ => Posts.ensure ?_ ?_
    · cases record.handle with
      | none => exact (isOblivious_pure ()).posts
      | some x => exact x.isOblivious_closeChip.posts
    · cases record.registration with
      | none => exact (isOblivious_pure ()).posts
      | some id => exact posts_withinBus (ObjectBus.IsOrderly.unregister id)

theorem posts_remove (deviceId : Value) : (remove deviceId : Act (Roster β) Unit).Posts := by
  refine isOblivious_state.posts.bind fun r => (isOblivious_ofExcept _).posts.bind fun key => ?_
  split
  · exact (isOblivious_fail _).posts
  · exact (posts_destroy _).ensure (isOblivious_update _).posts

theorem posts_clear : (clear : Act (Roster β) Unit).Posts := by
  refine isOblivious_state.posts.bind fun r => Posts.forM (fun e => ?_) _
  exact (posts_destroy _).ensure (isOblivious_update _).posts

end Roster

namespace Broker

theorem posts_withinRoster {x : Act (Roster β) α} (hx : x.Posts) :
    (withinRoster x : Act (Broker β η) α).Posts := hx.within

theorem posts_withinBus {x : Act β α} (hx : x.Posts) :
    (withinBus x : Act (Broker β η) α).Posts := posts_withinRoster (Roster.posts_withinBus hx)

theorem posts_withinSource {x : Act η α} (hx : x.Posts) :
    (withinSource x : Act (Broker β η) α).Posts := hx.within

theorem succeeds_withinBus {x : Act β α} (hx : x.Succeeds) :
    (withinBus x : Act (Broker β η) α).Succeeds := by
  unfold withinBus withinRoster Roster.withinBus
  exact hx.within.within

theorem succeeds_withinSource {x : Act η α} (hx : x.Succeeds) :
    (withinSource x : Act (Broker β η) α).Succeeds := hx.within

theorem posts_openChip (deviceId : Value) :
    (openChip deviceId : Act (Broker β η) (Option Handle)).Posts := by
  refine Posts.recover ?_ fun f =>
    (isOblivious_log _ _).posts.bind fun _ => (isOblivious_pure _).posts
  exact (Bindings.isOblivious_openDevice deviceId).posts.within.map

variable [ObjectBus β] [ObjectBus.IsOrderly β]

theorem posts_registerRecord (number : Nat) (record : Record) :
    (registerRecord number record : Act (Broker β η) (Option Int)).Posts := by
  refine Posts.recover ?_ fun f => ?_
  · exact (posts_withinBus (ObjectBus.IsOrderly.register _ _)).map
  · refine (posts_withinRoster (Roster.posts_destroy number)).bind fun _ => ?_
    exact (isOblivious_log _ _).posts.bind fun _ => (isOblivious_pure _).posts

theorem posts_addChip (deviceId : Value) :
    (addChip deviceId : Act (Broker β η) (Option Nat)).Posts := by
  refine isOblivious_state.posts.bind fun b =>
    (isOblivious_ofExcept _).posts.bind fun key => Posts.guard ?_
  refine (isOblivious_log _ _).posts.bind fun _ => (posts_openChip deviceId).bind fun opened => ?_
  split
  · exact (isOblivious_pure _).posts
  · refine Posts.bind ?_ fun number => (posts_registerRecord number _).bind fun registered => ?_
    · refine posts_withinRoster (isOblivious_state.posts.bind fun _ => ?_)
      exact (isOblivious_update _).posts.bind fun _ => (isOblivious_pure _).posts
    · split
      · exact (isOblivious_pure _).posts
      · refine Posts.bind (posts_withinRoster ?_) fun _ => (isOblivious_pure _).posts
        exact (isOblivious_update _).posts.bind fun _ => Roster.posts_insert _

theorem posts_removeChip (deviceId : Value) :
    (removeChip deviceId : Act (Broker β η) Unit).Posts :=
  (isOblivious_log _ _).posts.bind fun _ => posts_withinRoster (Roster.posts_remove deviceId)

theorem posts_onUevent (u : Uevent) : (onUevent u : Act (Broker β η) Unit).Posts := by
  refine Posts.ite ?_ (isOblivious_pure ()).posts
  refine (isOblivious_log _ _).posts.bind fun _ => Posts.ite ?_ (Posts.ite ?_ ?_)
  · exact (posts_addChip _).discard
  · exact posts_removeChip _
  · exact (isOblivious_log _ _).posts

theorem posts_destroyAll : (destroyAll : Act (Broker β η) Unit).Posts := by
  refine isOblivious_state.posts.bind fun b => ?_
  have clears : (withinRoster Roster.clear : Act (Broker β η) Unit).Posts :=
    posts_withinRoster Roster.posts_clear
  exact Posts.ite ((isOblivious_log _ _).posts.bind fun _ => clears) clears

theorem posts_addEntry (e : Event) : (addEntry e : Act (Broker β η) Unit).Posts := by
  cases e with
  | uevent u => exact Posts.ite (posts_addChip _).discard (isOblivious_pure ()).posts
  | _ => exact (isOblivious_fail _).posts

variable [UeventSource η] [UeventSource.IsOrderly η]

theorem posts_onNameAcquired (name : Value) :
    (onNameAcquired name : Act (Broker β η) Unit).Posts := by
  refine (isOblivious_log _ _).posts.bind fun _ => (isOblivious_update _).posts.bind fun _ => ?_
  refine (posts_withinSource UeventSource.IsOrderly.subscribe).bind fun _ => ?_
  refine (posts_withinSource UeventSource.IsOrderly.enumerate).bind fun l => ?_
  exact (Posts.forM posts_addEntry l.events).bind fun _ => (isOblivious_failing _).posts

/-- Handling an event takes no other out of the queue. -/
theorem posts_handle (e : Event) : (handle e : Act (Broker β η) Unit).Posts := by
  cases e with
  | uevent u => exact posts_onUevent u
  | busAcquired => exact (isOblivious_log _ _).posts.bind fun _ => (isOblivious_update _).posts
  | nameAcquired name => exact posts_onNameAcquired name
  | nameLost loss =>
    refine (isOblivious_log _ _).posts.bind fun _ => (isOblivious_update _).posts.bind fun _ => ?_
    exact (isOblivious_fail _).posts
  | signal number => exact (isOblivious_log _ _).posts
  | other v => exact (isOblivious_log _ _).posts

end Broker

end Broker

end GpioBroker
