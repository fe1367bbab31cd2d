import GpioBroker.Proofs.Registration

/-!
# Owning the name

Owning the name, hearing messages, hanging up and releasing the name have no part in the objects of
a connection: the table and the next registration stay as they are, and no chip is closed.
-/

namespace GpioBroker

open Act

variable {ρ : Type}

theorem MessageBus.exported_hungUp (b : MessageBus ρ) (fault : Option Fault) :
    (b.hungUp fault).exported = b.exported := by
  unfold hungUp
  cases b.hangup <;> rfl

namespace Connection

/-! ### The buses of a connection -/

section Buses

variable {c : Connection ρ} {number i : Nat} {b b' made : MessageBus ρ}

theorem bus?_of_append (there : (c.buses ++ [made])[number]? = some b) :
    c.bus? number = some b ∨ b = made := by
  rw [List.getElem?_append] at there
  split at there
  · exact .inl there
  · exact .inr (List.mem_singleton.1 (List.mem_of_getElem? there))

theorem exists_bus?_of_set (there : (c.buses.set number made)[i]? = some b) :
    ∃ b, c.bus? i = some b := by
  have inside : i < c.buses.length := by
    simpa using (List.getElem?_eq_some_iff.1 there).1
  exact ⟨_, List.getElem?_eq_getElem inside⟩

theorem bus?_of_set (there : (c.buses.set number made)[i]? = some b) :
    (number = i ∧ b = made) ∨ (number ≠ i ∧ c.bus? i = some b) := by
  by_cases here : number = i
  · subst here
    obtain ⟨inside, rfl⟩ := List.getElem?_eq_some_iff.1 there
    exact .inl ⟨rfl, List.getElem_set_self inside⟩
  · rw [List.getElem?_set_ne here] at there
    exact .inr ⟨here, there⟩

end Buses

/-! ### What the parts keep -/

section Parts

variable {I : Host (Connection ρ) → Prop}

/-- A property that is kept as an attempt to own the name ends: by what is noted and posted, and by
the phases of attempts that are over. -/
structure Upholds (I : Host (Connection ρ) → Prop) : Prop where
  loose : IsLoose I
  note : ∀ c : Call, (∀ s, c.isClose s = false) → (note c).Keeps I
  ended : ∀ attempt (phase : OwnershipPhase), phase.isLive = false →
    (setPhase attempt phase).Keeps I

namespace Upholds

theorem postLoss (upholds : Upholds I) (reason : LossReason) (detail : Text) :
    (postLoss reason detail).Keeps I :=
  keeps_state.bind fun _ => keeps_post upholds.loose _

theorem finish (upholds : Upholds I) (attempt : Nat) (reason : LossReason) (detail : Text) :
    (do Connection.postLoss reason detail; setPhase attempt .ended).Keeps I :=
  (upholds.postLoss reason detail).bind fun _ => upholds.ended attempt .ended rfl

theorem makeBus (upholds : Upholds I) (attempt : Nat) (script : BusScript)
    (make : ∀ bus : MessageBus ρ, bus.exported = [] →
      (update fun c => { c with buses := c.buses ++ [bus] }).Keeps I)
    (phase : ∀ bus, (setPhase attempt (.connecting bus)).Keeps I) :
    (makeBus attempt script).Keeps I := by
  unfold Connection.makeBus
  cases script.createFault with
  | some f => exact upholds.finish attempt _ _
  | none =>
    refine keeps_state.bind fun c => (upholds.note _ fun _ => rfl).bind fun _ => ?_
    exact (upholds.note _ fun _ => rfl).bind fun _ => (make _ rfl).bind fun _ => phase _

theorem afterConnect (upholds : Upholds I) (attempt bus : Nat) (script : BusScript)
    (link : (update fun c : Connection ρ => { c with link := some bus }).Keeps I)
    (listen : (update fun c : Connection ρ =>
      c.changeBus bus fun b => { b with listeners := b.listeners + 1 }).Keeps I)
    (phase : (setPhase attempt (.requesting bus)).Keeps I) :
    (afterConnect attempt bus script).Keeps I := by
  unfold Connection.afterConnect
  cases script.connectFault with
  | some f => exact upholds.finish attempt _ _
  | none =>
    refine link.bind fun _ => (keeps_post upholds.loose _).bind fun _ => ?_
    refine (upholds.note _ fun _ => rfl).bind fun _ => listen.bind fun _ => ?_
    exact keeps_state.bind fun c => (upholds.note _ fun _ => rfl).bind fun _ => phase

theorem afterRequest (upholds : Upholds I) (attempt : Nat) (script : BusScript)
    (own : (update fun c : Connection ρ => { c with isOwner := true }).Keeps I)
    (phase : ∀ bus, (setPhase attempt (.waiting bus)).Keeps I) :
    (afterRequest attempt script).Keeps I := by
  unfold Connection.afterRequest
  cases script.requestFault with
  | some f => exact upholds.finish attempt _ _
  | none =>
    refine Keeps.ite ?_ (upholds.finish attempt _ _)
    refine own.bind fun _ => keeps_state.bind fun c => (keeps_post upholds.loose _).bind fun _ => ?_
    cases c.link with
    | some bus => exact (upholds.note _ fun _ => rfl).bind fun _ => phase bus
    | none => exact upholds.finish attempt _ _

theorem afterHangup (upholds : Upholds I) (attempt : Nat) (fault : Option Fault) :
    (afterHangup attempt fault).Keeps I := by
  cases fault with
  | some f => exact upholds.finish attempt _ _
  | none => exact upholds.finish attempt _ _

theorem resume (upholds : Upholds I) (attempt : Nat)
    (makes : ∀ script, (Connection.makeBus attempt script).Keeps I)
    (connects : ∀ bus script, (Connection.afterConnect attempt bus script).Keeps I)
    (requests : ∀ script, (Connection.afterRequest attempt script).Keeps I) :
    (resume attempt).Keeps I := by
  refine keeps_state.bind fun c => ?_
  split
  · exact makes _
  · split
    · exact connects _ _
    · exact keeps_pure ()
  · split
    · exact requests _
    · exact keeps_pure ()
  · split
    · exact upholds.afterHangup attempt _
    · exact keeps_pure ()
  · exact keeps_pure ()

theorem cancel (upholds : Upholds I) (attempt : Nat) : (cancel attempt).Keeps I := by
  refine keeps_state.bind fun c => ?_
  split
  · exact Keeps.ite (upholds.ended attempt .cancelled rfl) (keeps_pure ())
  · exact keeps_pure ()

theorem deliver (upholds : Upholds I) (m : Message)
    (disown : (update fun c : Connection ρ => { c with isOwner := false }).Keeps I) :
    (deliver m).Keeps I := by
  refine keeps_state.bind fun _ => Keeps.forM (fun m => ?_) _
  refine keeps_state.bind fun c =>
    (keeps_ofExcept _).bind fun revoked => Keeps.ite ?_ (keeps_pure ())
  exact disown.bind fun _ => upholds.postLoss _ _

end Upholds

end Parts

/-! ### The objects of the connection -/

/-- Nothing was registered or unregistered since a host, and no chip was closed. -/
def Apart (h₀ h : Host (Connection ρ)) : Prop :=
  h.state.objects = h₀.state.objects ∧ h.state.nextRegistration = h₀.state.nextRegistration ∧
    ∀ s, closes h.calls s = closes h₀.calls s

variable {h₀ : Host (Connection ρ)}

theorem isLoose_apart : IsLoose (Apart h₀) := by
  rintro h h' state calls ⟨objects, next, kept⟩
  exact ⟨by rw [state, objects], by rw [state, next], fun s => by rw [calls, kept]⟩

theorem keeps_note {c : Call} (other : ∀ s, c.isClose s = false := by intro s; rfl) :
    (note c).Keeps (Apart h₀) := fun h hI =>
  ⟨hI.1, hI.2.1, fun s => (closes_append_other h.calls other s).trans (hI.2.2 s)⟩

theorem keeps_update {f : Connection ρ → Connection ρ}
    (same : ∀ c, (f c).objects = c.objects ∧ (f c).nextRegistration = c.nextRegistration := by
      intro c; exact ⟨rfl, rfl⟩) :
    (update f).Keeps (Apart h₀) := fun h hI =>
  ⟨(same h.state).1.trans hI.1, (same h.state).2.trans hI.2.1, hI.2.2⟩

theorem setBus_self (c : Connection ρ) (number : Nat) :
    { c with buses := c.buses.set number ((c.bus? number).getD {}) } = c := by
  have buses : c.buses.set number ((c.bus? number).getD {}) = c.buses := by
    by_cases inside : number < c.buses.length
    · simp [bus?, inside]
    · rw [List.set_eq_of_length_le (by simpa using inside)]
  rw [buses]

theorem keeps_withinBus {α : Type} {number : Nat} {x : Act (MessageBus ρ) α}
    (spares : ∀ (calls : List Call), x.Keeps fun h => ∀ s, closes h.calls s = closes calls s) :
    (withinBus number x).Keeps (Apart h₀) := by
  refine Keeps.within (fun c => setBus_self c number) fun c h hI => ?_
  refine (spares h₀.calls h hI.2.2).mono fun r h' kept => ?_
  exact ⟨hI.1, hI.2.1, kept⟩

theorem keeps_setPhase (attempt : Nat) (phase : OwnershipPhase) :
    (setPhase attempt phase).Keeps (Apart h₀) :=
  keeps_update

theorem upholds_apart : Upholds (Apart h₀) where
  loose := isLoose_apart
  note _ other := keeps_note other
  ended attempt phase _ := keeps_setPhase attempt phase

theorem keeps_begin (script : BusScript) : (begin script).Keeps (Apart h₀) :=
  keeps_update

theorem keeps_hangUp (fault : Option Fault) : (hangUp fault).Keeps (Apart h₀) :=
  keeps_update

theorem keeps_resume (attempt : Nat) : (resume attempt).Keeps (Apart h₀) :=
  upholds_apart.resume attempt
    (fun script =>
      upholds_apart.makeBus attempt script (fun _ _ => keeps_update) fun _ => keeps_update)
    (fun bus script =>
      upholds_apart.afterConnect attempt bus script keeps_update keeps_update keeps_update)
    fun script => upholds_apart.afterRequest attempt script keeps_update fun _ => keeps_update

theorem keeps_cancel (attempt : Nat) : (cancel attempt).Keeps (Apart h₀) :=
  upholds_apart.cancel attempt

theorem keeps_abandon : abandon.Keeps (Apart h₀) := keeps_state.bind fun _ => keeps_cancel _

theorem keeps_deliver (m : Message) : (deliver m).Keeps (Apart h₀) :=
  upholds_apart.deliver m keeps_update

/-- What the table keeps as it loses an object, and the bus in use as it does, unregistering
keeps. -/
theorem keeps_unregister_of {I : Host (Connection ρ) → Prop}
    (forgets : ∀ f : Connection ρ → List (RegisteredObject ρ),
      (update fun c : Connection ρ => { c with objects := f c }).Keeps I)
    (unexports : ∀ number path object,
      (withinBus number (MessageBus.unexportObject path object)).Keeps I)
    (registration : Value) : (unregister registration).Keeps I := by
  refine (keeps_ofExcept _).discard.bind fun _ => keeps_state.bind fun c => ?_
  split
  · exact keeps_fail _
  · refine (forgets _).bind fun _ => ?_
    split
    · exact keeps_pure _
    · exact unexports _ _ _

/-! ### Releasing the name -/

theorem spares_releaseName (name : Text) (calls : List Call) :
    (MessageBus.releaseName name : Act (MessageBus ρ) Unit).Keeps fun h =>
      ∀ s, closes h.calls s = closes calls s := by
  refine Keeps.bind (fun h kept s => ?_) fun _ => keeps_state.bind fun b => keeps_failing _
  exact (closes_append_other h.calls (fun _ => rfl) s).trans (kept s)

theorem spares_disconnect (calls : List Call) :
    (MessageBus.disconnect : Act (MessageBus ρ) Unit).Keeps fun h =>
      ∀ s, closes h.calls s = closes calls s := by
  refine Keeps.bind (fun h kept s => ?_) fun _ => fun _ kept => kept
  exact (closes_append_other h.calls (fun _ => rfl) s).trans (kept s)

/-- What is asked of a bus as its connection is released: the bus, and its answer when it was asked
to release the name. -/
abbrev Request := Option (Nat × Except Failure Unit)

/-- The first half of a release: the link is given up, and the bus is asked to release the name. -/
def beginRelease : Act (Connection ρ) Request := do
  let c ← Act.state
  match c.link with
  | none => return none
  | some number =>
    Act.update fun c => { c with link := none }
    if c.isOwner && c.isConnected then
      let reply ← Act.attempt (withinBus number (MessageBus.releaseName c.name))
      return some (number, reply)
    else return some (number, .ok ())

/-- The second half of a release, when the bus has answered: the bus is disconnected. -/
def finishRelease : Request → Act (Connection ρ) Unit
  | none => pure ()
  | some (number, reply) => do
    let c ← Act.state
    Act.recover Fault.isBus (Act.ofOutcome reply) fun f =>
      Act.log .warning ("error releasing bus name " ++ c.name ++ ": " ++ f.message)
    Act.update fun c => { c with isOwner := false }
    withinBus number MessageBus.disconnect

/-- A release is its two halves, one right after the other. -/
theorem run_release (h : Host (Connection ρ)) :
    release.run h = (do finishRelease (← beginRelease) : Act (Connection ρ) Unit).run h := by
  unfold release beginRelease
  simp only [run_bind, run_state]
  cases h.state.link with
  | none => rfl
  | some number =>
    by_cases asked : h.state.isOwner && h.state.isConnected
    · simp only [run_bind, run_update, asked, if_true, run_attempt, run_pure]
      unfold finishRelease
      simp only [run_bind, run_state, run_update, run_recover, run_ofOutcome, run_log]
      generalize answered : (withinBus number (MessageBus.releaseName h.state.name)).run _ = answer
      have name : answer.2.state.name = h.state.name := by
        rw [← answered]
        unfold withinBus
        rw [run_within]
        rfl
      obtain ⟨e | u, h₁⟩ := answer
      · change h₁.state.name = _ at name
        dsimp only
        by_cases handled : e.fault.isBus
        · rw [if_pos handled, if_pos handled]
          simp [name]
        · simp [handled]
      · rfl
    · simp only [run_bind, run_update, asked]
      rfl

section Release

variable {I : Host (Connection ρ) → Prop}

theorem keeps_beginRelease_of
    (unlink : (update fun c : Connection ρ => { c with link := none }).Keeps I)
    (asks : ∀ number name, (withinBus number (MessageBus.releaseName name)).Keeps I) :
    beginRelease.Keeps I := by
  refine keeps_state.bind fun c => ?_
  cases c.link with
  | none => exact keeps_pure _
  | some number =>
    refine unlink.bind fun _ => Keeps.ite ?_ (keeps_pure _)
    exact (asks _ _).attempt.bind fun _ => keeps_pure _

theorem keeps_finishRelease_of (log : ∀ level text, (Act.log level text).Keeps I)
    (disown : (update fun c : Connection ρ => { c with isOwner := false }).Keeps I)
    (disconnects : ∀ number, (withinBus number MessageBus.disconnect).Keeps I) (request : Request) :
    (finishRelease request).Keeps I := by
  cases request with
  | none => exact keeps_pure ()
  | some asked =>
    refine keeps_state.bind fun c => Keeps.bind ?_ fun _ => disown.bind fun _ => disconnects _
    exact (keeps_ofOutcome _).recover fun _ => log _ _

/-- What both halves of a release keep, it keeps. -/
theorem keeps_release_of (begins : beginRelease.Keeps I)
    (finishes : ∀ request, (finishRelease request).Keeps I) :
    release.Keeps I := fun h kept => by
  unfold Ends
  rw [run_release]
  exact (begins.bind finishes) h kept

end Release

theorem keeps_beginRelease : beginRelease.Keeps (Apart h₀) :=
  keeps_beginRelease_of keeps_update fun _ _ => keeps_withinBus (spares_releaseName _)

theorem keeps_finishRelease (request : Request) : (finishRelease request).Keeps (Apart h₀) :=
  keeps_finishRelease_of (keeps_log isLoose_apart) keeps_update
    (fun _ => keeps_withinBus spares_disconnect) request

theorem keeps_release : release.Keeps (Apart h₀) :=
  keeps_release_of keeps_beginRelease keeps_finishRelease

end Connection

end GpioBroker
