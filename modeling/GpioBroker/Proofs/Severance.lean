import GpioBroker.Proofs.Holding

/-!
# Severing the link

Any number of attempts to own the name, with messages and hangups in any order between their steps,
lead a connection somewhere; then it is released, and released again.  The first release gives up
the link and the name and disconnects the bus that was held, whatever comes from the buses before
the answer, and every later release does nothing.  There is one exception: an answer that is a
fault, but not one of the bus, leaves the name owned and the bus up, and no later release reaches
that bus.
-/

namespace GpioBroker

open Act

/-- What comes from the buses of a connection. -/
inductive Incident where
  | message (m : Message)
  | hangUp (number : Nat) (fault : Option Fault)

/-- What a connection goes through until it is released. -/
inductive Contact (ρ : Type) where
  /-- Begins an attempt to own the name. -/
  | begin (script : BusScript)
  /-- Lets an attempt go on. -/
  | resume (attempt : Nat)
  | cancel (attempt : Nat)
  | register (path : Text) (reader : ρ)
  | unregister (registration : Value)
  | incident (x : Incident)

namespace Connection

variable {ρ : Type}

/-! ### Before the release -/

/-- Brings an incident to the connection. -/
def meet : Incident → Act (Connection ρ) Unit
  | .message m => hear m
  | .hangUp number fault => update fun c => c.changeBus number fun b => b.hungUp fault

/-- Brings a contact to the connection. -/
def face : Contact ρ → Act (Connection ρ) Unit
  | .begin script => begin script
  | .resume attempt => resume attempt
  | .cancel attempt => cancel attempt
  | .register path reader => discard (register path reader)
  | .unregister registration => unregister registration
  | .incident x => meet x

/-- The host after some incidents. -/
def hit (h : Host (Connection ρ)) (ys : List Incident) : Host (Connection ρ) :=
  ys.foldl (fun h y => ((meet y).run h).2) h

/-- The host that some contacts lead a new connection to, each however the one before it ended. -/
def led (name : Text) (xs : List (Contact ρ)) : Host (Connection ρ) :=
  xs.foldl (fun h x => ((face x).run h).2) { state := { name } }

/-- A connection that was never released: it has the bus that it is linked to, and it owns the name
or waits for the answer to its request only over a link. -/
structure IsUnreleased (c : Connection ρ) : Prop where
  linked : ∀ number, c.link = some number → number < c.buses.length
  unlinked : c.link = none → c.isOwner = false ∧ ∀ bus, .requesting bus ∉ c.attempts
  connecting : ∀ bus, .connecting bus ∈ c.attempts → bus < c.buses.length
  fresh : ∀ b ∈ c.buses, b.disconnects = 0

theorem MessageBus.disconnects_hungUp (b : MessageBus ρ) (fault : Option Fault) :
    (b.hungUp fault).disconnects = b.disconnects := by
  unfold MessageBus.hungUp
  cases b.hangup <;> rfl

namespace IsUnreleased

variable {c : Connection ρ}

theorem changeBus {f : MessageBus ρ → MessageBus ρ} (unreleased : c.IsUnreleased) (number : Nat)
    (same : ∀ b, (f b).disconnects = b.disconnects) : (c.changeBus number f).IsUnreleased where
  linked n link := by simpa [Connection.changeBus] using unreleased.linked n link
  unlinked := unreleased.unlinked
  connecting bus there := by simpa [Connection.changeBus] using unreleased.connecting bus there
  fresh b there := by
    obtain ⟨i, inside, rfl⟩ := List.getElem_of_mem there
    have old := unreleased.fresh _ (List.getElem_mem (by simpa [Connection.changeBus] using inside))
    simp only [Connection.changeBus, List.getElem_modify]
    split
    · rw [same, old]
    · exact old

/-- Objects have no part in it. -/
theorem of_line {c' : Connection ρ} (unreleased : c.IsUnreleased) (line : c'.line = c.line) :
    c'.IsUnreleased := by
  have link : c'.line.link = c.line.link := by rw [line]
  have owner : c'.line.isOwner = c.line.isOwner := by rw [line]
  have attempts : c'.line.attempts = c.line.attempts := by rw [line]
  have buses : c'.line.buses = c.line.buses := by rw [line]
  simp only [Connection.line] at link owner attempts buses
  have length : c'.buses.length = c.buses.length := by simpa using congrArg List.length buses
  refine ⟨?_, ?_, ?_, fun b there => ?_⟩
  · rw [link, length]
    exact unreleased.linked
  · rw [link, owner, attempts]
    exact unreleased.unlinked
  · rw [attempts, length]
    exact unreleased.connecting
  · obtain ⟨b', there', bare⟩ := List.mem_map.1 (buses ▸ List.mem_map_of_mem there)
    rw [← unreleased.fresh b' there']
    exact (congrArg MessageBus.disconnects bare).symm

end IsUnreleased

section Contacts

variable {h : Host (Connection ρ)}

/-- The connection of a host was never released. -/
abbrev Unreleased (h : Host (Connection ρ)) : Prop := h.state.IsUnreleased

theorem ends_setPhase_unreleased {attempt : Nat} {phase : OwnershipPhase}
    (unreleased : Unreleased h) (requests : ∀ bus, phase = .requesting bus → h.state.link ≠ none)
    (connects : ∀ bus, phase = .connecting bus → bus < h.state.buses.length) :
    (setPhase attempt phase).Ends h fun _ h' => Unreleased h' := by
  refine ⟨unreleased.linked, fun none => ?_, fun bus there => ?_, unreleased.fresh⟩
  · refine ⟨(unreleased.unlinked none).1, fun bus there => ?_⟩
    rcases List.mem_or_eq_of_mem_set there with old | new
    · exact (unreleased.unlinked none).2 bus old
    · exact requests bus new.symm none
  · rcases List.mem_or_eq_of_mem_set there with old | new
    · exact unreleased.connecting bus old
    · exact connects bus new.symm

theorem upholds_unreleased : Upholds (Unreleased (ρ := ρ)) where
  loose := isLoose_of_state IsUnreleased
  note _ _ _ unreleased := unreleased
  ended attempt phase isEnded h unreleased := by
    refine ends_setPhase_unreleased unreleased ?_ ?_
    · rintro bus rfl
      cases isEnded
    · rintro bus rfl
      cases isEnded

theorem unreleased_makeBus (attempt : Nat) (script : BusScript) :
    (makeBus attempt script).Keeps (Unreleased (ρ := ρ)) := by
  intro h unreleased
  unfold makeBus
  cases script.createFault with
  | some f => exact upholds_unreleased.finish attempt _ _ h unreleased
  | none =>
    simp only [ends_bind, ends_state, ends_note, ends_update]
    refine ends_setPhase_unreleased
      ⟨fun n link => ?_, unreleased.unlinked, fun bus there => ?_, fun b there => ?_⟩ (by simp) ?_
    · have := unreleased.linked n link
      simp only [List.length_append]
      omega
    · have := unreleased.connecting bus there
      simp only [List.length_append]
      omega
    · rcases List.mem_append.1 there with old | new
      · exact unreleased.fresh b old
      · rw [List.mem_singleton.1 new]
    · rintro bus same
      cases same
      simp

theorem ends_afterConnect_unreleased {attempt bus : Nat} (script : BusScript)
    (unreleased : Unreleased h) (inside : bus < h.state.buses.length) :
    (afterConnect attempt bus script).Ends h fun _ h' => Unreleased h' := by
  unfold afterConnect
  cases script.connectFault with
  | some f => exact upholds_unreleased.finish attempt _ _ h unreleased
  | none =>
    simp only [ends_bind, ends_update, ends_post, ends_note, ends_state]
    have linked : IsUnreleased { h.state with link := some bus } :=
      ⟨fun n link => by cases link; exact inside, by simp, unreleased.connecting, unreleased.fresh⟩
    exact ends_setPhase_unreleased (linked.changeBus bus fun _ => rfl)
      (by simp [Connection.changeBus]) (by simp)

theorem ends_afterRequest_unreleased {attempt : Nat} (script : BusScript)
    (unreleased : Unreleased h) (linked : h.state.link ≠ none) :
    (afterRequest attempt script).Ends h fun _ h' => Unreleased h' := by
  unfold afterRequest
  cases script.requestFault with
  | some f => exact upholds_unreleased.finish attempt _ _ h unreleased
  | none =>
    refine ends_ite (fun _ => ?_) fun _ => upholds_unreleased.finish attempt _ _ h unreleased
    simp only [ends_bind, ends_update, ends_state, ends_post]
    cases link : h.state.link with
    | none => exact absurd link linked
    | some bus =>
      have owned : IsUnreleased { h.state with isOwner := true, link := some bus } :=
        ⟨fun n same => unreleased.linked n (link.trans same), by simp, unreleased.connecting,
          unreleased.fresh⟩
      simp only [ends_bind, ends_note]
      exact ends_setPhase_unreleased owned (by simp) (by simp)

theorem unreleased_resume (attempt : Nat) : (resume attempt).Keeps (Unreleased (ρ := ρ)) := by
  intro h unreleased
  unfold resume
  simp only [ends_bind, ends_state]
  split
  · exact unreleased_makeBus attempt _ h unreleased
  · rename_i bus waits
    split
    · exact ends_afterConnect_unreleased _ unreleased
        (unreleased.connecting bus (List.mem_of_getElem? waits))
    · exact unreleased
  · rename_i bus waits
    split
    · refine ends_afterRequest_unreleased _ unreleased fun none => ?_
      exact (unreleased.unlinked none).2 bus (List.mem_of_getElem? waits)
    · exact unreleased
  · split
    · exact upholds_unreleased.afterHangup attempt _ h unreleased
    · exact unreleased
  · exact unreleased

theorem unreleased_begin (script : BusScript) : (begin script).Keeps (Unreleased (ρ := ρ)) := by
  intro h unreleased
  refine ⟨unreleased.linked, fun none => ⟨(unreleased.unlinked none).1, fun bus there => ?_⟩,
    fun bus there => ?_, unreleased.fresh⟩
  · rcases List.mem_append.1 there with old | new
    · exact (unreleased.unlinked none).2 bus old
    · cases List.mem_singleton.1 new
  · rcases List.mem_append.1 there with old | new
    · exact unreleased.connecting bus old
    · cases List.mem_singleton.1 new

theorem unreleased_register (path : Text) (reader : ρ) :
    (register path reader).Keeps (Unreleased (ρ := ρ)) := fun _ unreleased =>
  (ends_register path reader).mono fun _ _ kept => unreleased.of_line kept.2.1

theorem unreleased_unregister (registration : Value) :
    (unregister registration).Keeps (Unreleased (ρ := ρ)) := by
  refine keeps_unregister_of (fun _ h unreleased => ?_)
    (fun number path object h unreleased => ?_) registration
  · exact IsUnreleased.of_line (c := h.state) unreleased rfl
  · refine (ends_withinBus (F := fun _ => True) ?_).mono fun _ _ kept => unreleased.of_line kept.2.1
    exact (MessageBus.ends_unexportObject path object).mono fun _ _ kept =>
      ⟨kept.1, kept.2.1, trivial⟩

theorem unreleased_meet (y : Incident) : (meet y).Keeps (Unreleased (ρ := ρ)) := by
  cases y with
  | message m =>
    refine keeps_state.bind fun c =>
      (keeps_ofExcept _).bind fun revoked => Keeps.ite ?_ (keeps_pure ())
    refine Keeps.bind (fun h unreleased => ?_) fun _ => upholds_unreleased.postLoss _ _
    exact ⟨unreleased.linked, fun none => ⟨rfl, (unreleased.unlinked none).2⟩,
      unreleased.connecting,
      unreleased.fresh⟩
  | hangUp number fault => exact fun h unreleased =>
      IsUnreleased.changeBus (c := h.state) unreleased number fun b =>
        MessageBus.disconnects_hungUp b fault

/-- Every contact leaves the connection unreleased. -/
theorem unreleased_face (x : Contact ρ) : (face x).Keeps Unreleased := by
  cases x with
  | begin script => exact unreleased_begin script
  | resume attempt => exact unreleased_resume attempt
  | cancel attempt => exact upholds_unreleased.cancel attempt
  | register path reader => exact (unreleased_register path reader).discard
  | unregister registration => exact unreleased_unregister registration
  | incident x => exact unreleased_meet x

theorem unreleased_led (name : Text) (xs : List (Contact ρ)) : Unreleased (led name xs) := by
  have new : Unreleased (ρ := ρ) { state := { name } } :=
    ⟨by simp, fun _ => ⟨rfl, fun _ => List.not_mem_nil⟩,
      fun _ there => absurd there List.not_mem_nil,
      fun _ there => absurd there List.not_mem_nil⟩
  unfold led
  generalize ({ state := { name } } : Host (Connection ρ)) = h at new
  induction xs generalizing h with
  | nil => exact new
  | cons x xs ih => exact ih _ (unreleased_face x h new)

end Contacts

/-! ### The release -/

section Release

/-- How often each bus was disconnected. -/
def disconnections (c : Connection ρ) : List Nat := c.buses.map MessageBus.disconnects

/-- The fault with which the bus in use answers if it is asked to release the name. -/
def answer? (c : Connection ρ) : Option Fault :=
  if c.isOwner && c.isConnected then c.linked?.bind fun b => b.script.releaseFault else none

/-- The bus is asked to release the name, and the answer is a fault, but not one of the bus. -/
def IsStuck (c : Connection ρ) : Prop := ∃ f, c.answer? = some f ∧ f.isBus = false

/-- The host after a release, with the incidents that come before the bus answers. -/
def severed (h : Host (Connection ρ)) (ys : List Incident) : Host (Connection ρ) :=
  ((do finishRelease (← Act.ofOutcome (releasing h).1) : Act (Connection ρ) Unit).run
    (hit (releasing h).2 ys)).2

/-- A release without incidents is a release. -/
theorem severed_nil (h : Host (Connection ρ)) : severed h [] = (release.run h).2 :=
  (run_release_eq_released h).symm

variable {h : Host (Connection ρ)} {number : Nat}

theorem disconnections_changeBus (c : Connection ρ) (number : Nat) {f : MessageBus ρ → MessageBus ρ}
    (same : ∀ b, (f b).disconnects = b.disconnects) :
    (c.changeBus number f).disconnections = c.disconnections := by
  refine List.ext_getElem (by simp [disconnections, changeBus]) fun i there there' => ?_
  simp only [disconnections, changeBus, List.getElem_map, List.getElem_modify]
  split
  · exact same _
  · rfl

/-- Incidents touch neither the link nor what was disconnected. -/
def Severing (link : Option Nat) (counts : List Nat) (h : Host (Connection ρ)) : Prop :=
  h.state.link = link ∧ h.state.disconnections = counts

theorem severing_meet {link : Option Nat} {counts : List Nat} (y : Incident) :
    (meet y).Keeps (Severing (ρ := ρ) link counts) := by
  cases y with
  | message m =>
    refine keeps_state.bind fun c =>
      (keeps_ofExcept _).bind fun revoked => Keeps.ite ?_ (keeps_pure ())
    exact Keeps.bind (fun _ kept => kept) fun _ => keeps_state.bind fun _ _ kept => kept
  | hangUp n fault =>
    rintro h ⟨same, rfl⟩
    exact ⟨same, disconnections_changeBus h.state n fun b => MessageBus.disconnects_hungUp b fault⟩

theorem hit_of_keeps {I : Host (Connection ρ) → Prop} (keeps : ∀ y, (meet y).Keeps I) (kept : I h)
    (ys : List Incident) : I (hit h ys) := by
  induction ys generalizing h with
  | nil => exact kept
  | cons y ys ih => exact ih (keeps y h kept)

/-- Without a link there is nothing to release. -/
theorem run_release_of_unlinked (unlinked : h.state.link = none) : release.run h = (.ok (), h) := by
  unfold release
  simp [run_bind, unlinked]

theorem run_releases_of_unlinked (unlinked : h.state.link = none) (n : Nat) :
    ((List.replicate n ()).forM fun _ => release).run h = (.ok (), h) := by
  induction n with
  | zero => rfl
  | succ n ih =>
    change (release >>= fun _ => (List.replicate n ()).forM fun _ => release).run h = _
    rw [run_bind, run_release_of_unlinked unlinked]
    exact ih

/-- The answer to a request to release the name is the fault of the bus, if it has one. -/
theorem ends_releaseName_answer (number : Nat) (name : Text) :
    (withinBus number (MessageBus.releaseName name)).Ends h fun r h' => h'.state = h.state ∧
      r = ((h.state.bus? number).bind fun b => b.script.releaseFault).elim (.ok ())
        fun f => .error { fault := f } := by
  have same := setBus_self h.state number
  have fault : ((h.state.bus? number).bind fun b => b.script.releaseFault) =
      ((h.state.bus? number).getD {}).script.releaseFault := by
    cases h.state.bus? number <;> rfl
  rw [fault]
  refine Ends.within
    (MessageBus.ends_releaseName_of (fun quiet => ⟨same, ?_⟩) fun f faulty => ⟨same, ?_⟩)
  · change ((h.state.bus? number).getD {}).script.releaseFault = none at quiet
    rw [quiet]
    rfl
  · change ((h.state.bus? number).getD {}).script.releaseFault = some f at faulty
    rw [faulty]
    rfl

/-- The first half gives the link up and has the answer of the bus. -/
theorem ends_beginRelease_linked (link : h.state.link = some number) :
    beginRelease.Ends h fun r h' =>
    h'.state = { h.state with link := none } ∧
      r = .ok (some (number, h.state.answer?.elim (.ok ()) fun f => .error { fault := f })) := by
  have linked : linked? h.state = h.state.bus? number := by simp [linked?, link]
  unfold beginRelease answer?
  simp only [ends_bind, ends_state, link, ends_update, linked]
  split
  · rw [ends_bind]
    refine Ends.attempt ((ends_releaseName_answer number _).mono ?_)
    rintro _ h' ⟨same, rfl⟩
    exact ⟨same, rfl⟩
  · exact ⟨rfl, rfl⟩

/-- The bus that was held is disconnected once more. -/
theorem ends_disconnect_counts (number : Nat) :
    (withinBus number MessageBus.disconnect).Ends h fun _ h' =>
    h'.state.link = h.state.link ∧ h'.state.isOwner = h.state.isOwner ∧
      h'.state.disconnections = h.state.disconnections.modify number (· + 1) := by
  refine Ends.within ?_
  unfold MessageBus.disconnect
  simp only [ends_bind, ends_note, ends_update]
  refine ⟨rfl, rfl, List.ext_getElem (by simp [disconnections, Host.withState])
    fun i there there' => ?_⟩
  simp only [disconnections, Host.withState, List.getElem_map, List.getElem_modify,
    List.getElem_set]
  split
  · rename_i here
    subst here
    have inside : number < h.state.buses.length := by simpa [disconnections] using there'
    change ((h.state.bus? number).getD {}).disconnects + 1 = _
    rw [bus?, List.getElem?_eq_getElem inside, Option.getD_some]
  · rfl

/-- After an answer that is no fault, or one of the bus, the name is given up and the bus
disconnected. -/
theorem ends_finishRelease_answered {reply : Except Failure Unit}
    (expected : ∀ e, reply = .error e → e.fault.isBus = true) :
    (finishRelease (some (number, reply))).Ends h fun _ h' =>
      h'.state.link = h.state.link ∧ h'.state.isOwner = false ∧
        h'.state.disconnections = h.state.disconnections.modify number (· + 1) := by
  unfold finishRelease
  simp only [ends_bind, ends_state]
  refine (ends_recover_ofOutcome expected fun f h' => ⟨rfl, rfl⟩).mono ?_
  rintro _ h' ⟨rfl, same⟩
  simp only [ends_update]
  refine (ends_disconnect_counts number).mono ?_
  rintro _ h'' ⟨link, owner, counts⟩
  rw [link, owner, counts]
  rw [← same]
  exact ⟨rfl, rfl, rfl⟩

/-- After any other answer everything stays as it is. -/
theorem ends_finishRelease_stuck {f : Fault} (other : f.isBus = false) :
    (finishRelease (some (number, .error { fault := f }))).Ends h fun _ h' => h' = h := by
  unfold finishRelease
  simp only [ends_bind, ends_state]
  refine Ends.recover (R := fun r h' => r = .error { fault := f } ∧ h' = h) ⟨rfl, rfl⟩ ?_ ?_ ?_
  · rintro _ h' ⟨failed, -⟩
    cases failed
  · rintro _ h' ⟨same, rfl⟩ -
    rfl
  · rintro _ h' ⟨same, -⟩ handled
    cases same
    rw [other] at handled
    cases handled

/-- How a release leaves the connection. -/
structure IsSevered (h h' : Host (Connection ρ)) : Prop where
  down : h'.state.isConnected = false
  disowned : h'.state.isOwner = false
  /-- The bus that was held is disconnected once. -/
  once : ∀ number, h.state.link = some number → ∃ b, h'.state.bus? number = some b ∧
    b.disconnects = 1
  /-- No other bus is disconnected. -/
  never : ∀ number b, h'.state.bus? number = some b → h.state.link ≠ some number → b.disconnects = 0
  /-- Later releases do nothing. -/
  idle : ∀ n, ((List.replicate n ()).forM fun _ => release).run h' = (.ok (), h')

theorem isConnected_of_unlinked {c : Connection ρ} (unlinked : c.link = none) :
    c.isConnected = false := by
  simp [isConnected, live?, unlinked]

theorem disconnections_eq_some_iff {c : Connection ρ} {number count : Nat} :
    c.disconnections[number]? = some count ↔ ∃ b, c.bus? number = some b ∧
      b.disconnects = count := by
  simp [disconnections, bus?]

/-- A connection that was unlinked and disowned is severed if the bus that was held was disconnected
once more than the others, which were not. -/
theorem isSevered_of_linked {h' : Host (Connection ρ)} (unreleased : Unreleased h)
    (link : h.state.link = some number) (unlinked : h'.state.link = none)
    (disowned : h'.state.isOwner = false)
    (counts : h'.state.disconnections = h.state.disconnections.modify number (· + 1)) :
    IsSevered h h' where
  down := isConnected_of_unlinked unlinked
  disowned := disowned
  once n held := by
    cases link.symm.trans held
    have inside := unreleased.linked number link
    rw [← disconnections_eq_some_iff, counts, List.getElem?_modify_eq, disconnections,
      List.getElem?_map,
      List.getElem?_eq_getElem inside]
    simp [unreleased.fresh _ (List.getElem_mem inside)]
  never n b there other := by
    have counted : h'.state.disconnections[n]? = some b.disconnects :=
      disconnections_eq_some_iff.2 ⟨b, there, rfl⟩
    have apart : number ≠ n := by
      rintro rfl
      exact other link
    rw [counts, List.getElem?_modify_ne _ _ apart] at counted
    obtain ⟨b', there', same⟩ := disconnections_eq_some_iff.1 counted
    rw [← same]
    exact unreleased.fresh b' (List.mem_of_getElem? there')
  idle := run_releases_of_unlinked unlinked

/-- A release without a link leaves what it finds. -/
theorem isSevered_of_unlinked (unreleased : Unreleased h) (unlinked : h.state.link = none)
    (ys : List Incident) :
    IsSevered h (severed h ys) := by
  have nothing : beginRelease.Ends h fun r h' => r = .ok none ∧ h' = h := by
    unfold beginRelease
    simp only [ends_bind, ends_state, unlinked]
    exact ⟨rfl, rfl⟩
  have still : Unreleased (hit h ys) := hit_of_keeps unreleased_meet unreleased ys
  have apart : Severing none h.state.disconnections (hit h ys) :=
    hit_of_keeps severing_meet ⟨unlinked, rfl⟩ ys
  obtain ⟨result, same⟩ := nothing
  have whole : severed h ys = hit h ys := by
    unfold severed releasing
    rw [result, same]
    rfl
  rw [whole]
  exact {
    down := isConnected_of_unlinked apart.1
    disowned := (still.unlinked apart.1).1
    once := fun n held => by simp [unlinked] at held
    never := fun n b there _ => still.fresh b (List.mem_of_getElem? there)
    idle := run_releases_of_unlinked apart.1 }

/-- After a release of a link, what the second half makes of the answer. -/
theorem severed_linked (link : h.state.link = some number) (ys : List Incident) :
    ∃ h₁, Severing none h.state.disconnections h₁ ∧ severed h ys = ((finishRelease
      (some (number, h.state.answer?.elim (.ok ()) fun f => .error { fault := f }))).run h₁).2 := by
  obtain ⟨state, result⟩ := ends_beginRelease_linked link
  refine ⟨hit (beginRelease.run h).2 ys, hit_of_keeps severing_meet ?_ ys, ?_⟩
  · rw [Severing, state]
    exact ⟨rfl, rfl⟩
  · unfold severed releasing
    rw [result]
    rfl

/-- A release that is stuck leaves the bus that was held without a disconnection. -/
theorem not_isSevered_of_isStuck (unreleased : Unreleased h) (link : h.state.link = some number)
    (stuck : h.state.IsStuck) (ys : List Incident) : ¬ IsSevered h (severed h ys) := by
  intro ended
  obtain ⟨h₁, ⟨-, counts⟩, whole⟩ := severed_linked link ys
  obtain ⟨f, answered, other⟩ := stuck
  rw [whole, answered] at ended
  have same : ((finishRelease (some (number, .error { fault := f }))).run h₁).2 = h₁ :=
    ends_finishRelease_stuck other
  obtain ⟨b, there, one⟩ := ended.once number link
  rw [Option.elim_some, same] at there
  have counted : h₁.state.disconnections[number]? = some 1 :=
    disconnections_eq_some_iff.2 ⟨b, there, one⟩
  rw [counts, disconnections_eq_some_iff] at counted
  obtain ⟨b', there', one'⟩ := counted
  have zero := unreleased.fresh b' (List.mem_of_getElem? there')
  omega

/-- A release that is not stuck severs the connection. -/
theorem isSevered_of_not_isStuck (unreleased : Unreleased h) (link : h.state.link = some number)
    (unstuck : ¬ h.state.IsStuck) (ys : List Incident) : IsSevered h (severed h ys) := by
  obtain ⟨h₁, ⟨unlinked, counts⟩, whole⟩ := severed_linked link ys
  have expected (e : Failure)
      (failed : h.state.answer?.elim (Except.ok ()) (fun f => .error { fault := f }) = .error e) :
      e.fault.isBus = true := by
    cases answered : h.state.answer? with
    | none =>
      rw [answered] at failed
      cases failed
    | some f =>
      rw [answered] at failed
      cases failed
      by_contra other
      exact unstuck ⟨f, answered, by simpa using other⟩
  obtain ⟨unlinked', disowned, counts'⟩ := ends_finishRelease_answered (h := h₁) expected
  rw [whole]
  exact isSevered_of_linked unreleased link (unlinked'.trans unlinked) disowned
    (by rw [counts', counts])

/-- Whatever a connection went through, a release severs it unless the bus in use answers with a
fault that is not its own. -/
theorem isSevered_iff (name : Text) (xs : List (Contact ρ)) :
    (release.run (led name xs)).2 = severed (led name xs) [] ∧
      ∀ ys, IsSevered (led name xs) (severed (led name xs) ys) ↔ ¬ (led name xs).state.IsStuck := by
  have unreleased := unreleased_led name xs
  generalize led name xs = h at unreleased
  refine ⟨(severed_nil h).symm, fun ys => ?_⟩
  cases link : h.state.link with
  | none =>
    refine iff_of_true (isSevered_of_unlinked unreleased link ys) ?_
    rintro ⟨f, answered, -⟩
    simp [answer?, isConnected_of_unlinked link] at answered
  | some number =>
    constructor
    · exact fun ended stuck => not_isSevered_of_isStuck unreleased link stuck ys ended
    · exact fun unstuck => isSevered_of_not_isStuck unreleased link unstuck ys

/-- A name that is owned over a bus that fails to release it. -/
def owned (script : BusScript) : List (Contact Value) :=
  [.begin script, .resume 0, .resume 0, .resume 0]

/-- An answer that is no fault of the bus leaves the name owned. -/
theorem not_isSevered : ¬ ∀ (name : Text) (xs : List (Contact Value)),
    IsSevered (led name xs) (release.run (led name xs)).2 := by
  intro all
  have disowned :=
    (all "org.gpiod" (owned { releaseFault := some (.raised .runtime "boom") })).disowned
  revert disowned
  decide +kernel

end Release

end Connection

end GpioBroker
