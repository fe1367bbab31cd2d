import GpioBroker.Proofs.Chips
import GpioBroker.Proofs.Concurrence
import GpioBroker.Proofs.Isolation

/-!
# The two generations of the bindings

A broker does not show over which generation of the bindings it runs.  As long as no reading of
metadata fails, a run over the first generation and one over the second concur in all that they
answer, log and ask of the bus, whatever the metadata are and however chips fail to be opened and
closed.
-/

namespace GpioBroker

open Act

/-! ### Chips -/

/-- No reading of the metadata of a device fails. -/
structure Device.IsReadable (d : Device) : Prop where
  getInfo : d.faults.getInfo = none
  name : d.faults.name = none
  label : d.faults.label = none
  numLines : d.faults.numLines = none

namespace OpenChip

variable {σ : Type} {P : σ → σ → Prop} {chip : OpenChip}

/-- A call that does not fail leaves nothing but itself. -/
theorem run_call_bind {α : Type} {c : ChipCall} (quiet : chip.device.fault? c = none)
    (k : Unit → Act σ α) (h : Host σ) : (chip.call c >>= k).run h =
      (k ()).run { h with calls := h.calls ++ [.chip chip.serial chip.device.path c] } := by
  unfold call
  rw [quiet]
  rfl

/-- Three readings of the first generation do what one of the second does. -/
theorem concurs_readInfo (readable : chip.device.IsReadable) :
    Concurs P (chip.readInfo .first) (chip.readInfo .second) := by
  intro h h' concur
  have one : (chip.readInfo .first).run h = (Act.ofExcept chip.device.info?).run
      { h with calls := h.calls ++ [.chip chip.serial chip.device.path .name,
        .chip chip.serial chip.device.path .label, .chip chip.serial chip.device.path .numLines]
          } := by
    unfold readInfo
    rw [run_call_bind (c := .name) readable.name, run_call_bind (c := .label) readable.label,
      run_call_bind (c := .numLines) readable.numLines]
    simp only [List.append_assoc, List.cons_append, List.nil_append]
  have other : (chip.readInfo .second).run h' = (Act.ofExcept chip.device.info?).run
      { h' with calls := h'.calls ++ [.chip chip.serial chip.device.path .getInfo] } :=
    run_call_bind (c := .getInfo) readable.getInfo _ h'
  refine (concurs_ofExcept chip.device.info? _ _ ?_).of_run one other
  refine ⟨concur.state, ?_, concur.records, concur.queue, concur.deferred⟩
  change h.calls ++ _ = itemize (h'.calls ++ _)
  rw [itemize_append, concur.calls]
  rfl

theorem concurs_close : Concurs P (chip.call .close) (chip.call .close) :=
  (concurs_note rfl).bind fun _ => concurs_failing _

end OpenChip

theorem Handle.concurs_closeChip {σ : Type} {P : σ → σ → Prop} (x : Handle) :
    Concurs P x.closeChip x.closeChip := by
  unfold closeChip
  split
  · exact concurs_pure ()
  · exact OpenChip.concurs_close.recover fun _ => concurs_log _ _

namespace Bindings

/-- The same bindings in the first generation and in the second one, over devices that can be
read. -/
structure Agree (b b' : Bindings) : Prop where
  first : b = { b' with generation := .first }
  second : b'.generation = .second
  readable : ∀ d ∈ b'.devices, d.IsReadable

variable {b b' : Bindings}

theorem Agree.find? (agree : b.Agree b') (path : Text) : b.find? path = b'.find? path := by
  rw [agree.first]
  rfl

theorem Agree.pathOf (agree : b.Agree b') (deviceId : Value) :
    b.pathOf deviceId = b'.pathOf deviceId := by
  rw [agree.first]
  rfl

theorem Agree.advanced (agree : b.Agree b') : b.advanced.Agree b'.advanced :=
  ⟨by rw [agree.first]; rfl, agree.second, agree.readable⟩

theorem concurs_openPath (path : Text) : Concurs Agree (openPath path) (openPath path) := by
  refine (concurs_note rfl).bind fun _ => concurs_state_bind fun b b' agree => ?_
  rw [agree.find? path]
  cases b'.find? path with
  | none => exact concurs_fail _
  | some device =>
    have serial : b.nextSerial = b'.nextSerial := by rw [agree.first]
    rw [serial]
    exact (concurs_failing _).bind fun _ =>
      (concurs_update fun _ _ agree => Agree.advanced agree).bind fun _ => concurs_pure _

theorem concurs_readOpened {chip : OpenChip} (readable : chip.device.IsReadable) :
    Concurs Agree (readOpened chip) (readOpened chip) := by
  refine concurs_state_bind fun b b' agree => ?_
  have first : b.generation = .first := by rw [agree.first]
  rw [first, agree.second]
  exact (OpenChip.concurs_readInfo readable).undo OpenChip.concurs_close

theorem concurs_openDevice (deviceId : Value) :
    Concurs Agree (openDevice deviceId) (openDevice deviceId) := by
  refine concurs_state_bind fun b b' agree => ?_
  rw [agree.pathOf]
  refine (concurs_ofExcept _).bind fun path h h' concur => ?_
  -- A chip that is opened is one of the devices, so it can be read.
  refine ((concurs_openPath path h h' concur).and (ends_openPath path) (ends_openPath path)).bind ?_
    fun _ _ failed => failed.1
  rintro chip _ k k' ⟨⟨rfl, concur₁⟩, -, -, ⟨e, failed, -⟩ | ⟨device, there, opened, -⟩⟩
  · cases failed
  cases opened
  refine Concurs.bind (concurs_readOpened (concur.state.readable device there))
    (fun info => ?_) k k' concur₁
  exact (concurs_log _ _).bind fun _ => concurs_pure _

end Bindings

/-! ### The roster -/

namespace Roster

theorem concurs_withinBus {α : Type} {x : Act (Connection Value) α} (hx : Concurs Eq x x) :
    Concurs Eq (withinBus x) (withinBus x) := hx.within_eq

theorem concurs_keep (record : Record) :
    Concurs Eq (keep record : Act (Roster (Connection Value)) Nat) (keep record) :=
  concurs_state_bind_eq fun _ => (concurs_update_eq _).bind fun _ => concurs_pure _

theorem concurs_insert (number : Nat) :
    Concurs Eq (insert number : Act (Roster (Connection Value)) Unit) (insert number) := by
  refine concurs_state_bind_eq fun r => ?_
  split
  · exact concurs_fail _
  · exact (concurs_ofExcept _).bind fun key => Concurs.ite (concurs_fail _) (concurs_update_eq _)

theorem concurs_destroy (number : Nat) :
    Concurs Eq (destroy number : Act (Roster (Connection Value)) Unit) (destroy number) := by
  refine concurs_state_bind_eq fun r => ?_
  split
  · exact concurs_fail _
  · rename_i record _
    refine (concurs_update_eq _).bind fun _ => Concurs.ensure ?_ ?_
    · cases record.handle with
      | none => exact concurs_pure ()
      | some x => exact x.concurs_closeChip
    · cases record.registration with
      | none => exact concurs_pure ()
      | some id => exact concurs_withinBus (Connection.concurs_unregister id)

theorem concurs_removeEntry (key : Key) (number : Nat) :
    Concurs Eq (removeEntry key number : Act (Roster (Connection Value)) Unit)
      (removeEntry key number) :=
  (concurs_destroy number).ensure (concurs_update_eq _)

theorem concurs_remove (deviceId : Value) :
    Concurs Eq (remove deviceId : Act (Roster (Connection Value)) Unit) (remove deviceId) := by
  refine concurs_state_bind_eq fun r => (concurs_ofExcept _).bind fun key => ?_
  split
  · exact concurs_fail _
  · exact concurs_removeEntry _ _

theorem concurs_clear : Concurs Eq (clear : Act (Roster (Connection Value)) Unit) clear :=
  concurs_state_bind_eq fun _ => Concurs.forM (fun _ => concurs_removeEntry _ _) _

end Roster

/-! ### The broker -/

namespace Broker

variable {η α : Type}

/-- Two brokers that differ in the generation of their bindings. -/
structure Agree (b b' : Broker (Connection Value) η) : Prop where
  bindings : b.bindings.Agree b'.bindings
  roster : b.roster = b'.roster
  source : b.source = b'.source
  ownership : b.ownership = b'.ownership

theorem concurs_withinBindings {x : Act Bindings α} (hx : Concurs Bindings.Agree x x) :
    Concurs Agree (withinBindings x : Act (Broker (Connection Value) η) α) (withinBindings x) :=
  hx.within (fun _ _ agree => agree.bindings) fun _ _ _ _ agree bindings =>
    ⟨bindings, agree.roster, agree.source, agree.ownership⟩

theorem concurs_withinRoster {x : Act (Roster (Connection Value)) α} (hx : Concurs Eq x x) :
    Concurs Agree (withinRoster x : Act (Broker (Connection Value) η) α) (withinRoster x) :=
  hx.within (fun _ _ agree => agree.roster) fun _ _ _ _ agree roster =>
    ⟨agree.bindings, roster, agree.source, agree.ownership⟩

theorem concurs_withinBus {x : Act (Connection Value) α} (hx : Concurs Eq x x) :
    Concurs Agree (withinBus x : Act (Broker (Connection Value) η) α) (withinBus x) :=
  concurs_withinRoster (Roster.concurs_withinBus hx)

theorem concurs_withinSource {x : Act η α} (hx : Concurs Eq x x) :
    Concurs Agree (withinSource x : Act (Broker (Connection Value) η) α) (withinSource x) :=
  hx.within (fun _ _ agree => agree.source) fun _ _ _ _ agree source =>
    ⟨agree.bindings, agree.roster, source, agree.ownership⟩

theorem concurs_setOwnership (ownership : Ownership) :
    Concurs Agree (setOwnership ownership : Act (Broker (Connection Value) η) Unit)
      (setOwnership ownership) :=
  concurs_update fun _ _ agree => ⟨agree.bindings, agree.roster, agree.source, rfl⟩

theorem Agree.property? {b b' : Broker (Connection Value) η} (agree : b.Agree b')
    (device property : Key) :
    b.property? device property = b'.property? device property := by
  unfold Broker.property?
  rw [agree.roster]

theorem concurs_getProperty (deviceId name : Value) :
    Concurs Agree (getProperty deviceId name : Act (Broker (Connection Value) η) (Option Value))
      (getProperty deviceId name) := by
  refine (concurs_log _ _).bind fun _ => concurs_state_bind fun b b' agree => ?_
  refine (concurs_ofExcept _).bind fun device => (concurs_ofExcept _).bind fun property => ?_
  rw [agree.property?]
  exact concurs_pure _

theorem concurs_openChip (deviceId : Value) :
    Concurs Agree (openChip deviceId : Act (Broker (Connection Value) η) (Option Handle))
      (openChip deviceId) :=
  (concurs_withinBindings (Bindings.concurs_openDevice deviceId)).map.recover fun _ =>
    (concurs_log _ _).bind fun _ => concurs_pure _

theorem concurs_registerRecord (number : Nat) (record : Record) :
    Concurs Agree (registerRecord number record : Act (Broker (Connection Value) η) (Option Int))
      (registerRecord number record) := by
  refine Concurs.recover (concurs_withinBus (Connection.concurs_register _ _)).map fun f => ?_
  refine (concurs_withinRoster (Roster.concurs_destroy number)).bind fun _ => ?_
  exact (concurs_log _ _).bind fun _ => concurs_pure _

theorem concurs_addChip (deviceId : Value) :
    Concurs Agree (addChip deviceId : Act (Broker (Connection Value) η) (Option Nat))
      (addChip deviceId) := by
  refine concurs_state_bind fun b b' agree => (concurs_ofExcept _).bind fun key => ?_
  rw [agree.roster]
  refine Concurs.guard
    ((concurs_log _ _).bind fun _ => (concurs_openChip deviceId).bind fun opened => ?_)
  split
  · exact concurs_pure _
  · refine (concurs_withinRoster (Roster.concurs_keep _)).bind fun number => ?_
    refine (concurs_registerRecord number _).bind fun registered => ?_
    split
    · exact concurs_pure _
    · refine (concurs_withinRoster ?_).bind fun _ => concurs_pure _
      exact (concurs_update_eq _).bind fun _ => Roster.concurs_insert _

theorem concurs_removeChip (deviceId : Value) :
    Concurs Agree (removeChip deviceId : Act (Broker (Connection Value) η) Unit)
      (removeChip deviceId) :=
  (concurs_log _ _).bind fun _ => concurs_withinRoster (Roster.concurs_remove deviceId)

theorem concurs_onUevent (u : Uevent) :
    Concurs Agree (onUevent u : Act (Broker (Connection Value) η) Unit) (onUevent u) := by
  refine Concurs.ite ((concurs_log _ _).bind fun _ => Concurs.ite ?_ (Concurs.ite ?_ ?_))
    (concurs_pure ())
  · exact (concurs_addChip _).discard
  · exact concurs_removeChip _
  · exact concurs_log _ _

theorem concurs_addEntry (e : Event) :
    Concurs Agree (addEntry e : Act (Broker (Connection Value) η) Unit) (addEntry e) := by
  cases e with
  | uevent u => exact Concurs.ite (concurs_addChip _).discard (concurs_pure ())
  | _ => exact concurs_fail _

theorem concurs_addListed (l : Listing) :
    Concurs Agree (addListed l : Act (Broker (Connection Value) η) Unit) (addListed l) :=
  (Concurs.forM concurs_addEntry _).bind fun _ => concurs_failing _

theorem concurs_destroyAll :
    Concurs Agree (destroyAll : Act (Broker (Connection Value) η) Unit) destroyAll := by
  refine concurs_state_bind fun b b' agree => ?_
  rw [agree.roster]
  have clears := concurs_withinRoster (η := η) Roster.concurs_clear
  exact Concurs.ite ((concurs_log _ _).bind fun _ => clears) clears

variable [UeventSource η]

theorem concurs_onNameAcquired (indifferent : UeventSource.IsIndifferent η) (name : Value) :
    Concurs Agree (onNameAcquired name : Act (Broker (Connection Value) η) Unit)
      (onNameAcquired name) :=
  (concurs_log _ _).bind fun _ => (concurs_setOwnership _).bind fun _ =>
    (concurs_withinSource indifferent.subscribe).bind fun _ =>
      (concurs_withinSource indifferent.enumerate).bind concurs_addListed

theorem concurs_handle (indifferent : UeventSource.IsIndifferent η) (e : Event) :
    Concurs Agree (handle e : Act (Broker (Connection Value) η) Unit) (handle e) := by
  cases e with
  | uevent u => exact concurs_onUevent u
  | busAcquired => exact (concurs_log _ _).bind fun _ => concurs_setOwnership _
  | nameAcquired name => exact concurs_onNameAcquired indifferent name
  | nameLost loss =>
    exact (concurs_log _ _).bind fun _ => (concurs_setOwnership _).bind fun _ => concurs_fail _
  | signal number => exact concurs_log _ _
  | other v => exact concurs_log _ _

end Broker

/-! ### Runs -/

namespace Turn

variable {η : Type}

/-- The devices that a turn brings can be read. -/
def IsReadable : Turn η → Prop
  | .setDevices devices => ∀ d ∈ devices, d.IsReadable
  | _ => True

/-- What a turn gives back. -/
inductive Reply where
  | done
  /-- The number of the record of an added chip, if it was added. -/
  | added (number : Option Nat)
  /-- The value of a property that was read, if there is one. -/
  | answered (value : Option Value)
deriving Repr

variable [UeventSource η]

/-- Takes a turn and gives what it gives back. -/
def reply : Turn η → Act (Broker (Connection Value) η) Reply
  | .add deviceId => .added <$> Broker.addChip deviceId
  | .read deviceId property => .answered <$> Broker.getProperty deviceId property
  | turn => (fun _ => .done) <$> turn.perform

/-- What a turn gives back does not change what it does. -/
theorem snd_run_reply (turn : Turn η) (h : Host (Broker (Connection Value) η)) :
    (turn.reply.run h).2 = (turn.perform.run h).2 := by
  have same {α β γ : Type} (f : α → β) (g : α → γ) (x : Act (Broker (Connection Value) η) α) :
      ((f <$> x).run h).2 = ((g <$> x).run h).2 := by rw [run_map, run_map]
  cases turn with
  | add deviceId => exact same _ _ _
  | read deviceId property => exact same _ _ _
  | _ => exact congrArg Prod.snd (run_map _ _ h)

theorem concurs_reply (indifferent : UeventSource.IsIndifferent η) {turn : Turn η}
    (readable : turn.IsReadable) :
    Concurs Broker.Agree turn.reply turn.reply := by
  have bus {x : Act (Connection Value) Unit} (hx : Concurs Eq x x) :
      Concurs Broker.Agree (Broker.withinBus (η := η) x) (Broker.withinBus x) :=
    Broker.concurs_withinBus hx
  cases turn with
  | add deviceId => exact (Broker.concurs_addChip deviceId).map
  | read deviceId property => exact (Broker.concurs_getProperty deviceId property).map
  | handle e => exact (Broker.concurs_handle indifferent e).map
  | remove deviceId => exact (Broker.concurs_removeChip deviceId).map
  | destroyAll => exact Broker.concurs_destroyAll.map
  | begin script => exact (bus (concurs_update_eq _)).map
  | resume attempt => exact (bus (Connection.concurs_resume attempt)).map
  | cancel attempt => exact (bus (Connection.concurs_cancel attempt)).map
  | release => exact (bus Connection.concurs_release).map
  | hear m => exact (bus (Connection.concurs_deliver m)).map
  | hangUp fault => exact (bus (concurs_update_eq _)).map
  | changeBus number f => exact (bus (concurs_update_eq _)).map
  | setDevices devices =>
    have sets : Concurs Broker.Agree
        (update fun b : Broker (Connection Value) η =>
          { b with bindings := { b.bindings with devices } })
        (update fun b => { b with bindings := { b.bindings with devices } }) :=
      concurs_update fun _ _ agree =>
        ⟨⟨by rw [agree.bindings.first], agree.bindings.second, readable⟩,
        agree.roster, agree.source, agree.ownership⟩
    exact sets.map
  | changeSource f =>
    have sets : Concurs Broker.Agree
        (update fun b : Broker (Connection Value) η => { b with source := f b.source })
        (update fun b => { b with source := f b.source }) :=
      concurs_update fun _ _ agree =>
        ⟨agree.bindings, agree.roster, congrArg f agree.source, agree.ownership⟩
    exact sets.map

/-- Hosts that agree stay so, turn by turn. -/
theorem concur_after (indifferent : UeventSource.IsIndifferent η) (turns : List (Turn η))
    (readable : ∀ turn ∈ turns, turn.IsReadable) {h h' : Host (Broker (Connection Value) η)}
    (concur : Concur Broker.Agree h h') : Concur Broker.Agree (after turns h) (after turns h') := by
  induction turns generalizing h h' with
  | nil => exact concur
  | cons turn turns ih =>
    have replies := concurs_reply indifferent (readable turn List.mem_cons_self) h h' concur
    have next : Concur Broker.Agree (turn.reply.run h).2 (turn.reply.run h').2 :=
      replies.left (fun _ _ _ _ next => next.2) fun _ _ failed => failed
    rw [snd_run_reply, snd_run_reply] at next
    exact ih (fun t there => readable t (List.mem_cons_of_mem _ there)) next

end Turn

/-- A call to an open chip. -/
def Call.isOfChip : Call → Bool
  | .chip .. => true
  | _ => false

/-- All calls but those to chips. -/
def traffic (calls : List Call) : List Call := calls.filter fun c => !c.isOfChip

theorem traffic_itemize (calls : List Call) : traffic (itemize calls) = traffic calls := by
  induction calls with
  | nil => rfl
  | cons c calls ih =>
    have first : traffic c.itemized = traffic [c] := by
      cases c with
      | chip serial path call => cases call <;> rfl
      | _ => rfl
    calc traffic (itemize (c :: calls))
      _ = traffic c.itemized ++ traffic (itemize calls) := List.filter_append _ _
      _ = traffic [c] ++ traffic calls := by rw [first, ih]
      _ = traffic (c :: calls) := (List.filter_append _ _).symm

namespace Turn

variable {η : Type} [UeventSource η]

/-- A host over the first generation of the bindings and one over the second, of which the same is
seen. -/
structure IsConcordant (h h' : Host (Broker (Connection Value) η)) : Prop where
  bindings : h.state.bindings = { h'.state.bindings with generation := .first }
  generation : h'.state.bindings.generation = .second
  /-- The entries, the records with their registrations, and the bus with its objects. -/
  roster : h.state.roster = h'.state.roster
  source : h.state.source = h'.state.source
  ownership : h.state.ownership = h'.state.ownership
  reads : ∀ deviceId property, ((Broker.getProperty deviceId property).run h).1 =
    ((Broker.getProperty deviceId property).run h').1
  records : h.records = h'.records
  queue : h.queue = h'.queue
  deferred : h.deferred = h'.deferred
  traffic : traffic h.calls = GpioBroker.traffic h'.calls
  calls : h.calls = itemize h'.calls
  /-- Whatever turn comes next, it gives back the same or fails in the same way. -/
  replies : ∀ turn : Turn η, turn.IsReadable → (turn.reply.run h).1 = (turn.reply.run h').1

theorem IsConcordant.of_concur (indifferent : UeventSource.IsIndifferent η)
    {h h' : Host (Broker (Connection Value) η)} (concur : Concur Broker.Agree h h') :
    IsConcordant h h' where
  bindings := concur.state.bindings.first
  generation := concur.state.bindings.second
  roster := concur.state.roster
  source := concur.state.source
  ownership := concur.state.ownership
  reads deviceId property :=
    (Broker.concurs_getProperty deviceId property h h' concur).outcome fun _ _ _ _ next => next.1
  records := concur.records
  queue := concur.queue
  deferred := concur.deferred
  traffic := by rw [concur.calls, traffic_itemize]
  calls := concur.calls
  replies _ readable :=
    (concurs_reply indifferent readable h h' concur).outcome fun _ _ _ _ next => next.1

/-- A run over the first generation of the bindings and one over the second show the same after
every turn, as long as no reading of metadata fails. -/
theorem isConcordant (indifferent : UeventSource.IsIndifferent η) (b : Bindings)
    (c : Connection Value) (source : η) (devices : ∀ d ∈ b.devices, d.IsReadable)
    (turns : List (Turn η)) (readable : ∀ turn ∈ turns, turn.IsReadable) :
    IsConcordant (after turns (Broker.fresh { b with generation := .first } c source))
      (after turns (Broker.fresh { b with generation := .second } c source)) := by
  refine .of_concur indifferent (concur_after indifferent turns readable ?_)
  exact ⟨⟨⟨rfl, rfl, devices⟩, rfl, rfl, rfl⟩, rfl, rfl, rfl, rfl⟩

/-- A chip that fails to be closed, and one whose count of lines is no number. -/
def oddChips : Bindings where
  devices := [
    { path := "/dev/gpiochip0", numLines := .int 8,
      faults := { close := some (.raised .system "busy") } },
    { path := "/dev/gpiochip1", numLines := .text "many" }]

/-- Both chips are added, then the devices go, and the first chip is removed. -/
def oddTurns : List (Turn MonitorSource) := [
  .begin {}, .resume 0, .resume 0, .resume 0,
  .add (.text "gpiochip0"), .add (.text "gpiochip1"), .setDevices [], .remove (.text "gpiochip0")]

/-- Over the second generation the metadata of each chip are read at once. -/
theorem isConcordant_oddTurns :
    IsConcordant (after oddTurns (Broker.fresh { oddChips with generation := .first } {} {}))
        (after oddTurns (Broker.fresh { oddChips with generation := .second } {} {})) ∧
      (after oddTurns (Broker.fresh { oddChips with generation := .second } {} {})).calls.filter
        Call.isOfChip =
        [.chip 0 "/dev/gpiochip0" .getInfo, .chip 1 "/dev/gpiochip1" .getInfo,
          .chip 0 "/dev/gpiochip0" .close] := by
  refine ⟨isConcordant MonitorSource.isIndifferent oddChips {} {} ?_ oddTurns ?_, by decide +kernel⟩
  · intro d there
    rcases List.mem_pair.1 there with rfl | rfl <;> exact ⟨rfl, rfl, rfl, rfl⟩
  · simp [oddTurns, IsReadable]

end Turn

end GpioBroker
