import GpioBroker.Proofs.Comparison
import GpioBroker.Proofs.Opening
import GpioBroker.Proofs.Objects

/-!
# What a chip sees of its surroundings

Of the bindings a chip sees the device at its path, and of the buses what they do at the path of its
object.  Opening, registering and closing a chip end in the same way wherever the chip sees the
same, and leave what it sees the same again, whatever else there is.  The calls are told apart by
the paths of the devices that they are made to.
-/

namespace GpioBroker

open Act

/-! ### Calls by device -/

/-- What a call asks of the device at a path: to be opened, or one thing of the open chip. -/
def Call.at? (path : Text) : Call → Option (Option ChipCall)
  | .openChip p => if p = path then some none else none
  | .chip _ p c => if p = path then some (some c) else none
  | _ => none

/-- What was asked of the device at a path, in order. -/
def callsAt (path : Text) (calls : List Call) : List (Option ChipCall) :=
  calls.filterMap (Call.at? path)

/-- The same was asked of every device but the one at a path. -/
def SameCalls (path : Text) (calls calls' : List Call) : Prop :=
  ∀ p ≠ path, callsAt p calls = callsAt p calls'

theorem SameCalls.append {path : Text} {calls calls' : List Call} {c c' : Call}
    (same : SameCalls path calls calls') (alike : ∀ p, c.at? p = c'.at? p) :
    SameCalls path (calls ++ [c]) (calls' ++ [c']) := by
  intro p other
  have before : calls.filterMap (Call.at? p) = calls'.filterMap (Call.at? p) := same p other
  simp only [callsAt, List.filterMap_append, before, List.filterMap_cons, alike p]

/-- Two hosts on which the same was asked of all devices but one, with states that are related by
`D`. -/
structure Act.InStep {σ : Type} (path : Text) (D : σ → σ → Prop) (h h' : Host σ) : Prop where
  calls : SameCalls path h.calls h'.calls
  state : D h.state h'.state

namespace Act.InStep

variable {σ : Type} {path : Text} {D : σ → σ → Prop} {h h' : Host σ}

theorem note (inStep : InStep path D h h') (c c' : Call) (alike : ∀ p, c.at? p = c'.at? p) :
    InStep path D { h with calls := h.calls ++ [c] } { h' with calls := h'.calls ++ [c'] } :=
  ⟨inStep.calls.append alike, inStep.state⟩

end Act.InStep

/-! ### Open chips -/

section Chips

variable {σ : Type} {path : Text} {D : σ → σ → Prop} {h h' : Host σ} {chip chip' : OpenChip}

namespace OpenChip

/-- Two chips of one device answer a call in the same way. -/
theorem abreast_call (device : chip.device = chip'.device) (c : ChipCall)
    (inStep : InStep path D h h') :
    Abreast (chip.call c) (chip'.call c) h h' (fun _ _ => InStep path D) (InStep path D) := by
  unfold call
  rw [← device]
  refine abreast_note_bind ?_
  have noted :=
    inStep.note (.chip chip.serial chip.device.path c) (.chip chip'.serial chip.device.path c)
    fun _ => rfl
  exact abreast_failing _ (fun _ => noted) fun _ _ => noted

theorem abreast_readInfo (device : chip.device = chip'.device) (g : Generation)
    (inStep : InStep path D h h') :
    Abreast (chip.readInfo g) (chip'.readInfo g) h h'
      (fun info info' k k' => info = info' ∧ InStep path D k k')
      (InStep path D) := by
  have last (k k' : Host σ) (inStep : InStep path D k k') :
      Abreast (Act.ofExcept chip.device.info?) (Act.ofExcept chip'.device.info?) k k'
        (fun info info' k k' => info = info' ∧ InStep path D k k') (InStep path D) := by
    rw [device]
    exact abreast_ofExcept _ (fun _ _ => ⟨rfl, inStep⟩) fun _ _ => inStep
  have next (c : ChipCall) {x x' : Act σ ChipInfo}
      (rest : ∀ k k', InStep path D k k' → Abreast x x' k k'
        (fun info info' k k' => info = info' ∧ InStep path D k k') (InStep path D))
      (k k' : Host σ) (inStep : InStep path D k k') :
      Abreast (chip.call c >>= fun _ => x) (chip'.call c >>= fun _ => x') k k'
        (fun info info' k k' => info = info' ∧ InStep path D k k') (InStep path D) :=
    (abreast_call device c inStep).bind (fun _ _ _ _ inStep => rest _ _ inStep)
      fun _ _ inStep => inStep
  cases g with
  | first => exact next .name (next .label (next .numLines last)) h h' inStep
  | second => exact next .getInfo last h h' inStep

end OpenChip

/-- The device that a handle has open. -/
def Handle.device? (x : Handle) : Option Device := x.chip.map OpenChip.device

/-- Two handles on one device are closed in the same way. -/
theorem Handle.abreast_closeChip {x x' : Handle} (device : x.device? = x'.device?)
    (inStep : InStep path D h h') :
    Abreast x.closeChip x'.closeChip h h' (fun _ _ => InStep path D) (InStep path D) := by
  unfold device? at device
  unfold closeChip
  cases open_ : x.chip with
  | none =>
    rw [open_, Option.map_none, eq_comm, Option.map_eq_none_iff] at device
    rw [device]
    exact abreast_pure inStep
  | some chip =>
    rw [open_, Option.map_some, eq_comm, Option.map_eq_some_iff] at device
    obtain ⟨chip', open', device⟩ := device
    rw [open']
    refine (OpenChip.abreast_call device.symm .close inStep).recover (fun _ _ _ _ inStep => inStep)
      (fun _ _ inStep => inStep) fun f k k' inStep _ => ?_
    exact abreast_log ⟨inStep.calls, inStep.state⟩

end Chips

/-! ### Bindings -/

namespace Bindings

/-- What is seen of the bindings by a device name: the generation, and the path with the device
there. -/
def outlook (b : Bindings) (deviceId : Value) : Generation × Except Fault (Text × Option Device) :=
  (b.generation, (b.pathOf deviceId).map fun path => (path, b.find? path))

/-- A device name sees the same of two sets of bindings. -/
def AlikeAt (deviceId : Value) (b b' : Bindings) : Prop := b.outlook deviceId = b'.outlook deviceId

variable {path : Text} {deviceId : Value} {b b' : Bindings} {h h' : Host Bindings}

theorem AlikeAt.pathOf (alike : AlikeAt deviceId b b') :
    b.pathOf deviceId = b'.pathOf deviceId := by
  have same := congrArg (fun o => o.2.map Prod.fst) alike
  simp only [outlook] at same
  generalize b.pathOf deviceId = r at same ⊢
  generalize b'.pathOf deviceId = r' at same ⊢
  cases r <;> cases r' <;> simp_all [Except.map]

theorem AlikeAt.find? (alike : AlikeAt deviceId b b') {p : Text}
    (named : b.pathOf deviceId = .ok p) :
    b.find? p = b'.find? p := by
  have same := congrArg Prod.snd alike
  simpa [outlook, named, alike.pathOf.symm.trans named, Except.map] using same

theorem AlikeAt.generation (alike : AlikeAt deviceId b b') : b.generation = b'.generation :=
  congrArg Prod.fst alike

theorem abreast_openPath {p : Text} (named : h.state.pathOf deviceId = .ok p)
    (inStep : InStep path (AlikeAt deviceId) h h') :
    Abreast (openPath p) (openPath p) h h'
      (fun chip chip' k k' => chip.device = chip'.device ∧ InStep path (AlikeAt deviceId) k k')
      (InStep path (AlikeAt deviceId)) := by
  unfold openPath
  have noted := inStep.note (.openChip p) (.openChip p) fun _ => rfl
  refine abreast_note_bind (abreast_state_bind ?_)
  dsimp only
  rw [← inStep.state.find? named]
  cases h.state.find? p with
  | none => exact abreast_fail _ noted
  | some device =>
    refine abreast_failing_bind _ (fun _ => ?_) fun _ _ => noted
    exact abreast_update_bind (abreast_pure ⟨rfl, noted.calls, noted.state⟩)

theorem abreast_readOpened {chip chip' : OpenChip} (device : chip.device = chip'.device)
    (inStep : InStep path (AlikeAt deviceId) h h') :
    Abreast (readOpened chip) (readOpened chip') h h'
      (fun info info' k k' => info = info' ∧ InStep path (AlikeAt deviceId) k k')
      (InStep path (AlikeAt deviceId)) := by
  unfold readOpened
  refine abreast_state_bind ?_
  rw [← inStep.state.generation]
  exact (OpenChip.abreast_readInfo device _ inStep).undo (fun _ _ _ _ read => read)
    (fun _ _ inStep => inStep)
    fun _ _ inStep => OpenChip.abreast_call device .close inStep

/-- A device is opened in the same way wherever its name sees the same. -/
theorem abreast_openDevice (inStep : InStep path (AlikeAt deviceId) h h') :
    Abreast (openDevice deviceId) (openDevice deviceId) h h'
      (fun handle handle' k k' =>
        handle.device? = handle'.device? ∧ InStep path (AlikeAt deviceId) k k')
      (InStep path (AlikeAt deviceId)) := by
  unfold openDevice
  refine abreast_state_bind ?_
  rw [← inStep.state.pathOf]
  refine abreast_ofExcept_bind _ (fun p named => ?_) fun _ _ => inStep
  refine (abreast_openPath named inStep).bind ?_ fun _ _ inStep => inStep
  rintro chip chip' k k' ⟨device, inStep⟩
  refine (abreast_readOpened device inStep).bind ?_ fun _ _ inStep => inStep
  rintro info _ k k' ⟨rfl, inStep⟩
  exact abreast_log_bind (abreast_pure ⟨congrArg some device, inStep.calls, inStep.state⟩)

end Bindings

/-! ### Buses -/

/-- What is seen of a bus at the path of an object. -/
structure BusOutlook where
  isUp : Bool
  exportFault : Option Fault
  unexportFault : Option Fault
  isTaken : Bool

namespace MessageBus

variable {ρ : Type} {path q : Text} {h h' : Host (MessageBus ρ)}

def outlook (q : Text) (b : MessageBus ρ) : BusOutlook where
  isUp := b.isConnected
  exportFault := b.script.exportFault? (.text q)
  unexportFault := b.script.unexportFaults.lookup q
  isTaken := (b.find? q).isSome

/-- The same is seen of two buses at the path of an object. -/
def AlikeAt (q : Text) (b b' : MessageBus ρ) : Prop := b.outlook q = b'.outlook q

theorem alike_iff {b b' : MessageBus ρ} : AlikeAt q b b' ↔ b.isConnected = b'.isConnected ∧
    b.script.exportFault? (.text q) = b'.script.exportFault? (.text q) ∧
      b.script.unexportFaults.lookup q = b'.script.unexportFaults.lookup q ∧
        (b.find? q).isSome = (b'.find? q).isSome := by
  simp [AlikeAt, outlook]

/-- An object takes its path. -/
theorem isTaken_export (b : MessageBus ρ) (object : ChipObject ρ) :
    (find? { b with exported := b.exported ++ [(q, object)] } q).isSome = true := by
  unfold find?
  rw [List.lookup_append]
  cases b.exported.lookup q <;> simp

theorem abreast_exportObject (object object' : ChipObject ρ)
    (inStep : InStep path (AlikeAt q) h h') :
    Abreast (exportObject q object) (exportObject q object') h h'
      (fun _ _ => InStep path (AlikeAt q))
      (InStep path (AlikeAt q)) := by
  obtain ⟨up, exportFault, unexportFault, taken⟩ := alike_iff.1 inStep.state
  have noted := inStep.note (.exportObject q) (.exportObject q) fun _ => rfl
  unfold exportObject
  refine abreast_note_bind (abreast_state_bind ?_)
  dsimp only
  rw [← exportFault]
  refine abreast_failing_bind _ (fun _ => ?_) fun _ _ => noted
  refine abreast_ofExcept_bind _ (fun _ _ => ?_) fun _ _ => noted
  rw [← taken]
  refine abreast_ite (fun _ => abreast_fail_bind _ noted) fun _ => ?_
  refine abreast_update ⟨noted.calls, alike_iff.2 ⟨up, exportFault, unexportFault, ?_⟩⟩
  rw [isTaken_export, isTaken_export]

/-- The bus when an object was taken away from a path. -/
def without (b : MessageBus ρ) (path : Text) (object : ChipObject ρ) : MessageBus ρ :=
  { b with exported := b.exported.filter fun e => !(e.1 == path && e.2.serial == object.serial) }

/-- What a bus exports at a path. -/
def exportsAt (q : Text) (b : MessageBus ρ) : List (Text × ChipObject ρ) :=
  b.exported.filter fun e => e.1 == q

theorem find?_eq_exportsAt (b : MessageBus ρ) (q : Text) :
    b.find? q = (b.exportsAt q).head?.map Prod.snd := by
  unfold find? exportsAt
  induction b.exported with
  | nil => rfl
  | cons e exported ih =>
    by_cases here : e.1 = q
    · rw [List.filter_cons, if_pos (beq_iff_eq.2 here), ← here, List.lookup_cons_self]
      rfl
    · rw [List.filter_cons, if_neg (by simpa using here), List.lookup_cons,
        beq_false_of_ne (Ne.symm here)]
      exact ih

/-- Without an object, a path has what it had but for that object. -/
theorem exportsAt_without (b : MessageBus ρ) (q : Text) (object : ChipObject ρ) :
    (b.without q object).exportsAt q = (b.exportsAt q).filter fun e =>
      e.2.serial != object.serial := by
  unfold without exportsAt
  rw [List.filter_filter, List.filter_filter]
  refine List.filter_congr fun e _ => ?_
  rw [Bool.and_comm (e.2.serial != object.serial)]
  by_cases here : e.1 == q <;> simp [here, bne]

/-- A path is free when the only object at it is taken away. -/
theorem find?_without {b : MessageBus ρ} {object : ChipObject ρ}
    (single : ∀ e ∈ b.exported, e.1 = q → e.2.serial = object.serial) :
    (b.without q object).find? q = none := by
  unfold find?
  rw [List.lookup_eq_none_iff]
  intro e there
  obtain ⟨exported, kept⟩ := List.mem_filter.1 there
  rw [bne_iff_ne]
  rintro rfl
  simp [single e exported rfl] at kept

/-- An object is taken away in the same way wherever that leaves the path free on both buses, or
taken. -/
theorem abreast_unexportObject {object object' : ChipObject ρ}
    (inStep : InStep path (AlikeAt q) h h')
    (left : ((h.state.without q object).find? q).isSome =
      ((h'.state.without q object').find? q).isSome) :
    Abreast (unexportObject q object) (unexportObject q object') h h'
      (fun _ _ => InStep path (AlikeAt q))
      (InStep path (AlikeAt q)) := by
  obtain ⟨up, exportFault, unexportFault, taken⟩ := alike_iff.1 inStep.state
  have noted := inStep.note (.unexportObject q) (.unexportObject q) fun _ => rfl
  unfold unexportObject
  refine abreast_note_bind (abreast_state_bind ?_)
  dsimp only
  rw [← unexportFault]
  refine abreast_failing_bind _ (fun _ => ?_) fun _ _ => noted
  exact abreast_update ⟨noted.calls, alike_iff.2 ⟨up, exportFault, unexportFault, left⟩⟩

end MessageBus

/-! ### The connection -/

namespace Connection

variable {ρ : Type} {path q : Text} {c c' : Connection ρ} {h h' : Host (Connection ρ)}

/-- What is seen of a connection at the path of an object: the link, and the buses. -/
def outlook (q : Text) (c : Connection ρ) : Option Nat × List BusOutlook :=
  (c.link, c.buses.map (MessageBus.outlook q))

/-- The same is seen of two connections at the path of an object. -/
def AlikeAt (q : Text) (c c' : Connection ρ) : Prop := c.outlook q = c'.outlook q

theorem outlook_bus? (c : Connection ρ) (number : Nat) :
    (c.bus? number).map (MessageBus.outlook q) = (c.outlook q).2[number]? := by
  simp [outlook, bus?]

theorem AlikeAt.bus? (alike : AlikeAt q c c') (number : Nat) :
    (c.bus? number).map (MessageBus.outlook q) = (c'.bus? number).map (MessageBus.outlook q) := by
  rw [outlook_bus?, outlook_bus?, show c.outlook q = c'.outlook q from alike]

/-- The path is taken on the same buses. -/
theorem AlikeAt.isSome_find? (alike : AlikeAt q c c') (number : Nat) :
    (c.bus? number).map (fun bus => (bus.find? q).isSome) =
      (c'.bus? number).map fun bus => (bus.find? q).isSome := by
  have taken := congrArg (Option.map BusOutlook.isTaken) (alike.bus? number)
  rw [Option.map_map, Option.map_map] at taken
  exact taken

theorem AlikeAt.getD_bus? (alike : AlikeAt q c c') (number : Nat) :
    MessageBus.AlikeAt q ((c.bus? number).getD {}) ((c'.bus? number).getD {}) := by
  have same := alike.bus? number
  cases there : c.bus? number <;> cases there' : c'.bus? number <;> simp_all [MessageBus.AlikeAt]

theorem AlikeAt.live? (alike : AlikeAt q c c') : c.live? = c'.live? := by
  have link : c.link = c'.link := congrArg Prod.fst alike
  have up (number : Nat) :
      (c.bus? number).any MessageBus.isConnected = (c'.bus? number).any MessageBus.isConnected := by
    have same := congrArg (Option.any BusOutlook.isUp) (alike.bus? number)
    simpa [Option.any_map, Function.comp_def, MessageBus.outlook] using same
  unfold Connection.live?
  rw [link]
  simp only [up]

theorem abreast_withinBus {α : Type} {number : Nat} {x x' : Act (MessageBus ρ) α}
    (inStep : InStep path (AlikeAt q) h h')
    (acts : Abreast x x' (h.withState ((h.state.bus? number).getD {}))
      (h'.withState ((h'.state.bus? number).getD {}))
      (fun _ _ => InStep path (MessageBus.AlikeAt q)) (InStep path (MessageBus.AlikeAt q))) :
    Abreast (withinBus number x) (withinBus number x') h h' (fun _ _ => InStep path (AlikeAt q))
      (InStep path (AlikeAt q)) := by
  have back (k k' : Host (MessageBus ρ)) (inStep' : InStep path (MessageBus.AlikeAt q) k k') :
      InStep path (AlikeAt q)
        (k.withState { h.state with buses := h.state.buses.set number k.state })
        (k'.withState { h'.state with buses := h'.state.buses.set number k'.state }) := by
    refine ⟨inStep'.calls, ?_⟩
    have link : h.state.link = h'.state.link := congrArg Prod.fst inStep.state
    have buses : h.state.buses.map (MessageBus.outlook q) =
        h'.state.buses.map (MessageBus.outlook q) :=
      congrArg Prod.snd inStep.state
    have made : k.state.outlook q = k'.state.outlook q := inStep'.state
    simp only [AlikeAt, outlook, Host.withState, List.map_set, link, buses, made]
  exact Abreast.within (acts.mono (fun _ _ => back) back)

/-- An object is registered in the same way wherever the same is seen at its path, which is free. -/
theorem abreast_register {reader reader' : ρ} (inStep : InStep path (AlikeAt q) h h')
    (free : ∀ o ∈ h.state.objects, o.path ≠ q) (free' : ∀ o ∈ h'.state.objects, o.path ≠ q) :
    Abreast (register q reader) (register q reader') h h' (fun _ _ => InStep path (AlikeAt q))
      (InStep path (AlikeAt q)) := by
  have free : h.state.objects.any (fun o => o.path == q) = false := by simpa using free
  have free' : h'.state.objects.any (fun o => o.path == q) = false := by simpa using free'
  unfold register
  refine abreast_state_bind ?_
  rw [← inStep.state.live?]
  cases live : h.state.live? with
  | none => exact abreast_fail _ inStep
  | some number =>
    simp only [free, free', Bool.false_eq_true, if_false]
    refine abreast_update_bind ?_
    have inStep₁ : InStep path (AlikeAt q)
        { h with state := { h.state with nextSerial := h.state.nextSerial + 1 } }
        { h' with state := { h'.state with nextSerial := h'.state.nextSerial + 1 } } :=
      ⟨inStep.calls, inStep.state⟩
    refine (abreast_withinBus inStep₁ (MessageBus.abreast_exportObject _ _
      ⟨inStep₁.calls, inStep₁.state.getD_bus? number⟩)).explain.bind (fun _ _ k k' inStep => ?_)
        fun _ _ inStep => inStep
    exact abreast_update_bind (abreast_pure ⟨inStep.calls, inStep.state⟩)

/-- Every object that the bus in use exports at the path of a registered object is that object. -/
def IsFaithful (c : Connection ρ) : Prop :=
  ∀ number b, c.IsLive number b → ∀ o ∈ c.objects, ∀ e ∈ b.exported, e.1 = o.path →
    e.2.serial = o.object.serial

/-- Taking two objects off the buses in use leaves their path free on both buses, or taken on
both. -/
def LeaveAlike (q : Text) (c c' : Connection ρ) (object object' : ChipObject ρ) : Prop :=
  ∀ number b b', c.IsLive number b → c'.IsLive number b' →
    ((b.without q object).find? q).isSome = ((b'.without q object').find? q).isSome

/-- What the buses export at a path. -/
def exportsAt (q : Text) (c : Connection ρ) : List (List (Text × ChipObject ρ)) :=
  c.buses.map (MessageBus.exportsAt q)

/-- One object is taken away from buses that export the same at its path. -/
theorem leaveAlike_of_exportsAt (same : c.exportsAt q = c'.exportsAt q) (object : ChipObject ρ) :
    LeaveAlike q c c' object object := by
  intro number b b' live live'
  have at_ := congrArg (·[number]?) same
  simp only [exportsAt, List.getElem?_map, show c.buses[number]? = some b from live.bus,
    show c'.buses[number]? = some b' from live'.bus] at at_
  rw [MessageBus.find?_eq_exportsAt, MessageBus.find?_eq_exportsAt, MessageBus.exportsAt_without,
    MessageBus.exportsAt_without, Option.some.inj at_]

/-- On faithful connections the path of a registered object is free without it. -/
theorem IsFaithful.leaveAlike {o o' : RegisteredObject ρ} (faithful : c.IsFaithful)
    (faithful' : c'.IsFaithful) (there : o ∈ c.objects) (at_ : o.path = q)
    (there' : o' ∈ c'.objects) (at_' : o'.path = q) :
    LeaveAlike q c c' o.object o'.object := by
  subst at_
  intro number b b' live live'
  rw [MessageBus.find?_without (faithful number b live o there),
    MessageBus.find?_without (at_' ▸ faithful' number b' live' o' there')]

/-- A registered object is unregistered in the same way wherever the same is seen at its path. -/
theorem abreast_unregister {registration registration' : Int} {o o' : RegisteredObject ρ}
    (inStep : InStep path (AlikeAt q) h h') (found : h.state.find? registration = some o)
    (at_ : o.path = q) (found' : h'.state.find? registration' = some o') (at_' : o'.path = q)
    (leave : LeaveAlike q h.state h'.state o.object o'.object) :
    Abreast (unregister (.int registration)) (unregister (.int registration')) h h'
      (fun _ _ => InStep path (AlikeAt q)) (InStep path (AlikeAt q)) := by
  have keyed (n : Int) : (Value.int n).toKey = .ok (.whole n) := rfl
  have lookedUp : (Value.int registration).wholeNumber?.bind h.state.find? = some o := found
  have lookedUp' : (Value.int registration').wholeNumber?.bind h'.state.find? = some o' := found'
  unfold unregister
  simp only [keyed]
  refine (abreast_ofExcept (.ok _) (fun _ _ => ⟨rfl, rfl⟩) nofun).discard.bind
    (W := fun _ _ k k' => k = h ∧ k' = h')
    (F := InStep path (AlikeAt q)) ?_ fun _ _ inStep => inStep
  rintro _ _ k k' ⟨rfl, rfl⟩
  refine abreast_state_bind ?_
  simp only [lookedUp, lookedUp']
  refine abreast_update_bind ?_
  rw [← inStep.state.live?]
  cases live : k.state.live? with
  | none => exact abreast_pure ⟨inStep.calls, inStep.state⟩
  | some number =>
    obtain ⟨b, isLive⟩ := live?_eq_some_iff.1 live
    obtain ⟨b', isLive'⟩ := live?_eq_some_iff.1 (inStep.state.live?.symm.trans live)
    rw [at_, at_']
    refine abreast_withinBus ⟨inStep.calls, inStep.state⟩ (MessageBus.abreast_unexportObject
      ⟨inStep.calls, inStep.state.getD_bus? number⟩ ?_)
    change ((((k.state.bus? number).getD {}).without q o.object).find? q).isSome =
      ((((k'.state.bus? number).getD {}).without q o'.object).find? q).isSome
    rw [isLive.bus, isLive'.bus]
    exact leave number b b' isLive isLive'

end Connection

end GpioBroker
