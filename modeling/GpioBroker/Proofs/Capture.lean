import GpioBroker.Proofs.Objects
import GpioBroker.Proofs.Passage

/-!
# What is captured

The metadata of a chip are captured as its device is opened, and stay with the handle of its record
until the record is emptied.  An object is bound to the name of a device and not to a record: it is
made at the path of the device whose properties it reads.  Whatever the broker does, the handles it
holds are those it held and those it captured meanwhile, and the objects on its buses are still at
the paths of what they read.
-/

namespace GpioBroker

open Act

namespace Bindings

/-- The metadata of a handle are those of the device that there is at the path of its name. -/
def Captures (b : Bindings) (handle : Handle) : Prop :=
  ∃ t path device, handle.deviceId = .text t ∧ b.pathOf (.text t) = .ok path ∧
    b.find? path = some device ∧
    device.info? = .ok handle.info

theorem captures_congr {b b' : Bindings} {handle : Handle} (devices : b'.devices = b.devices)
    (directory : b'.directory = b.directory) : b'.Captures handle ↔ b.Captures handle := by
  unfold Captures pathOf find?
  rw [devices, directory]

theorem ends_openPath_find? {h : Host Bindings} (path : Text) : (openPath path).Ends h fun r h' =>
    h'.state.devices = h.state.devices ∧ h'.state.directory = h.state.directory ∧
      ∀ chip, r = .ok chip → h.state.find? path = some chip.device := by
  unfold openPath
  simp only [ends_bind, ends_note, ends_state]
  cases found : h.state.find? path with
  | none => exact ⟨rfl, rfl, fun chip opened => by cases opened⟩
  | some device =>
    simp only [ends_bind]
    refine ends_failing _ (fun _ => ⟨rfl, rfl, fun chip opened => ?_⟩) fun f _ =>
      ⟨rfl, rfl, fun chip opened => by cases opened⟩
    cases opened
    rfl

end Bindings

/-- What is read from an open chip are the metadata of its device. -/
theorem OpenChip.ends_readInfo_info {σ : Type} {h : Host σ} (chip : OpenChip) (g : Generation) :
    (chip.readInfo g).Ends h fun r _ => ∀ info, r = .ok info → chip.device.info? = .ok info := by
  -- Whichever calls come first, the metadata are read last.
  have last (h : Host σ) : (Act.ofExcept chip.device.info? : Act σ ChipInfo).Ends h fun r _ =>
      ∀ info, r = .ok info → chip.device.info? = .ok info := by
    refine ends_ofExcept _ (fun info read => ?_) fun f _ info ends => by cases ends
    rintro _ ⟨⟩
    exact read
  have next {x : Act σ ChipInfo} (c : ChipCall) (rest : ∀ h : Host σ, x.Ends h fun r _ =>
      ∀ info, r = .ok info → chip.device.info? = .ok info) (h : Host σ) :
      (chip.call c >>= fun _ => x).Ends h fun r _ =>
        ∀ info, r = .ok info → chip.device.info? = .ok info :=
    Ends.bind (R := fun _ _ => True) trivial (fun _ h₁ _ => rest h₁)
      fun e _ _ info ends => by cases ends
  cases g with
  | first => exact next .name (next .label (next .numLines last)) h
  | second => exact next .getInfo last h

namespace Bindings

theorem ends_readOpened_info {h : Host Bindings} (chip : OpenChip) :
    (readOpened chip).Ends h fun r h' =>
    h'.state = h.state ∧ ∀ info, r = .ok info → chip.device.info? = .ok info := by
  have state : (readOpened chip).Ends h fun _ h' => h'.state = h.state :=
    (ends_readOpened chip).mono fun _ _ ends => ends.1
  refine state.and ?_
  unfold readOpened
  simp only [ends_bind, ends_state]
  refine (chip.ends_readInfo_info h.state.generation).undo (fun info h' read => read) ?_ ?_
  · exact fun e _ _ _ info ends => by cases ends
  · refine fun e h' _ _ => Ends.mono (R := fun _ _ => True) trivial fun c _ _ info ends => ?_
    cases c <;> cases ends

theorem ends_openDevice_captures {h : Host Bindings} (deviceId : Value) :
    (openDevice deviceId).Ends h fun r h' =>
      h'.state.devices = h.state.devices ∧ h'.state.directory = h.state.directory ∧
        ∀ handle, r = .ok handle → handle.deviceId = deviceId ∧ h.state.Captures handle := by
  unfold openDevice
  simp only [ends_bind, ends_state]
  refine ends_ofExcept _ (fun path named => ?_) fun f _ =>
    ⟨rfl, rfl, fun handle ends => by cases ends⟩
  obtain ⟨t, rfl⟩ := exists_text_of_pathOf named
  refine (ends_openPath_find? path).mono ?_
  rintro (e | chip) h₁ ⟨devices, directory, found⟩
  · exact ⟨devices, directory, fun handle ends => by cases ends⟩
  refine (ends_readOpened_info chip).mono ?_
  rintro (e | info) h₂ ⟨state, read⟩
  · exact ⟨by rw [state, devices], by rw [state, directory], fun handle ends => by cases ends⟩
  simp only [ends_log, ends_pure]
  refine ⟨by rw [state, devices], by rw [state, directory], fun handle ends => ?_⟩
  cases ends
  exact ⟨rfl, t, path, chip.device, rfl, named, found chip rfl, read info rfl⟩

end Bindings

/-! ### Records -/

/-- Records that hold only handles that older ones held, or that were captured meanwhile. -/
structure Recorded (b : Bindings) (old new : List Record) : Prop where
  more : old.length ≤ new.length
  kept : ∀ n < old.length, ∀ record handle, new[n]? = some record → record.handle = some handle →
    ∃ record₀, old[n]? = some record₀ ∧ record₀.handle = some handle
  captured : ∀ n, old.length ≤ n → ∀ record handle, new[n]? = some record →
    record.handle = some handle →
    b.Captures handle

namespace Recorded

variable {b : Bindings} {old new : List Record}

theorem refl (b : Bindings) (old : List Record) : Recorded b old old where
  more := Nat.le_refl _
  kept _ _ record _ there held := ⟨record, there, held⟩
  captured n late _ _ there _ := by
    rw [List.getElem?_eq_none late] at there
    cases there

theorem append (recorded : Recorded b old new) {record : Record}
    (captured : ∀ handle, record.handle = some handle → b.Captures handle) :
    Recorded b old (new ++ [record]) where
  more := by
    have := recorded.more
    rw [List.length_append]
    omega
  kept n early record' handle there held := by
    have inside : n < new.length := by
      have := recorded.more
      omega
    rw [List.getElem?_append_left inside] at there
    exact recorded.kept n early record' handle there held
  captured n late record' handle there held := by
    obtain before | behind := Nat.lt_or_ge n new.length
    · rw [List.getElem?_append_left before] at there
      exact recorded.captured n late record' handle there held
    · rw [List.getElem?_append_right behind] at there
      obtain rfl := List.mem_singleton.1 (List.mem_of_getElem? there)
      exact captured handle held

/-- A record is replaced by one that is empty, or by one whose handle was captured meanwhile. -/
theorem set (recorded : Recorded b old new) {number : Nat} {record : Record}
    (captured : ∀ handle, record.handle = some handle → old.length ≤ number ∧ b.Captures handle) :
    Recorded b old (new.set number record) where
  more := by
    rw [List.length_set]
    exact recorded.more
  kept n early record' handle there held := by
    by_cases here : number = n
    · subst here
      obtain ⟨inside, rfl⟩ := List.getElem?_eq_some_iff.1 there
      rw [List.getElem_set_self] at held
      have := (captured handle held).1
      omega
    · rw [List.getElem?_set_ne here] at there
      exact recorded.kept n early record' handle there held
  captured n late record' handle there held := by
    by_cases here : number = n
    · subst here
      obtain ⟨inside, rfl⟩ := List.getElem?_eq_some_iff.1 there
      rw [List.getElem_set_self] at held
      exact (captured handle held).2
    · rw [List.getElem?_set_ne here] at there
      exact recorded.captured n late record' handle there held

end Recorded

/-! ### Objects on the buses -/

namespace Connection

/-- Every exported object is at the path of the device whose properties it reads. -/
def Bears (c : Connection Value) : Prop :=
  ∀ number b, c.bus? number = some b → ∀ e ∈ b.exported, ∃ t, e.1 = objectPath t ∧
    e.2.reader = .text t

/-- What is exported is still at the paths of what it reads. -/
def StillBears (h : Host (Connection Value)) : Prop := h.state.Bears

variable {h : Host (Connection Value)}

theorem bears_update {f : Connection Value → Connection Value}
    (same : ∀ c, (f c).buses = c.buses := by intro c; rfl) : (update f).Keeps StillBears := by
  intro h bears number b bus
  exact bears number b (by rw [bus?, ← same]; exact bus)

theorem bears_changeBus (c : Connection Value) (number : Nat)
    {f : MessageBus Value → MessageBus Value} (fewer : ∀ b, ∀ e ∈ (f b).exported, e ∈ b.exported)
    (bears : c.Bears) : (c.changeBus number f).Bears := by
  intro i b' bus' e there
  rw [bus?, changeBus, List.getElem?_modify] at bus'
  obtain ⟨b, bus, rfl⟩ := Option.map_eq_some_iff.1 bus'
  refine bears i b bus e ?_
  split at there
  · exact fewer b e there
  · exact there

theorem bears_withinBus {α : Type} {number : Nat} {x : Act (MessageBus Value) α}
    (made : ∀ h : Host (MessageBus Value), x.Ends h fun _ h' => ∀ e ∈ h'.state.exported,
      e ∈ h.state.exported ∨ ∃ t, e.1 = objectPath t ∧ e.2.reader = .text t) :
    (withinBus number x).Keeps StillBears := by
  intro h bears
  refine Ends.within ((made _).mono fun r h' exports => ?_)
  intro i b' bus' e there
  obtain ⟨rfl, rfl⟩ | ⟨-, bus⟩ := bus?_of_set bus'
  · obtain ⟨b, bus⟩ := exists_bus?_of_set bus'
    rw [Host.withState, bus] at exports
    exact (exports e there).elim (bears number b bus e) id
  · exact bears i b' bus e there

theorem upholds_stillBears : Upholds StillBears where
  loose := isLoose_of_state Bears
  note _ _ _ bears := bears
  ended _ _ _ := bears_update

theorem bears_resume (attempt : Nat) : (resume attempt).Keeps StillBears := by
  refine upholds_stillBears.resume attempt (fun script => ?_) (fun bus script => ?_)
    fun script => ?_
  · refine upholds_stillBears.makeBus attempt script (fun made bare h bears => ?_)
      fun _ => bears_update
    intro number b bus e there
    obtain old | rfl := bus?_of_append bus
    · exact bears number b old e there
    · rw [bare] at there
      cases there
  · exact upholds_stillBears.afterConnect attempt bus script bears_update
      (fun h bears => bears_changeBus h.state bus (fun _ _ there => there) bears) bears_update
  · exact upholds_stillBears.afterRequest attempt script bears_update fun _ => bears_update

theorem bears_hangUp (fault : Option Fault) : (hangUp fault).Keeps StillBears := fun h bears =>
  bears_changeBus h.state _ (fun b e there => by rwa [b.exported_hungUp] at there) bears

theorem bears_release : release.Keeps StillBears := by
  refine keeps_release_of
    (keeps_beginRelease_of bears_update fun _ name => bears_withinBus fun h => ?_) <|
    keeps_finishRelease_of (keeps_log upholds_stillBears.loose) bears_update fun _ =>
      bears_withinBus fun h => ?_
  · exact MessageBus.ends_releaseName_of (fun _ _ there => .inl there) fun _ _ _ there => .inl there
  · unfold MessageBus.disconnect
    simp only [ends_bind, ends_note, ends_update, MessageBus.exported_hungUp]
    exact fun _ there => .inl there

/-- An object that is bound to a device is registered at the path of the device. -/
theorem bears_register (t : Text) : (register (objectPath t) (.text t)).Keeps StillBears := by
  have exports (number serial : Nat) :
      (withinBus number (MessageBus.exportObject (objectPath t) ⟨serial, .text t⟩)).Keeps
        StillBears := by
    refine bears_withinBus fun h => ?_
    by_cases takes : h.state.Takes (objectPath t)
    · refine (MessageBus.ends_exportObject_ok takes _).mono fun _ h' ⟨_, state⟩ e there => ?_
      rw [state] at there
      obtain old | new := List.mem_append.1 there
      · exact .inl old
      · obtain rfl := List.mem_singleton.1 new
        exact .inr ⟨t, rfl, rfl⟩
    · refine (MessageBus.ends_exportObject_error takes _).mono fun _ h' ⟨_, state⟩ e there => ?_
      rw [state] at there
      exact .inl there
  refine keeps_state.bind fun c => ?_
  cases c.live? with
  | none => exact keeps_fail _
  | some number =>
    refine Keeps.ite ((keeps_fail _).bind fun _ => ?_) ?_
    all_goals
      refine Keeps.bind bears_update fun _ => (exports _ _).explain.bind fun _ => ?_
      exact Keeps.bind bears_update fun _ => keeps_pure _

theorem bears_unregister (registration : Value) : (unregister registration).Keeps StillBears := by
  refine keeps_unregister_of (fun _ => bears_update)
    (fun _ _ _ => bears_withinBus fun h => ?_) registration
  refine MessageBus.ends_unexportObject_of (fun _ e there => ?_) fun _ _ _ there => .inl there
  exact .inl (List.mem_filter.1 there).1

end Connection

/-! ### Rosters -/

namespace Roster

/-- What may have become of a roster: its records hold what they held or what was captured
meanwhile, and the objects are still at the paths of what they read. -/
structure Follows (b : Bindings) (r₀ r : Roster (Connection Value)) : Prop where
  recorded : Recorded b r₀.records r.records
  bears : r₀.bus.Bears → r.bus.Bears

/-- The roster of a host follows an earlier one. -/
def Following (b : Bindings) (r₀ : Roster (Connection Value))
    (h : Host (Roster (Connection Value))) : Prop :=
  r₀.Follows b h.state

variable {b : Bindings} {r₀ : Roster (Connection Value)}

theorem following_withinBus {α : Type} {x : Act (Connection Value) α}
    (bears : x.Keeps Connection.StillBears) :
    (withinBus x).Keeps (Following b r₀) := by
  intro h follows
  refine Ends.within ?_
  exact ⟨follows.recorded, fun first => bears (h.withState h.state.bus) (follows.bears first)⟩

/-- A record is replaced by one whose handle, if it holds any, was captured meanwhile. -/
theorem following_setRecord {number : Nat} {record : Record}
    (captured : ∀ handle, record.handle = some handle → r₀.records.length ≤ number ∧
      b.Captures handle) :
    (update fun r => r.setRecord number record).Keeps (Following b r₀) := fun _ follows =>
  ⟨follows.recorded.set captured, follows.bears⟩

/-- As records are given up, nothing is captured, and no object is put on a bus. -/
theorem upholds_follows : Upholds (Follows b r₀) where
  empty _ _ _ follows := ⟨follows.recorded.set fun _ held => (by cases held), follows.bears⟩
  erase _ _ follows := ⟨follows.recorded, follows.bears⟩
  unregister id := following_withinBus (Connection.bears_unregister id)

theorem following_insert (number : Nat) : (insert number).Keeps (Following b r₀) := by
  refine keeps_state.bind fun r => ?_
  split
  · exact keeps_fail _
  · exact (keeps_ofExcept _).bind fun key => Keeps.ite (keeps_fail _) fun _ follows =>
      ⟨follows.recorded, follows.bears⟩

end Roster

/-! ### The broker -/

namespace Broker

variable {η : Type}

/-- What may have become of a broker while the devices stayed the same. -/
structure Follows (h₀ h : Host (Broker (Connection Value) η)) : Prop where
  devices : h.state.bindings.devices = h₀.state.bindings.devices
  directory : h.state.bindings.directory = h₀.state.bindings.directory
  roster : h₀.state.roster.Follows h₀.state.bindings h.state.roster

variable {h h₀ : Host (Broker (Connection Value) η)}

theorem Follows.refl (h : Host (Broker (Connection Value) η)) : Follows h h :=
  ⟨rfl, rfl, .refl _ _, id⟩

theorem isLoose_follows : IsLoose (Follows h₀) := fun h h' state _ follows =>
  ⟨by rw [state, follows.devices], by rw [state, follows.directory], by
    rw [state]; exact follows.roster⟩

theorem follows_withinRoster {α : Type} {x : Act (Roster (Connection Value)) α}
    (follows : x.Keeps (Roster.Following h₀.state.bindings h₀.state.roster)) :
    (withinRoster x).Keeps (Follows h₀) := fun h before =>
  Ends.within ((follows (h.withState h.state.roster) before.roster).mono fun _ _ after =>
    ⟨before.devices, before.directory, after⟩)

theorem follows_withinBus {α : Type} {x : Act (Connection Value) α}
    (bears : x.Keeps Connection.StillBears) :
    (withinBus x).Keeps (Follows h₀) :=
  follows_withinRoster (Roster.following_withinBus bears)

/-- The handle of a chip that is opened was captured. -/
theorem ends_openChip_captures (follows : Follows h₀ h) (deviceId : Value) :
    (openChip deviceId).Ends h fun r h' => Follows h₀ h' ∧ ∀ handle, r = .ok (some handle) →
      handle.deviceId = deviceId ∧ h₀.state.bindings.Captures handle := by
  have opening : (withinBindings (Bindings.openDevice deviceId)).Ends h fun r h' => Follows h₀ h' ∧
      ∀ handle, r = .ok handle → handle.deviceId = deviceId ∧
        h₀.state.bindings.Captures handle := by
    refine Ends.within ((Bindings.ends_openDevice_captures deviceId).mono ?_)
    rintro r h' ⟨devices, directory, captures⟩
    have devices : h'.state.devices = h₀.state.bindings.devices := devices.trans follows.devices
    have directory : h'.state.directory = h₀.state.bindings.directory :=
      directory.trans follows.directory
    refine ⟨⟨devices, directory, follows.roster⟩, fun handle ends => ?_⟩
    obtain ⟨named, captured⟩ := captures handle ends
    exact ⟨named, (Bindings.captures_congr follows.devices follows.directory).1 captured⟩
  refine opening.map.recover ?_ ?_ ?_
  · rintro _ h' ⟨_ | handle, made, after, captures⟩
    · cases made
    · cases made
      refine ⟨after, fun handle' ends => ?_⟩
      cases ends
      exact captures handle rfl
  · rintro e h' ⟨inner, -, after, -⟩ -
    exact ⟨after, fun handle ends => by cases ends⟩
  · rintro e h' ⟨inner, -, after, -⟩ -
    simp only [ends_bind, ends_log, ends_pure]
    exact ⟨isLoose_follows h' _ rfl rfl after, fun handle ends => by cases ends⟩

theorem follows_registerRecord {number : Nat} {record : Record} {t : Text}
    (named : record.deviceId = .text t) :
    (registerRecord number record).Keeps (Follows h₀) := by
  refine Keeps.recover (Keeps.map ?_) fun f => ?_
  · rw [named]
    exact follows_withinBus (Connection.bears_register t)
  · refine (follows_withinRoster (Roster.upholds_follows.destroy number)).bind fun _ => ?_
    exact (keeps_log isLoose_follows _ _).bind fun _ => keeps_pure _

/-- A chip is exposed with the handle that was captured for it. -/
theorem follows_expose {handle : Handle} {deviceId : Value} (named : handle.deviceId = deviceId)
    (captured : h₀.state.bindings.Captures handle) :
    (do
      let record : Record := { deviceId, handle := some handle }
      let number ← withinRoster (Roster.keep record)
      match ← registerRecord number record with
      | none => return none
      | some registration =>
        withinRoster do
          Act.update fun r =>
            r.setRecord number { record with registration := some (.int registration) }
          Roster.insert number
        return some number : Act (Broker (Connection Value) η) (Option Nat)).Keeps
          (Follows h₀) := by
  intro h follows
  obtain ⟨t, isText⟩ : ∃ t, deviceId = .text t := by
    obtain ⟨t, path, device, isText, -⟩ := captured
    exact ⟨t, named.symm.trans isText⟩
  have caught (handle' : Handle) (held : some handle = some handle') :
      h₀.state.bindings.Captures handle' := by
    cases held
    exact captured
  dsimp only
  rw [ends_bind, ends_keep]
  refine (follows_registerRecord isText).bind (fun registered => ?_) _
    ⟨follows.devices, follows.directory, follows.roster.recorded.append caught,
      follows.roster.bears⟩
  cases registered with
  | none => exact keeps_pure _
  | some registration =>
    refine (follows_withinRoster ?_).bind fun _ => keeps_pure _
    refine (Roster.following_setRecord fun _ held => ?_).bind fun _ => Roster.following_insert _
    cases held
    exact ⟨follows.roster.recorded.more, captured⟩

theorem follows_addChip (deviceId : Value) : (addChip deviceId).Keeps (Follows h₀) := by
  refine keeps_state.bind fun b => (keeps_ofExcept _).bind fun key => ?_
  refine Keeps.ite ((keeps_fail _).bind fun _ => ?_) ?_
  all_goals
    refine (keeps_log isLoose_follows _ _).bind fun _ h follows => ?_
    refine (ends_openChip_captures follows deviceId).bind ?_ fun e h' ends => ends.1
    rintro (_ | handle) h' ⟨after, captures⟩
    · exact after
    · obtain ⟨named, captured⟩ := captures handle rfl
      exact follows_expose named captured h' after

theorem follows_destroyAll : destroyAll.Keeps (Follows h₀) := by
  refine keeps_state.bind fun b => ?_
  have clears : (withinRoster Roster.clear).Keeps (Follows h₀) :=
    follows_withinRoster Roster.upholds_follows.clear
  exact Keeps.ite ((keeps_log isLoose_follows _ _).bind fun _ => clears) clears

variable [UeventSource η]

/-- Whatever the broker does, it follows from where it was. -/
theorem isKept_follows : IsKept (Follows h₀) where
  loose := isLoose_follows
  setOwnership _ _ follows := ⟨follows.devices, follows.directory, follows.roster⟩
  addChip := follows_addChip
  removeChip deviceId :=
    (keeps_log isLoose_follows _ _).bind fun _ =>
      follows_withinRoster (Roster.upholds_follows.remove deviceId)
  subscribe _ follows := Ends.within ⟨follows.devices, follows.directory, follows.roster⟩
  enumerate _ follows := Ends.within ⟨follows.devices, follows.directory, follows.roster⟩

end Broker

end GpioBroker
