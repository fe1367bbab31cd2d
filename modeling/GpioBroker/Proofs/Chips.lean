import GpioBroker.Device.Bindings
import GpioBroker.Proofs.Outcome

/-!
# Opening and closing chips

What the calls to chips do to the journal.  A chip that was opened is told from others by its serial
number, and `closes` counts how often it was closed.  Opening a device either opens no chip, or
opens one and gives its handle, or opens one and closes it again, or leaves it open without a
handle; the last happens only on devices that are not tame.
-/

namespace GpioBroker

open Act

/-- Whether a call closes the open chip with a serial number. -/
def Call.isClose (serial : Nat) : Call → Bool
  | .chip s _ .close => s == serial
  | _ => false

/-- How often the open chip with a serial number was closed. -/
def closes (calls : List Call) (serial : Nat) : Nat := calls.countP (Call.isClose serial)

theorem closes_append (calls more : List Call) (serial : Nat) :
    closes (calls ++ more) serial = closes calls serial + closes more serial :=
  List.countP_append

theorem closes_close (serial : Nat) (path : Text) (s : Nat) :
    closes [.chip serial path .close] s = if serial = s then 1 else 0 := by
  by_cases h : serial = s <;> simp [closes, Call.isClose, h]

/-- A call that is no call to a chip closes none. -/
theorem closes_append_other (calls : List Call) {c : Call} (h : ∀ s, c.isClose s = false)
    (serial : Nat) :
    closes (calls ++ [c]) serial = closes calls serial := by
  rw [closes_append]
  simp [closes, h]

/-- A device whose open chips fail only by failed system calls, and whose count of lines can be
read. -/
structure Device.IsTame (d : Device) : Prop where
  calls : ∀ c f, d.fault? c = some f → f.isSystem = true
  lines : ∃ n, d.numLines.toInteger = .ok n

/-- Whether a fault is one of a call to an open chip of the device, or of its metadata. -/
def Device.Fails (d : Device) (f : Fault) : Prop :=
  (∃ c, d.fault? c = some f) ∨ d.info? = .error f

theorem Device.IsTame.isSystem {d : Device} (tame : d.IsTame) {f : Fault} (h : d.Fails f) :
    f.isSystem = true := by
  rcases h with ⟨c, hc⟩ | h
  · exact tame.calls c f hc
  · obtain ⟨n, hn⟩ := tame.lines
    simp [Device.info?, hn, Except.map] at h

/-! ### Calls to an open chip -/

namespace OpenChip

variable {σ : Type} {h : Host σ}

/-- A call is noted, and then answered or failed as the device says. -/
theorem ends_call {chip : OpenChip} {c : ChipCall} {Q : Except Failure Unit → Host σ → Prop}
    (answered : chip.device.fault? c = none →
      Q (.ok ()) { h with calls := h.calls ++ [.chip chip.serial chip.device.path c] })
    (failed : ∀ f, chip.device.fault? c = some f →
      Q (.error { fault := f })
        { h with calls := h.calls ++ [.chip chip.serial chip.device.path c] }) :
    (chip.call c).Ends h Q := by
  unfold call
  simp only [ends_bind, ends_note]
  exact ends_failing _ answered failed

/-- What reading from an open chip does: it closes no chip, and a fault is one of the device. -/
structure HasRead (chip : OpenChip) (h h' : Host σ) {α : Type} (r : Except Failure α) : Prop where
  state : h'.state = h.state
  closes : ∀ s, closes h'.calls s = closes h.calls s
  fault : ∀ e, r = .error e → chip.device.Fails e.fault

theorem HasRead.bind {α β : Type} {chip : OpenChip} {x : Act σ α} {k : α → Act σ β}
    (hx : x.Ends h fun r h' => chip.HasRead h h' r)
    (hk : ∀ a h₁, (k a).Ends h₁ fun r h' => chip.HasRead h₁ h' r) :
    (x >>= k).Ends h fun r h' => chip.HasRead h h' r := by
  refine Ends.bind hx ?_ ?_
  · intro a h₁ first
    refine (hk a h₁).mono fun r h' second => ?_
    exact ⟨second.state.trans first.state, fun s => (second.closes s).trans (first.closes s),
      second.fault⟩
  · intro e h' first
    exact ⟨first.state, first.closes, fun e' he => by cases he; exact first.fault e rfl⟩

theorem ends_call_item (chip : OpenChip) {c : ChipCall} (hc : c ≠ .close) :
    (chip.call c).Ends h fun r h' => chip.HasRead h h' r := by
  have kept := closes_append_other h.calls (c := .chip chip.serial chip.device.path c) fun s => by
    cases c <;> first | rfl | exact absurd rfl hc
  refine ends_call (fun _ => ⟨rfl, kept, nofun⟩) fun f failed => ⟨rfl, kept, fun e he => ?_⟩
  cases he
  exact .inl ⟨c, failed⟩

theorem ends_info (chip : OpenChip) :
    (Act.ofExcept chip.device.info? : Act σ ChipInfo).Ends h fun r h' => chip.HasRead h h' r := by
  refine ends_ofExcept _ ?_ ?_
  · intro a _
    exact ⟨rfl, fun _ => rfl, fun e he => by cases he⟩
  · intro f hf
    exact ⟨rfl, fun _ => rfl, fun e he => by cases he; exact .inr hf⟩

theorem ends_readInfo (chip : OpenChip) (g : Generation) :
    (chip.readInfo g).Ends h fun r h' => chip.HasRead h h' r := by
  cases g with
  | first =>
    refine HasRead.bind (chip.ends_call_item (by simp)) fun _ h₁ => ?_
    refine HasRead.bind (chip.ends_call_item (by simp)) fun _ h₂ => ?_
    refine HasRead.bind (chip.ends_call_item (by simp)) fun _ h₃ => ?_
    exact chip.ends_info
  | second =>
    refine HasRead.bind (chip.ends_call_item (by simp)) fun _ h₁ => ?_
    exact chip.ends_info

end OpenChip

/-! ### Handles -/

/-- The calls that closing a handle makes. -/
def Handle.closing (x : Handle) : List Call :=
  match x.chip with
  | none => []
  | some chip => [.chip chip.serial chip.device.path .close]

/-- The fault that comes out of closing a handle; a failed system call is only logged. -/
def Handle.stray? (x : Handle) : Option Fault :=
  (x.chip.bind fun chip => chip.device.faults.close).filter fun f => !f.isSystem

/-- What comes out of closing a handle. -/
def Handle.closeOutcome (x : Handle) : Except Failure Unit :=
  x.stray?.elim (.ok ()) fun f => .error { fault := f }

/-- Closing makes its one call, and fails with what comes out of it. -/
theorem Handle.ends_closeChip {σ : Type} {h : Host σ} (x : Handle) :
    x.closeChip.Ends h fun r h' =>
      h'.state = h.state ∧ h'.calls = h.calls ++ x.closing ∧ r = x.closeOutcome := by
  unfold closeChip closing closeOutcome stray?
  cases x.chip with
  | none => exact ⟨rfl, (List.append_nil _).symm, rfl⟩
  | some chip =>
    rw [Option.bind_some]
    cases close : chip.device.faults.close with
    | none =>
      have called : (chip.call .close).Ends h fun r h' => h'.state = h.state ∧
          h'.calls = h.calls ++ [.chip chip.serial chip.device.path .close] ∧ r = .ok () :=
        OpenChip.ends_call (fun _ => ⟨rfl, rfl, rfl⟩) fun f failed => by
          cases close.symm.trans failed
      refine called.recover (fun _ _ ends => ends) ?_ ?_
      · rintro e h' ⟨-, -, failed⟩
        cases failed
      · rintro e h' ⟨-, -, failed⟩
        cases failed
    | some f =>
      have called : (chip.call .close).Ends h fun r h' => h'.state = h.state ∧
          h'.calls = h.calls ++ [.chip chip.serial chip.device.path .close] ∧
          r = .error { fault := f } :=
        OpenChip.ends_call (fun answered => by cases close.symm.trans answered) fun f' failed => by
          cases close.symm.trans failed
          exact ⟨rfl, rfl, rfl⟩
      refine called.recover ?_ ?_ ?_
      · rintro _ h' ⟨-, -, answered⟩
        cases answered
      · rintro e h' ⟨state, calls, failed⟩ other
        cases failed
        rw [Option.filter_some_pos (by simpa using other)]
        exact ⟨state, calls, rfl⟩
      · rintro e h' ⟨state, calls, failed⟩ system
        cases failed
        rw [Option.filter_some_neg (by simpa using system)]
        exact ⟨state, calls, rfl⟩

/-- Only a fault that is no failed system call comes out of closing a handle. -/
theorem Handle.exists_chip_of_stray? {x : Handle} {f : Fault} (stray : x.stray? = some f) :
    ∃ chip, x.chip = some chip ∧ chip.device.faults.close = some f ∧ f.isSystem = false := by
  obtain ⟨close, notSystem⟩ := Option.filter_eq_some_iff.1 stray
  obtain ⟨chip, open_, failed⟩ := Option.bind_eq_some_iff.1 close
  exact ⟨chip, open_, failed, by simpa using notSystem⟩

theorem Handle.stray?_of_closeOutcome {x : Handle} {e : Failure}
    (failed : x.closeOutcome = .error e) : x.stray? = some e.fault := by
  unfold closeOutcome at failed
  cases stray : x.stray? with
  | none =>
    rw [stray] at failed
    cases failed
  | some f =>
    rw [stray] at failed
    cases failed
    rfl

/-- Closing a handle fails only if its chip is not tame. -/
theorem Handle.exists_wild_of_closeOutcome {x : Handle} {e : Failure}
    (failed : x.closeOutcome = .error e) : ∃ chip, x.chip = some chip ∧ ¬ chip.device.IsTame := by
  obtain ⟨chip, open_, close, notSystem⟩ := exists_chip_of_stray? (stray?_of_closeOutcome failed)
  refine ⟨chip, open_, fun tame => ?_⟩
  rw [tame.calls .close _ close] at notSystem
  cases notSystem

/-! ### Opening devices -/

namespace Bindings

/-- The bindings after one more opening. -/
def advanced (b : Bindings) : Bindings := { b with nextSerial := b.nextSerial + 1 }

@[simp] theorem nextSerial_advanced (b : Bindings) : b.advanced.nextSerial = b.nextSerial + 1 := rfl

/-- The serial numbers given after one more opening are one more. -/
theorem given_advanced (b : Bindings) (s : Nat) :
    (if s < b.advanced.nextSerial then 1 else 0) =
      (if s < b.nextSerial then 1 else 0) + if b.nextSerial = s then 1 else 0 := by
  rw [nextSerial_advanced]
  split <;> split <;> split <;> omega

@[simp] theorem devices_advanced (b : Bindings) : b.advanced.devices = b.devices := rfl

/-- What opening a device by its name may do to the bindings and, by its calls, to the chips. -/
inductive Opening (deviceId : Value) (b : Bindings) (calls : List Call) (b' : Bindings)
    (calls' : List Call) : Except Failure Handle → Prop
  /-- No chip was opened. -/
  | refused (e : Failure) (state : b' = b) (kept : ∀ s, closes calls' s = closes calls s) :
      Opening deviceId b calls b' calls' (.error e)
  /-- A chip was opened and closed again. -/
  | undone (e : Failure) (state : b' = b.advanced)
      (closed : ∀ s, closes calls' s = closes calls s + if b.nextSerial = s then 1 else 0) :
      Opening deviceId b calls b' calls' (.error e)
  /-- A chip was opened, and left open without a handle. -/
  | abandoned (e : Failure) (state : b' = b.advanced)
      (kept : ∀ s, closes calls' s = closes calls s) (wild : ∃ d ∈ b.devices, ¬ d.IsTame) :
      Opening deviceId b calls b' calls' (.error e)
  /-- A chip was opened. -/
  | opened (t : Text) (device : Device) (info : ChipInfo) (named : deviceId = .text t)
      (mem : device ∈ b.devices) (state : b' = b.advanced)
      (kept : ∀ s, closes calls' s = closes calls s) :
      Opening deviceId b calls b' calls'
        (.ok { deviceId := .text t, chip := some ⟨b.nextSerial, device⟩, info })

theorem exists_text_of_pathOf {b : Bindings} {deviceId : Value} {path : Text}
    (h : b.pathOf deviceId = .ok path) : ∃ t, deviceId = .text t := by
  unfold pathOf at h
  split at h
  · exact ⟨_, rfl⟩
  · cases h
  · cases h

/-- Opening a path either fails before a chip is open, or gives the next open chip. -/
theorem ends_openPath {h : Host Bindings} (path : Text) :
    (openPath path).Ends h fun r h' =>
      (∀ s, closes h'.calls s = closes h.calls s) ∧
        ((∃ e, r = .error e ∧ h'.state = h.state) ∨
          ∃ device ∈ h.state.devices, r = .ok ⟨h.state.nextSerial, device⟩ ∧
            h'.state = h.state.advanced) := by
  have kept := closes_append_other h.calls (c := .openChip path) fun _ => rfl
  unfold openPath
  simp only [ends_bind, ends_note, ends_state]
  cases found : h.state.find? path with
  | none => exact ⟨kept, .inl ⟨_, rfl, rfl⟩⟩
  | some device =>
    simp only [ends_bind]
    refine ends_failing _ ?_ ?_
    · intro _
      exact ⟨kept, .inr ⟨device, List.mem_of_find?_eq_some found, rfl, rfl⟩⟩
    · intro f _
      exact ⟨kept, .inl ⟨_, rfl, rfl⟩⟩

/-- Reading the metadata of an open chip gives them, or fails and closes the chip, unless the fault
was no failed system call. -/
theorem ends_readOpened {h : Host Bindings} (chip : OpenChip) :
    (readOpened chip).Ends h fun r h' =>
      h'.state = h.state ∧
        ((∃ info, r = .ok info ∧ ∀ s, closes h'.calls s = closes h.calls s) ∨
          (∃ e, r = .error e ∧
            ∀ s, closes h'.calls s = closes h.calls s + if chip.serial = s then 1 else 0) ∨
          ∃ e, r = .error e ∧ (∀ s, closes h'.calls s = closes h.calls s) ∧
            ¬ chip.device.IsTame) := by
  unfold readOpened
  simp only [ends_bind, ends_state]
  refine (chip.ends_readInfo h.state.generation).undo ?_ ?_ ?_
  · intro info h' read
    exact ⟨read.state, .inl ⟨info, rfl, read.closes⟩⟩
  · intro e h' read notSystem
    refine ⟨read.state, .inr (.inr ⟨e, rfl, read.closes, fun tame => ?_⟩)⟩
    rw [tame.isSystem (read.fault e rfl)] at notSystem
    cases notSystem
  · intro e h' read _
    have closed : ∀ s, closes (h'.calls ++ [.chip chip.serial chip.device.path .close]) s =
        closes h.calls s + if chip.serial = s then 1 else 0 := by
      intro s
      rw [closes_append, read.closes, closes_close]
    exact OpenChip.ends_call (fun _ => ⟨read.state, .inr (.inl ⟨e, rfl, closed⟩)⟩) fun _ _ =>
      ⟨read.state, .inr (.inl ⟨_, rfl, closed⟩)⟩

theorem ends_openDevice {h : Host Bindings} (deviceId : Value) :
    (openDevice deviceId).Ends h fun r h' =>
      Opening deviceId h.state h.calls h'.state h'.calls r := by
  unfold openDevice
  simp only [ends_bind, ends_state]
  refine ends_ofExcept _ (fun path named => ?_) fun f _ => .refused _ rfl fun _ => rfl
  obtain ⟨t, rfl⟩ := exists_text_of_pathOf named
  refine (ends_openPath path).mono ?_
  rintro _ h₁ ⟨kept₁, ⟨e, rfl, state₁⟩ | ⟨device, mem, rfl, state₁⟩⟩
  · exact .refused e state₁ kept₁
  refine (ends_readOpened _).mono ?_
  rintro _ h₂ ⟨state₂, ⟨info, rfl, kept₂⟩ | ⟨e, rfl, closed⟩ | ⟨e, rfl, kept₂, wild⟩⟩
  · exact .opened t device info rfl mem (state₂.trans state₁) fun s => (kept₂ s).trans (kept₁ s)
  · exact .undone e (state₂.trans state₁) fun s => by rw [closed, kept₁]
  · exact .abandoned e (state₂.trans state₁) (fun s => (kept₂ s).trans (kept₁ s))
      ⟨device, mem, wild⟩

end Bindings

end GpioBroker
