import GpioBroker.Proofs.Chips

/-!
# Openings that come to nothing

What opening a device leaves behind when it fails, to the letter: which chip the bindings gave, how
often it was closed, and which fault comes out.  Opening is all or nothing as long as the fault of
reading the metadata is a failed system call and closing the chip works.  Any other fault leaves the
chip open with nobody to close it, and a fault of closing takes the place of the one before.
-/

namespace GpioBroker

open Act

/-! ### Reading metadata -/

/-- The calls that a generation of the bindings reads metadata with. -/
def Generation.items : Generation → List ChipCall
  | .first => [.name, .label, .numLines]
  | .second => [.getInfo]

/-- The metadata of a device as a generation of the bindings reads them, or the fault of the first
step that fails. -/
def Device.reading (d : Device) (g : Generation) : Except Fault ChipInfo :=
  match g.items.findSome? d.fault? with
  | some f => .error f
  | none => d.info?

namespace OpenChip

variable {σ : Type} {h : Host σ}

/-- Reading ends as the device says, with the fault of its first step that fails. -/
theorem ends_readInfo_reading (chip : OpenChip) (g : Generation) :
    (chip.readInfo g).Ends h fun r _ => r = (chip.device.reading g).mapError ({ fault := · }) := by
  have last (h : Host σ) (quiet : g.items.findSome? chip.device.fault? = none) :
      (Act.ofExcept chip.device.info?).Ends h fun r _ =>
        r = (chip.device.reading g).mapError ({ fault := · }) := by
    unfold Ends Device.reading
    rw [run_ofExcept, quiet]
  have stop (f : Fault) (first : g.items.findSome? chip.device.fault? = some f) :
      (.error { fault := f } : Except Failure ChipInfo) =
        (chip.device.reading g).mapError ({ fault := · }) := by
    unfold Device.reading
    rw [first]
    rfl
  cases g with
  | first =>
    refine ends_bind.2
      (ends_call (fun name => ?_) fun f name => stop f (by simp [Generation.items, name]))
    refine ends_bind.2 (ends_call (fun label => ?_) fun f label =>
      stop f (by simp [Generation.items, name, label]))
    refine ends_bind.2 (ends_call (fun lines => ?_) fun f lines =>
      stop f (by simp [Generation.items, name, label, lines]))
    exact last _ (by simp [Generation.items, name, label, lines])
  | second =>
    refine ends_bind.2
      (ends_call (fun info => ?_) fun f info => stop f (by simp [Generation.items, info]))
    exact last _ (by simp [Generation.items, info])

end OpenChip

namespace Bindings

/-! ### Opening -/

/-- The chip that the bindings give for the name of a device, or the fault they refuse it with. -/
def chipOf (b : Bindings) (deviceId : Value) : Except Fault OpenChip :=
  match b.pathOf deviceId with
  | .error f => .error f
  | .ok path =>
    match b.find? path with
    | none => .error .noSuchFile
    | some device =>
      match device.faults.opening with
      | some f => .error f
      | none => .ok { serial := b.nextSerial, device }

/-- The failure of an opening whose metadata could not be read, after its chip was closed. -/
def undoing (chip : OpenChip) (f : Fault) : Failure :=
  match chip.device.faults.close with
  | none => { fault := f }
  | some g => Failure.after { fault := g } .during { fault := f }

/-- How an opening ends. -/
inductive Attempted (deviceId : Value) (h h' : Host Bindings) : Except Failure Handle → Prop
  /-- The bindings give no chip. -/
  | refused (f : Fault) (given : h.state.chipOf deviceId = .error f)
      (kept : ∀ s, closes h'.calls s = closes h.calls s) :
        Attempted deviceId h h' (.error { fault := f })
  /-- The metadata were not read, and the chip is left open. -/
  | abandoned (chip : OpenChip) (f : Fault) (given : h.state.chipOf deviceId = .ok chip)
      (read : chip.device.reading h.state.generation = .error f) (other : f.isSystem = false)
      (kept : ∀ s, closes h'.calls s = closes h.calls s) :
        Attempted deviceId h h' (.error { fault := f })
  /-- The metadata were not read, and the chip is closed. -/
  | undone (chip : OpenChip) (f : Fault) (given : h.state.chipOf deviceId = .ok chip)
      (read : chip.device.reading h.state.generation = .error f) (system : f.isSystem = true)
      (closed : ∀ s, closes h'.calls s = closes h.calls s + if chip.serial = s then 1 else 0) :
      Attempted deviceId h h' (.error (undoing chip f))
  /-- The handle owns the open chip. -/
  | opened (chip : OpenChip) (info : ChipInfo) (given : h.state.chipOf deviceId = .ok chip)
      (read : chip.device.reading h.state.generation = .ok info)
      (kept : ∀ s, closes h'.calls s = closes h.calls s) :
      Attempted deviceId h h' (.ok { deviceId, chip := some chip, info })

variable {h : Host Bindings}

/-- Opening the path of a device gives the chip that the bindings have for it. -/
theorem ends_openPath_chipOf {deviceId : Value} {path : Text}
    (named : h.state.pathOf deviceId = .ok path) :
    (openPath path).Ends h fun r h' =>
      r = (h.state.chipOf deviceId).mapError ({ fault := · }) ∧
        (∀ s, closes h'.calls s = closes h.calls s) ∧ h'.state.generation = h.state.generation := by
  have kept := closes_append_other h.calls (c := .openChip path) fun _ => rfl
  unfold openPath chipOf
  simp only [named, ends_bind, ends_note, ends_state]
  cases h.state.find? path with
  | none => exact ⟨rfl, kept, rfl⟩
  | some device =>
    simp only [ends_bind]
    refine ends_failing _ (fun none => ?_) fun f some => ?_
    · rw [none]
      exact ⟨rfl, kept, rfl⟩
    · rw [some]
      exact ⟨rfl, kept, rfl⟩

/-- Reading the metadata of an open chip closes it after a failed system call, and after nothing
else. -/
theorem ends_readOpened_reading (chip : OpenChip) :
    (readOpened chip).Ends h fun r h' =>
      match chip.device.reading h.state.generation with
      | .ok info => r = .ok info ∧ ∀ s, closes h'.calls s = closes h.calls s
      | .error f =>
        if f.isSystem then
          r = .error (undoing chip f) ∧
            ∀ s, closes h'.calls s = closes h.calls s + if chip.serial = s then 1 else 0
        else r = .error { fault := f } ∧ ∀ s, closes h'.calls s = closes h.calls s := by
  unfold readOpened
  simp only [ends_bind, ends_state]
  have reads := (chip.ends_readInfo h.state.generation (h := h)).and
    (chip.ends_readInfo_reading h.state.generation)
  generalize chip.device.reading h.state.generation = reading at reads ⊢
  cases reading with
  | ok info =>
    refine reads.undo ?_ ?_ ?_
    · rintro _ h' ⟨read, same⟩
      exact ⟨same, read.closes⟩
    · rintro e h' ⟨-, same⟩ -
      cases same
    · rintro e h' ⟨-, same⟩ -
      cases same
  | error f =>
    dsimp only
    refine reads.undo ?_ ?_ ?_
    · rintro a h' ⟨-, same⟩
      cases same
    · rintro e h' ⟨read, same⟩ other
      cases same
      change f.isSystem = false at other
      rw [other, if_neg Bool.false_ne_true]
      exact ⟨rfl, read.closes⟩
    · rintro e h' ⟨read, same⟩ system
      cases same
      change f.isSystem = true at system
      simp only [system, if_true]
      have closed : ∀ s, closes (h'.calls ++ [.chip chip.serial chip.device.path .close]) s =
          closes h.calls s + if chip.serial = s then 1 else 0 := fun s => by
        rw [closes_append, read.closes, closes_close]
      refine OpenChip.ends_call (fun works => ⟨?_, closed⟩) fun g fails => ⟨?_, closed⟩
      · change chip.device.faults.close = none at works
        simp [settled, undoing, works]
      · change chip.device.faults.close = some g at fails
        simp [settled, undoing, fails, Failure.following]

theorem ends_openDevice_attempted (deviceId : Value) :
    (openDevice deviceId).Ends h fun r h' => Attempted deviceId h h' r := by
  unfold openDevice
  simp only [ends_bind, ends_state]
  refine ends_ofExcept _ (fun path named => ?_) fun f unnamed => ?_
  · refine (ends_openPath_chipOf named).mono ?_
    rintro _ h₁ ⟨rfl, kept₁, generation⟩
    cases given : h.state.chipOf deviceId with
    | error f => exact .refused f given kept₁
    | ok chip =>
      refine (ends_readOpened_reading chip).mono ?_
      rw [generation]
      intro r h₂ hr
      cases read : chip.device.reading h.state.generation with
      | ok info =>
        simp only [read] at hr
        obtain ⟨rfl, kept₂⟩ := hr
        exact .opened chip info given read fun s => (kept₂ s).trans (kept₁ s)
      | error f =>
        simp only [read] at hr
        split at hr
        · obtain ⟨rfl, closed⟩ := hr
          exact .undone chip f given read ‹_› fun s => by rw [closed, kept₁]
        · rename_i other
          obtain ⟨rfl, kept₂⟩ := hr
          exact .abandoned chip f given read (by simpa using other) fun s =>
            (kept₂ s).trans (kept₁ s)
  · refine .refused f ?_ fun _ => rfl
    unfold chipOf
    rw [unnamed]

/-! ### All or nothing -/

/-- An opening is all or nothing: it gives a handle that owns the chip, or it fails, and the chip
that it had, if it had one, was closed once and the fault is the one of reading its metadata. -/
inductive AllOrNothing (deviceId : Value) (h h' : Host Bindings) : Except Failure Handle → Prop
  | all (chip : OpenChip) (info : ChipInfo) (given : h.state.chipOf deviceId = .ok chip)
      (kept : ∀ s, closes h'.calls s = closes h.calls s) :
      AllOrNothing deviceId h h' (.ok { deviceId, chip := some chip, info })
  | nothing (f : Fault) (given : h.state.chipOf deviceId = .error f)
      (kept : ∀ s, closes h'.calls s = closes h.calls s) :
      AllOrNothing deviceId h h' (.error { fault := f })
  | undone (chip : OpenChip) (f : Fault) (given : h.state.chipOf deviceId = .ok chip)
      (read : chip.device.reading h.state.generation = .error f)
      (closed : ∀ s, closes h'.calls s = closes h.calls s + if chip.serial = s then 1 else 0) :
      AllOrNothing deviceId h h' (.error { fault := f })

theorem allOrNothing_error_iff {deviceId : Value} {h h' : Host Bindings} {chip : OpenChip}
    {f : Fault} {e : Failure} (given : h.state.chipOf deviceId = .ok chip)
    (read : chip.device.reading h.state.generation = .error f) :
    AllOrNothing deviceId h h' (.error e) ↔ e = { fault := f } ∧
      ∀ s, closes h'.calls s = closes h.calls s + if chip.serial = s then 1 else 0 := by
  constructor
  · intro nothing
    cases nothing with
    | nothing _ given' =>
      rw [given] at given'
      cases given'
    | undone _ _ given' read' closed =>
      rw [given] at given'
      cases given'
      rw [read] at read'
      cases read'
      exact ⟨rfl, closed⟩
  · rintro ⟨rfl, closed⟩
    exact .undone chip f given read closed

/-- Whatever fault keeps the metadata of a chip from being read, it is a failed system call, and the
chip can be closed after it. -/
def IsUndone (b : Bindings) (deviceId : Value) : Prop :=
  ∀ chip f, b.chipOf deviceId = .ok chip → chip.device.reading b.generation = .error f →
    f.isSystem = true ∧ chip.device.faults.close = none

theorem isUndone_iff {b : Bindings} {deviceId : Value} {chip : OpenChip} {f : Fault}
    (given : b.chipOf deviceId = .ok chip) (read : chip.device.reading b.generation = .error f) :
    b.IsUndone deviceId ↔ f.isSystem = true ∧ chip.device.faults.close = none := by
  constructor
  · intro undone
    exact undone chip f given read
  · intro undone chip' f' given' read'
    rw [given] at given'
    cases given'
    rw [read] at read'
    cases read'
    exact undone

theorem undoing_eq_iff (chip : OpenChip) (f : Fault) :
    undoing chip f = { fault := f } ↔ chip.device.faults.close = none := by
  unfold undoing
  cases chip.device.faults.close <;> simp [Failure.after]

/-- Whatever the devices answer and however they fail, an opening is all or nothing exactly if the
fault of reading the metadata, if there is one, is a failed system call and closing the chip
works. -/
theorem isAllOrNothing_iff (h : Host Bindings) (deviceId : Value) :
    (openDevice deviceId).Ends h (fun r h' => AllOrNothing deviceId h h' r) ↔
      h.state.IsUndone deviceId := by
  have attempted := ends_openDevice_attempted (h := h) deviceId
  unfold Ends at attempted ⊢
  generalize (openDevice deviceId).run h = outcome at attempted ⊢
  obtain ⟨r, h'⟩ := outcome
  dsimp only at attempted ⊢
  cases attempted with
  | refused f given kept =>
    refine ⟨fun _ chip g given' _ => ?_, fun _ => .nothing f given kept⟩
    rw [given] at given'
    cases given'
  | abandoned chip f given read other kept =>
    rw [allOrNothing_error_iff given read, isUndone_iff given read]
    constructor
    · rintro ⟨-, closed⟩
      have := closed chip.serial
      rw [kept, if_pos rfl] at this
      omega
    · rintro ⟨system, -⟩
      rw [other] at system
      cases system
  | undone chip f given read system closed =>
    rw [allOrNothing_error_iff given read, isUndone_iff given read, undoing_eq_iff]
    exact ⟨fun nothing => ⟨system, nothing.1⟩, fun undone => ⟨undone.2, closed⟩⟩
  | opened chip info given read kept =>
    refine ⟨fun _ chip' f' given' read' => ?_, fun _ => .all chip info given kept⟩
    rw [given] at given'
    cases given'
    rw [read] at read'
    cases read'

/-- A chip whose count of lines is a text that is no integer. -/
def unreadable : Device :=
  { path := "/dev/gpiochip0", name := .text "gpiochip0", label := .text "a",
    numLines := .text "abc" }

/-- A chip with an unreadable count of lines is left open. -/
theorem not_isAllOrNothing : ¬ ∀ (h : Host Bindings) (deviceId : Value),
    (openDevice deviceId).Ends h fun r h' => AllOrNothing deviceId h h' r := by
  intro all
  have given : chipOf { devices := [unreadable] } (.text "gpiochip0") =
    .ok ⟨0, unreadable⟩ := by rfl
  have read : unreadable.reading .first = .error (.unreadableInteger "abc") := by rfl
  have nothing := all { state := { devices := [unreadable] } } (.text "gpiochip0")
  have fails : ((openDevice (.text "gpiochip0")).run { state := { devices := [unreadable] } }).1 =
      .error { fault := .unreadableInteger "abc" } := by rfl
  unfold Ends at nothing
  rw [fails, allOrNothing_error_iff given read] at nothing
  have closed : closes ((openDevice (.text "gpiochip0")).run
      { state := { devices := [unreadable] } }).2.calls 0 = 1 :=
    nothing.2 0
  revert closed
  decide +kernel

end Bindings

end GpioBroker
