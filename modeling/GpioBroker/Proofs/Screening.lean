import GpioBroker.Proofs.Complaints
import GpioBroker.Proofs.Confinement

/-!
# Names that can be exposed

The object path of a device is its name below the root, so the bus, which takes valid paths only,
decides by the name which chips can be exposed.  A chip with a name that is not valid is opened and
given up again with a warning, and nothing of it stays.
-/

namespace GpioBroker

open Act

/-! ### Elements of names -/

/-- An ASCII letter, an ASCII digit or an underscore. -/
def CodePoint.IsWord (c : CodePoint) : Prop :=
  0x30 ≤ c.number ∧ c.number ≤ 0x39 ∨ 0x41 ≤ c.number ∧ c.number ≤ 0x5A ∨
    0x61 ≤ c.number ∧ c.number ≤ 0x7A ∨ c.number = 0x5F

/-- A name that can be exposed: what stands between its slashes is not empty and has only letters,
digits and underscores, and a line feed may follow each time. -/
def Text.IsExposable (t : Text) : Prop :=
  ∀ element ∈ t.toList.splitOn (.char '/'), ∃ word ≠ [], (∀ c ∈ word, c.IsWord) ∧
    (element = word ∨ element = word ++ [.char '\n'])

theorem CodePoint.isIn_isPathChar (c : CodePoint) : c.isIn Names.isPathChar = true ↔ c.IsWord := by
  unfold IsWord
  cases c with
  | char c =>
    change Names.isPathChar c = true ↔ _
    unfold Names.isPathChar Char.isAlphanum Char.isAlpha Char.isUpper Char.isLower Char.isDigit
    simp only [Bool.or_eq_true, Bool.and_eq_true, decide_eq_true_eq, beq_iff_eq,
      UInt32.le_iff_toNat_le, ge_iff_le]
    have underscore : c = '_' ↔ c.toNat = 0x5F := (Char.toNat_inj (d := '_')).symm
    rw [underscore]
    change (((65 ≤ c.toNat ∧ c.toNat ≤ 90) ∨ 97 ≤ c.toNat ∧ c.toNat ≤ 122) ∨
      48 ≤ c.toNat ∧ c.toNat ≤ 57) ∨ c.toNat = 95 ↔ _
    simp only [number]
    omega
  | half index =>
    have bound := index.isLt
    have large : 0x7A < (half index).number := by
      simp only [number, firstHalf]
      omega
    refine iff_of_false Bool.false_ne_true ?_
    omega

namespace Names

theorem elements_eq_splitOn (separator : CodePoint) (cs : List CodePoint) :
    elements separator cs = cs.splitOn separator := by
  induction cs with
  | nil => rfl
  | cons c cs ih =>
    unfold elements
    rw [ih, List.splitOn_cons_eq_if_modifyHead]
    obtain ⟨e, es, split⟩ := List.exists_cons_of_ne_nil (List.splitOn_ne_nil separator cs)
    by_cases here : c = separator <;> simp [here, split]

/-- A run of one class is not empty, and its characters are of the class but for a line feed behind
them. -/
theorem isRun_iff {inClass : Char → Bool} (other : inClass '\n' = false) (cs : List CodePoint) :
    isRun inClass inClass cs = true ↔ ∃ word ≠ [], (∀ c ∈ word, c.isIn inClass = true) ∧
      (cs = word ∨ cs = word ++ [.char '\n']) := by
  have run : isRun inClass inClass cs = true ↔ withoutFinalNewline cs ≠ [] ∧
      ∀ c ∈ withoutFinalNewline cs, c.isIn inClass = true := by
    unfold isRun
    cases withoutFinalNewline cs <;> simp
  rw [run]
  constructor
  · rintro ⟨some, word⟩
    refine ⟨_, some, word, ?_⟩
    unfold withoutFinalNewline
    split
    · rename_i last
      exact .inr (List.dropLast_append_getLast? _ last).symm
    · exact .inl rfl
  · rintro ⟨word, some, inside, rfl | rfl⟩
    · have same : withoutFinalNewline cs = cs := if_neg fun last => by
        have mark := inside _ (List.mem_of_getLast? last)
        cases mark.symm.trans other
      rw [same]
      exact ⟨some, inside⟩
    · have same : withoutFinalNewline (word ++ [.char '\n']) = word := by simp [withoutFinalNewline]
      rw [same]
      exact ⟨some, inside⟩

end Names

/-- The object path of a device is valid exactly if its name can be exposed. -/
theorem isObjectPath_objectPath (t : Text) :
    Names.isObjectPath (objectPath t) = true ↔ t.IsExposable := by
  have split : (Text.ofString "org/gpiod/" ++ t).toList.splitOn (.char '/') =
      (Text.ofString "org").toList :: (Text.ofString "gpiod").toList ::
        t.toList.splitOn (.char '/') := by
    have parts : (Text.ofString "org/gpiod/" ++ t).toList =
        (Text.ofString "org").toList ++ .char '/' ::
          ((Text.ofString "gpiod").toList ++ .char '/' :: t.toList) := rfl
    rw [parts, List.splitOn_append_cons_self, List.splitOn_append_cons_self,
      List.splitOn_eq_singleton (by decide), List.splitOn_eq_singleton (by decide)]
    rfl
  change (Names.elements (.char '/') (Text.ofString "org/gpiod/" ++ t).toList).all _ = true ↔ _
  rw [Names.elements_eq_splitOn, split, List.all_cons, List.all_cons,
    show Names.isRun Names.isPathChar Names.isPathChar (Text.ofString "org").toList =
      true by decide,
    show Names.isRun Names.isPathChar Names.isPathChar (Text.ofString "gpiod").toList =
      true by decide,
    Bool.true_and, Bool.true_and, List.all_eq_true]
  have newline : Names.isPathChar '\n' = false := by decide
  simp only [Names.isRun_iff newline, CodePoint.isIn_isPathChar]
  rfl

/-! ### The bus refuses a path -/

namespace Connection

variable {ρ : Type} {h : Host (Connection ρ)} {number : Nat} {b : MessageBus ρ} {path : Text}

/-- An object is refused at a path that is not valid.  No number is taken. -/
theorem ends_register_misnamed (live : h.state.IsLive number b)
    (free : ∀ o ∈ h.state.objects, o.path ≠ path)
    (quiet : b.script.exportFault? (.text path) = none) (misnamed : Names.isObjectPath path = false)
    (reader : ρ) : (register path reader).Ends h fun r h' =>
      (∃ e cause, r = .error e ∧ e.fault = .exportRefused path cause) ∧
        h'.state = { h.state with nextSerial := h.state.nextSerial + 1 } ∧ h'.records = h.records ∧
          h'.calls = h.calls ++ [.exportObject path] := by
  have free : h.state.objects.any (fun o => o.path == path) = false := by simpa using free
  have refused : Names.checkText .objectPath path = .error (.misnamed ⟨.objectPath, path⟩) :=
    if_neg
      (by rw [show Names.accepts .objectPath path = false from misnamed]; exact Bool.false_ne_true)
  unfold register
  simp only [ends_bind, ends_state, live.live?, free, Bool.false_eq_true, if_false, ends_update]
  refine Ends.explain (R := fun r h' => r = .error { fault := .misnamed ⟨.objectPath, path⟩ } ∧
    h'.state = { h.state with nextSerial := h.state.nextSerial + 1 } ∧ h'.records = h.records ∧
      h'.calls = h.calls ++ [.exportObject path]) ?_ ?_ ?_ ?_
  · refine ends_withinBus_of_bus? (b := b) live.bus ?_
    unfold MessageBus.exportObject
    simp only [ends_bind, ends_note, ends_state]
    refine ends_failing _ (fun _ => ?_) fun f fault => by cases quiet.symm.trans fault
    rw [refused]
    refine ⟨rfl, ?_, rfl, rfl⟩
    simp only [Host.withState, run_ofExcept_error, set_of_bus? live.bus]
  · rintro _ _ ⟨error, -⟩
    cases error
  · rintro e _ ⟨error, -⟩ other
    cases error
    cases other
  · rintro e h' ⟨error, same⟩ -
    cases error
    exact ⟨⟨_, _, rfl, rfl⟩, same⟩

end Connection

namespace Broker

variable {η : Type} {h h' h₁ : Host (Broker (Connection Value) η)} {t : Text}

/-- A chip that is opened is the one that the bindings give for its name. -/
theorem ends_openChip_chipOf (deviceId : Value) : (openChip deviceId).Ends h fun r _ =>
    ∀ handle, r = .ok (some handle) → ∃ chip, handle.chip = some chip ∧
      h.state.bindings.chipOf deviceId = .ok chip := by
  have opening : (withinBindings (Bindings.openDevice deviceId)).Ends h fun r _ =>
      ∀ handle, r = .ok handle → ∃ chip, handle.chip = some chip ∧
        h.state.bindings.chipOf deviceId = .ok chip := by
    refine Ends.within
      ((Bindings.ends_openDevice_attempted (h := h.withState h.state.bindings) deviceId).mono ?_)
    rintro r _ attempted handle rfl
    cases attempted with
    | opened chip info given read kept => exact ⟨chip, rfl, given⟩
  refine opening.map.recover ?_ ?_ ?_
  · rintro _ _ ⟨_ | handle, made, gives⟩ handle' same
    · cases made
    · cases made
      cases same
      exact gives handle rfl
  · rintro e _ - - handle same
    cases same
  · rintro e _ - - handle same
    cases same

theorem ends_prepare_chipOf (deviceId : Value) : (prepare deviceId).Ends h fun r _ =>
    ∀ prepared, r = .ok (some prepared) → ∃ handle chip, prepared.2.handle = some handle ∧
      handle.chip = some chip ∧ h.state.bindings.chipOf deviceId = .ok chip := by
  unfold prepare
  simp only [ends_bind, ends_state]
  refine ends_ofExcept _ (fun key _ => ?_) fun f _ _ same => by cases same
  refine ends_ite (fun _ _ same => by cases same) fun _ => ?_
  simp only [ends_bind, ends_log]
  refine (ends_openChip_chipOf deviceId).mono ?_
  rintro (e | _ | handle) h₁ gives
  · exact fun _ same => by cases same
  · exact fun _ same => by cases same
  · obtain ⟨chip, held, given⟩ := gives handle rfl
    simp only [ends_bind, ends_keep, ends_pure]
    rintro prepared ⟨⟩
    exact ⟨handle, chip, rfl, held, given⟩

/-- What an addition does after it opened a chip is what enrolling the new record does. -/
theorem ends_addChip_of_opened
    {Q : Except Failure (Option Nat) → Host (Broker (Connection Value) η) → Prop}
    (absent : h.state.roster.contains (.text t) = false)
    (opens : h.state.bindings.opens (.text t) = true)
    (enrolls : ∀ device info h₁, Opened t device info h h₁ →
      h.state.bindings.chipOf (.text t) = .ok ⟨h.state.bindings.nextSerial, device⟩ →
      (enroll h.state.roster.records.length
        (newRecord t ⟨h.state.bindings.nextSerial, device⟩ info)).Ends h₁ Q) :
    (addChip (.text t)).Ends h Q := by
  rw [addChip_eq]
  simp only [ends_bind]
  refine (((ends_prepare (.text t)).and (ends_prepare_some (Value.toKey_text t) absent opens)).and
    (ends_prepare_chipOf (.text t))).mono ?_
  rintro _ h₁ ⟨⟨prepares, prepared, rfl⟩, given⟩
  obtain ⟨t', device, info, same, rfl, opened⟩ := prepares prepared rfl
  cases same
  obtain ⟨handle, chip, held, open_, given⟩ := given _ rfl
  cases held
  cases open_
  exact enrolls device info h₁ opened given

/-! ### Adding a chip -/

/-- The chip of a device was exposed. -/
structure Exposes (t : Text) (h h' : Host (Broker (Connection Value) η))
    (r : Except Failure (Option Nat)) :
    Prop where
  returned : r = .ok (some h.state.roster.records.length)
  entries : h'.state.roster.entries =
    h.state.roster.entries ++ [(.text t, h.state.roster.records.length)]
  objects : ∃ object, h'.state.roster.bus.objects =
    h.state.roster.bus.objects ++ [⟨h.state.roster.bus.nextRegistration, objectPath t, object⟩]
  exported : ∀ number b, h.state.roster.bus.IsLive number b →
    ∃ b', h'.state.roster.bus.bus? number = some b' ∧ (b'.find? (objectPath t)).isSome = true
  kept : ∀ s, closes h'.calls s = closes h.calls s

/-- The chip of a device was given up: it was closed, and the roster, the table of objects, the
exports and the next registration are as they were. -/
structure GivesUp (t : Text) (h h' : Host (Broker (Connection Value) η))
    (r : Except Failure (Option Nat)) :
    Prop where
  entries : h'.state.roster.entries = h.state.roster.entries
  objects : h'.state.roster.bus.objects = h.state.roster.bus.objects
  exported : h'.state.roster.bus.buses = h.state.roster.bus.buses
  next : h'.state.roster.bus.nextRegistration = h.state.roster.bus.nextRegistration
  closed : ∀ s, closes h'.calls s =
    closes h.calls s + if h.state.bindings.nextSerial = s then 1 else 0
  /-- If closing the chip raises nothing but failed system calls, there is a warning with the name
  in it. -/
  warned :
    (∀ chip f, h.state.bindings.chipOf (.text t) = .ok chip → chip.device.faults.close = some f →
      f.isSystem = true) →
    r = .ok none ∧ ∃ more, h'.records = h.records ++ more ∧
      ∃ l ∈ more, l.level = Level.warning.number ∧ t.toList <:+: l.text.toList
  /-- Any other fault of closing the chip comes out. -/
  failed : ∀ chip f, h.state.bindings.chipOf (.text t) = .ok chip →
    chip.device.faults.close = some f →
    f.isSystem = false → ∃ e, r = .error e ∧ e.fault = f

theorem ends_withinBus_register_misnamed {number : Nat} {b : MessageBus Value} {path : Text}
    (live : h.state.roster.bus.IsLive number b)
    (free : ∀ o ∈ h.state.roster.bus.objects, o.path ≠ path)
    (quiet : b.script.exportFault? (.text path) = none) (misnamed : Names.isObjectPath path = false)
    (reader : Value) : (withinBus (ObjectBus.register path reader)).Ends h fun r h' =>
      (∃ e cause, r = .error e ∧ e.fault = .exportRefused path cause) ∧
        (∃ nextSerial, h'.state = { h.state with roster :=
          { h.state.roster with bus := { h.state.roster.bus with nextSerial } } }) ∧
        h'.records = h.records ∧ h'.calls = h.calls ++ [.exportObject path] := by
  unfold withinBus withinRoster Roster.withinBus
  refine Ends.within (Ends.within ?_)
  refine (Connection.ends_register_misnamed (h := h.withState h.state.roster.bus) live
    free quiet misnamed
    reader).mono ?_
  rintro r h' ⟨error, state, records, calls⟩
  exact ⟨error, ⟨_, by rw [Host.withState, state]; rfl⟩, records, calls⟩

/-- The warning of a refusal has the name of the device in it, as the end of the path. -/
theorem infix_refusal (t cause : Text) : t.toList <:+:
    ("error registering a dbus object: " ++
      (Fault.exportRefused (objectPath t) cause).message).toList := by
  refine ⟨(Text.ofString "error registering a dbus object: cannot export " ++
      Layout.rootPath ++ "/").toList,
    (Text.ofString ": " ++ cause).toList, ?_⟩
  simp [Fault.message, objectPath, Text.ofString, Text.ofChars]

section Misnamed

variable {record : Record} {handle : Handle} {number i : Nat} {b : MessageBus Value}

/-- The record of a device was given up, with its chip closed and no number taken: with a warning
that names the device, or with the fault that came out of closing the chip. -/
structure GaveUp {α : Type} (t : Text) (number : Nat) (record : Record) (handle : Handle)
    (h h' : Host (Broker (Connection Value) η)) (r : Except Failure (Option α)) : Prop where
  state : ∃ nextSerial, h'.state = { h.state with
    roster :=
      { h.state.roster with
        bus := { h.state.roster.bus with nextSerial }
        records := h.state.roster.records.set number record.emptied } }
  calls : h'.calls = h.calls ++ [.exportObject (objectPath t)] ++ handle.closing
  warned : handle.stray? = none → r = .ok none ∧ ∃ more, h'.records = h.records ++ more ∧
    ∃ l ∈ more, l.level = Level.warning.number ∧ t.toList <:+: l.text.toList
  failed : ∀ f, handle.stray? = some f → ∃ e, r = .error e ∧ e.fault = f

/-- A record whose object is refused is given up, and no number is taken. -/
theorem ends_registerRecord_misnamed (there : h.state.roster.records[number]? = some record)
    (held : record.handle = some handle) (named : record.deviceId = .text t)
    (unregistered : record.registration = none) (live : h.state.roster.bus.IsLive i b)
    (free : ∀ o ∈ h.state.roster.bus.objects, o.path ≠ objectPath t)
    (quiet : b.script.exportFault? (.text (objectPath t)) = none)
    (misnamed : Names.isObjectPath (objectPath t) = false) :
    (registerRecord number record).Ends h fun r h' => GaveUp t number record handle h h' r := by
  unfold registerRecord
  rw [named]
  refine (ends_withinBus_register_misnamed live free quiet misnamed (.text t)).map.recover ?_ ?_ ?_
  · rintro _ _ ⟨_, made, ⟨e, _, rfl, -⟩, -⟩
    cases made
  · rintro _ _ ⟨_, made, ⟨e, _, rfl, refused⟩, -⟩ other
    cases made
    rw [refused] at other
    cases other
  · rintro _ h₁ ⟨_, made, ⟨e, cause, rfl, refused⟩, ⟨nextSerial, state⟩, records, calls⟩ -
    cases made
    rw [refused]
    have there₁ : h₁.state.roster.records[number]? = some record := by
      rw [state]
      exact there
    refine (ends_giveUp there₁ held unregistered _).mono ?_
    rintro r h₂ ⟨state₂, -, calls₂, givenUp⟩
    refine ⟨⟨nextSerial, by rw [state₂, state]; rfl⟩, by rw [calls₂, calls], fun none => ?_,
      fun f some => ?_⟩
    · obtain ⟨rfl, more, log⟩ := givenUp.warned none
      rw [records, List.append_assoc] at log
      exact ⟨rfl, _, log, _, List.mem_append_right _ (List.mem_singleton_self _), rfl,
        infix_refusal t cause⟩
    · rw [givenUp.failed f some]
      exact ⟨_, rfl, rfl⟩

/-- Enrolling a record whose object is refused gives it up. -/
theorem ends_enroll_misnamed (there : h.state.roster.records[number]? = some record)
    (held : record.handle = some handle) (named : record.deviceId = .text t)
    (unregistered : record.registration = none) (live : h.state.roster.bus.IsLive i b)
    (free : ∀ o ∈ h.state.roster.bus.objects, o.path ≠ objectPath t)
    (quiet : b.script.exportFault? (.text (objectPath t)) = none)
    (misnamed : Names.isObjectPath (objectPath t) = false) :
    (enroll number record).Ends h fun r h' => GaveUp t number record handle h h' r := by
  refine (ends_registerRecord_misnamed there held named unregistered live free quiet
    misnamed).bind ?_ ?_
  · rintro registered h₁ gaveUp
    cases stray : handle.stray? with
    | none =>
      obtain ⟨⟨⟩, warned⟩ := gaveUp.warned stray
      exact (ends_pure _).2 ⟨gaveUp.state, gaveUp.calls, fun _ => ⟨rfl, warned⟩, fun _ some => by
        cases stray.symm.trans some⟩
    | some f =>
      obtain ⟨e, failed, -⟩ := gaveUp.failed f stray
      cases failed
  · rintro e h₁ gaveUp
    refine ⟨gaveUp.state, gaveUp.calls, fun none => ?_, fun f some => ?_⟩
    · obtain ⟨returned, -⟩ := gaveUp.warned none
      cases returned
    · obtain ⟨_, ⟨⟩, fault⟩ := gaveUp.failed f some
      exact ⟨e, rfl, fault⟩

end Misnamed

theorem ends_addChip_givesUp {xs : List Exposure} {number : Nat} {b : MessageBus Value}
    (shows : h.state.roster.Shows xs) (absent : h.state.roster.contains (.text t) = false)
    (opens : h.state.bindings.opens (.text t) = true) (live : h.state.roster.bus.IsLive number b)
    (quiet : b.script.exportFault? (.text (objectPath t)) = none) (unfit : ¬ t.IsExposable) :
    (addChip (.text t)).Ends h fun r h' => GivesUp t h h' r := by
  have misnamed : Names.isObjectPath (objectPath t) = false := by
    rwa [← isObjectPath_objectPath, Bool.not_eq_true] at unfit
  refine ends_addChip_of_opened absent opens fun device info h₁ opened given => ?_
  have bus : h₁.state.roster.bus = h.state.roster.bus := by rw [opened.state]
  have there : h₁.state.roster.records[h.state.roster.records.length]? =
      some (newRecord t ⟨h.state.bindings.nextSerial, device⟩ info) := by
    rw [opened.state]
    simp
  refine (ends_enroll_misnamed there rfl rfl rfl (bus ▸ live)
    (bus ▸ shows.path_ne_of_absent absent) quiet
    misnamed).mono ?_
  rintro r h₂ gaveUp
  obtain ⟨nextSerial, state⟩ := gaveUp.state
  rw [opened.state] at state
  refine ⟨by rw [state], by rw [state], by rw [state], by rw [state], fun s => ?_, fun tame => ?_,
    fun chip f gives close wild => ?_⟩
  · rw [gaveUp.calls, closes_append, closes_append_other _ fun _ => rfl, opened.kept]
    exact congrArg _ (closes_close ..)
  · obtain ⟨none, more, log, l, there, level, named⟩ :=
      gaveUp.warned (Option.filter_eq_none_iff.2 fun f close => by simpa using tame _ f given close)
    obtain ⟨before, log₁⟩ := opened.log
    refine ⟨none, before ++ more, ?_, l, List.mem_append_right _ there, level, named⟩
    rw [log, ← log₁, List.append_assoc]
  · cases given.symm.trans gives
    exact gaveUp.failed f (Option.filter_eq_some_iff.2 ⟨close, by simpa using wild⟩)

theorem ends_withinBus_register_admitted {number : Nat} {b : MessageBus Value} {path : Text}
    (admits : h.state.roster.bus.Admits path number b) (reader : Value) :
    (withinBus (ObjectBus.register path reader)).Ends h fun r h' =>
      r = .ok h.state.roster.bus.nextRegistration ∧
        ∃ b', h'.state.roster.bus.bus? number = some b' ∧
        (b'.find? path).isSome = true := by
  unfold withinBus withinRoster Roster.withinBus
  refine Ends.within (Ends.within ?_)
  refine (Connection.ends_register_ok (h := h.withState h.state.roster.bus) admits reader).mono ?_
  rintro r h' ⟨ok, object, state⟩
  refine ⟨ok, { b with exported := b.exported ++ [(path, object)] }, ?_,
    MessageBus.isTaken_export b object⟩
  change h'.state.bus? number = _
  have inside : number < h.state.roster.bus.buses.length :=
    (List.getElem?_eq_some_iff.1 admits.live.bus).1
  rw [state]
  exact List.getElem?_set_self inside

/-- An object that the bus takes is exported when its chip has been added. -/
theorem ends_addChip_exported {number : Nat} {b : MessageBus Value}
    (absent : h.state.roster.contains (.text t) = false)
    (opens : h.state.bindings.opens (.text t) = true)
    (admits : h.state.roster.bus.Admits (objectPath t) number b) :
    (addChip (.text t)).Ends h fun r h' =>
      r = .ok (some h.state.roster.records.length) ∧
        ∃ b', h'.state.roster.bus.bus? number = some b' ∧
        (b'.find? (objectPath t)).isSome = true := by
  refine ends_addChip_of_opened absent opens fun device info h₁ opened _ => ?_
  have bus : h₁.state.roster.bus = h.state.roster.bus := by rw [opened.state]
  have registering :=
    (ends_withinBus_register_admitted (h := h₁) (bus ▸ admits) (.text t)).map (f := some)
  have registered : (registerRecord h.state.roster.records.length
      (newRecord t ⟨h.state.bindings.nextSerial, device⟩ info)).Ends h₁ fun r h' =>
        r = .ok (some h₁.state.roster.bus.nextRegistration) ∧
          ∃ b', h'.state.roster.bus.bus? number = some b' ∧
          (b'.find? (objectPath t)).isSome = true := by
    refine registering.recover ?_ ?_ ?_
    · rintro _ _ ⟨_, made, rfl, exported⟩
      cases made
      exact ⟨rfl, exported⟩
    · rintro _ _ ⟨_, made, rfl, -⟩ -
      cases made
    · rintro _ _ ⟨_, made, rfl, -⟩ -
      cases made
  refine (registered.and (ends_registerRecord_enters opened)).bind ?_ ?_
  · rintro _ h₂ ⟨⟨ok, b', exported, taken⟩, enters⟩
    cases ok
    refine (enters _ rfl).and (ends_enter_spares _ _ _) |>.bind ?_ ?_
    · rintro _ h₃ ⟨-, -, -, bus₃, -⟩
      exact (ends_pure _).2 ⟨rfl, b', by rw [bus₃, exported], taken⟩
    · rintro e _ ⟨failed, -⟩
      cases failed
  · rintro e _ ⟨⟨failed, -⟩, -⟩
    cases failed

theorem ends_addChip_exposes {xs : List Exposure} {number : Nat} {b : MessageBus Value}
    (shows : h.state.roster.Shows xs) (absent : h.state.roster.contains (.text t) = false)
    (opens : h.state.bindings.opens (.text t) = true) (live : h.state.roster.bus.IsLive number b)
    (quiet : b.script.exportFault? (.text (objectPath t)) = none)
    (free : b.find? (objectPath t) = none) (fit : t.IsExposable) :
    (addChip (.text t)).Ends h fun r h' => Exposes t h h' r := by
  have admits : h.state.roster.bus.Admits (objectPath t) number b :=
    ⟨live, shows.path_ne_of_absent absent, quiet, (isObjectPath_objectPath t).2 fit, free⟩
  refine ((ends_addChip_exported absent opens admits).and (ends_addChip (.text t))).mono ?_
  rintro _ h' ⟨⟨rfl, b', bus, taken⟩, -, adding⟩
  generalize returned :
    (.ok (some h.state.roster.records.length) : Except Failure (Option Nat)) = r at adding
  cases adding with
  | refused => cases returned
  | dropped r key named absent misses dropped =>
    subst returned
    obtain ⟨e, failed⟩ | ⟨none, -⟩ := dropped
    · cases failed
    · cases none
  | exposed x named absent meets place registration serial device entries objects records
      next opened kept =>
    cases named
    refine ⟨returned.symm, ?_, ⟨x.object.object, ?_⟩, fun i b₁ live₁ => ?_, kept⟩
    · rw [entries, ← place]
      rfl
    · rw [objects, ← registration]
      rfl
    · obtain ⟨rfl, rfl⟩ := live.unique live₁
      exact ⟨b', bus, taken⟩

/-- Which names can be exposed: the bus decides by the name, and what it refuses leaves nothing
behind. -/
structure IsScreened (t : Text) (h : Host (Broker (Connection Value) η)) : Prop where
  /-- No other name has the same object path. -/
  own : ∀ t', objectPath t' = objectPath t → t' = t
  exposed : (addChip (.text t)).Ends h fun r h' => Exposes t h h' r ↔ t.IsExposable
  givenUp : (addChip (.text t)).Ends h fun r h' => GivesUp t h h' r ↔ ¬ t.IsExposable

/-- A chip that was exposed was not given up. -/
theorem Exposes.not_givesUp {r : Except Failure (Option Nat)} (exposes : Exposes t h h' r) :
    ¬ GivesUp t h h' r := by
  intro givesUp
  have entries := exposes.entries.symm.trans givesUp.entries
  simp at entries

variable [UeventSource η]

/-- What a fresh broker may come to, whatever it, its connection and the world around it do. -/
def IsReached (h : Host (Broker (Connection Value) η)) : Prop :=
  ∃ bindings name source turns, h =
    Turn.after turns { state := { bindings, roster := { bus := { name } }, source } }

theorem IsReached.exists_shows (reached : IsReached h) : ∃ xs, h.state.roster.Shows xs := by
  obtain ⟨bindings, name, source, turns, rfl⟩ := reached
  exact Turn.isShown_after turns _ ⟨[], .nil rfl rfl⟩

/-- However a broker came to where it is: an absent device whose chip opens is exposed on a bus that
is up, has nothing at its object path and does not fail there, exactly if its name can be exposed.
Otherwise its chip is given up. -/
theorem isScreened (reached : IsReached h) (absent : h.state.roster.contains (.text t) = false)
    (opens : h.state.bindings.opens (.text t) = true) {number : Nat} {b : MessageBus Value}
    (live : h.state.roster.bus.IsLive number b)
    (quiet : b.script.exportFault? (.text (objectPath t)) = none)
    (free : b.find? (objectPath t) = none) : IsScreened t h := by
  obtain ⟨xs, shows⟩ := reached.exists_shows
  by_cases fit : t.IsExposable
  · have exposes := ends_addChip_exposes shows absent opens live quiet free fit
    exact ⟨fun _ => objectPath_injective, exposes.mono fun _ _ exposes => iff_of_true exposes fit,
      exposes.mono fun _ _ exposes => iff_of_false exposes.not_givesUp (not_not_intro fit)⟩
  · have givesUp := ends_addChip_givesUp shows absent opens live quiet fit
    exact ⟨fun _ => objectPath_injective,
      givesUp.mono fun _ _ givesUp => iff_of_false (fun exposes => exposes.not_givesUp givesUp) fit,
      givesUp.mono fun _ _ givesUp => iff_of_true givesUp fit⟩

/-- A device whose name has a hyphen, and which may fail to be closed. -/
def hyphened (fault : Option Fault) : Bindings where
  devices := [{ path := "/dev/gpio-chip", numLines := .int 8, faults := { close := fault } }]

/-- A broker that owns its name, over a device whose name has a hyphen. -/
def atHyphened (fault : Option Fault) : Host (Broker (Connection Value) MonitorSource) :=
  Turn.after [.begin {}, .resume 0, .resume 0, .resume 0]
    { state := { bindings := hyphened fault, roster := { bus := {} }, source := {} } }

theorem isReached_atHyphened (fault : Option Fault) : IsReached (atHyphened fault) :=
  ⟨_, _, _, _, rfl⟩

theorem not_isExposable_hyphened : ¬ Text.IsExposable "gpio-chip" := by
  rw [← isObjectPath_objectPath]
  decide

/-- A hyphen keeps a chip from being exposed. -/
theorem isScreened_hyphened :
    IsScreened "gpio-chip" (atHyphened none) ∧ ¬ Text.IsExposable "gpio-chip" := by
  have live : (atHyphened none).state.roster.bus.IsLive 0 { isConnected := true, listeners := 1 } :=
    ⟨rfl, rfl, rfl⟩
  exact ⟨isScreened (isReached_atHyphened none) (by decide +kernel) (by decide +kernel) live
    rfl rfl, not_isExposable_hyphened⟩

/-- A chip that is given up need not be given up quietly: a fault of closing it that is no failed
system call comes out. -/
theorem not_isScreened :
    ¬ ∀ (h : Host (Broker (Connection Value) MonitorSource)) (t : Text) (number : Nat)
    (b : MessageBus Value), IsReached h → h.state.roster.contains (.text t) = false →
    h.state.bindings.opens (.text t) = true → h.state.roster.bus.IsLive number b → b.script = {} →
    b.find? (objectPath t) = none → ¬ t.IsExposable → ((addChip (.text t)).run h).1 = .ok none := by
  intro all
  have returned := all (atHyphened (some (.raised .runtime "stuck"))) "gpio-chip" 0
    { isConnected := true, listeners := 1 } (isReached_atHyphened _) (by decide +kernel)
    (by decide +kernel)
    ⟨rfl, rfl, rfl⟩ rfl rfl not_isExposable_hyphened
  have failed :
      ((addChip (.text "gpio-chip")).run (atHyphened (some (.raised .runtime "stuck")))).1.isOk =
      false := by
    decide +kernel
  rw [returned] at failed
  cases failed

end Broker

end GpioBroker
