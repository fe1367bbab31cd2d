import GpioBroker.Proofs.Ownership

/-!
# What an attempt tells

An attempt to own the name reports how far it came, and its reports follow one of three courses:
there is no connection; or the bus was acquired and the name refused; or the name was acquired and
lost with the connection.  At any time what was told is the beginning of a course, and the phase of
the attempt says which; an attempt that ended by itself has told a whole course.  Only who listens
to the bus, its script and the phase decide what is told next.
-/

namespace GpioBroker

open Act

/-! ### Messages that revoke a name -/

/-- The first item of a value is a name. -/
inductive Value.BeginsWith (name : Text) : Value → Prop
  | list (rest : List Value) : BeginsWith name (.list (.text name :: rest))
  | text {c : CodePoint} (rest : List CodePoint) (single : name = .singleton c) :
      BeginsWith name (.text ⟨c :: rest⟩)

/-- The bus itself says with a signal that a name was lost. -/
structure Message.Revokes (m : Message) (name : Text) : Prop where
  signal : m.kind = .signal
  sender : m.sender = .text "org.freedesktop.DBus"
  member : m.member = .text "NameLost"
  body : m.body.BeginsWith name

theorem Value.isText_iff {v : Value} {t : Text} : v.isText t = true ↔ v = .text t := by
  cases v <;> simp [isText]

theorem Value.beginsWith_iff {v : Value} {name : Text} :
    (v.firstItem?.map fun first => first.any (·.isText name)) = .ok true ↔ v.BeginsWith name := by
  constructor
  · intro first
    cases v with
    | list items =>
      cases items with
      | nil => cases first
      | cons item rest =>
        have same : item.isText name = true := by simpa [Except.map] using first
        obtain rfl := isText_iff.1 same
        exact .list rest
    | text t =>
      obtain ⟨points⟩ := t
      cases points with
      | nil => cases first
      | cons c rest =>
        have same : (Value.text (.singleton c)).isText name = true := by
          simpa [firstItem?, Except.map] using first
        cases isText_iff.1 same
        exact .text rest rfl
    | map fields => cases fields <;> cases first
    | _ =>
      simp only [firstItem?] at first
      split at first <;> cases first
  · rintro (⟨rest⟩ | ⟨rest, rfl⟩)
    · simp [Except.map, isText]
    · simp [firstItem?, Except.map, isText]

theorem Message.revokes_iff {m : Message} {name : Text} :
    m.revokes name = .ok true ↔ m.Revokes name := by
  unfold revokes
  constructor
  · intro revoked
    split at revoked
    · rename_i fits
      simp only [Bool.and_eq_true, beq_iff_eq, Value.isText_iff] at fits
      exact ⟨fits.1.1, fits.1.2, fits.2, Value.beginsWith_iff.1 revoked⟩
    · cases revoked
  · rintro ⟨signal, sender, member, body⟩
    rw [if_pos (by simp [signal, sender, member, Value.isText, busDaemon])]
    exact Value.beginsWith_iff.2 body

variable {ρ : Type}

/-! ### Courses -/

/-- The script of a message bus, and how often somebody listens to it. -/
def MessageBus.gist (b : MessageBus ρ) : BusScript × Nat := (b.script, b.listeners)

/-- What there is of a connection that decides what is told. -/
structure Story where
  name : Text
  attempts : List OwnershipPhase
  buses : List (BusScript × Nat)

def Connection.story (c : Connection ρ) : Story := ⟨c.name, c.attempts, c.buses.map MessageBus.gist⟩

/-- How often somebody listens to the newest bus. -/
def Story.listeners (s : Story) : Nat := (s.buses.getLast?.map Prod.snd).getD 0

/-- The report that a name is lost. -/
def loss (name : Text) (reason : LossReason) (detail : Text) : Event :=
  .nameLost { name := .text name, reason, detail := .text detail }

/-- The courses that the reports of an attempt can take. -/
inductive IsCourse (name : Text) : List Event → Prop
  | unconnected (detail : Text) : IsCourse name [loss name .noConnection detail]
  | refused {reason : LossReason} (detail : Text) (late : reason ≠ .noConnection) :
      IsCourse name [.busAcquired, loss name reason detail]
  | owned (detail : Text) :
      IsCourse name [.busAcquired, .nameAcquired (.text name), loss name .connectionClosed detail]

/-- How often the acquisition of the bus was told. -/
def acquisitions (told : List Event) : Nat :=
  told.countP fun e => match e with
    | .busAcquired => true
    | _ => false

/-- What an attempt has told in each of its phases. -/
inductive Telling (name : Text) (script : BusScript) : Story → List Event → Prop
  | starting : Telling name script ⟨name, [.starting script], []⟩ []
  | connecting : Telling name script ⟨name, [.connecting 0], [(script, 0)]⟩ []
  | requesting : Telling name script ⟨name, [.requesting 0], [(script, 1)]⟩ [.busAcquired]
  | waiting (bus : Nat) :
      Telling name script ⟨name, [.waiting bus], [(script, 1)]⟩
        [.busAcquired, .nameAcquired (.text name)]
  | ended {buses : List (BusScript × Nat)} {told : List Event} (course : IsCourse name told)
      (heard : Story.listeners ⟨name, [.ended], buses⟩ = acquisitions told) :
      Telling name script ⟨name, [.ended], buses⟩ told
  | cancelled {buses : List (BusScript × Nat)} {told full : List Event}
      (course : IsCourse name full)
      (begun : told <+: full)
      (heard : Story.listeners ⟨name, [.cancelled], buses⟩ = acquisitions told) :
      Telling name script ⟨name, [.cancelled], buses⟩ told

/-- An attempt waits for the answer to its request, and the bus will answer that the name is
owned. -/
def Story.IsGranted (s : Story) (script : BusScript) : Prop :=
  s.attempts = [.requesting 0] ∧ script.requestFault = none ∧
    (script.reply = .primaryOwner ∨ script.reply = .alreadyOwner)

namespace Telling

variable {name : Text} {script : BusScript} {s : Story} {told : List Event}

/-- What was told is the beginning of a course. -/
theorem exists_course (telling : Telling name script s told) :
    ∃ course, IsCourse name course ∧ told <+: course := by
  cases telling with
  | starting => exact ⟨_, .unconnected "", List.nil_prefix⟩
  | connecting => exact ⟨_, .unconnected "", List.nil_prefix⟩
  | requesting => exact ⟨_, .owned "", List.prefix_append [Event.busAcquired] _⟩
  | waiting bus => exact ⟨_, .owned "", List.prefix_append [Event.busAcquired, _] _⟩
  | ended course heard => exact ⟨_, course, List.prefix_refl _⟩
  | cancelled course begun heard => exact ⟨_, course, begun⟩

theorem name_eq (telling : Telling name script s told) : s.name = name := by
  cases telling <;> rfl

/-- Somebody listens to the bus once it was acquired. -/
theorem listeners_eq (telling : Telling name script s told) : s.listeners = acquisitions told := by
  cases telling with
  | ended course heard => exact heard
  | cancelled course begun heard => exact heard
  | _ => rfl

theorem acquisitions_le (telling : Telling name script s told) : acquisitions told ≤ 1 := by
  obtain ⟨course, is, begun⟩ := telling.exists_course
  have fewer : acquisitions told ≤ acquisitions course := begun.sublist.countP_le
  cases is with
  | unconnected detail => exact Nat.le_trans fewer (Nat.zero_le 1)
  | refused detail late => exact fewer
  | owned detail => exact fewer

/-- An attempt that goes on, once it is cancelled, has told what it has told. -/
theorem cancel {phase : OwnershipPhase} {buses : List (BusScript × Nat)}
    (telling : Telling name script ⟨name, [phase], buses⟩ told) :
    Telling name script ⟨name, [.cancelled], buses⟩ told := by
  obtain ⟨course, is, begun⟩ := telling.exists_course
  exact .cancelled is begun telling.listeners_eq

/-- There is one attempt. -/
theorem exists_phase (telling : Telling name script s told) :
    ∃ phase buses, s = ⟨name, [phase], buses⟩ := by
  cases telling <;> exact ⟨_, _, rfl⟩

end Telling

namespace Connection

variable {h : Host (Connection ρ)} {name : Text} {script : BusScript} {told : List Event}

theorem story_of_line {c c' : Connection ρ} (line : c'.line = c.line) : c'.story = c.story := by
  have bare (c : Connection ρ) : c.line.story = c.story := by
    simp [Connection.line, Connection.story, MessageBus.bare, MessageBus.gist]
  rw [← bare c', line, bare]

theorem listeners_story (c : Connection ρ) :
    (c.newest?.map MessageBus.listeners).getD 0 = c.story.listeners := by
  unfold Story.listeners Connection.story newest?
  rw [List.getLast?_map, Option.map_map]
  rfl

/-- A connection with a single bus. -/
theorem exists_bus_of_story {attempts : List OwnershipPhase} {listeners : Nat}
    (story : h.state.story = ⟨name, attempts, [(script, listeners)]⟩) :
    ∃ b, h.state.buses = [b] ∧ b.script = script ∧ b.listeners = listeners := by
  have buses := congrArg Story.buses story
  obtain ⟨b, single, same⟩ := List.map_eq_singleton_iff.1 buses
  cases same
  exact ⟨b, single, rfl, rfl⟩

theorem story_changeBus (c : Connection ρ) (number : Nat) {f : MessageBus ρ → MessageBus ρ}
    (same : ∀ b, (f b).gist = b.gist) : (c.changeBus number f).story = c.story := by
  have buses : (c.buses.modify number f).map MessageBus.gist = c.buses.map MessageBus.gist := by
    refine List.ext_getElem? fun i => ?_
    rw [List.getElem?_map, List.getElem?_map, List.getElem?_modify]
    cases c.buses[i]? with
    | none => rfl
    | some b =>
      by_cases here : number = i
      · simp [here, same]
      · simp [here]
  exact congrArg (Story.mk c.name c.attempts) buses

/-! ### The attempt goes on -/

/-- An attempt that ends reports a loss. -/
theorem ends_loss {phase : OwnershipPhase} {buses : List (BusScript × Nat)} (reason : LossReason)
    (detail : Text) (story : h.state.story = ⟨name, [phase], buses⟩) :
    (do postLoss reason detail; setPhase 0 .ended).Ends h fun _ h' =>
      h'.queue = h.queue ++ [loss name reason detail] ∧
        h'.state.story = Story.mk name [.ended] buses := by
  have named : h.state.name = name := congrArg Story.name story
  have attempts : h.state.attempts = [phase] := congrArg Story.attempts story
  have listening : h.state.buses.map MessageBus.gist = buses := congrArg Story.buses story
  unfold postLoss setPhase
  simp only [ends_bind, ends_state, ends_post, ends_update]
  refine ⟨by rw [named]; rfl, ?_⟩
  simp only [Connection.story, named, attempts, listening, List.set_cons_zero]

/-- What an attempt tells as it goes on. -/
structure Tells (name : Text) (script : BusScript) (told : List Event) (h h' : Host (Connection ρ))
    (more : List Event) : Prop where
  queue : h'.queue = h.queue ++ more
  telling : Telling name script h'.state.story (told ++ more)
  grants : (∃ v, .nameAcquired v ∈ more) ↔ h.state.story.IsGranted script

theorem ends_makeBus_tells (story : h.state.story = ⟨name, [.starting script], []⟩) :
    (makeBus 0 script).Ends h fun _ h' => ∃ more, Tells name script [] h h' more := by
  have notGranted : ¬ h.state.story.IsGranted script := by
    rw [story]
    rintro ⟨attempts, -⟩
    cases attempts
  unfold makeBus
  cases script.createFault with
  | some f =>
    refine (ends_loss _ _ story).mono ?_
    rintro _ h' ⟨queue, story'⟩
    refine ⟨_, queue, ?_, iff_of_false ?_ notGranted⟩
    · rw [story']
      exact .ended (.unconnected _) rfl
    · simp [loss]
  | none =>
    have named : h.state.name = name := congrArg Story.name story
    have attempts : h.state.attempts = [.starting script] := congrArg Story.attempts story
    have buses : h.state.buses = [] := List.map_eq_nil_iff.1 (congrArg Story.buses story)
    unfold setPhase
    simp only [ends_bind, ends_state, ends_note, ends_update]
    refine ⟨[], (List.append_nil _).symm, ?_, iff_of_false (by simp) notGranted⟩
    simp only [Connection.story, named, attempts, buses]
    exact .connecting

theorem ends_afterConnect_tells (story : h.state.story = ⟨name, [.connecting 0], [(script, 0)]⟩) :
    (afterConnect 0 0 script).Ends h fun _ h' => ∃ more, Tells name script [] h h' more := by
  have notGranted : ¬ h.state.story.IsGranted script := by
    rw [story]
    rintro ⟨attempts, -⟩
    cases attempts
  unfold afterConnect
  cases script.connectFault with
  | some f =>
    refine (ends_loss _ _ story).mono ?_
    rintro _ h' ⟨queue, story'⟩
    refine ⟨_, queue, ?_, iff_of_false ?_ notGranted⟩
    · rw [story']
      exact .ended (.unconnected _) rfl
    · simp [loss]
  | none =>
    have named : h.state.name = name := congrArg Story.name story
    have attempts : h.state.attempts = [.connecting 0] := congrArg Story.attempts story
    obtain ⟨b, single, rfl, unheard⟩ := exists_bus_of_story story
    unfold setPhase
    simp only [ends_bind, ends_state, ends_note, ends_update, ends_post]
    refine ⟨[.busAcquired], rfl, ?_, iff_of_false (by simp) notGranted⟩
    simp only [Connection.story, Connection.changeBus, named, attempts, single,
      List.modify_zero_cons,
      List.map_cons, List.map_nil, MessageBus.gist, unheard, List.set_cons_zero]
    exact .requesting

theorem ends_afterRequest_tells (story : h.state.story = ⟨name, [.requesting 0], [(script, 1)]⟩) :
    (afterRequest 0 script).Ends h fun _ h' =>
      ∃ more, Tells name script [.busAcquired] h h' more := by
  have granted : h.state.story.IsGranted script ↔
      script.requestFault = none ∧
        (script.reply = .primaryOwner ∨ script.reply = .alreadyOwner) := by
    rw [story]
    exact and_iff_right rfl
  have refused (reason : LossReason) (detail : Text) (late : reason ≠ .noConnection)
      (notGranted : ¬ h.state.story.IsGranted script) :
      (do postLoss reason detail; setPhase 0 .ended).Ends h fun _ h' =>
        ∃ more, Tells name script [.busAcquired] h h' more := by
    refine (ends_loss _ _ story).mono ?_
    rintro _ h' ⟨queue, story'⟩
    refine ⟨_, queue, ?_, iff_of_false (by simp [loss]) notGranted⟩
    rw [story']
    exact .ended (.refused detail late) rfl
  unfold afterRequest
  cases fault : script.requestFault with
  | some f =>
    have notGranted : ¬ h.state.story.IsGranted script := by simp [granted, fault]
    refine refused _ _ ?_ notGranted
    cases f.isBus <;> decide
  | none =>
    refine ends_ite (fun owner => ?_) fun other => ?_
    · have isGranted : h.state.story.IsGranted script := by
        refine granted.2 ⟨fault, ?_⟩
        cases reply : script.reply <;> simp_all [NameReply.isOwner]
      have named : h.state.name = name := congrArg Story.name story
      have attempts : h.state.attempts = [.requesting 0] := congrArg Story.attempts story
      have buses : h.state.buses.map MessageBus.gist = [(script, 1)] := congrArg Story.buses story
      simp only [ends_bind, ends_update, ends_state, ends_post]
      cases h.state.link with
      | some bus =>
        unfold setPhase
        simp only [ends_bind, ends_note, ends_update]
        refine ⟨[.nameAcquired (.text name)], by rw [named], ?_,
          iff_of_true ⟨_, List.mem_singleton_self _⟩ isGranted⟩
        simp only [Connection.story, named, attempts, buses, List.set_cons_zero]
        exact .waiting bus
      | none =>
        have owned : Connection.story { h.state with isOwner := true } =
            ⟨name, [.requesting 0], [(script, 1)]⟩ := story
        refine Ends.mono (ends_loss _ _ owned) ?_
        rintro _ h' ⟨queue, story'⟩
        refine ⟨[.nameAcquired (.text name),
          loss name .connectionClosed Fault.noConnection.message], ?_, ?_,
          iff_of_true ⟨_, List.mem_cons_self⟩ isGranted⟩
        · rw [queue, named, List.append_assoc]
          rfl
        · rw [story']
          exact .ended (.owned _) rfl
    · have notGranted : ¬ h.state.story.IsGranted script := by
        rw [granted]
        rintro ⟨-, reply | reply⟩ <;> simp [reply, NameReply.isOwner] at other
      exact refused _ _ (by decide) notGranted

theorem ends_afterHangup_tells {bus : Nat} (fault : Option Fault)
    (story : h.state.story = ⟨name, [.waiting bus], [(script, 1)]⟩) :
    (afterHangup 0 fault).Ends h fun _ h' => ∃ more,
      Tells name script [.busAcquired, .nameAcquired (.text name)] h h' more := by
  have notGranted : ¬ h.state.story.IsGranted script := by
    rw [story]
    rintro ⟨attempts, -⟩
    cases attempts
  have closed (detail : Text) :
      (do postLoss .connectionClosed detail; setPhase 0 .ended).Ends h fun _ h' =>
      ∃ more, Tells name script [.busAcquired, .nameAcquired (.text name)] h h' more := by
    refine (ends_loss _ _ story).mono ?_
    rintro _ h' ⟨queue, story'⟩
    refine ⟨_, queue, ?_, iff_of_false (by simp [loss]) notGranted⟩
    rw [story']
    exact .ended (.owned detail) rfl
  unfold afterHangup
  cases fault with
  | some f => exact closed f.message
  | none => exact closed ""

/-- An attempt that does not go on tells nothing. -/
theorem Tells.nothing (telling : Telling name script h.state.story told)
    (notGranted : ¬ h.state.story.IsGranted script) : Tells name script told h h [] where
  queue := (List.append_nil _).symm
  telling := by
    rw [List.append_nil]
    exact telling
  grants := iff_of_false (by simp) notGranted

/-- Whatever phase the attempt is in, what it told and tells as it goes on is the beginning of a
course.  The name is reported as acquired exactly if the answer to the request grants it. -/
theorem ends_resume_tells (telling : Telling name script h.state.story told) :
    (resume 0).Ends h fun _ h' => ∃ more, Tells name script told h h' more := by
  have silent (other : ∀ bus, h.state.attempts ≠ [.requesting bus]) :
      Tells name script told h h [] :=
    .nothing telling fun granted => other 0 granted.1
  generalize story : h.state.story = s at telling
  have attempts := congrArg Story.attempts story
  unfold resume
  simp only [ends_bind, ends_state]
  cases telling with
  | starting =>
    change h.state.attempts = _ at attempts
    rw [attempts]
    exact ends_makeBus_tells story
  | connecting =>
    change h.state.attempts = _ at attempts
    obtain ⟨b, single, rfl, -⟩ := exists_bus_of_story story
    simp only [attempts, bus?, single]
    exact ends_afterConnect_tells story
  | requesting =>
    change h.state.attempts = _ at attempts
    obtain ⟨b, single, rfl, -⟩ := exists_bus_of_story story
    simp only [attempts, bus?, single]
    exact ends_afterRequest_tells story
  | waiting bus =>
    change h.state.attempts = _ at attempts
    rw [attempts]
    dsimp only [List.getElem?_cons_zero]
    cases (h.state.bus? bus).bind MessageBus.hangup with
    | none => exact ⟨[], silent (by rw [attempts]; nofun)⟩
    | some fault => exact ends_afterHangup_tells fault story
  | ended course heard =>
    change h.state.attempts = _ at attempts
    rw [attempts]
    exact ⟨[], silent (by rw [attempts]; nofun)⟩
  | cancelled course begun heard =>
    change h.state.attempts = _ at attempts
    rw [attempts]
    exact ⟨[], silent (by rw [attempts]; nofun)⟩

/-! ### Beside the attempt -/

/-- Nothing is told, and what is told next stays as it is. -/
def Silent (h₀ h : Host (Connection ρ)) : Prop :=
  h.state.story = h₀.state.story ∧ h.queue = h₀.queue

theorem story_setBus (c : Connection ρ) {number : Nat} {b : MessageBus ρ}
    (same : b.gist = ((c.bus? number).getD {}).gist) :
    story { c with buses := c.buses.set number b } = c.story := by
  have buses : (c.buses.set number b).map MessageBus.gist = c.buses.map MessageBus.gist := by
    rw [List.map_set, same]
    by_cases inside : number < c.buses.length
    · have there : number < (c.buses.map MessageBus.gist).length := by simpa using inside
      simpa [bus?, inside] using List.set_getElem_self there
    · rw [List.set_eq_of_length_le (by simpa using inside)]
  exact congrArg (Story.mk c.name c.attempts) buses

variable {h₀ : Host (Connection ρ)}

theorem silent_update {f : Connection ρ → Connection ρ} (same : ∀ c, (f c).story = c.story) :
    (update f).Keeps (Silent h₀) := fun h silent => ⟨(same h.state).trans silent.1, silent.2⟩

theorem silent_withinBus {α : Type} {number : Nat} {x : Act (MessageBus ρ) α}
    (spares : ∀ h : Host (MessageBus ρ), x.Ends h fun _ h' =>
      h'.state.gist = h.state.gist ∧ h'.queue = h.queue) :
    (withinBus number x).Keeps (Silent h₀) := by
  rintro h ⟨story, queue⟩
  refine Ends.within ((spares _).mono ?_)
  rintro r h' ⟨gist, kept⟩
  exact ⟨(story_setBus h.state gist).trans story, kept.trans queue⟩

theorem gist_hungUp (b : MessageBus ρ) (fault : Option Fault) : (b.hungUp fault).gist = b.gist := by
  unfold MessageBus.hungUp
  cases b.hangup <;> rfl

theorem silent_hangUp (fault : Option Fault) : (hangUp fault).Keeps (Silent h₀) :=
  silent_update fun c => story_changeBus c _ fun b => gist_hungUp b fault

theorem silent_releaseName (number : Nat) (name : Text) :
    (withinBus number (MessageBus.releaseName name)).Keeps (Silent h₀) :=
  silent_withinBus fun _ =>
    MessageBus.ends_releaseName_of (fun _ => ⟨rfl, rfl⟩) fun _ _ => ⟨rfl, rfl⟩

theorem silent_disconnect (number : Nat) :
    (withinBus number MessageBus.disconnect).Keeps (Silent h₀) :=
  silent_withinBus fun h =>
    (⟨gist_hungUp h.state none, rfl⟩ : MessageBus.disconnect.Ends h fun _ h' =>
      h'.state.gist = h.state.gist ∧ h'.queue = h.queue)

theorem silent_beginRelease : (beginRelease : Act (Connection ρ) Request).Keeps (Silent h₀) :=
  keeps_beginRelease_of (silent_update fun _ => rfl) silent_releaseName

theorem silent_release : (release : Act (Connection ρ) Unit).Keeps (Silent h₀) :=
  keeps_release_of silent_beginRelease <|
    keeps_finishRelease_of (fun _ _ _ silent => silent) (silent_update fun _ => rfl)
      silent_disconnect

/-- Cancelling the attempt tells nothing, and leaves what was told the beginning of a course. -/
theorem ends_cancel_telling (telling : Telling name script h.state.story told) :
    (cancel 0).Ends h fun _ h' => Telling name script h'.state.story told ∧ h'.queue = h.queue := by
  obtain ⟨phase, buses, story⟩ := telling.exists_phase
  have attempts : h.state.attempts = [phase] := congrArg Story.attempts story
  unfold cancel
  simp only [ends_bind, ends_state, attempts, List.getElem?_cons_zero]
  refine ends_ite (fun _ => ?_) fun _ => ⟨telling, rfl⟩
  unfold setPhase
  rw [ends_update]
  have cancelled : Connection.story { h.state with attempts := h.state.attempts.set 0 .cancelled } =
      ⟨name, [.cancelled], buses⟩ := by
    have named : h.state.name = name := congrArg Story.name story
    have listening : h.state.buses.map MessageBus.gist = buses := congrArg Story.buses story
    simp only [Connection.story, named, attempts, listening, List.set_cons_zero]
  rw [cancelled]
  rw [story] at telling
  exact ⟨telling.cancel, rfl⟩

/-! ### Messages -/

theorem ends_hear_story (m : Message) (named : h.state.name = name) :
    (hear m).Ends h fun _ h' => h'.state.story = h.state.story ∧
      (m.Revokes name → h'.queue = h.queue ++ [loss name .nameRevoked ""]) ∧
      (¬ m.Revokes name → h'.queue = h.queue) := by
  unfold hear
  simp only [ends_bind, ends_state, named]
  cases heard : m.revokes name with
  | error f =>
    have other : ¬ m.Revokes name := fun revokes => by
      rw [← Message.revokes_iff, heard] at revokes
      cases revokes
    exact ⟨rfl, fun revokes => absurd revokes other, fun _ => rfl⟩
  | ok revoked =>
    have same : m.Revokes name ↔ revoked = true := by
      rw [← Message.revokes_iff, heard, Except.ok.injEq]
    cases revoked with
    | true =>
      have revokes : m.Revokes name := same.2 rfl
      refine ⟨rfl, fun _ => ?_, fun other => absurd revokes other⟩
      rw [← named]
      rfl
    | false =>
      have other : ¬ m.Revokes name := fun revokes => Bool.false_ne_true (same.1 revokes)
      exact ⟨rfl, fun revokes => absurd revokes other, fun _ => rfl⟩

/-- A message is heard once the bus was acquired, and tells of a loss if it revokes the name. -/
theorem ends_deliver_story (m : Message) (telling : Telling name script h.state.story told) :
    (deliver m).Ends h fun _ h' => h'.state.story = h.state.story ∧
      (acquisitions told = 1 → m.Revokes name → h'.queue = h.queue ++ [loss name .nameRevoked ""]) ∧
      (¬ (acquisitions told = 1 ∧ m.Revokes name) → h'.queue = h.queue) := by
  unfold deliver
  simp only [ends_bind, ends_state]
  rw [listeners_story, telling.listeners_eq]
  obtain none | one : acquisitions told = 0 ∨ acquisitions told = 1 := by
    have := telling.acquisitions_le
    omega
  · rw [none]
    exact ⟨rfl, fun one => absurd one (by decide), fun _ => rfl⟩
  · rw [one]
    have heard := ends_hear_story (h := h) m telling.name_eq
    simp only [true_and, forall_const]
    change (hear m >>= fun _ => pure ()).Ends h _
    exact heard.bind (fun _ _ same => same) fun _ _ same => same

end Connection

end GpioBroker
