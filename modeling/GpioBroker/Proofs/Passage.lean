import GpioBroker.Proofs.Addition

/-!
# Passages

Every operation of the broker takes what is shown to what is shown: the link between entries,
records and objects holds after it, whether it ended well or failed.  If the surroundings are tame
it also keeps the balance of chips: a chip that was opened is either held by an exposure or was
closed once.
-/

namespace GpioBroker

open Act

/-- A source that closes no chip. -/
structure UeventSource.SparesChips (η : Type) [UeventSource η] : Prop where
  subscribe : ∀ (h : Host η) s,
    closes ((UeventSource.subscribe (η := η)).run h).2.calls s = closes h.calls s
  enumerate : ∀ (h : Host η) s,
    closes ((UeventSource.enumerate (η := η)).run h).2.calls s = closes h.calls s

namespace Broker

variable {η : Type} [UeventSource η] {h h' h₁ h₂ : Host (Broker (Connection Value) η)}
variable {xs xs' xs₁ xs₂ : List Exposure}

/-- The devices, those of the exposed chips, and the buses do only what the broker expects. -/
structure IsTame (b : Broker (Connection Value) η) (xs : List Exposure) : Prop where
  devices : ∀ d ∈ b.bindings.devices, d.IsTame
  held : ∀ x ∈ xs, x.chip.device.IsTame
  buses : ∀ bus ∈ b.roster.bus.buses, bus.script.IsTame
  source : UeventSource.SparesChips η

/-- The chips opened meanwhile are those closed meanwhile and those held in addition. -/
def Balances (h : Host (Broker (Connection Value) η)) (xs : List Exposure)
    (h' : Host (Broker (Connection Value) η)) (xs' : List Exposure) : Prop :=
  ∀ s, (closes h'.calls s + holders xs' s + if s < h.state.bindings.nextSerial then 1 else 0) =
    closes h.calls s + holders xs s + if s < h'.state.bindings.nextSerial then 1 else 0

/-- What an operation of the broker does to what is shown. -/
structure Passes (h : Host (Broker (Connection Value) η)) (xs : List Exposure)
    (h' : Host (Broker (Connection Value) η)) (xs' : List Exposure) : Prop where
  shows : h'.state.roster.Shows xs'
  devices : h'.state.bindings.devices = h.state.bindings.devices
  line : h'.state.roster.bus.line = h.state.roster.bus.line
  held : ∀ x ∈ xs', x ∈ xs ∨ x.chip.device ∈ h.state.bindings.devices
  balance : h.state.IsTame xs → Balances h xs h' xs'

theorem Passes.refl (shows : h.state.roster.Shows xs) : Passes h xs h xs where
  shows := shows
  devices := rfl
  line := rfl
  held := fun _ hx => .inl hx
  balance := fun _ _ => rfl

/-- What is tame stays so. -/
theorem Passes.isTame (passes : Passes h xs h' xs') (tame : h.state.IsTame xs) :
    h'.state.IsTame xs' where
  devices := by
    rw [passes.devices]
    exact tame.devices
  held x hx := by
    rcases passes.held x hx with old | new
    · exact tame.held x old
    · exact tame.devices _ new
  buses bus hb := by
    by_contra wild
    obtain ⟨b, hb', wild'⟩ := Roster.hasWildBus_of_line passes.line ⟨bus, hb, wild⟩
    exact wild' (tame.buses b hb')
  source := tame.source

theorem Passes.trans (first : Passes h xs h₁ xs₁) (second : Passes h₁ xs₁ h₂ xs₂) :
    Passes h xs h₂ xs₂ where
  shows := second.shows
  devices := second.devices.trans first.devices
  line := second.line.trans first.line
  held x hx := by
    rcases second.held x hx with old | new
    · exact first.held x old
    · rw [first.devices] at new
      exact .inr new
  balance tame s := by
    have := first.balance tame s
    have := second.balance (first.isTame tame) s
    omega

/-- What only adds to the log passes nothing. -/
theorem Passes.of_state (passes : Passes h xs h₁ xs₁) (state : h₂.state = h₁.state)
    (calls : ∀ s, closes h₂.calls s = closes h₁.calls s) : Passes h xs h₂ xs₁ where
  shows := by
    rw [state]
    exact passes.shows
  devices := by rw [state, passes.devices]
  line := by rw [state, passes.line]
  held := passes.held
  balance tame s := by
    rw [calls, state]
    exact passes.balance tame s

/-! ### Adding and removing -/

theorem ends_addChip_passes (shows : h.state.roster.Shows xs) (deviceId : Value) :
    (addChip deviceId).Ends h fun _ h' => ∃ xs', Passes h xs h' xs' := by
  refine (ends_addChip deviceId).mono ?_
  rintro _ h' ⟨spares, adding⟩
  cases adding with
  | refused e same known =>
    subst same
    exact ⟨xs, .refl shows⟩
  | dropped _ key named absent misses dropped entries objects next records evens =>
    refine ⟨xs, ?_, spares.devices, spares.line, fun _ hx => .inl hx, fun tame s => ?_⟩
    · exact shows.same entries objects next fun x hx => records _ (shows.number_lt hx)
    · rcases evens with evens | ⟨d, hd, wild⟩ | ⟨bus, hb, wild⟩
      · have := evens s
        omega
      · exact absurd (tame.devices d hd) wild
      · exact absurd (tame.buses bus hb) wild
  | exposed x named absent meets number registration serial device entries objects records next
      opened kept =>
    refine ⟨xs ++ [x], ?_, spares.devices, spares.line, fun y hy => ?_, fun _ s => ?_⟩
    · exact shows.add entries objects records number registration next fun y hy =>
        shows.id_ne_of_absent absent hy
    · rcases List.mem_append.1 hy with old | new
      · exact .inl old
      · obtain rfl := List.mem_singleton.1 new
        exact .inr device
    · have one : holders (xs ++ [x]) s =
          holders xs s + if h.state.bindings.nextSerial = s then 1 else 0 := by
        simp [holders, List.countP_append, List.countP_singleton, serial]
      rw [kept, one, opened, Bindings.given_advanced]
      omega

theorem ends_removeChip_passes (shows : h.state.roster.Shows xs) (deviceId : Value) :
    (removeChip deviceId).Ends h fun _ h' => ∃ xs', Passes h xs h' xs' := by
  unfold removeChip
  simp only [ends_bind, ends_log]
  refine Ends.within ?_
  refine Ends.mono (Roster.ends_remove shows deviceId) ?_
  rintro r h' (⟨rfl, -, -⟩ | ⟨x, hx, rfl, shows', line, closed, -⟩)
  · exact ⟨xs, .of_state (.refl shows) rfl fun _ => rfl⟩
  · refine ⟨_, shows', rfl, line, fun y hy => .inl (List.mem_filter.1 hy).1, fun _ s => ?_⟩
    have closed : closes h'.calls s = closes h.calls s + _ := closed s
    have fewer := holders_filter shows.ids hx s
    change closes h'.calls s + _ + _ =
      closes h.calls s + _ + if s < h.state.bindings.nextSerial then 1 else 0
    omega

/-- The broker destroys what is shown, and all of it if the surroundings are tame. -/
theorem ends_clear (shows : h.state.roster.Shows xs) :
    (withinRoster Roster.clear).Ends h fun _ h' => ∃ xs', Passes h xs h' xs' ∧
      h'.state.source = h.state.source ∧ (h.state.IsTame xs → xs' = []) := by
  refine Ends.within ((Roster.ends_clear shows).mono ?_)
  rintro r h' ⟨gone, rest, split, shows', line, closed, all, wild⟩
  refine ⟨rest, ⟨shows', rfl, line, fun x hx => .inl ?_, fun _ s => ?_⟩, rfl, fun tame => ?_⟩
  · rw [split]
    exact List.mem_append_right _ hx
  · have closed : closes h'.calls s = closes h.calls s + _ := closed s
    rw [split, holders_append]
    change closes h'.calls s + _ + _ =
      closes h.calls s + _ + if s < h.state.bindings.nextSerial then 1 else 0
    omega
  · cases r with
    | ok u => exact all u rfl
    | error e =>
      rcases wild e rfl with ⟨x, hx, wild⟩ | ⟨bus, hb, wild⟩
      · exact absurd (tame.held x hx) wild
      · exact absurd (tame.buses bus hb) wild

theorem ends_destroyAll (shows : h.state.roster.Shows xs) :
    destroyAll.Ends h fun _ h' => ∃ xs', Passes h xs h' xs' ∧ h'.state.source = h.state.source ∧
      (h.state.IsTame xs → xs' = []) := by
  unfold destroyAll
  simp only [ends_bind, ends_state]
  refine ends_ite (fun _ => ?_) fun _ => ends_clear shows
  simp only [ends_bind, ends_log]
  refine Ends.mono (@ends_clear _ _ _ xs shows) ?_
  rintro r h' ⟨xs', passes, source, all⟩
  refine ⟨xs', Passes.trans (Passes.of_state (.refl shows) ?_ ?_) passes, source, all⟩
  · rfl
  · exact fun _ => rfl

/-! ### The operations of the broker -/

section Keeps

variable {I : Host (Broker (Connection Value) η) → Prop}

omit [UeventSource η] in
/-- What adding and removing a chip keep, following an action on a device keeps. -/
theorem keeps_onUevent (log : ∀ level text, (Act.log level text).Keeps I)
    (add : ∀ deviceId, (addChip deviceId).Keeps I)
    (remove : ∀ deviceId, (removeChip deviceId).Keeps I) (e : Uevent) : (onUevent e).Keeps I := by
  refine Keeps.ite ?_ (keeps_pure ())
  refine (log _ _).bind fun _ => Keeps.ite ?_ (Keeps.ite ?_ ?_)
  · exact (add _).discard
  · exact remove _
  · exact log _ _

omit [UeventSource η] in
theorem keeps_addEntry (add : ∀ deviceId, (addChip deviceId).Keeps I) (e : Event) :
    (addEntry e).Keeps I := by
  cases e with
  | uevent e => exact Keeps.ite (add _).discard (keeps_pure ())
  | _ => exact keeps_fail _

omit [UeventSource η] in
theorem keeps_addListed (add : ∀ deviceId, (addChip deviceId).Keeps I) (l : Listing) :
    (addListed l).Keeps I :=
  (Keeps.forM (keeps_addEntry add) l.events).bind fun _ => keeps_failing _

end Keeps

/-- A property of hosts that all the broker does keeps, for it keeps the steps that this is made
of. -/
structure IsKept (I : Host (Broker (Connection Value) η) → Prop) : Prop where
  loose : IsLoose I
  setOwnership : ∀ ownership, (setOwnership ownership).Keeps I
  addChip : ∀ deviceId, (addChip deviceId).Keeps I
  removeChip : ∀ deviceId, (removeChip deviceId).Keeps I
  subscribe : (withinSource UeventSource.subscribe).Keeps I
  enumerate : (withinSource UeventSource.enumerate).Keeps I

namespace IsKept

variable {I : Host (Broker (Connection Value) η) → Prop}

theorem onNameAcquired (kept : IsKept I) (name : Value) : (onNameAcquired name).Keeps I := by
  refine (keeps_log kept.loose _ _).bind fun _ => (kept.setOwnership _).bind fun _ => ?_
  refine kept.subscribe.bind fun _ => kept.enumerate.bind fun _ => ?_
  exact keeps_addListed kept.addChip _

/-- Handling an event keeps what all the broker does keeps. -/
theorem handle (kept : IsKept I) (e : Event) : (handle e).Keeps I := by
  have log := keeps_log kept.loose
  cases e with
  | uevent e => exact keeps_onUevent log kept.addChip kept.removeChip e
  | busAcquired => exact (log _ _).bind fun _ => kept.setOwnership _
  | nameAcquired name => exact kept.onNameAcquired name
  | nameLost loss =>
    exact (log _ _).bind fun _ => (kept.setOwnership _).bind fun _ => keeps_fail _
  | signal number => exact log _ _
  | other v => exact log _ _

end IsKept

omit [UeventSource η] in
theorem keeps_getProperty {I : Host (Broker (Connection Value) η) → Prop}
    (log : ∀ level text, (Act.log level text).Keeps I) (deviceId name : Value) :
    (getProperty deviceId name).Keeps I := by
  refine (log _ _).bind fun _ => keeps_state.bind fun b => ?_
  exact (keeps_ofExcept _).bind fun _ => (keeps_ofExcept _).bind fun _ => keeps_pure _

/-- What a host shows that was reached by passages. -/
def Shown (h₀ : Host (Broker (Connection Value) η)) (xs₀ : List Exposure)
    (h : Host (Broker (Connection Value) η)) : Prop :=
  ∃ xs, Passes h₀ xs₀ h xs

section Shown

variable {h₀ : Host (Broker (Connection Value) η)} {xs₀ : List Exposure}

theorem isLoose_shown : IsLoose (Shown h₀ xs₀) := by
  rintro h h' state calls ⟨xs, passes⟩
  exact ⟨xs, passes.of_state state fun _ => by rw [calls]⟩

/-- An action that passes from whatever is shown. -/
theorem keeps_shown {α : Type} {x : Act (Broker (Connection Value) η) α}
    (passes : ∀ h xs, h.state.roster.Shows xs → x.Ends h fun _ h' => ∃ xs', Passes h xs h' xs') :
    x.Keeps (Shown h₀ xs₀) := by
  rintro h ⟨xs, before⟩
  refine (passes h xs before.shows).mono ?_
  rintro r h' ⟨xs', after⟩
  exact ⟨xs', before.trans after⟩

theorem keeps_setOwnership (ownership : Ownership) :
    (setOwnership ownership).Keeps (Shown h₀ xs₀) :=
  keeps_shown fun _ xs shows => ⟨xs, shows, rfl, rfl, fun _ hx => .inl hx, fun _ _ => rfl⟩

theorem keeps_withinSource {α : Type} {x : Act η α} (spares : UeventSource.SparesChips η →
    ∀ (h : Host η) s, closes (x.run h).2.calls s = closes h.calls s) :
    (withinSource x).Keeps (Shown h₀ xs₀) := by
  refine keeps_shown fun h xs shows => Ends.within ?_
  refine ⟨xs, shows, rfl, rfl, fun _ hx => .inl hx, fun tame s => ?_⟩
  have kept : closes (x.run (h.withState h.state.source)).2.calls s = closes h.calls s :=
    spares tame.source _ s
  change closes (x.run (h.withState h.state.source)).2.calls s + _ + _ = _
  rw [kept]
  rfl

/-- All that the broker does takes what is shown to what is shown. -/
theorem isKept_shown : IsKept (Shown h₀ xs₀) where
  loose := isLoose_shown
  setOwnership := keeps_setOwnership
  addChip deviceId := keeps_shown fun _ _ shows => ends_addChip_passes shows deviceId
  removeChip deviceId := keeps_shown fun _ _ shows => ends_removeChip_passes shows deviceId
  subscribe := keeps_withinSource UeventSource.SparesChips.subscribe
  enumerate := keeps_withinSource UeventSource.SparesChips.enumerate

theorem keeps_destroyAll : destroyAll.Keeps (Shown h₀ xs₀) :=
  keeps_shown fun _ _ shows =>
    (ends_destroyAll shows).mono fun _ _ ⟨xs', passes, _⟩ => ⟨xs', passes⟩

end Shown

end Broker

end GpioBroker
