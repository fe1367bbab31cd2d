import GpioBroker.Proofs.Isolation
import GpioBroker.Proofs.Screening

/-!
# Actions on different devices, in either order

An action on a device is local to it: it leaves everything alone that is seen of another device.
What it does follows from what is seen of its own device.  So it does not matter in which order two
actions on different devices are followed: each ends in the same way before the other and after it,
and what they leave differs in numbers and in the order of entry only.
-/

namespace GpioBroker

open Act

/-! ### The metadata of exposed devices -/

namespace Roster

variable {β : Type}

/-- The metadata of the exposed device with a key. -/
def info? (r : Roster β) (key : Key) : Option ChipInfo :=
  ((r.record? key).bind Record.handle).map Handle.info

theorem info?_of_absent {r : Roster β} {key : Key} (absent : r.contains key = false) :
    r.info? key = none := by
  unfold info? record?
  rw [find?_of_absent absent]
  rfl

variable {r r' : Roster (Connection Value)} {xs xs' : List Exposure} {x : Exposure} {key : Key}

theorem Shows.info?_eq_some (shows : r.Shows xs) (hx : x ∈ xs) :
    r.info? (.text x.id) = some x.info := by
  unfold info?
  rw [shows.record?_eq_some hx]
  rfl

/-- The exposed devices are those that have metadata. -/
theorem Shows.isSome_info? (shows : r.Shows xs) : (r.info? key).isSome = r.contains key := by
  cases known : r.contains key with
  | false => rw [info?_of_absent known, Option.isSome_none]
  | true =>
    obtain ⟨x, hx, rfl⟩ := shows.contains_iff.1 known
    rw [shows.info?_eq_some hx, Option.isSome_some]

/-- Rosters that show the same exposures of a device have the same metadata of it. -/
theorem Shows.info?_congr (shows : r.Shows xs) (shows' : r'.Shows xs')
    (same : ∀ x, key = .text x.id → (x ∈ xs' ↔ x ∈ xs)) : r'.info? key = r.info? key := by
  cases known : r.contains key with
  | true =>
    obtain ⟨x, hx, rfl⟩ := shows.contains_iff.1 known
    rw [shows.info?_eq_some hx, shows'.info?_eq_some ((same x rfl).2 hx)]
  | false =>
    have unknown : r'.contains key = false := by
      refine Bool.eq_false_iff.2 fun there => ?_
      obtain ⟨x, hx, rfl⟩ := shows'.contains_iff.1 there
      rw [shows.contains_iff.2 ⟨x, (same x rfl).1 hx, rfl⟩] at known
      cases known
    rw [info?_of_absent known, info?_of_absent unknown]

/-- Removing a device is local to it. -/
theorem ends_remove_local {h : Host (Roster (Connection Value))} (shows : h.state.Shows xs)
    (deviceId : Value) :
    (remove deviceId).Ends h fun _ h' =>
      (∀ q, (∀ t, deviceId = .text t → objectPath t ≠ q) →
        h'.state.bus.outlook q = h.state.bus.outlook q) ∧
      (∀ q, (∀ t, deviceId = .text t → objectPath t ≠ q) →
        h'.state.bus.exportsAt q = h.state.bus.exportsAt q) ∧
        ∀ ys, h.state.Shows ys →
          ∃ ys', h'.state.Shows ys' ∧ ∀ x, deviceId ≠ .text x.id → (x ∈ ys' ↔ x ∈ ys) := by
  have shown (ys : List Exposure) (shows : h.state.Shows ys) : (remove deviceId).Ends h fun _ h' =>
      ∃ ys', h'.state.Shows ys' ∧ ∀ x, deviceId ≠ .text x.id → (x ∈ ys' ↔ x ∈ ys) := by
    refine (ends_remove shows deviceId).mono ?_
    rintro _ h' (⟨rfl, -, -⟩ | ⟨y, -, rfl, shows', -⟩)
    · exact ⟨ys, shows, fun _ _ => .rfl⟩
    · refine ⟨_, shows', fun x apart => ?_⟩
      have other : x.id ≠ y.id := fun same => apart (by rw [same])
      simp [other]
  have buses : (remove deviceId).Ends h fun _ h' =>
    ∀ q, (∀ t, deviceId = .text t → objectPath t ≠ q) →
      h'.state.bus.outlook q = h.state.bus.outlook q ∧
        h'.state.bus.exportsAt q = h.state.bus.exportsAt q := by
    refine (ends_remove_confined shows deviceId).mono ?_
    rintro _ h' (⟨-, bus⟩ | ⟨x, -, rfl, -, bus⟩) q apart
    · rw [bus]
      exact ⟨rfl, rfl⟩
    · exact ⟨bus.outlook q (apart x.id rfl).symm, bus.exports q (apart x.id rfl).symm⟩
  exact ⟨fun q apart => (buses q apart).1, fun q apart => (buses q apart).2, shown⟩

end Roster

namespace Bindings

/-- The metadata that a device name leads to. -/
def info? (b : Bindings) (deviceId : Value) : Option ChipInfo :=
  (b.pathOf deviceId).toOption.bind fun path =>
    (b.find? path).bind fun device => device.info?.toOption

theorem info?_of_rest {b b' : Bindings} (same : b'.rest = b.rest) (deviceId : Value) :
    b'.info? deviceId = b.info? deviceId := by
  unfold info?
  rw [pathOf_of_rest same, funext (find?_of_rest same)]

theorem Captures.info? {b : Bindings} {handle : Handle} (captures : b.Captures handle) :
    b.info? handle.deviceId = some handle.info := by
  obtain ⟨t, path, device, named, leads, found, read⟩ := captures
  unfold Bindings.info?
  rw [named, leads]
  change ((b.find? path).bind fun device => device.info?.toOption) = _
  rw [found, Option.bind_some, read]
  rfl

end Bindings

namespace Broker

variable {η : Type} {deviceId other : Value} {xs : List Exposure}
variable {b b' : Broker (Connection Value) η} {h h' : Host (Broker (Connection Value) η)}

/-- A property is read from the metadata of its device. -/
theorem property?_eq_info? {β : Type} (b : Broker β η) (device property : Key) :
    b.property? device property =
      (b.roster.info? device).bind fun info =>
        (ChipProperty.ofKey? property).map fun p => p.value info := by
  unfold property? Roster.info?
  cases b.roster.record? device with
  | none => rfl
  | some record =>
    cases held : record.handle with
    | none => simp [held]
    | some handle =>
      cases ChipProperty.ofKey? property <;> simp [held]

/-! ### What an action leaves alone -/

/-- A change of a broker that is local to a device: of all others the bindings and the buses show
the same, and so does the roster. -/
structure LocalTo (deviceId : Value) (b b' : Broker (Connection Value) η) : Prop where
  rest : b'.bindings.rest = b.bindings.rest
  bus : ∀ q, (∀ t, deviceId = .text t → objectPath t ≠ q) →
    b'.roster.bus.outlook q = b.roster.bus.outlook q
  exports : ∀ q, (∀ t, deviceId = .text t → objectPath t ≠ q) →
    b'.roster.bus.exportsAt q = b.roster.bus.exportsAt q
  shown : ∀ xs, b.roster.Shows xs →
    ∃ xs', b'.roster.Shows xs' ∧ ∀ x, deviceId ≠ .text x.id → (x ∈ xs' ↔ x ∈ xs)
  source : b'.source = b.source
  ownership : b'.ownership = b.ownership

theorem LocalTo.refl (deviceId : Value) (b : Broker (Connection Value) η) :
    LocalTo deviceId b b where
  rest := rfl
  bus _ _ := rfl
  exports _ _ := rfl
  shown xs shows := ⟨xs, shows, fun _ _ => .rfl⟩
  source := rfl
  ownership := rfl

/-- The metadata of all other devices stay. -/
theorem LocalTo.info? (local_ : LocalTo deviceId b b') (shows : b.roster.Shows xs) {key : Key}
    (apart : ∀ t, deviceId = .text t → key ≠ .text t) :
    b'.roster.info? key = b.roster.info? key := by
  obtain ⟨xs', shows', same⟩ := local_.shown xs shows
  exact shows.info?_congr shows' fun x named => same x fun about => apart x.id about named

/-- An addition shows what was shown, or one exposure more: that of the device, with the metadata
that its name leads to. -/
theorem ends_addChip_shows (shows : h.state.roster.Shows xs) (deviceId : Value) :
    (addChip deviceId).Ends h fun r h' =>
      (h'.state.roster.Shows xs ∧ ∀ number, r ≠ .ok (some number)) ∨
        ∃ x, deviceId = .text x.id ∧ h'.state.roster.Shows (xs ++ [x]) ∧
          h.state.bindings.info? deviceId = some x.info ∧ r = .ok (some x.number) := by
  refine ((ends_addChip deviceId).and (follows_addChip deviceId h (.refl h))).mono ?_
  rintro r h' ⟨⟨-, adding⟩, follows⟩
  cases adding with
  | refused e same known => exact .inl ⟨same ▸ shows, nofun⟩
  | dropped r key named absent misses dropped entries objects next records =>
    refine .inl ⟨shows.same entries objects next fun x hx => records _ (shows.number_lt hx), ?_⟩
    rintro number rfl
    obtain ⟨e, failed⟩ | ⟨none, -⟩ := dropped
    · cases failed
    · cases none
  | exposed x named absent meets number registration serial device entries objects records next =>
    have shows' : h'.state.roster.Shows (xs ++ [x]) :=
      shows.add entries objects records number registration next fun y hy =>
        shows.id_ne_of_absent absent hy
    have captured : h.state.bindings.Captures x.handle :=
      follows.roster.recorded.captured x.number (Nat.le_of_eq number.symm) x.record x.handle
        (shows'.records x (by simp)) rfl
    exact .inr ⟨x, named, shows', named ▸ captured.info?, rfl⟩

theorem ends_addChip_local (deviceId : Value) :
    (addChip deviceId).Ends h fun _ h' => LocalTo deviceId h.state h'.state := by
  have shown (xs : List Exposure) (shows : h.state.roster.Shows xs) :
      (addChip deviceId).Ends h fun _ h' =>
      ∃ xs', h'.state.roster.Shows xs' ∧ ∀ x, deviceId ≠ .text x.id → (x ∈ xs' ↔ x ∈ xs) := by
    refine (ends_addChip_shows shows deviceId).mono ?_
    rintro _ h' (⟨shows', -⟩ | ⟨y, rfl, shows', -⟩)
    · exact ⟨xs, shows', fun _ _ => .rfl⟩
    · refine ⟨_, shows', fun x apart => ?_⟩
      have other : x ≠ y := fun same => apart (by rw [same])
      simp [other]
  have confined := ends_addChip_confined (h := h) deviceId
  obtain ⟨spares, -⟩ := ends_addChip (h := h) deviceId
  exact ⟨confined.rest, confined.bus, confined.exports, shown, spares.source, spares.ownership⟩

theorem ends_removeChip_local (shows : h.state.roster.Shows xs) (deviceId : Value) :
    (removeChip deviceId).Ends h fun _ h' => LocalTo deviceId h.state h'.state := by
  unfold removeChip
  simp only [ends_bind, ends_log]
  refine Ends.within (Ends.mono (Roster.ends_remove_local (by exact shows) deviceId) ?_)
  rintro _ _ ⟨bus, exports, shown⟩
  exact ⟨rfl, bus, exports, shown, rfl, rfl⟩

theorem ends_onUevent_local (shows : h.state.roster.Shows xs) (u : Uevent) :
    (onUevent u).Ends h fun _ h' => LocalTo u.deviceId h.state h'.state := by
  unfold onUevent
  refine ends_ite (fun _ => ?_) fun _ => .refl _ _
  simp only [ends_bind, ends_log]
  refine ends_ite (fun _ => ?_) fun _ => ends_ite (fun _ => ?_) fun _ => .refl _ _
  · exact ends_discard.2 (ends_addChip_local u.deviceId)
  · exact ends_removeChip_local (by exact shows) u.deviceId

/-! ### What an action depends on -/

/-- The same was asked of every device but the one at a path, and a device sees the same of the bus
at the path of its object and has the same metadata. -/
structure SeesSame (path : Text) (deviceId : Value)
    (h h' : Host (Broker (Connection Value) η)) : Prop where
  agrees : Agrees path deviceId h h'
  info : ∀ t, deviceId = .text t → h.state.roster.info? (.text t) = h'.state.roster.info? (.text t)

/-- What is local to another device is not seen. -/
theorem LocalTo.seesSame {path : Text} (local_ : LocalTo other h.state h'.state)
    (shows : h.state.roster.Shows xs) (apart : deviceId ≠ other)
    (calls : SameCalls path h.calls h'.calls) : SeesSame path deviceId h h' where
  agrees := by
    refine ⟨calls, fun t named => (local_.bus _ fun t' about same => apart ?_).symm⟩
    rw [named, about, objectPath_injective same]
  info t named := by
    refine (local_.info? shows fun t' about same => apart ?_).symm
    rw [named, about, Key.text.inj same]

theorem LocalTo.known {xs' : List Exposure} (local_ : LocalTo other b b')
    (shows : b.roster.Shows xs) (shows' : b'.roster.Shows xs') (apart : deviceId ≠ other)
    {key : Key} (named : deviceId.toKey = .ok key) :
    b.roster.contains key = b'.roster.contains key := by
  rw [← shows.isSome_info?, ← shows'.isSome_info?, local_.info? shows]
  rintro t about rfl
  exact apart (by rw [about, Value.eq_text_of_toKey named])

/-- The metadata of a device after an addition: those that its name leads to, or those that it
had. -/
theorem ends_addChip_info (shows : h.state.roster.Shows xs) (deviceId : Value) :
    (addChip deviceId).Ends h fun r h' =>
      (∀ number, r = .ok (some number) → ∀ t, deviceId = .text t →
        h'.state.roster.info? (.text t) = h.state.bindings.info? deviceId) ∧
      ((∀ number, r ≠ .ok (some number)) →
        ∀ key, h'.state.roster.info? key = h.state.roster.info? key) := by
  refine (ends_addChip_shows shows deviceId).mono ?_
  rintro r h' (⟨shows', refused⟩ | ⟨x, rfl, shows', leads, added⟩)
  · exact ⟨fun number added => absurd added (refused number),
      fun _ _ => shows.info?_congr shows' fun _ _ => .rfl⟩
  · refine ⟨?_, fun refused => absurd added (refused x.number)⟩
    rintro _ - _ ⟨⟩
    rw [leads, shows'.info?_eq_some (by simp)]

/-- A device that was removed, or was not there, has no metadata. -/
theorem ends_removeChip_info (shows : h.state.roster.Shows xs) (deviceId : Value) :
    (removeChip deviceId).Ends h fun _ h' =>
      ∀ t, deviceId = .text t → h'.state.roster.info? (.text t) = none := by
  have absent {r : Roster (Connection Value)} {ys : List Exposure} (shows : r.Shows ys) (t : Text)
      (others : ∀ x ∈ ys, t ≠ x.id) : r.info? (.text t) = none := by
    refine Roster.info?_of_absent (Bool.eq_false_iff.2 fun there => ?_)
    obtain ⟨x, hx, same⟩ := shows.contains_iff.1 there
    exact others x hx (Key.text.inj same)
  unfold removeChip
  simp only [ends_bind, ends_log]
  refine Ends.within (Ends.mono (Roster.ends_remove (by exact shows) deviceId) ?_)
  rintro _ k (⟨rfl, others, -⟩ | ⟨x, -, rfl, shows', -⟩)
  · rintro t rfl
    exact absent shows t fun x hx same => others x hx (by rw [same])
  · rintro _ ⟨⟩
    exact absent shows' x.id fun y hy same => by simp [same] at hy

variable {path : Text}

theorem abreast_addChip_local (local_ : LocalTo other h.state h'.state)
    (shows : h.state.roster.Shows xs) (apart : deviceId ≠ other)
    (calls : SameCalls path h.calls h'.calls) :
    Abreast (addChip deviceId) (addChip deviceId) h h' (fun _ _ => SeesSame path deviceId)
      (SeesSame path deviceId) := by
  have sees := local_.seesSame shows apart calls
  obtain ⟨xs', shows', -⟩ := local_.shown xs shows
  have adds := agrees_addChip shows shows' (Bindings.outlook_of_rest local_.rest deviceId).symm
    (fun _ => local_.known shows shows' apart) sees.agrees
  refine (adds.and (ends_addChip_info shows deviceId)
    (ends_addChip_info shows' deviceId)).mono ?_ ?_
  · rintro (_ | number) (_ | number') k k' ⟨⟨same, agrees⟩, ⟨added, kept⟩, added', kept'⟩
    · refine ⟨agrees, fun t named => ?_⟩
      rw [kept nofun, kept' nofun, sees.info t named]
    · cases same
    · cases same
    · refine ⟨agrees, fun t named => ?_⟩
      rw [added _ rfl t named, added' _ rfl t named, Bindings.info?_of_rest local_.rest]
  · rintro k k' ⟨agrees, e, ⟨-, kept⟩, -, kept'⟩
    refine ⟨agrees, fun t named => ?_⟩
    rw [kept nofun, kept' nofun, sees.info t named]

theorem abreast_removeChip_local (local_ : LocalTo other h.state h'.state)
    (shows : h.state.roster.Shows xs) (apart : deviceId ≠ other)
    (calls : SameCalls path h.calls h'.calls) :
    Abreast (removeChip deviceId) (removeChip deviceId) h h' (fun _ _ => SeesSame path deviceId)
      (SeesSame path deviceId) := by
  obtain ⟨xs', shows', same⟩ := local_.shown xs shows
  have alike (y : Exposure) (hy : y ∈ xs) (z : Exposure) (hz : z ∈ xs')
      (named : deviceId = .text y.id)
      (id : z.id = y.id) : y.chip.device = z.chip.device ∧ Connection.LeaveAlike (objectPath y.id)
        h.state.roster.bus h'.state.roster.bus y.object.object z.object.object := by
    -- It is the same exposure on both sides, and so the same object.
    subst named
    have there : y ∈ xs' := (same y apart.symm).2 hy
    obtain rfl : z = y := shows'.eq_of_id hz there id
    refine ⟨rfl,
      Connection.leaveAlike_of_exportsAt (local_.exports _ fun t about same => apart ?_).symm _⟩
    rw [about, objectPath_injective same]
  have removes := agrees_removeChip shows shows' (fun _ => local_.known shows shows' apart) alike
    (local_.seesSame shows apart calls).agrees
  refine (removes.and (ends_removeChip_info shows deviceId)
    (ends_removeChip_info shows' deviceId)).mono ?_ ?_
  · rintro _ _ k k' ⟨agrees, gone, gone'⟩
    exact ⟨agrees, fun t named => (gone t named).trans (gone' t named).symm⟩
  · rintro k k' ⟨agrees, _, gone, gone'⟩
    exact ⟨agrees, fun t named => (gone t named).trans (gone' t named).symm⟩

theorem abreast_onUevent_local {u : Uevent} (local_ : LocalTo other h.state h'.state)
    (shows : h.state.roster.Shows xs) (apart : u.deviceId ≠ other)
    (calls : SameCalls path h.calls h'.calls) :
    Abreast (onUevent u) (onUevent u) h h' (fun _ _ => SeesSame path u.deviceId)
      (SeesSame path u.deviceId) := by
  have sees := local_.seesSame shows apart calls
  unfold onUevent
  refine abreast_ite (fun _ => abreast_log_bind ?_) fun _ => abreast_pure sees
  refine abreast_ite (fun _ => ?_) fun _ => abreast_ite (fun _ => ?_) fun _ => ?_
  · exact (abreast_addChip_local (by exact local_) (by exact shows) apart (by exact calls)).discard
  · exact abreast_removeChip_local (by exact local_) (by exact shows) apart (by exact calls)
  · exact abreast_log ⟨⟨calls, sees.agrees.bus⟩, sees.info⟩

/-! ### Either order -/

/-- What becomes of a broker as an action on a device is followed, however that ends. -/
def followed (u : Uevent) (b : Broker (Connection Value) η) : Broker (Connection Value) η :=
  ((onUevent u).run { state := b }).2.state

/-- What is asked of the device at a path as an action is followed. -/
def askedOf (p : Text) (u : Uevent) (b : Broker (Connection Value) η) : List (Option ChipCall) :=
  callsAt p ((onUevent u).run { state := b }).2.calls

theorem fst_run_onUevent (u : Uevent) (h : Host (Broker (Connection Value) η)) :
    ((onUevent u).run h).1 = ((onUevent u).run { state := h.state }).1 := by
  rw [isOblivious_onUevent u h]

theorem state_run_onUevent (u : Uevent) (h : Host (Broker (Connection Value) η)) :
    ((onUevent u).run h).2.state = followed u h.state := by
  rw [isOblivious_onUevent u h]
  rfl

theorem callsAt_run_onUevent (p : Text) (u : Uevent) (h : Host (Broker (Connection Value) η)) :
    callsAt p ((onUevent u).run h).2.calls = callsAt p h.calls ++ askedOf p u h.state := by
  rw [isOblivious_onUevent u h]
  exact List.filterMap_append

theorem localTo_followed (shows : b.roster.Shows xs) (u : Uevent) :
    LocalTo u.deviceId b (followed u b) :=
  ends_onUevent_local (h := { state := b }) shows u

/-- Following an action comes to the same on two brokers. -/
structure Repeats (u : Uevent) (b b' : Broker (Connection Value) η) : Prop where
  ends : ((onUevent u).run { state := b }).1 = ((onUevent u).run { state := b' }).1
  asked : ∀ p, askedOf p u b = askedOf p u b'
  bus : ∀ t, u.deviceId = .text t →
    (followed u b).roster.bus.AlikeAt (objectPath t) (followed u b').roster.bus
  info : ∀ t, u.deviceId = .text t →
    (followed u b).roster.info? (.text t) = (followed u b').roster.info? (.text t)

/-- An action comes to the same before and after a change that is local to another device. -/
theorem LocalTo.repeats (local_ : LocalTo other b b') (shows : b.roster.Shows xs) {u : Uevent}
    (apart : u.deviceId ≠ other) : Repeats u b b' := by
  have follows (path : Text) : Abreast (onUevent u) (onUevent u) { state := b } { state := b' }
      (fun _ _ => SeesSame path u.deviceId) (SeesSame path u.deviceId) :=
    abreast_onUevent_local local_ shows apart fun _ _ => rfl
  have sees (path : Text) := (follows path).left (fun _ _ _ _ sees => sees) fun _ _ sees => sees
  refine ⟨(follows "").outcome fun _ _ _ _ _ => rfl, fun p => ?_, (sees "").agrees.bus,
    (sees "").info⟩
  -- Two runs are compared but for the device at one path, which may be any other.
  obtain ⟨path, elsewhere⟩ : ∃ path, p ≠ path := by
    by_cases empty : p = ""
    · exact ⟨"/", by rw [empty]; decide⟩
    · exact ⟨"", empty⟩
  exact (sees path).agrees.calls p elsewhere

/-- The same is asked of every device, by one action first or by the other. -/
theorem askedOf_perm {u v : Uevent} (shows : b.roster.Shows xs) (distinct : u.deviceId ≠ v.deviceId)
    (p : Text) :
    (askedOf p u b ++ askedOf p v (followed u b)).Perm
      (askedOf p v b ++ askedOf p u (followed v b)) := by
  rw [← ((localTo_followed shows u).repeats shows distinct.symm).asked p,
    ← ((localTo_followed shows v).repeats shows distinct).asked p]
  exact List.perm_append_comm

/-- What is seen of a broker is a view of the devices with a property: only actions on these change
it, each in the same way wherever it comes to the same. -/
structure IsViewOf {γ : Type} (p : Value → Prop)
    (view : Broker (Connection Value) η → γ) : Prop where
  unique : ∀ d d', p d → p d' → d = d'
  kept : ∀ {d b b' xs}, LocalTo d b b' → b.roster.Shows xs → ¬ p d → view b' = view b
  repeated : ∀ {u b b'}, Repeats u b b' → p u.deviceId → view (followed u b) = view (followed u b')

namespace IsViewOf

variable {γ : Type} {p : Value → Prop} {view : Broker (Connection Value) η → γ} {u v : Uevent}

/-- An action after one that the view does not see. -/
theorem followed_unseen (isView : IsViewOf p view) (shows : b.roster.Shows xs)
    (distinct : u.deviceId ≠ v.deviceId) (unseen : ¬ p v.deviceId) :
    view (followed v (followed u b)) = view (followed u (followed v b)) := by
  obtain ⟨ys, shows₁, -⟩ := (localTo_followed shows u).shown xs shows
  obtain ⟨zs, shows₂, -⟩ := (localTo_followed shows v).shown xs shows
  have before := localTo_followed shows v
  have last : view (followed v (followed u b)) = view (followed u b) :=
    isView.kept (localTo_followed shows₁ v) shows₁ unseen
  by_cases seen : p u.deviceId
  · exact last.trans (isView.repeated (before.repeats shows distinct) seen)
  · calc view (followed v (followed u b))
      _ = view (followed u b) := last
      _ = view b := isView.kept (localTo_followed shows u) shows seen
      _ = view (followed v b) := (isView.kept before shows unseen).symm
      _ = view (followed u (followed v b)) :=
    (isView.kept (localTo_followed shows₂ u) shows₂ seen).symm

/-- Two actions on different devices leave the same to see in either order. -/
theorem followed_comm (isView : IsViewOf p view) (shows : b.roster.Shows xs)
    (distinct : u.deviceId ≠ v.deviceId) :
    view (followed v (followed u b)) = view (followed u (followed v b)) := by
  by_cases seen : p v.deviceId
  · have unseen : ¬ p u.deviceId := fun both => distinct (isView.unique _ _ both seen)
    exact (isView.followed_unseen shows distinct.symm unseen).symm
  · exact isView.followed_unseen shows distinct seen

end IsViewOf

theorem isViewOf_info? (key : Key) : IsViewOf (η := η) (fun d => ∃ t, d = .text t ∧ .text t = key)
    fun b => b.roster.info? key where
  unique := by
    rintro _ _ ⟨t, rfl, rfl⟩ ⟨t', rfl, same⟩
    rw [Key.text.inj same]
  kept local_ shows unseen := local_.info? shows fun t about same => unseen ⟨t, about, same.symm⟩
  repeated := by
    rintro u b b' repeats ⟨t, about, rfl⟩
    exact repeats.info t about

theorem isViewOf_outlook (q : Text) :
    IsViewOf (η := η) (fun d => ∃ t, d = .text t ∧ objectPath t = q)
    fun b => b.roster.bus.outlook q where
  unique := by
    rintro _ _ ⟨t, rfl, rfl⟩ ⟨t', rfl, same⟩
    rw [objectPath_injective same]
  kept local_ _ unseen := local_.bus q fun t about same => unseen ⟨t, about, same⟩
  repeated := by
    rintro u b b' repeats ⟨t, about, rfl⟩
    exact repeats.bus t about

/-- What no action on a device changes. -/
theorem isViewOf_rest : IsViewOf (η := η) (fun _ => False) fun b =>
    (b.bindings.rest, b.source, b.ownership) where
  unique _ _ := False.elim
  kept local_ _ _ := by rw [local_.rest, local_.source, local_.ownership]
  repeated _ := False.elim

/-- Two hosts that show the same but for numbers, and for the order in which things were done. -/
structure ShowsAlike (h h' : Host (Broker (Connection Value) η)) : Prop where
  /-- The same devices are entered, in some order. -/
  keys : h.state.roster.keys.Perm h'.state.roster.keys
  reads : ∀ deviceId property : Value,
    ((getProperty deviceId property).run h).1 = ((getProperty deviceId property).run h').1
  exported : ∀ number path,
    (h.state.roster.bus.bus? number).map (fun bus => (bus.find? path).isSome) =
    (h'.state.roster.bus.bus? number).map fun bus => (bus.find? path).isSome
  /-- Every device was opened, read and closed as often. -/
  asked : ∀ p, (callsAt p h.calls).Perm (callsAt p h'.calls)
  rest : h.state.bindings.rest = h'.state.bindings.rest
  source : h.state.source = h'.state.source
  ownership : h.state.ownership = h'.state.ownership

section Order

variable [UeventSource η] {u v : Uevent}

/-- Two actions on devices that may be followed in either order, going on however the first one
ends. -/
structure Commute (u v : Uevent) (h : Host (Broker (Connection Value) η)) : Prop where
  first : ((handle (.uevent u)).run h).1 =
    ((handle (.uevent u)).run (Turn.after [.handle (.uevent v)] h)).1
  second : ((handle (.uevent v)).run (Turn.after [.handle (.uevent u)] h)).1 =
    ((handle (.uevent v)).run h).1
  left : ShowsAlike (Turn.after [.handle (.uevent u), .handle (.uevent v)] h)
    (Turn.after [.handle (.uevent v), .handle (.uevent u)] h)

theorem state_after_uevents (u v : Uevent) (h : Host (Broker (Connection Value) η)) :
    (Turn.after [.handle (.uevent u), .handle (.uevent v)] h).state =
      followed v (followed u h.state) := by
  change ((onUevent v).run ((onUevent u).run h).2).2.state = _
  rw [state_run_onUevent, state_run_onUevent]

theorem callsAt_after_uevents (p : Text) (u v : Uevent) (h : Host (Broker (Connection Value) η)) :
    callsAt p (Turn.after [.handle (.uevent u), .handle (.uevent v)] h).calls =
      callsAt p h.calls ++ (askedOf p u h.state ++ askedOf p v (followed u h.state)) := by
  change callsAt p ((onUevent v).run ((onUevent u).run h).2).2.calls = _
  rw [callsAt_run_onUevent, callsAt_run_onUevent, state_run_onUevent, List.append_assoc]

/-- An action ends in the same way before one on another device and after it. -/
theorem fst_run_handle (shows : h.state.roster.Shows xs) (distinct : u.deviceId ≠ v.deviceId) :
    ((handle (.uevent u)).run h).1 =
      ((handle (.uevent u)).run (Turn.after [.handle (.uevent v)] h)).1 := by
  change ((onUevent u).run h).1 = ((onUevent u).run ((onUevent v).run h).2).1
  rw [fst_run_onUevent, fst_run_onUevent u ((onUevent v).run h).2, state_run_onUevent]
  exact ((localTo_followed shows v).repeats shows distinct).ends

theorem showsAlike_after (shows : h.state.roster.Shows xs) (distinct : u.deviceId ≠ v.deviceId) :
    ShowsAlike (Turn.after [.handle (.uevent u), .handle (.uevent v)] h)
      (Turn.after [.handle (.uevent v), .handle (.uevent u)] h) := by
  have info (key : Key) := (isViewOf_info? key).followed_comm shows distinct
  have rest := isViewOf_rest.followed_comm shows distinct
  simp only [Prod.mk.injEq] at rest
  have shown (h' : Host (Broker (Connection Value) η)) (turns : List (Turn η))
      (same : h' = Turn.after turns h) :
      ∃ ys, h'.state.roster.Shows ys := same ▸ Turn.isShown_after turns h ⟨xs, shows⟩
  obtain ⟨ys, shows₁⟩ := shown _ [.handle (.uevent u), .handle (.uevent v)] rfl
  obtain ⟨zs, shows₂⟩ := shown _ [.handle (.uevent v), .handle (.uevent u)] rfl
  refine ⟨?_, fun deviceId property => ?_, fun number path => ?_, fun p => ?_, ?_, ?_, ?_⟩
  · refine (List.perm_ext_iff_of_nodup shows₁.isLinked.keys shows₂.isLinked.keys).2 fun key => ?_
    rw [← Roster.contains_iff, ← Roster.contains_iff, ← shows₁.isSome_info?, ← shows₂.isSome_info?,
      state_after_uevents, state_after_uevents, info]
  · refine outcome_getProperty property fun key _ p => ?_
    rw [property?_eq_info?, property?_eq_info?, state_after_uevents, state_after_uevents, info]
  · rw [state_after_uevents, state_after_uevents]
    exact Connection.AlikeAt.isSome_find?
      ((isViewOf_outlook path).followed_comm shows distinct) number
  · rw [callsAt_after_uevents, callsAt_after_uevents]
    exact (askedOf_perm shows distinct p).append_left _
  · rw [state_after_uevents, state_after_uevents, rest.1]
  · rw [state_after_uevents, state_after_uevents, rest.2.1]
  · rw [state_after_uevents, state_after_uevents, rest.2.2]

/-- However a broker came to where it is, two actions on different devices may be followed in either
order. -/
theorem commute (reached : IsReached h) (distinct : u.deviceId ≠ v.deviceId) : Commute u v h := by
  obtain ⟨xs, shows⟩ := reached.exists_shows
  exact ⟨fst_run_handle shows distinct, (fst_run_handle shows distinct.symm).symm,
    showsAlike_after shows distinct⟩

/-- The second chip comes. -/
def secondComes : Uevent where
  action := .text "add"
  deviceId := .text "gpiochip1"
  deviceFile := some (.text "/dev/gpiochip1")

/-- The first chip goes. -/
def firstGoes : Uevent where
  action := .text "remove"
  deviceId := .text "gpiochip0"
  deviceFile := some (.text "/dev/gpiochip0")

/-- A broker that exposes the first of two chips, which cannot be closed. -/
def exposingStuck : Host (Broker (Connection Value) MonitorSource) :=
  Turn.after [.begin {}, .resume 0, .resume 0, .resume 0, .add (.text "gpiochip0")]
    { state :=
  { bindings := twoChips (some (.raised .runtime "stuck")), roster := { bus := {} }, source := {} }
    }

/-- The removal of one chip fails, before the other one is added and after it. -/
theorem commute_exposingStuck : Commute secondComes firstGoes exposingStuck ∧
    ((handle (.uevent firstGoes)).run exposingStuck).1.isOk = false ∧
      (Turn.after [.handle (.uevent firstGoes), .handle (.uevent secondComes)]
        exposingStuck).state.roster.keys =
        [.text "gpiochip1"] :=
  ⟨commute ⟨_, _, _, _, rfl⟩ (by decide), by decide +kernel, by decide +kernel⟩

end Order

end Broker

end GpioBroker
