import GpioBroker.Proofs.Accounts

/-!
# Teardown

How far a teardown comes.  It takes the exposed chips in the order of entry and stops at the first
that resists: one that cannot be closed for another reason than a failed system call, or whose
object the bus does not give up.  That chip is closed and unregistered nevertheless, but those
behind it stay open and exposed.  So all are reached exactly if none but the last resists.
-/

namespace GpioBroker

open Act

/-- Closing the chip fails, and not with a failed system call. -/
def Exposure.clings (x : Exposure) : Bool := x.chip.device.faults.close.any fun f => !f.isSystem

/-- The connection is up, and its bus does not give up what is exported at a path. -/
def Connection.detains {ρ : Type} (c : Connection ρ) (path : Text) : Bool :=
  (c.live?.bind c.bus?).any fun b => (b.script.unexportFaults.lookup path).isSome

/-- Destroying an exposed chip fails. -/
def Exposure.resists (c : Connection Value) (x : Exposure) : Bool :=
  x.clings || c.detains (objectPath x.id)

/-- The exposures behind the first that resists. -/
def Exposure.unreached (c : Connection Value) : List Exposure → List Exposure
  | [] => []
  | x :: xs => if x.resists c then xs else unreached c xs

namespace Exposure

variable {c : Connection Value} {xs : List Exposure}

/-- No exposure is left behind exactly if none but the last resists. -/
theorem unreached_eq_nil_iff : unreached c xs = [] ↔ ∀ x ∈ xs.dropLast, x.resists c = false := by
  induction xs with
  | nil => simp [unreached]
  | cons x xs ih =>
    cases xs with
    | nil => simp [unreached]
    | cons y ys =>
      rw [List.dropLast_cons_cons, List.forall_mem_cons, unreached]
      by_cases resists : x.resists c = true
      · simp [resists]
      · rw [if_neg resists, ih]
        simp [resists]

end Exposure

/-! ### One exposure -/

theorem isOk_settled {α : Type} (r : Except Failure α) (c : Except Failure Unit) :
    (settled r c).isOk = (r.isOk && c.isOk) := by
  cases c with
  | ok _ => exact (Bool.and_true _).symm
  | error e => exact (Bool.and_false _).symm

theorem Exposure.isOk_closeOutcome (x : Exposure) : x.handle.closeOutcome.isOk = !x.clings := by
  have stray : x.handle.stray? = x.chip.device.faults.close.filter fun f => !f.isSystem := rfl
  unfold Handle.closeOutcome clings
  rw [stray]
  cases x.chip.device.faults.close with
  | none => rfl
  | some f => cases system : f.isSystem <;> simp [Option.filter, system, Except.isOk, Except.toBool]

namespace Connection

variable {ρ : Type} {h : Host (Connection ρ)}

theorem exists_bus_of_live {c : Connection ρ} {number : Nat} (live : c.live? = some number) :
    ∃ b, c.bus? number = some b := by
  have connected := (Option.filter_eq_some_iff.1 live).2
  cases there : c.bus? number with
  | none =>
    rw [there] at connected
    cases connected
  | some b => exact ⟨b, rfl⟩

theorem ends_unregister_isOk {registration : Int} {o : RegisteredObject ρ}
    (found : h.state.find? registration = some o) :
    (unregister (.int registration)).Ends h fun r _ => r.isOk = !h.state.detains o.path := by
  have lookedUp : (Value.int registration).wholeNumber?.bind h.state.find? = some o := found
  have keyed : (Value.int registration).toKey = .ok (.whole registration) := rfl
  unfold unregister
  simp only [keyed, ends_bind, ends_discard, ends_ofExcept_ok, Except.map, ends_state,
    lookedUp, ends_update]
  have same : ∀ objects, Connection.live? { h.state with objects } = h.state.live? := fun _ => rfl
  unfold detains
  rw [same]
  cases live : h.state.live? with
  | none => rfl
  | some number =>
    obtain ⟨b, there⟩ := exists_bus_of_live live
    rw [Option.bind_some, there, Option.any_some]
    refine Ends.within ?_
    have script : ((h.state.bus? number).getD {}).script = b.script := by
      rw [there]
      rfl
    refine MessageBus.ends_unexportObject_of (fun fault => ?_) fun f fault => ?_
    · have fault : ((h.state.bus? number).getD {}).script.unexportFaults.lookup o.path = none :=
        fault
      rw [← script, fault]
      rfl
    · have fault : ((h.state.bus? number).getD {}).script.unexportFaults.lookup o.path =
          some f := fault
      rw [← script, fault]
      rfl

theorem detains_of_line {c c' : Connection ρ} (line : c'.line = c.line) (path : Text) :
    c'.detains path = c.detains path := by
  have bare (c : Connection ρ) : c.line.detains path = c.detains path := by
    have bus (number : Nat) : c.line.bus? number = (c.bus? number).map MessageBus.bare :=
      List.getElem?_map
    have live : c.line.live? = c.live? := by
      unfold live?
      simp only [bus, Option.any_map]
      rfl
    unfold detains
    rw [live]
    cases c.live? with
    | none => rfl
    | some number =>
      rw [Option.bind_some, Option.bind_some, bus, Option.any_map]
      rfl
  rw [← bare c', line, bare]

end Connection

theorem Exposure.resists_of_line {c c' : Connection Value} (line : c'.line = c.line)
    (x : Exposure) :
    x.resists c' = x.resists c := by
  unfold resists
  rw [Connection.detains_of_line line]

theorem Exposure.unreached_of_line {c c' : Connection Value} (line : c'.line = c.line)
    (xs : List Exposure) :
    unreached c' xs = unreached c xs := by
  induction xs with
  | nil => rfl
  | cons x xs ih => rw [unreached, unreached, resists_of_line line, ih]

/-! ### The roster -/

namespace Roster

variable {h : Host (Roster (Connection Value))} {xs : List Exposure} {x : Exposure}

theorem ends_unregister_isOk {registration : Int} {o : RegisteredObject Value}
    (found : h.state.bus.find? registration = some o) :
    (unregister (some (.int registration))).Ends h fun r _ =>
      r.isOk = !h.state.bus.detains o.path := by
  unfold unregister withinBus
  exact Ends.within (Connection.ends_unregister_isOk found)

/-- Destroying the record of an exposed chip fails exactly if the chip resists. -/
theorem ends_destroy_isOk (shows : h.state.Shows xs) (hx : x ∈ xs) :
    (destroy x.number).Ends h fun r _ => r.isOk = !x.resists h.state.bus := by
  unfold destroy
  simp only [ends_bind, ends_state, shows.records x hx, ends_update]
  refine Ends.ensure x.handle.ends_closeChip ?_
  rintro r h₁ ⟨state, -, closed⟩
  have found : h₁.state.bus.find? x.registration = some x.object := by
    rw [state]
    exact shows.find?_object hx
  refine (ends_unregister_isOk found).mono ?_
  intro c h₂ unregistered
  rw [state] at unregistered
  rw [isOk_settled, closed, x.isOk_closeOutcome, unregistered, Exposure.resists, Bool.not_or]
  rfl

/-- Removing the entries of exposed chips takes out those up to the first that resists. -/
theorem ends_removeEntries_reached (shows : h.state.Shows xs) :
    ((xs.map Exposure.entry).forM fun e => removeEntry e.1 e.2).Ends h fun _ h' =>
      ∃ reached, xs = reached ++ Exposure.unreached h.state.bus xs ∧
        h'.state.Shows (Exposure.unreached h.state.bus xs) ∧
        ∀ s, closes h'.calls s = closes h.calls s + holders reached s := by
  induction xs generalizing h with
  | nil => exact ⟨[], rfl, shows, by simp⟩
  | cons x xs ih =>
    have others : ((x :: xs).filter fun y => y.id != x.id) = xs :=
      Exposure.filter_id (f := []) shows.ids
    have removed : (removeEntry (.text x.id) x.number).Ends h fun r _ =>
        r.isOk = !x.resists h.state.bus := by
      refine Ends.ensure (ends_destroy_isOk shows List.mem_cons_self) ?_
      intro r h₁ destroyed
      exact destroyed
    rw [List.map_cons, ends_forM_cons]
    refine ((ends_removeEntry shows List.mem_cons_self).and removed).bind ?_ ?_
    · rintro _ h₁ ⟨⟨shows₁, line, closed, -⟩, yields⟩
      rw [others] at shows₁
      have yields : x.resists h.state.bus = false := by
        simpa [Except.isOk, Except.toBool] using yields
      rw [Exposure.unreached, yields, if_neg Bool.false_ne_true, ← Exposure.unreached_of_line line]
      refine (ih shows₁).mono ?_
      rintro r h' ⟨reached, split, shows', closed'⟩
      refine ⟨x :: reached, congrArg (x :: ·) split, shows', fun s => ?_⟩
      have := closed s
      have := closed' s
      rw [holders_cons]
      omega
    · rintro e h₁ ⟨⟨shows₁, line, closed, -⟩, fails⟩
      rw [others] at shows₁
      have resists : x.resists h.state.bus = true := by
        simpa [Except.isOk, Except.toBool] using fails
      rw [Exposure.unreached, resists, if_pos rfl]
      exact ⟨[x], rfl, shows₁, fun s => by rw [closed, holders_singleton]⟩

end Roster

/-! ### The service -/

/-- What a teardown leaves to which it came as far as it did: the exposures `left`, and one more
closing of each chip before them. -/
def LeftBehind (xs left : List Exposure) (h h' : Host Service) : Prop :=
  h'.state.roster.Shows left ∧
    ∃ reached, xs = reached ++ left ∧ ∀ s, closes h'.calls s = closes h.calls s + holders reached s

namespace LeftBehind

variable {xs left : List Exposure} {h : Host Service}

theorem keeps_release : (Broker.withinBus Connection.release).Keeps (LeftBehind xs left h) := by
  rintro h₁ ⟨shows, reached, split, closed⟩
  unfold Broker.withinBus Broker.withinRoster Roster.withinBus
  refine Ends.within (Ends.within ?_)
  refine (Connection.keeps_release (h₁.withState h₁.state.roster.bus)
    ⟨rfl, rfl, fun _ => rfl⟩).mono ?_
  rintro r h₂ ⟨objects, next, kept⟩
  refine ⟨shows.same rfl objects next fun _ _ => rfl, reached, split, fun s => ?_⟩
  exact (kept s).trans (closed s)

theorem keeps_close : (Broker.withinSource MonitorSource.close).Keeps (LeftBehind xs left h) := by
  rintro h₁ ⟨shows, reached, split, closed⟩
  refine Ends.within ((MonitorSource.ends_close (h₁.withState h₁.state.source)).mono ?_)
  intro r h₂ closing
  refine ⟨shows, reached, split, fun s => ?_⟩
  change closes h₂.calls s = _
  rw [closing.quiet.1]
  exact closed s

end LeftBehind

namespace Supervisor

variable {xs : List Exposure} {h : Host Service}

/-- A teardown leaves the exposures behind the first that resists, and closes the chips up to it. -/
theorem ends_teardown (shows : h.state.roster.Shows xs) :
    teardown.Ends h fun _ h' => LeftBehind xs (Exposure.unreached h.state.roster.bus xs) h h' := by
  have cleared (h₁ : Host Service) (state : h₁.state = h.state) (calls : h₁.calls = h.calls) :
      (Broker.withinRoster Roster.clear).Ends h₁ fun _ h' =>
        LeftBehind xs (Exposure.unreached h.state.roster.bus xs) h h' := by
    refine Ends.within ?_
    have shows : (h₁.withState h₁.state.roster).state.Shows xs := by
      change h₁.state.roster.Shows xs
      rw [state]
      exact shows
    unfold Roster.clear
    simp only [ends_bind, ends_state, shows.entries]
    refine (Roster.ends_removeEntries_reached shows).mono ?_
    rintro r h' ⟨reached, split, shows', closed⟩
    change xs = reached ++ Exposure.unreached h₁.state.roster.bus xs at split
    change h'.state.Shows (Exposure.unreached h₁.state.roster.bus xs) at shows'
    rw [state] at split shows'
    refine ⟨shows', reached, split, fun s => ?_⟩
    rw [← calls]
    exact closed s
  refine Ends.ensure
    (R := fun _ h' => LeftBehind xs (Exposure.unreached h.state.roster.bus xs) h h') ?_ ?_
  · unfold Broker.destroyAll
    simp only [ends_bind, ends_state]
    refine ends_ite (fun _ => ?_) fun _ => cleared h rfl rfl
    simp only [ends_bind, ends_log]
    exact cleared _ rfl rfl
  · exact fun _ h₁ left => LeftBehind.keeps_release.ensure LeftBehind.keeps_close h₁ left

/-- Every chip was reached: none is exposed any longer, the chip of each exposure was closed, and
its object is not registered. -/
structure IsReached (xs : List Exposure) (h h' : Host Service) : Prop where
  keys : h'.state.roster.keys = []
  closed : ∀ x ∈ xs, closes h.calls x.chip.serial < closes h'.calls x.chip.serial
  unregistered : ∀ x ∈ xs, h'.state.roster.bus.find? x.registration = none

theorem isReached_iff {left : List Exposure} {h' : Host Service}
    (leaves : LeftBehind xs left h h') :
    IsReached xs h h' ↔ left = [] := by
  obtain ⟨shows, reached, split, closed⟩ := leaves
  constructor
  · intro all
    have keys := all.keys
    rw [shows.keys, List.map_eq_nil_iff] at keys
    exact keys
  · rintro rfl
    rw [List.append_nil] at split
    subst split
    refine ⟨by rw [shows.keys, List.map_nil], fun x hx => ?_, fun x _ => ?_⟩
    · have held : 0 < holders xs x.chip.serial := List.countP_pos_iff.2 ⟨x, hx, beq_self_eq_true _⟩
      have := closed x.chip.serial
      omega
    · unfold Connection.find?
      rw [shows.objects]
      rfl

/-- However the chips and the bus fail, a teardown reaches every exposed chip exactly if none but
the last resists.  The exposures behind the first that resists are all left as they were. -/
theorem reaches_all_iff (shows : h.state.roster.Shows xs) :
    teardown.Ends h fun _ h' =>
      h'.state.roster.Shows (Exposure.unreached h.state.roster.bus xs) ∧
        (IsReached xs h h' ↔ ∀ x ∈ xs.dropLast, x.resists h.state.roster.bus = false) := by
  refine (ends_teardown shows).mono ?_
  intro r h' leaves
  refine ⟨leaves.1, ?_⟩
  rw [isReached_iff leaves, Exposure.unreached_eq_nil_iff]

/-- An exposed chip that was opened with a number. -/
def sampleExposure (number : Nat) (id : Text) (close : Option Fault) : Exposure where
  id
  number
  chip := { serial := number, device := { path := "/dev/" ++ id, faults := { close } } }
  info := { name := .text id, label := .text "", numLines := .int 8 }
  registration := number + 1
  serial := number

/-- Two exposed chips, either of which may fail to be closed. -/
def samplePair (first second : Option Fault) : List Exposure :=
  [sampleExposure 0 "gpiochip0" first, sampleExposure 1 "gpiochip1" second]

/-- A service that exposes some chips. -/
def exposing (xs : List Exposure) : Host Service where
  state := {
    bindings := {}
    roster := {
      bus := {
        link := some 0
        buses :=
          [{ isConnected := true, exported := xs.map fun x => (objectPath x.id, x.object.object) }]
        objects := xs.map Exposure.object
        nextRegistration := xs.length + 1 }
      records := xs.map Exposure.record
      entries := xs.map Exposure.entry }
    source := {}
    ownership := .acquired }

theorem shows_samplePair (first second : Option Fault) :
    (exposing (samplePair first second)).state.roster.Shows (samplePair first second) where
  entries := rfl
  objects := rfl
  records := by simp [samplePair, sampleExposure, exposing]
  ids := by
    change (["gpiochip0", "gpiochip1"] : List Text).Nodup
    decide
  numbers := by
    change [0, 1].Nodup
    decide
  registrations := by simp [samplePair, sampleExposure]
  below := by simp [samplePair, sampleExposure, exposing]

def stuck : Fault := .raised .runtime "stuck"

/-- A chip that resists as the last one keeps no other back. -/
theorem reaches_all_iff_last :
    IsReached (samplePair none (some stuck)) (exposing (samplePair none (some stuck)))
      (teardown.run (exposing (samplePair none (some stuck)))).2 := by
  refine (reaches_all_iff (shows_samplePair none (some stuck))).2.2 ?_
  intro x hx
  obtain rfl := List.mem_singleton.1 hx
  decide

/-- A chip that resists as the first one keeps the other back. -/
theorem not_reaches_all : ¬ ∀ (h : Host Service) (xs : List Exposure), h.state.roster.Shows xs →
    teardown.Ends h fun _ h' => IsReached xs h h' := by
  intro all
  have reached := all _ _ (shows_samplePair (some stuck) none)
  have left :
      (teardown.run (exposing (samplePair (some stuck) none))).2.state.roster.keys ≠ [] := by
    decide +kernel
  exact left reached.keys

end Supervisor

end GpioBroker
