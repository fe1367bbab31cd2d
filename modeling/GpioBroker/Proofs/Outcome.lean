import GpioBroker.Act

/-!
# How actions end

`x.Ends h Q` says that the action `x`, run on the host `h`, ends with an outcome and a host that
satisfy `Q`, and `x.Keeps I` that it takes each host that satisfies `I` to one that satisfies `I`.
There is one rule for each combinator, so that what an action does is derived from what its parts
do.
-/

namespace GpioBroker

namespace Act

variable {σ τ α β : Type}

/-- Run on `h`, the action ends with an outcome and a host that satisfy `Q`. -/
def Ends (x : Act σ α) (h : Host σ) (Q : Except Failure α → Host σ → Prop) : Prop :=
  Q (x.run h).1 (x.run h).2

variable {x : Act σ α} {h : Host σ} {Q R : Except Failure α → Host σ → Prop}

theorem Ends.mono (hx : x.Ends h R) (hQ : ∀ r h', R r h' → Q r h') : x.Ends h Q := hQ _ _ hx

theorem Ends.and (hR : x.Ends h R) (hQ : x.Ends h Q) : x.Ends h fun r h' => R r h' ∧ Q r h' :=
  ⟨hR, hQ⟩

/-- An action ends as it is run. -/
theorem ends_run (x : Act σ α) (h : Host σ) : x.Ends h fun r h' => x.run h = (r, h') := rfl

/-! ### Single steps -/

@[simp] theorem ends_pure (a : α) : (pure a : Act σ α).Ends h Q ↔ Q (.ok a) h := Iff.rfl

@[simp] theorem ends_state {Q : Except Failure σ → Host σ → Prop} :
    (state : Act σ σ).Ends h Q ↔ Q (.ok h.state) h := Iff.rfl

theorem ends_take? {Q : Except Failure (Option Event) → Host σ → Prop} :
    (take? : Act σ (Option Event)).Ends h Q ↔
      match h.queue with
      | [] => Q (.ok none) h
      | e :: rest => Q (.ok (some e)) { h with queue := rest } := by
  unfold Ends run take?
  cases h.queue <;> rfl

@[simp] theorem ends_waiting {Q : Except Failure Nat → Host σ → Prop} :
    (waiting : Act σ Nat).Ends h Q ↔ Q (.ok h.queue.length) h := Iff.rfl

section Unit

variable {Q : Except Failure Unit → Host σ → Prop}

@[simp] theorem ends_update (f : σ → σ) :
    (update f).Ends h Q ↔ Q (.ok ()) { h with state := f h.state } := Iff.rfl

@[simp] theorem ends_note (c : Call) :
    (note c).Ends h Q ↔ Q (.ok ()) { h with calls := h.calls ++ [c] } := Iff.rfl

@[simp] theorem ends_log (level : Level) (text : Text) :
    (log level text).Ends h Q ↔
      Q (.ok ()) { h with records := h.records ++ [⟨level.number, text⟩] } := Iff.rfl

@[simp] theorem ends_post (e : Event) :
    (post e).Ends h Q ↔ Q (.ok ()) { h with queue := h.queue ++ [e] } := Iff.rfl

@[simp] theorem ends_deliver :
    (deliver : Act σ Unit).Ends h Q ↔
      Q (.ok ()) { h with queue := h.queue ++ h.deferred, deferred := [] } := Iff.rfl

theorem ends_failing (fault : Option Fault) (none : fault = none → Q (.ok ()) h)
    (some : ∀ f, fault = some f → Q (.error { fault := f }) h) : (failing fault).Ends h Q := by
  cases fault with
  | none => exact none rfl
  | some f => exact some f rfl

end Unit

theorem ends_ofExcept (r : Except Fault α) (ok : ∀ a, r = .ok a → Q (.ok a) h)
    (error : ∀ f, r = .error f → Q (.error { fault := f }) h) : (ofExcept r).Ends h Q := by
  cases r with
  | ok a => exact ok a rfl
  | error f => exact error f rfl

@[simp] theorem ends_ofExcept_ok (a : α) : (ofExcept (.ok a) : Act σ α).Ends h Q ↔ Q (.ok a) h :=
  Iff.rfl

@[simp] theorem ends_ofOutcome (r : Except Failure α) : (ofOutcome r).Ends h Q ↔ Q r h := by
  cases r <;> rfl

theorem ends_ite {c : Prop} [Decidable c] {y : Act σ α} (yes : c → x.Ends h Q)
    (no : ¬ c → y.Ends h Q) : (if c then x else y).Ends h Q := by
  split
  · exact yes ‹_›
  · exact no ‹_›

/-! ### Combinators -/

theorem ends_bind {k : α → Act σ β} {Q : Except Failure β → Host σ → Prop} :
    (x >>= k).Ends h Q ↔
      x.Ends h fun r h' =>
        match r with
        | .ok a => (k a).Ends h' Q
        | .error e => Q (.error e) h' := by
  unfold Ends
  rw [run_bind]
  rcases x.run h with ⟨e | a, h'⟩ <;> rfl

theorem Ends.bind {k : α → Act σ β} {Q : Except Failure β → Host σ → Prop} (hx : x.Ends h R)
    (ok : ∀ a h', R (.ok a) h' → (k a).Ends h' Q)
    (error : ∀ e h', R (.error e) h' → Q (.error e) h') : (x >>= k).Ends h Q := by
  refine ends_bind.2 (hx.mono ?_)
  rintro (e | a) h' hr
  · exact error e h' hr
  · exact ok a h' hr

theorem ends_forM_cons {γ : Type} {c : γ} {cs : List γ} {f : γ → Act σ Unit}
    {Q : Except Failure Unit → Host σ → Prop} :
    ((c :: cs).forM f).Ends h Q ↔ (f c >>= fun _ => cs.forM f).Ends h Q := Iff.rfl

theorem run_map (f : α → β) (x : Act σ α) (h : Host σ) :
    (f <$> x).run h = ((x.run h).1.map f, (x.run h).2) := by
  have same : f <$> x = x >>= fun a => pure (f a) := rfl
  rw [same, run_bind]
  rcases x.run h with ⟨e | a, h'⟩ <;> rfl

@[simp] theorem ends_map {f : α → β} {Q : Except Failure β → Host σ → Prop} :
    (f <$> x).Ends h Q ↔ x.Ends h fun r h' => Q (r.map f) h' := by
  unfold Ends
  rw [run_map]

theorem Ends.map {f : α → β} (hx : x.Ends h R) :
    (f <$> x).Ends h fun r h' => ∃ inner, r = inner.map f ∧ R inner h' :=
  ends_map.2 (hx.mono fun inner _ hr => ⟨inner, rfl, hr⟩)

@[simp] theorem ends_discard {Q : Except Failure Unit → Host σ → Prop} :
    (discard x).Ends h Q ↔ x.Ends h fun r h' => Q (r.map fun _ => ()) h' :=
  ends_map

theorem Ends.within {get : σ → τ} {set : σ → τ → σ} {x : Act τ α}
    (hx : x.Ends (h.withState (get h.state))
      fun r h' => Q r (h'.withState (set h.state h'.state))) :
    (within get set x).Ends h Q := by
  unfold Ends at hx ⊢
  rwa [run_within]

/-- The outcome of an action and the cleanup after it. -/
def settled (r : Except Failure α) : Except Failure Unit → Except Failure α
  | .ok _ => r
  | .error e => .error (e.following r)

/-- The last fault of two cleanups wins, whichever of them belongs to the other. -/
theorem settled_settled (r : Except Failure α) (c c' : Except Failure Unit) :
    settled r (settled c c') = settled (settled r c) c' := by
  cases c' with
  | ok _ => rfl
  | error e =>
    cases c with
    | ok _ => rfl
    | error e' => cases r <;> simp [settled, Failure.following, Failure.after]

theorem run_ensure_settled {cleanup : Act σ Unit} {h₁ h₂ : Host σ} {r : Except Failure α}
    {c : Except Failure Unit} (hx : x.run h = (r, h₁)) (hc : cleanup.run h₁ = (c, h₂)) :
    (ensure x cleanup).run h = (settled r c, h₂) := by
  rw [run_ensure, hx]
  dsimp only
  rw [hc]
  cases c <;> rfl

theorem Ends.ensure {cleanup : Act σ Unit} (hx : x.Ends h R)
    (hc : ∀ r h', R r h' → cleanup.Ends h' fun c h'' => Q (settled r c) h'') :
    (ensure x cleanup).Ends h Q := by
  have := hc _ _ hx
  unfold Ends at this ⊢
  rw [run_ensure]
  rcases hr : cleanup.run (x.run h).2 with ⟨e | u, h'⟩ <;> rw [hr] at this <;> exact this

theorem Ends.recover {handles : Fault → Bool} {handler : Fault → Act σ α} (hx : x.Ends h R)
    (ok : ∀ a h', R (.ok a) h' → Q (.ok a) h')
    (left : ∀ e h', R (.error e) h' → handles e.fault = false → Q (.error e) h')
    (handled : ∀ e h', R (.error e) h' → handles e.fault = true →
      (handler e.fault).Ends h' fun r h'' => Q (r.mapError (·.after .during e)) h'') :
    (recover handles x handler).Ends h Q := by
  unfold Ends at hx ⊢
  rw [run_recover]
  rcases hr : x.run h with ⟨e | a, h'⟩ <;> rw [hr] at hx
  · dsimp only
    split
    · rename_i heq
      have := handled e h' hx heq
      unfold Ends at this
      rcases hh : (handler e.fault).run h' with ⟨e' | a, h''⟩ <;> rw [hh] at this <;> exact this
    · rename_i heq
      exact left e h' hx (by simpa using heq)
  · exact ok a h' hx

/-- Every fault of an answer is handled, by a handler that does not fail. -/
theorem ends_recover_ofOutcome {handles : Fault → Bool} {handler : Fault → Act σ Unit}
    {reply : Except Failure Unit} (expected : ∀ e, reply = .error e → handles e.fault = true)
    (logs : ∀ f h', (handler f).Ends h' fun r h'' => r = .ok () ∧ h''.state = h'.state) :
    (recover handles (ofOutcome reply) handler).Ends h fun r h' =>
      r = .ok () ∧ h'.state = h.state := by
  refine Ends.recover (R := fun r h' => r = reply ∧ h' = h)
    ((ends_ofOutcome _).2 ⟨rfl, rfl⟩) ?_ ?_ ?_
  · rintro _ h' ⟨-, rfl⟩
    exact ⟨rfl, rfl⟩
  · rintro e h' ⟨failed, -⟩ other
    rw [expected e failed.symm] at other
    cases other
  · rintro e h' ⟨-, rfl⟩ -
    refine (logs _ _).mono ?_
    rintro r h'' ⟨rfl, same⟩
    exact ⟨rfl, same⟩

theorem Ends.undo {handles : Fault → Bool} {cleanup : Act σ Unit} (hx : x.Ends h R)
    (ok : ∀ a h', R (.ok a) h' → Q (.ok a) h')
    (left : ∀ e h', R (.error e) h' → handles e.fault = false → Q (.error e) h')
    (handled : ∀ e h', R (.error e) h' → handles e.fault = true →
      cleanup.Ends h' fun c h'' => Q (settled (.error e) c) h'') :
    (undo handles x cleanup).Ends h Q := by
  unfold Ends at hx ⊢
  rw [run_undo]
  rcases hr : x.run h with ⟨e | a, h'⟩ <;> rw [hr] at hx
  · dsimp only
    split
    · rename_i heq
      have := handled e h' hx heq
      unfold Ends at this
      rcases hh : cleanup.run h' with ⟨e' | u, h''⟩ <;> rw [hh] at this <;> exact this
    · rename_i heq
      exact left e h' hx (by simpa using heq)
  · exact ok a h' hx

theorem Ends.explain {handles : Fault → Bool} {explanation : Fault → Fault} (hx : x.Ends h R)
    (ok : ∀ a h', R (.ok a) h' → Q (.ok a) h')
    (left : ∀ e h', R (.error e) h' → handles e.fault = false → Q (.error e) h')
    (handled : ∀ e h', R (.error e) h' → handles e.fault = true →
      Q (.error (Failure.after { fault := explanation e.fault } .because e)) h') :
    (explain handles x explanation).Ends h Q := by
  unfold Ends at hx ⊢
  rw [run_explain]
  rcases hr : x.run h with ⟨e | a, h'⟩ <;> rw [hr] at hx
  · dsimp only
    split
    · rename_i heq
      exact handled e h' hx heq
    · rename_i heq
      exact left e h' hx (by simpa using heq)
  · exact ok a h' hx

theorem Ends.attempt {Q : Except Failure (Except Failure α) → Host σ → Prop}
    (hx : x.Ends h fun r h' => Q (.ok r) h') : (attempt x).Ends h Q := by
  unfold Ends at hx ⊢
  rwa [run_attempt]

/-! ### Invariants -/

/-- However it ends, the action leads from hosts that satisfy `I` to hosts that satisfy `I`. -/
def Keeps (I : Host σ → Prop) (x : Act σ α) : Prop := ∀ h, I h → x.Ends h fun _ h' => I h'

/-- A property of hosts that only the state and the calls of the host decide. -/
def IsLoose (I : Host σ → Prop) : Prop :=
  ∀ h h', h'.state = h.state → h'.calls = h.calls → I h → I h'

theorem isLoose_of_state (P : σ → Prop) : IsLoose fun h : Host σ => P h.state := by
  intro h h' state _ hp
  rwa [state]

section Keeps

variable {I : Host σ → Prop}

theorem keeps_pure (a : α) : (pure a : Act σ α).Keeps I := fun _ hI => hI

theorem keeps_fail (f : Fault) : (fail f : Act σ α).Keeps I := fun _ hI => hI

theorem keeps_state : (state : Act σ σ).Keeps I := fun _ hI => hI

theorem keeps_failing (fault : Option Fault) : (failing fault).Keeps I := fun _ hI =>
  ends_failing fault (fun _ => hI) fun _ _ => hI

theorem keeps_ofExcept (r : Except Fault α) : (ofExcept r).Keeps I := fun _ hI =>
  ends_ofExcept r (fun _ _ => hI) fun _ _ => hI

theorem keeps_ofOutcome (r : Except Failure α) : (ofOutcome r).Keeps I := fun _ hI =>
  (ends_ofOutcome r).2 hI

theorem keeps_log (loose : IsLoose I) (level : Level) (text : Text) : (log level text).Keeps I :=
  fun h hI => loose h _ rfl rfl hI

theorem keeps_post (loose : IsLoose I) (e : Event) : (post e).Keeps I :=
  fun h hI => loose h _ rfl rfl hI

theorem keeps_defer (loose : IsLoose I) (e : Event) : (defer e).Keeps I :=
  fun h hI => loose h _ rfl rfl hI

theorem Keeps.bind {x : Act σ α} {k : α → Act σ β} (hx : x.Keeps I) (hk : ∀ a, (k a).Keeps I) :
    (x >>= k).Keeps I := fun h hI =>
  Ends.bind (hx h hI) (fun a h₁ hI₁ => hk a h₁ hI₁) fun _ _ hI₁ => hI₁

theorem Keeps.ite {c : Prop} [Decidable c] {x y : Act σ α} (hx : x.Keeps I) (hy : y.Keeps I) :
    (if c then x else y).Keeps I := fun h hI =>
  ends_ite (fun _ => hx h hI) fun _ => hy h hI

theorem Keeps.map {f : α → β} {x : Act σ α} (hx : x.Keeps I) : (f <$> x).Keeps I := fun h hI =>
  ends_map.2 (hx h hI)

theorem Keeps.discard {x : Act σ α} (hx : x.Keeps I) : (discard x).Keeps I := fun h hI =>
  ends_discard.2 (hx h hI)

theorem Keeps.forM {γ : Type} {f : γ → Act σ Unit} (hf : ∀ c, (f c).Keeps I) (cs : List γ) :
    (cs.forM f).Keeps I := by
  induction cs with
  | nil => exact keeps_pure ()
  | cons c cs ih => exact (hf c).bind fun _ => ih

theorem Keeps.within {get : σ → τ} {set : σ → τ → σ} {x : Act τ α} (same : ∀ s, set s (get s) = s)
    (hx : ∀ s, x.Keeps fun h => I (h.withState (set s h.state))) : (within get set x).Keeps I := by
  intro h hI
  refine Ends.within (hx h.state (h.withState (get h.state)) ?_)
  have back : (h.withState (get h.state)).withState (set h.state (get h.state)) = h := by
    rw [same]
    rfl
  change I ((h.withState (get h.state)).withState (set h.state (get h.state)))
  rwa [back]

theorem Keeps.ensure {x : Act σ α} {cleanup : Act σ Unit} (hx : x.Keeps I) (hc : cleanup.Keeps I) :
    (ensure x cleanup).Keeps I := fun h hI =>
  Ends.ensure (hx h hI) fun _ h₁ hI₁ => hc h₁ hI₁

theorem Keeps.recover {handles : Fault → Bool} {x : Act σ α} {handler : Fault → Act σ α}
    (hx : x.Keeps I) (hh : ∀ f, (handler f).Keeps I) : (recover handles x handler).Keeps I :=
  fun h hI => Ends.recover (hx h hI) (fun _ _ hI₁ => hI₁) (fun _ _ hI₁ _ => hI₁)
    fun e h₁ hI₁ _ => hh e.fault h₁ hI₁

theorem Keeps.undo {handles : Fault → Bool} {x : Act σ α} {cleanup : Act σ Unit} (hx : x.Keeps I)
    (hc : cleanup.Keeps I) : (undo handles x cleanup).Keeps I := fun h hI =>
  Ends.undo (hx h hI) (fun _ _ hI₁ => hI₁) (fun _ _ hI₁ _ => hI₁) fun _ h₁ hI₁ _ => hc h₁ hI₁

theorem Keeps.explain {handles : Fault → Bool} {x : Act σ α} {explanation : Fault → Fault}
    (hx : x.Keeps I) : (explain handles x explanation).Keeps I := fun h hI =>
  Ends.explain (hx h hI) (fun _ _ hI₁ => hI₁) (fun _ _ hI₁ _ => hI₁) fun _ _ hI₁ _ => hI₁

theorem Keeps.attempt {x : Act σ α} (hx : x.Keeps I) : (attempt x).Keeps I := fun h hI =>
  Ends.attempt (hx h hI)

end Keeps

end Act

end GpioBroker
