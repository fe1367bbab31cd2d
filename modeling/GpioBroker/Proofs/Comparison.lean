import GpioBroker.Proofs.Outcome

/-!
# Two runs compared

`Abreast x x' h h' V E` says that the action `x`, run on the host `h`, and the action `x'`, run on
`h'`, end in the same way: both with values, which satisfy `V` together with the hosts they leave,
or both with one failure, on hosts that satisfy `E`.  There is one rule for each combinator, so that
what two runs have in common is derived from what the runs of their parts have in common.
-/

namespace GpioBroker

namespace Act

variable {σ τ α β : Type}

/-- Run on `h` and on `h'`, the actions end in the same way. -/
inductive Abreast (x x' : Act σ α) (h h' : Host σ) (V : α → α → Host σ → Host σ → Prop)
    (E : Host σ → Host σ → Prop) : Prop
  | value {a a' : α} {k k' : Host σ} (one : x.run h = (.ok a, k)) (other : x'.run h' = (.ok a', k'))
      (left : V a a' k k') : Abreast x x' h h' V E
  | failure {e : Failure} {k k' : Host σ} (one : x.run h = (.error e, k))
      (other : x'.run h' = (.error e, k')) (left : E k k') : Abreast x x' h h' V E

variable {x x' : Act σ α} {h h' : Host σ} {V W : α → α → Host σ → Host σ → Prop}
  {E F : Host σ → Host σ → Prop}

theorem Abreast.mono (hx : Abreast x x' h h' V E) (value : ∀ a a' k k', V a a' k k' → W a a' k k')
    (failure : ∀ k k', E k k' → F k k') : Abreast x x' h h' W F := by
  cases hx with
  | value one other left => exact .value one other (value _ _ _ _ left)
  | failure one other left => exact .failure one other (failure _ _ left)

/-- What each of the two runs does on its own comes to what they have in common. -/
theorem Abreast.and {R R' : Except Failure α → Host σ → Prop} (hx : Abreast x x' h h' V E)
    (one : x.Ends h R) (other : x'.Ends h' R') :
    Abreast x x' h h' (fun a a' k k' => V a a' k k' ∧ R (.ok a) k ∧ R' (.ok a') k')
      fun k k' => E k k' ∧ ∃ e, R (.error e) k ∧ R' (.error e) k' := by
  unfold Ends at one other
  cases hx with
  | value ran ran' left =>
    rw [ran] at one
    rw [ran'] at other
    exact .value ran ran' ⟨left, one, other⟩
  | failure ran ran' left =>
    rw [ran] at one
    rw [ran'] at other
    exact .failure ran ran' ⟨left, _, one, other⟩

/-- Two runs that end well on their own end in the same way. -/
theorem abreast_of_ends {R R' : α → Host σ → Prop}
    (one : x.Ends h fun r k => ∃ a, r = .ok a ∧ R a k)
    (other : x'.Ends h' fun r k => ∃ a, r = .ok a ∧ R' a k)
    (value : ∀ a a' k k', R a k → R' a' k' → V a a' k k') : Abreast x x' h h' V E := by
  obtain ⟨a, ok, hR⟩ := one
  obtain ⟨a', ok', hR'⟩ := other
  exact .value (Prod.ext ok rfl) (Prod.ext ok' rfl) (value a a' _ _ hR hR')

/-- Two runs that end in the same way with the same value have the same outcome. -/
theorem Abreast.outcome (hx : Abreast x x' h h' V E) (same : ∀ a a' k k', V a a' k k' → a = a') :
    (x.run h).1 = (x'.run h').1 := by
  cases hx with
  | value one other left => rw [one, other, same _ _ _ _ left]
  | failure one other left => rw [one, other]

/-- What the hosts have in common that two runs leave, however these end. -/
theorem Abreast.left {D : Host σ → Host σ → Prop} (hx : Abreast x x' h h' V E)
    (value : ∀ a a' k k', V a a' k k' → D k k') (failure : ∀ k k', E k k' → D k k') :
    D (x.run h).2 (x'.run h').2 := by
  cases hx with
  | value one other left =>
    rw [one, other]
    exact value _ _ _ _ left
  | failure one other left =>
    rw [one, other]
    exact failure _ _ left

/-! ### Single steps -/

theorem abreast_pure {a a' : α} (value : V a a' h h') : Abreast (pure a) (pure a') h h' V E :=
  .value rfl rfl value

theorem abreast_fail (f : Fault) (failure : E h h') :
    Abreast (fail f : Act σ α) (fail f) h h' V E :=
  .failure rfl rfl failure

section Unit

variable {V : Unit → Unit → Host σ → Host σ → Prop}

theorem abreast_update {f f' : σ → σ}
    (value : V () () { h with state := f h.state } { h' with state := f' h'.state }) :
    Abreast (update f) (update f') h h' V E := .value rfl rfl value

theorem abreast_log {level level' : Level} {text text' : Text}
    (value : V () () { h with records := h.records ++ [⟨level.number, text⟩] }
      { h' with records := h'.records ++ [⟨level'.number, text'⟩] }) :
    Abreast (log level text) (log level' text') h h' V E := .value rfl rfl value

theorem abreast_failing (fault : Option Fault) (none : fault = none → V () () h h')
    (some : ∀ f, fault = some f → E h h') : Abreast (failing fault) (failing fault) h h' V E := by
  cases fault with
  | none => exact .value rfl rfl (none rfl)
  | some f => exact .failure rfl rfl (some f rfl)

end Unit

theorem abreast_ofExcept (r : Except Fault α) (ok : ∀ a, r = .ok a → V a a h h')
    (error : ∀ f, r = .error f → E h h') : Abreast (ofExcept r) (ofExcept r) h h' V E := by
  cases r with
  | ok a => exact .value rfl rfl (ok a rfl)
  | error f => exact .failure rfl rfl (error f rfl)

theorem abreast_ite {c : Prop} [Decidable c] {y y' : Act σ α} (yes : c → Abreast x x' h h' V E)
    (no : ¬ c → Abreast y y' h h' V E) :
    Abreast (if c then x else y) (if c then x' else y') h h' V E := by
  split
  · exact yes ‹_›
  · exact no ‹_›

/-! ### Combinators -/

/-- Actions end as others do that run as they do. -/
theorem Abreast.of_run {y y' : Act σ α} {k k' : Host σ} (hx : Abreast x x' h h' V E)
    (one : y.run k = x.run h) (other : y'.run k' = x'.run h') : Abreast y y' k k' V E := by
  cases hx with
  | value ran ran' left => exact .value (one.trans ran) (other.trans ran') left
  | failure ran ran' left => exact .failure (one.trans ran) (other.trans ran') left

section Bind

variable {V : β → β → Host σ → Host σ → Prop}

theorem Abreast.bind {k k' : α → Act σ β} (hx : Abreast x x' h h' W F)
    (next : ∀ a a' h₁ h₁', W a a' h₁ h₁' → Abreast (k a) (k' a') h₁ h₁' V E)
    (failure : ∀ h₁ h₁', F h₁ h₁' → E h₁ h₁') : Abreast (x >>= k) (x' >>= k') h h' V E := by
  cases hx with
  | value one other left =>
    exact (next _ _ _ _ left).of_run (by rw [run_bind, one]) (by rw [run_bind, other])
  | failure one other left =>
    exact .failure (by rw [run_bind, one]) (by rw [run_bind, other]) (failure _ _ left)

theorem abreast_state_bind {k k' : σ → Act σ β}
    (next : Abreast (k h.state) (k' h'.state) h h' V E) :
    Abreast (state >>= k) (state >>= k') h h' V E := next.of_run rfl rfl

/-- What would come after a failure does not matter. -/
theorem abreast_fail_bind {k k' : α → Act σ β} (f : Fault) (failure : E h h') :
    Abreast ((fail f : Act σ α) >>= k) ((fail f : Act σ α) >>= k') h h' V E :=
  .failure rfl rfl failure

theorem abreast_ofExcept_bind {k k' : α → Act σ β} (r : Except Fault α)
    (ok : ∀ a, r = .ok a → Abreast (k a) (k' a) h h' V E) (error : ∀ f, r = .error f → E h h') :
    Abreast (ofExcept r >>= k) (ofExcept r >>= k') h h' V E := by
  cases r with
  | ok a => exact (ok a rfl).of_run rfl rfl
  | error f => exact .failure rfl rfl (error f rfl)

variable {k k' : Unit → Act σ β}

theorem abreast_failing_bind (fault : Option Fault)
    (none : fault = none → Abreast (k ()) (k' ()) h h' V E) (some : ∀ f, fault = some f → E h h') :
    Abreast (failing fault >>= k) (failing fault >>= k') h h' V E := by
  cases fault with
  | none => exact (none rfl).of_run rfl rfl
  | some f => exact .failure rfl rfl (some f rfl)

theorem abreast_update_bind {f f' : σ → σ}
    (next : Abreast (k ()) (k' ()) { h with state := f h.state }
    { h' with state := f' h'.state } V E) : Abreast (update f >>= k) (update f' >>= k') h h' V E :=
  next.of_run rfl rfl

theorem abreast_note_bind {c c' : Call}
    (next : Abreast (k ()) (k' ()) { h with calls := h.calls ++ [c] }
    { h' with calls := h'.calls ++ [c'] } V E) : Abreast (note c >>= k) (note c' >>= k') h h' V E :=
  next.of_run rfl rfl

theorem abreast_log_bind {level level' : Level} {text text' : Text}
    (next : Abreast (k ()) (k' ()) { h with records := h.records ++ [⟨level.number, text⟩] }
      { h' with records := h'.records ++ [⟨level'.number, text'⟩] } V E) :
    Abreast (log level text >>= k) (log level' text' >>= k') h h' V E :=
  next.of_run rfl rfl

end Bind

theorem Abreast.map {f : α → β} {V : β → β → Host σ → Host σ → Prop}
    (hx : Abreast x x' h h' (fun a a' => V (f a) (f a')) E) :
    Abreast (f <$> x) (f <$> x') h h' V E := by
  cases hx with
  | value one other left =>
    exact .value (by rw [run_map, one]; rfl) (by rw [run_map, other]; rfl) left
  | failure one other left =>
    exact .failure (by rw [run_map, one]; rfl) (by rw [run_map, other]; rfl) left

theorem Abreast.discard {V : Unit → Unit → Host σ → Host σ → Prop}
    (hx : Abreast x x' h h' (fun _ _ => V () ()) E) : Abreast (discard x) (discard x') h h' V E :=
  Abreast.map hx

theorem Abreast.within {get : σ → τ} {set : σ → τ → σ} {x x' : Act τ α}
    (hx : Abreast x x' (h.withState (get h.state)) (h'.withState (get h'.state))
      (fun a a' k k' =>
        V a a' (k.withState (set h.state k.state)) (k'.withState (set h'.state k'.state)))
      fun k k' => E (k.withState (set h.state k.state)) (k'.withState (set h'.state k'.state))) :
    Abreast (within get set x) (within get set x') h h' V E := by
  cases hx with
  | value one other left => exact .value (by rw [run_within, one]) (by rw [run_within, other]) left
  | failure one other left =>
    exact .failure (by rw [run_within, one]) (by rw [run_within, other]) left

theorem Abreast.ensure {cleanup cleanup' : Act σ Unit} (hx : Abreast x x' h h' W F)
    (value : ∀ a a' h₁ h₁', W a a' h₁ h₁' → Abreast cleanup cleanup' h₁ h₁' (fun _ _ => V a a') E)
    (failure : ∀ h₁ h₁', F h₁ h₁' → Abreast cleanup cleanup' h₁ h₁' (fun _ _ => E) E) :
    Abreast (ensure x cleanup) (ensure x' cleanup') h h' V E := by
  cases hx with
  | value one other left =>
    cases value _ _ _ _ left with
    | value ran ran' left =>
      exact .value (run_ensure_settled one ran) (run_ensure_settled other ran') left
    | failure ran ran' left =>
      exact .failure (run_ensure_settled one ran) (run_ensure_settled other ran') left
  | @failure e _ _ one other left =>
    cases failure _ _ left with
    | value ran ran' left =>
      exact .failure (run_ensure_settled one ran) (run_ensure_settled other ran') left
    | @failure e' _ _ ran ran' left =>
      exact .failure (e := e'.after .during e) (run_ensure_settled one ran)
        (run_ensure_settled other ran') left

theorem Abreast.recover {handles : Fault → Bool} {handler handler' : Fault → Act σ α}
    (hx : Abreast x x' h h' W F) (value : ∀ a a' h₁ h₁', W a a' h₁ h₁' → V a a' h₁ h₁')
    (unhandled : ∀ h₁ h₁', F h₁ h₁' → E h₁ h₁')
    (handled : ∀ f h₁ h₁', F h₁ h₁' → handles f = true →
      Abreast (handler f) (handler' f) h₁ h₁' V E) :
    Abreast (recover handles x handler) (recover handles x' handler') h h' V E := by
  cases hx with
  | value one other left =>
    exact .value (by rw [run_recover, one]) (by rw [run_recover, other]) (value _ _ _ _ left)
  | @failure e _ _ one other left =>
    by_cases dealt : handles e.fault = true
    · cases handled e.fault _ _ left dealt with
      | value ran ran' left =>
        exact .value (by simp [run_recover, one, dealt, ran])
          (by simp [run_recover, other, dealt, ran']) left
      | @failure e' _ _ ran ran' left =>
        exact .failure (e := e'.after .during e) (by simp [run_recover, one, dealt, ran])
          (by simp [run_recover, other, dealt, ran']) left
    · exact .failure (e := e) (by simp [run_recover, one, dealt])
        (by simp [run_recover, other, dealt])
        (unhandled _ _ left)

theorem Abreast.undo {handles : Fault → Bool} {cleanup cleanup' : Act σ Unit}
    (hx : Abreast x x' h h' W F) (value : ∀ a a' h₁ h₁', W a a' h₁ h₁' → V a a' h₁ h₁')
    (unhandled : ∀ h₁ h₁', F h₁ h₁' → E h₁ h₁')
    (handled : ∀ h₁ h₁', F h₁ h₁' → Abreast cleanup cleanup' h₁ h₁' (fun _ _ => E) E) :
    Abreast (undo handles x cleanup) (undo handles x' cleanup') h h' V E := by
  cases hx with
  | value one other left =>
    exact .value (by rw [run_undo, one]) (by rw [run_undo, other]) (value _ _ _ _ left)
  | @failure e _ _ one other left =>
    by_cases dealt : handles e.fault = true
    · cases handled _ _ left with
      | value ran ran' left =>
        exact .failure (e := e) (by simp [run_undo, one, dealt, ran])
          (by simp [run_undo, other, dealt, ran']) left
      | @failure e' _ _ ran ran' left =>
        exact .failure (e := e'.after .during e) (by simp [run_undo, one, dealt, ran])
          (by simp [run_undo, other, dealt, ran']) left
    · exact .failure (e := e) (by simp [run_undo, one, dealt]) (by simp [run_undo, other, dealt])
        (unhandled _ _ left)

theorem Abreast.explain {handles : Fault → Bool} {explanation : Fault → Fault}
    (hx : Abreast x x' h h' V E) :
    Abreast (explain handles x explanation) (explain handles x' explanation) h h' V E := by
  cases hx with
  | value one other left =>
    exact .value (by rw [run_explain, one]) (by rw [run_explain, other]) left
  | @failure e _ _ one other left =>
    by_cases dealt : handles e.fault = true
    · exact .failure (e := Failure.after { fault := explanation e.fault } .because e)
        (by simp [run_explain, one, dealt]) (by simp [run_explain, other, dealt]) left
    · exact .failure (e := e) (by simp [run_explain, one, dealt])
        (by simp [run_explain, other, dealt]) left

/-- Two loops over the same list end in the same way if their steps do, as long as what the steps
left satisfies `I` together with what is still to come. -/
theorem abreast_forM {γ : Type} {f f' : γ → Act σ Unit} {I : List γ → Host σ → Host σ → Prop}
    (step : ∀ c cs k k', I (c :: cs) k k' → Abreast (f c) (f' c) k k' (fun _ _ => I cs) E)
    (cs : List γ) (start : I cs h h') :
    Abreast (cs.forM f) (cs.forM f') h h' (fun _ _ => I []) E := by
  induction cs generalizing h h' with
  | nil => exact abreast_pure start
  | cons c cs ih =>
    exact (step c cs h h' start).bind (fun _ _ _ _ rest => ih rest) fun _ _ failed => failed

end Act

end GpioBroker
