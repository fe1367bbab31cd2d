import GpioBroker.Proofs.Ownership
import GpioBroker.Proofs.Reports
import Mathlib.Data.List.Induction

/-!
# Holding the name

Whether a connection takes its name for owned is decided by three: the attempt to own it, the
messages that revoke it, and the release.  Until the first release it does so exactly if the attempt
went on with an answer that grants the name and no message has revoked it since.  So a release gives
back what is held and nothing else, and messages that revoke nothing are as good as absent.
-/

namespace GpioBroker

open Act

theorem NameReply.isOwner_iff {reply : NameReply} :
    reply.isOwner = true ↔ reply = .primaryOwner ∨ reply = .alreadyOwner := by
  cases reply <;> simp [isOwner]

/-- An attempt that waits for the answer to its request is granted the name as the answer says. -/
theorem Story.isGranted_requesting {s : Story} {script : BusScript}
    (asked : s.attempts = [.requesting 0]) :
    s.IsGranted script ↔ (script.requestFault.isNone && script.reply.isOwner) = true := by
  simp [Story.IsGranted, asked, NameReply.isOwner_iff]

namespace Connection

variable {ρ : Type}

/-! ### Who sets the flag -/

section Owner

variable {h : Host (Connection ρ)} {name : Text} {script : BusScript} {told : List Event} {o : Bool}

/-- The connection takes its name for owned, or does not. -/
def Flagged (o : Bool) (h : Host (Connection ρ)) : Prop := h.state.isOwner = o

theorem isLoose_flagged : IsLoose (Flagged (ρ := ρ) o) :=
  isLoose_of_state fun c : Connection ρ => c.isOwner = o

theorem flagged_update {f : Connection ρ → Connection ρ}
    (same : ∀ c, (f c).isOwner = c.isOwner := by intro c; rfl) :
    (update f).Keeps (Flagged o) := fun h flagged => (same h.state).trans flagged

theorem upholds_flagged : Upholds (Flagged (ρ := ρ) o) where
  loose := isLoose_flagged
  note _ _ _ flagged := flagged
  ended _ _ _ := flagged_update

/-- The answer to the request sets the flag if it grants the name, and leaves it alone otherwise. -/
theorem ends_afterRequest_flag (attempt : Nat) (script : BusScript) (h : Host (Connection ρ)) :
    (afterRequest attempt script).Ends h fun _ h' =>
      Flagged (h.state.isOwner || script.requestFault.isNone && script.reply.isOwner) h' := by
  unfold afterRequest
  cases script.requestFault with
  | some f => exact upholds_flagged.finish attempt _ _ h (by simp [Flagged])
  | none =>
    refine ends_ite (fun owner => ?_) fun other => ?_
    · simp only [ends_bind, ends_update, ends_state, ends_post, owner]
      cases h.state.link with
      | some bus =>
        unfold setPhase
        simp only [ends_bind, ends_note, ends_update]
        simp [Flagged]
      | none => exact upholds_flagged.finish attempt _ _ _ (by simp [Flagged])
    · exact upholds_flagged.finish attempt _ _ h (by simp [Flagged, other])

theorem flagged_hangUp (fault : Option Fault) : (hangUp fault).Keeps (Flagged (ρ := ρ) o) :=
  flagged_update

/-- An attempt that does not wait for an answer leaves the flag alone as it goes on. -/
theorem ends_resume_unasked (attempt : Nat)
    (unasked : ∀ bus, h.state.attempts[attempt]? ≠ some (.requesting bus)) :
    (resume attempt).Ends h (fun _ h' => Flagged h.state.isOwner h') := by
  unfold resume
  simp only [ends_bind, ends_state]
  split
  · exact upholds_flagged.makeBus attempt _ (fun _ _ => flagged_update)
      (fun _ => flagged_update) h rfl
  · split
    · exact upholds_flagged.afterConnect attempt _ _ flagged_update flagged_update
        flagged_update h rfl
    · rfl
  · rename_i bus asked
    exact absurd asked (unasked bus)
  · split
    · exact upholds_flagged.afterHangup attempt _ h rfl
    · rfl
  · rfl

/-- As the attempt goes on, the flag is set if the answer to its request grants the name, and stays
as it is otherwise. -/
theorem ends_resume_flag (telling : Telling name script h.state.story told) :
    (resume 0).Ends h fun _ h' =>
      (h'.state.isOwner = true ↔ h.state.isOwner = true ∨ h.state.story.IsGranted script) := by
  have other (unasked : ∀ bus, h.state.attempts ≠ [.requesting bus])
      (alone : ∃ phase, h.state.attempts = [phase]) : (resume 0).Ends h fun _ h' =>
        (h'.state.isOwner = true ↔ h.state.isOwner = true ∨ h.state.story.IsGranted script) := by
    obtain ⟨phase, attempts⟩ := alone
    refine (ends_resume_unasked 0 (h := h) fun bus asked => unasked bus ?_).mono
      fun _ h' flagged => ?_
    · rw [attempts, List.getElem?_cons_zero, Option.some.injEq] at asked
      rw [attempts, asked]
    · have notGranted : ¬ h.state.story.IsGranted script := fun granted => unasked 0 granted.1
      rw [show h'.state.isOwner = h.state.isOwner from flagged, or_iff_left notGranted]
  have attempts : h.state.attempts = h.state.story.attempts := rfl
  generalize story : h.state.story = s at telling attempts
  rw [story] at other
  cases telling with
  | requesting =>
    obtain ⟨b, single, rfl, -⟩ := exists_bus_of_story story
    unfold resume
    simp only [ends_bind, ends_state, attempts, List.getElem?_cons_zero, bus?, single]
    refine Ends.mono (ends_afterRequest_flag 0 b.script h) fun _ h' flagged => ?_
    rw [show h'.state.isOwner = _ from flagged, Story.isGranted_requesting rfl, Bool.or_eq_true]
  | _ => exact other (by rw [attempts]; nofun) ⟨_, attempts⟩

theorem ends_hear_revoked {m : Message} (named : h.state.name = name) (revokes : m.Revokes name) :
    (hear m).Ends h fun _ h' => h'.state.isOwner = false := by
  unfold hear
  simp only [ends_bind, ends_state, named, Message.revokes_iff.2 revokes, ends_ofExcept_ok, if_true,
    ends_update]
  rfl

/-- Hearing a message that does not revoke the name changes nothing at all. -/
theorem ends_hear_other {m : Message} (named : h.state.name = name) (other : ¬ m.Revokes name) :
    (hear m).Ends h fun _ h' => h' = h := by
  unfold hear
  simp only [ends_bind, ends_state, named]
  cases heard : m.revokes name with
  | error f => rfl
  | ok revoked =>
    cases revoked with
    | true => exact absurd (Message.revokes_iff.1 heard) other
    | false => rfl

theorem ends_deliver_other {m : Message} (named : h.state.name = name) (other : ¬ m.Revokes name) :
    (deliver m).Ends h fun _ h' => h' = h := by
  unfold deliver
  simp only [ends_bind, ends_state]
  generalize (h.state.newest?.map MessageBus.listeners).getD 0 = listeners
  induction listeners with
  | zero => rfl
  | succ n ih =>
    rw [List.replicate_succ, ends_forM_cons]
    exact (ends_hear_other named other).bind (by rintro _ h' rfl; exact ih) fun _ _ same => same

/-- A message that revokes the name clears the flag if somebody listens to the bus. -/
theorem ends_deliver_revoked {m : Message} (telling : Telling name script h.state.story told)
    (acquired : acquisitions told = 1) (revokes : m.Revokes name) :
    (deliver m).Ends h fun _ h' => h'.state.isOwner = false := by
  unfold deliver
  simp only [ends_bind, ends_state]
  rw [listeners_story, telling.listeners_eq, acquired, List.replicate_one]
  change (hear m >>= fun _ => pure ()).Ends h _
  exact (ends_hear_revoked telling.name_eq revokes).bind (fun _ _ cleared => cleared)
    fun _ _ cleared => cleared

end Owner

/-! ### When the name is held -/

section Held

variable {start : Host (Connection ρ)} {name : Text} {script : BusScript} {xs ys : List Happening}

/-- The attempt went on when its request had been answered with the ownership, and no message has
revoked the name since. -/
def Holds (start : Host (Connection ρ)) (name : Text) (script : BusScript)
    (xs : List Happening) : Prop :=
  ∃ before later, xs = before ++ .resume :: later ∧
    (onward start before).state.story.IsGranted script ∧
    ∀ m, .message m ∈ later → ¬ m.Revokes name

theorem onward_append (h : Host (Connection ρ)) (xs ys : List Happening) :
    onward h (xs ++ ys) = onward (onward h xs) ys := by
  induction xs generalizing h with
  | nil => rfl
  | cons x xs ih => exact ih _

/-- The name is held after one more happening if that grants it, or if it was held and that does not
revoke it. -/
theorem holds_append_singleton (x : Happening) : Holds start name script (xs ++ [x]) ↔
    (x = .resume ∧ (onward start xs).state.story.IsGranted script) ∨
      (Holds start name script xs ∧ ∀ m, x = .message m → ¬ m.Revokes name) := by
  constructor
  · rintro ⟨before, later, split, granted, quiet⟩
    obtain rfl | ⟨later, y, rfl⟩ := later.eq_nil_or_concat
    · obtain ⟨rfl, last⟩ := List.append_inj' split rfl
      exact .inl ⟨(List.cons.inj last).1, granted⟩
    · rw [List.concat_eq_append, ← List.cons_append, ← List.append_assoc] at split
      obtain ⟨rfl, last⟩ := List.append_inj' split rfl
      obtain ⟨rfl, -⟩ := List.cons.inj last
      refine .inr ⟨⟨before, later, rfl, granted, fun m there => quiet m (by simp [there])⟩, ?_⟩
      rintro m rfl
      exact quiet m (by simp)
  · rintro (⟨rfl, granted⟩ | ⟨⟨before, later, rfl, granted, quiet⟩, last⟩)
    · exact ⟨xs, [], rfl, granted, by simp⟩
    · refine ⟨before, later ++ [x], by simp, granted, fun m there => ?_⟩
      rcases List.mem_append.1 there with old | new
      · exact quiet m old
      · exact last m (List.mem_singleton.1 new).symm

/-- A name that is held was granted over a bus that was acquired. -/
theorem acquisitions_of_holds (begun : Telling name script start.state.story [])
    (holds : Holds start name script xs) : acquisitions (tellings (postings start xs)) = 1 := by
  obtain ⟨before, later, rfl, ⟨asked, -⟩, -⟩ := holds
  have at_most := (telling_onward begun (before ++ .resume :: later)).acquisitions_le
  have told := telling_onward begun before
  rw [List.nil_append] at at_most told
  rw [postings_append, tellings_append] at at_most ⊢
  have one : acquisitions (tellings (postings start before)) = 1 := by
    generalize (onward start before).state.story = s at told asked
    generalize tellings (postings start before) = events at told
    cases told with
    | requesting => rfl
    | _ => cases asked
  unfold acquisitions at at_most one ⊢
  rw [List.countP_append] at at_most ⊢
  omega

/-- What one happening does to the flag. -/
theorem isOwner_after_iff {h : Host (Connection ρ)} {told : List Event} {x : Happening}
    (telling : Telling name script h.state.story told)
    (acquired : h.state.isOwner = true → acquisitions told = 1) (kept : x ≠ .release) :
    (x.after h).state.isOwner = true ↔ (x = .resume ∧ h.state.story.IsGranted script) ∨
      (h.state.isOwner = true ∧ ∀ m, x = .message m → ¬ m.Revokes name) := by
  cases x with
  | resume =>
    have flag : (Happening.resume.after h).state.isOwner = true ↔ _ := ends_resume_flag telling
    simp [flag, or_comm]
  | message m =>
    by_cases revokes : m.Revokes name
    · have cleared : ((Happening.message m).after h).state.isOwner = false := by
        cases owned : h.state.isOwner with
        | true => exact ends_deliver_revoked telling (acquired owned) revokes
        | false => exact upholds_flagged.deliver m (fun _ _ => rfl) h owned
      simp [cleared, revokes]
    · have same : (Happening.message m).after h = h := ends_deliver_other telling.name_eq revokes
      simp [same, revokes]
  | hangUp fault =>
    have flag : ((Happening.hangUp fault).after h).state.isOwner = _ := flagged_hangUp fault h rfl
    simp [flag]
  | cancel =>
    have flag : (Happening.cancel.after h).state.isOwner = _ := upholds_flagged.cancel 0 h rfl
    simp [flag]
  | release => exact absurd rfl kept

/-- Until the connection is released, it takes the name for owned exactly while the name is held. -/
theorem isOwner_onward_iff (begun : Telling name script start.state.story [])
    (unowned : start.state.isOwner = false) (kept : .release ∉ xs) :
    (onward start xs).state.isOwner = true ↔ Holds start name script xs := by
  -- Whether the name is held depends on what came after the last grant, so the induction is from
  -- the end.
  induction xs using List.reverseRecOn with
  | nil => simp [onward, unowned, Holds]
  | append_singleton xs x ih =>
    have kept : .release ∉ xs ∧ .release ≠ x := by simpa using kept
    have ih := ih kept.1
    have told := telling_onward begun xs
    rw [List.nil_append] at told
    have acquired := fun owned => acquisitions_of_holds begun (ih.1 owned)
    rw [holds_append_singleton, ← ih, onward_append]
    exact isOwner_after_iff told acquired kept.2.symm

end Held

/-! ### Releasing the connection -/

section Release

variable {h : Host (Connection ρ)} {name : Text} {script : BusScript} {told : List Event}

/-- The host on which the bus was asked to release the name, and what it was asked. -/
def releasing (h : Host (Connection ρ)) : Except Failure Request × Host (Connection ρ) :=
  beginRelease.run h

/-- The host when the bus answers, after what happened meanwhile. -/
def meanwhile (h : Host (Connection ρ)) (ys : List Happening) : Host (Connection ρ) :=
  onward (releasing h).2 ys

/-- The host after a release during which some things happen. -/
def released (h : Host (Connection ρ)) (ys : List Happening) : Host (Connection ρ) :=
  ((do finishRelease (← Act.ofOutcome (releasing h).1) : Act (Connection ρ) Unit).run
    (meanwhile h ys)).2

/-- What a release asks of the bus, without what is asked meanwhile. -/
def traffic (h : Host (Connection ρ)) (ys : List Happening) : List Call :=
  (releasing h).2.calls.drop h.calls.length ++
    (released h ys).calls.drop (meanwhile h ys).calls.length

/-- The bus is asked to release the name if the connection takes it for owned and is up. -/
theorem ends_beginRelease_calls (h : Host (Connection ρ)) : beginRelease.Ends h fun _ h' =>
    h'.calls = h.calls ++
      if h.state.isOwner && h.state.isConnected then [.releaseName h.state.name] else [] := by
  unfold beginRelease
  simp only [ends_bind, ends_state]
  cases link : h.state.link with
  | none =>
    have down : h.state.isConnected = false := by simp [isConnected, live?, link]
    simp [down]
  | some number =>
    simp only [ends_bind, ends_update]
    refine ends_ite (fun asked => ?_) fun unasked => ?_
    · rw [if_pos asked]
      refine Ends.bind (R := fun _ h' => h'.calls = h.calls ++ [.releaseName h.state.name]) ?_
        (fun _ _ calls => (ends_pure _).2 calls) fun _ _ calls => calls
      refine Ends.attempt (Ends.within ?_)
      exact MessageBus.ends_releaseName_of (fun _ => rfl) fun _ _ => rfl
    · simp [unasked]

/-- After the answer of the bus nothing is asked of it but to disconnect. -/
theorem ends_finishRelease_calls (request : Request) (h : Host (Connection ρ)) :
    (finishRelease request).Ends h fun _ h' =>
      ∃ more, h'.calls = h.calls ++ more ∧ more.Sublist [.disconnect] := by
  cases request with
  | none => exact ⟨[], (List.append_nil _).symm, List.nil_sublist _⟩
  | some asked =>
    unfold finishRelease
    simp only [ends_bind, ends_state]
    have answered : (Act.recover Fault.isBus (Act.ofOutcome asked.2) fun f =>
        Act.log .warning ("error releasing bus name " ++ h.state.name ++ ": " ++ f.message)).Ends h
          fun _ h' => h'.calls = h.calls := by
      refine Ends.recover (R := fun _ h' => h' = h) ((ends_ofOutcome _).2 rfl) ?_ ?_ ?_
      · rintro _ h' rfl
        rfl
      · rintro _ h' rfl -
        rfl
      · rintro _ h' rfl -
        rfl
    refine answered.mono ?_
    rintro (e | u) h₁ calls
    · exact ⟨[], by simpa using calls, List.nil_sublist _⟩
    · rw [← calls]
      exact ⟨[.disconnect], rfl, List.Sublist.refl _⟩

theorem calls_releasing (h : Host (Connection ρ)) : (releasing h).2.calls = h.calls ++
    if h.state.isOwner && h.state.isConnected then [.releaseName h.state.name] else [] :=
  ends_beginRelease_calls h

theorem calls_released (h : Host (Connection ρ)) (ys : List Happening) :
    ∃ more, (released h ys).calls = (meanwhile h ys).calls ++ more ∧
      more.Sublist [.disconnect] := by
  have finished :
      (do finishRelease (← Act.ofOutcome (releasing h).1) : Act (Connection ρ) Unit).Ends
      (meanwhile h ys) fun _ h' =>
        ∃ more, h'.calls = (meanwhile h ys).calls ++ more ∧ more.Sublist [.disconnect] := by
    simp only [ends_bind, ends_ofOutcome]
    cases (releasing h).1 with
    | ok request => exact ends_finishRelease_calls request _
    | error e => exact ⟨[], (List.append_nil _).symm, List.nil_sublist _⟩
  exact finished

/-- A release asks the bus to release the name if the connection takes it for owned and is up, and
then at most to disconnect. -/
theorem traffic_eq (h : Host (Connection ρ)) (ys : List Happening) : ∃ more, traffic h ys =
    (if h.state.isOwner && h.state.isConnected then [.releaseName h.state.name] else []) ++ more ∧
      more.Sublist [.disconnect] := by
  obtain ⟨more, calls, at_most⟩ := calls_released h ys
  refine ⟨more, ?_, at_most⟩
  rw [traffic, calls_releasing, calls, List.drop_left, List.drop_left]

/-- A release during which nothing happens is a release. -/
theorem run_release_eq_released (h : Host (Connection ρ)) : (release.run h).2 = released h [] := by
  rw [run_release, run_bind]
  unfold released meanwhile onward releasing
  rw [run_bind]
  obtain ⟨e | request, h₁⟩ := beginRelease.run h <;> rfl

/-- What it asks of the bus is all that is asked. -/
theorem calls_release (h : Host (Connection ρ)) :
    (release.run h).2.calls = h.calls ++ traffic h [] := by
  obtain ⟨more, calls, -⟩ := calls_released h []
  have first : h.calls ++ (releasing h).2.calls.drop h.calls.length = (meanwhile h []).calls := by
    rw [calls_releasing, List.drop_left]
    exact (calls_releasing h).symm
  rw [run_release_eq_released, traffic, calls, List.drop_left, ← List.append_assoc, first]

/-- The same happenings up to messages that do not revoke the name. -/
inductive Alike (name : Text) : List Happening → List Happening → Prop
  | nil : Alike name [] []
  | cons (x : Happening) {xs ys : List Happening} (alike : Alike name xs ys) :
      Alike name (x :: xs) (x :: ys)
  | left {m : Message} {xs ys : List Happening} (other : ¬ m.Revokes name)
      (alike : Alike name xs ys) :
      Alike name (.message m :: xs) ys
  | right {m : Message} {xs ys : List Happening} (other : ¬ m.Revokes name)
      (alike : Alike name xs ys) :
      Alike name xs (.message m :: ys)

/-- Messages that do not revoke the name are as good as absent. -/
theorem onward_eq_of_alike {xs ys : List Happening}
    (telling : Telling name script h.state.story told) (alike : Alike name xs ys) :
    onward h xs = onward h ys := by
  have inert {h : Host (Connection ρ)} {told : List Event} {m : Message}
      (telling : Telling name script h.state.story told) (other : ¬ m.Revokes name) :
      (Happening.message m).after h = h := ends_deliver_other telling.name_eq other
  induction alike generalizing h told with
  | nil => rfl
  | cons x alike ih => exact ih (posted telling x).telling
  | left other alike ih => rw [onward, inert telling other, ih telling]
  | right other alike ih => rw [onward, inert telling other, ih telling]

/-- How a connection gives its name back. -/
structure IsGivenBack (start : Host (Connection ρ)) (name : Text) (script : BusScript)
    (xs ys : List Happening) : Prop where
  /-- A first release asks the bus to release the name exactly if the name is held and the bus is
  up. -/
  asks : .release ∉ xs → ∀ n, .releaseName n ∈ traffic (onward start xs) ys ↔
    n = name ∧ Holds start name script xs ∧ (onward start xs).state.isConnected = true
  /-- It asks for that once, and for nothing else but to disconnect. -/
  orderly : (traffic (onward start xs) ys).Sublist [.releaseName name, .disconnect]
  /-- Without happenings meanwhile this is what a release does at once. -/
  whole : (release.run (onward start xs)).2.calls =
    (onward start xs).calls ++ traffic (onward start xs) []
  /-- Messages that do not revoke the name, before the release or during it, change neither the
  events that are posted nor what is asked of the bus. -/
  alike : ∀ xs' ys', Alike name xs xs' → Alike name ys ys' →
    (released (onward start xs') ys').queue = (released (onward start xs) ys).queue ∧
      traffic (onward start xs') ys' = traffic (onward start xs) ys

/-- Whatever the bus does and whatever happens in which order, the name is given back as it should
be. -/
theorem isGivenBack (name : Text) (script : BusScript) (xs ys : List Happening) :
    IsGivenBack (owning (ρ := ρ) name script) name script xs ys := by
  have begun := telling_owning (ρ := ρ) name script
  have unowned : (owning (ρ := ρ) name script).state.isOwner = false := rfl
  generalize owning (ρ := ρ) name script = start at begun unowned
  have told := telling_onward begun xs
  obtain ⟨more, asked, at_most⟩ := traffic_eq (onward start xs) ys
  rw [show (onward start xs).state.name = name from told.name_eq] at asked
  refine ⟨fun first n => ?_, ?_, ?_, fun xs' ys' alike alike' => ?_⟩
  · have silent (n : Text) : .releaseName n ∉ more := fun there => by
      simpa using at_most.subset there
    rw [← isOwner_onward_iff begun unowned first, asked]
    by_cases held : (onward start xs).state.isOwner && (onward start xs).state.isConnected
    · have held' := Bool.and_eq_true_iff.1 held
      simp [held', silent]
    · rw [if_neg held, List.nil_append]
      refine iff_of_false (silent n) fun (⟨_, owned, up⟩ : n = name ∧ _) => held ?_
      rw [owned, up]
      rfl
  · rw [asked]
    split
    · exact at_most.cons_cons _
    · exact at_most.cons _
  · exact calls_release _
  · have same : onward start xs' = onward start xs := (onward_eq_of_alike begun alike).symm
    have telling : Telling name script (releasing (onward start xs)).2.state.story
        ([] ++ tellings (postings start xs)) := by
      obtain ⟨story, -⟩ := silent_beginRelease (onward start xs) ⟨rfl, rfl⟩
      have story : (releasing (onward start xs)).2.state.story =
          (onward start xs).state.story := story
      rwa [story]
    have same' : meanwhile (onward start xs) ys' = meanwhile (onward start xs) ys :=
      (onward_eq_of_alike telling alike').symm
    simp only [traffic, released, same, same', and_self]

end Release

end Connection

end GpioBroker
