import GpioBroker.Value.Order

/-!
# Sorting texts

Texts have an order, so sorting them does not fail: it gives the same texts in ascending order.  The
run that it starts from ascends once it is the right way round, and halving finds a place between
the texts that are not above a further one and those that are.
-/

namespace GpioBroker

namespace Text

variable {s t u : Text} {ts : List Text}

theorem le_of_not_le (h : ¬ s ≤ t) : t ≤ s := (le_total s t).resolve_left h

/-- What comes before a place of an ascending list is not above what stands there, and that is not
above what comes behind it. -/
theorem le_getElem_of_pairwise {place : Nat} (ascends : ts.Pairwise (· ≤ ·))
    (inside : place < ts.length) :
    (∀ u ∈ ts.take place, u ≤ ts[place]) ∧ ∀ u ∈ ts.drop (place + 1), ts[place] ≤ u := by
  rw [← List.take_append_drop place ts, List.drop_eq_getElem_cons inside,
    List.pairwise_append] at ascends
  obtain ⟨-, back, apart⟩ := ascends
  exact ⟨fun u before => apart u before _ List.mem_cons_self, (List.pairwise_cons.1 back).1⟩

end Text

namespace Value

variable {s t : Text} {ts us : List Text}

theorem isLess_text (s t : Text) : isLess (.text s) (.text t) = .ok (!decide (t ≤ s)) := by
  simp only [isLess]

/-! ### The run at the beginning -/

/-- Whether a text may follow another one in a run. -/
def Follows (descends : Bool) (s t : Text) : Prop := (!decide (s ≤ t)) = descends

theorem Follows.trans {descends : Bool} {u : Text} (h : Follows descends s t)
    (h' : Follows descends t u) :
    Follows descends s u := by
  unfold Follows at *
  cases descends with
  | true =>
    simp only [Bool.not_eq_true', decide_eq_false_iff_not] at *
    exact fun le => h' (Text.le_trans (Text.le_of_not_le h) le)
  | false =>
    simp only [Bool.not_eq_false', decide_eq_true_eq] at *
    exact Text.le_trans h h'

theorem runLength_texts (descends : Bool) (t : Text) (ts : List Text) :
    ∃ count, runLength descends (.text t) (ts.map .text) = .ok count ∧
      (t :: ts.take count).Pairwise (Follows descends) := by
  induction ts generalizing t with
  | nil => exact ⟨0, rfl, by simp⟩
  | cons s ts ih =>
    rw [List.map_cons, runLength, isLess_text]
    by_cases goesOn : (!decide (t ≤ s)) = descends
    · obtain ⟨count, length, run⟩ := ih s
      refine ⟨count + 1, ?_, ?_⟩
      · simp [goesOn, length, bind, Except.bind, pure, Except.pure]
      · rw [List.take_succ_cons]
        refine List.pairwise_cons.2 ⟨fun u there => ?_, run⟩
        rcases List.mem_cons.1 there with rfl | later
        · exact goesOn
        · exact Follows.trans goesOn ((List.pairwise_cons.1 run).1 u later)
    · exact ⟨0, by simp [goesOn, bind, Except.bind, pure, Except.pure], by simp⟩

/-! ### Putting a text in its place -/

/-- A place of a text: no text before it is above, and every text behind it is. -/
structure IsPlace (t : Text) (ts : List Text) (place : Nat) : Prop where
  before : ∀ u ∈ ts.take place, u ≤ t
  behind : ∀ u ∈ ts.drop place, ¬ u ≤ t

theorem isLess_getD {place : Nat} (inside : place < ts.length) :
    isLess (.text t) ((ts.map .text).getD place (.text t)) = .ok (!decide (ts[place] ≤ t)) := by
  have there : (ts.map Value.text).getD place (.text t) = .text ts[place] := by
    simp [List.getD_eq_getElem?_getD, inside]
  rw [there, isLess_text]

theorem placeBetween_texts {low high : Nat} (ascends : ts.Pairwise (· ≤ ·)) (order : low ≤ high)
    (inside : high ≤ ts.length) (before : ∀ u ∈ ts.take low, u ≤ t)
    (behind : ∀ u ∈ ts.drop high, ¬ u ≤ t) :
    ∃ place, placeBetween (.text t) (ts.map .text) low high = .ok place ∧ IsPlace t ts place := by
  fun_induction placeBetween (.text t) (ts.map .text) low high with
  | case1 low high more middle f fails =>
    have there : middle < ts.length := by omega
    cases (isLess_getD there).symm.trans fails
  | case2 low high more middle less ih =>
    have there : middle < ts.length := by omega
    have above : ¬ ts[middle] ≤ t := by
      simpa using Except.ok.inj ((isLess_getD there).symm.trans less)
    refine ih (by omega) (by omega) before fun u later le => ?_
    rw [List.drop_eq_getElem_cons there] at later
    rcases List.mem_cons.1 later with rfl | later
    · exact above le
    · exact above (Text.le_trans ((Text.le_getElem_of_pairwise ascends there).2 u later) le)
  | case3 low high more middle less ih =>
    have there : middle < ts.length := by omega
    have below : ts[middle] ≤ t := by
      simpa using Except.ok.inj ((isLess_getD there).symm.trans less)
    refine ih (by omega) (by omega) (fun u earlier => ?_) behind
    rw [List.take_succ_eq_append_getElem there] at earlier
    rcases List.mem_append.1 earlier with earlier | last
    · exact Text.le_trans ((Text.le_getElem_of_pairwise ascends there).1 u earlier) below
    · rwa [List.mem_singleton.1 last]
  | case4 low high none =>
    obtain rfl : low = high := by omega
    exact ⟨low, rfl, before, behind⟩

theorem insertSorted_texts (t : Text) (ascends : ts.Pairwise (· ≤ ·)) :
    ∃ us : List Text, insertSorted (ts.map .text) (.text t) = .ok (us.map .text) ∧
      us.Perm (t :: ts) ∧
      us.Pairwise (· ≤ ·) := by
  obtain ⟨place, found, isPlace⟩ := placeBetween_texts (t := t) ascends (Nat.zero_le ts.length)
    (Nat.le_refl _) (by simp) (by simp)
  refine ⟨ts.take place ++ t :: ts.drop place, ?_, ?_, ?_⟩
  · unfold insertSorted
    rw [List.length_map, found]
    simp [Except.map, List.map_take, List.map_drop]
  · exact List.perm_middle.trans (by rw [List.take_append_drop])
  · have parts := ascends
    rw [← List.take_append_drop place ts, List.pairwise_append] at parts
    obtain ⟨front, back, apart⟩ := parts
    refine List.pairwise_append.2
      ⟨front, List.pairwise_cons.2 ⟨fun u later => ?_, back⟩, fun u earlier w => ?_⟩
    · exact Text.le_of_not_le (isPlace.behind u later)
    · intro there
      rcases List.mem_cons.1 there with rfl | later
      · exact isPlace.before u earlier
      · exact apart u earlier w later

theorem foldlM_insertSorted_texts (us : List Text) (ascends : ts.Pairwise (· ≤ ·)) :
    ∃ vs : List Text, (us.map .text).foldlM insertSorted (ts.map .text) = .ok (vs.map Value.text) ∧
      vs.Perm (us ++ ts) ∧ vs.Pairwise (· ≤ ·) := by
  induction us generalizing ts with
  | nil => exact ⟨ts, rfl, .rfl, ascends⟩
  | cons u us ih =>
    obtain ⟨ws, inserted, perm, ascends⟩ := insertSorted_texts u ascends
    obtain ⟨vs, sorted, perm', ascends'⟩ := ih ascends
    refine ⟨vs, ?_, ?_, ascends'⟩
    · rw [List.map_cons, List.foldlM_cons, inserted]
      exact sorted
    · exact perm'.trans ((perm.append_left us).trans List.perm_middle)

/-! ### Sorting -/

/-- A run ascends once it is the right way round. -/
theorem pairwise_of_run {descends : Bool} (run : ts.Pairwise (Follows descends)) :
    (if descends then ts.reverse else ts).Pairwise (· ≤ ·) := by
  cases descends with
  | true =>
    rw [if_pos rfl, List.pairwise_reverse]
    exact run.imp fun follows => Text.le_of_not_le (by simpa [Follows] using follows)
  | false => exact run.imp fun follows => by simpa [Follows] using follows

/-- Texts are sorted without a fault: they are the same, in ascending order. -/
theorem sorted_texts (ts : List Text) :
    ∃ us : List Text, sorted (ts.map .text) = .ok (us.map .text) ∧
    us.Perm ts ∧ us.Pairwise (· ≤ ·) := by
  match ts with
  | [] => exact ⟨[], rfl, .rfl, List.Pairwise.nil⟩
  | [t] => exact ⟨[t], rfl, .rfl, List.pairwise_singleton _ _⟩
  | t :: s :: ts =>
    obtain ⟨count, length, run⟩ := runLength_texts (!decide (t ≤ s)) t (s :: ts)
    generalize descending : (!decide (t ≤ s)) = descends at length run
    rw [← List.take_succ_cons] at run
    obtain ⟨us, folded, perm, ascends⟩ :=
      foldlM_insertSorted_texts ((t :: s :: ts).drop (count + 1)) (pairwise_of_run run)
    refine ⟨us, ?_, ?_, ascends⟩
    · have start : (if descends then ((t :: s :: ts).take (count + 1)).reverse
          else (t :: s :: ts).take (count + 1)).map Value.text =
          if descends then (((t :: s :: ts).map Value.text).take (count + 1)).reverse
          else ((t :: s :: ts).map Value.text).take (count + 1) := by
        cases descends <;> simp [List.map_take]
      rw [start, List.map_drop] at folded
      rw [List.map_cons, List.map_cons, sorted, isLess_text, descending]
      simp only [bind, Except.bind]
      rw [List.map_cons] at length
      rw [length]
      exact folded
    · have start : (if descends then ((t :: s :: ts).take (count + 1)).reverse
          else (t :: s :: ts).take (count + 1)).Perm ((t :: s :: ts).take (count + 1)) := by
        cases descends with
        | true => exact List.reverse_perm _
        | false => exact .rfl
      exact perm.trans ((start.append_left _).trans
        (List.perm_append_comm.trans (by rw [List.take_append_drop])))

end Value

end GpioBroker
