import GpioBroker.Log.Template
import GpioBroker.Program

/-!
# Tags of log lines

The system log reads what the broker writes line by line, and takes the priority of a line from the
tag that it starts with.  A record is written with one tag, in front of its text.  So a text of one
line is tagged, and of a text of several lines only the first one is: the others stand in the log as
they are in the text, without a tag or with the one that the text itself puts there.
-/

namespace GpioBroker

namespace Text

/-- The lines of a text: what stands before, between and behind its line feeds. -/
def lines (t : Text) : List Text := (t.toList.splitOn (.char '\n')).map mk

theorem lines_ne_nil (t : Text) : t.lines ≠ [] := by
  simp [lines, List.splitOn_ne_nil]

theorem lines_append_newline (a b : Text) : (a ++ "\n" ++ b).lines = a.lines ++ b.lines := by
  have split : (a ++ "\n" ++ b).toList = a.toList ++ .char '\n' :: b.toList := by
    simp [ofString, ofChars]
  unfold lines
  rw [split, List.splitOn_append_cons_self, List.map_append]

theorem lines_of_not_mem {t : Text} (single : .char '\n' ∉ t.toList) : t.lines = [t] := by
  unfold lines
  rw [List.splitOn_eq_singleton single, List.map_singleton]

/-- What has no line feed in it goes to the front of the first line of a text. -/
theorem lines_append_of_not_mem {a : Text} (single : .char '\n' ∉ a.toList) (t : Text) :
    (a ++ t).lines = t.lines.modifyHead (a ++ ·) := by
  have front (cs : List CodePoint) (inside : .char '\n' ∉ cs) :
      (cs ++ t.toList).splitOn (.char '\n') =
        (t.toList.splitOn (.char '\n')).modifyHead (cs ++ ·) := by
    induction cs with
    | nil =>
      rw [List.nil_append]
      cases t.toList.splitOn (.char '\n') <;> rfl
    | cons c cs ih =>
      obtain ⟨other, inside⟩ := not_or.1 (mt List.mem_cons.2 inside)
      rw [List.cons_append, List.splitOn_cons_eq_if_modifyHead, ih inside,
        if_neg (by simpa using Ne.symm other)]
      cases t.toList.splitOn (.char '\n') <;> rfl
  unfold lines
  rw [toList_append, front _ single]
  cases t.toList.splitOn (.char '\n') <;> rfl

theorem startsWith_append (a b : Text) : (a ++ b).startsWith a = true :=
  List.isPrefixOf_iff_prefix.2 (List.prefix_append ..)

/-- The first line of a text starts with the first code point of the text. -/
theorem exists_line_of_head? {t : Text} {c : CodePoint} (first : t.toList.head? = some c)
    (other : c ≠ .char '\n') : ∃ l ∈ t.lines, l.toList.head? = some c := by
  obtain ⟨cs, split⟩ := List.head?_eq_some_iff.1 first
  have front : t = singleton c ++ ⟨cs⟩ := ext split
  rw [front, lines_append_of_not_mem (by simpa [singleton] using other.symm)]
  obtain ⟨l, ls, split⟩ := List.exists_cons_of_ne_nil (lines_ne_nil ⟨cs⟩)
  rw [split]
  exact ⟨singleton c ++ l, List.mem_cons_self, rfl⟩

end Text

namespace LogRecord

/-- The levels that have a name, with their priorities in the system log. -/
def namedPriorities : List (Int × Nat) := [(50, 0), (40, 3), (30, 4), (20, 6), (10, 7)]

/-- The tag of a level: its priority, or 5 if it has no name, in angle brackets. -/
def tag (level : Int) : Text := "<" ++ toString ((namedPriorities.lookup level).getD 5) ++ ">"

theorem lookup_namedPriorities (level : Int) :
    (namedPriorities.lookup level).getD 5 = priority level := by
  have step (mark : Int) (p : Nat) (rest : List (Int × Nat)) :
      (((mark, p) :: rest).lookup level).getD 5 =
      if level = mark then p else (rest.lookup level).getD 5 := by
    rw [List.lookup_cons]
    by_cases same : level = mark
    · rw [if_pos same, same, beq_self_eq_true]
      rfl
    · rw [if_neg same, beq_false_of_ne same]
  unfold namedPriorities
  rw [step, step, step, step, step]
  rfl

/-- A record is written as the tag of its level and its text. -/
theorem line_eq (r : LogRecord) : r.line = tag r.level ++ r.text := by
  unfold line tag
  rw [lookup_namedPriorities]

theorem newline_not_mem_tag (level : Int) : .char '\n' ∉ (tag level).toList := by
  unfold tag
  rw [lookup_namedPriorities]
  unfold priority
  repeat' split
  all_goals decide

theorem head?_tag (level : Int) : (tag level).toList.head? = some (.char '<') := rfl

/-- The first line of a written record is tagged, and the others are those of its text. -/
theorem lines_line (r : LogRecord) : r.line.lines = r.text.lines.modifyHead (tag r.level ++ ·) := by
  rw [line_eq, Text.lines_append_of_not_mem (newline_not_mem_tag r.level)]

/-- Every line that a record is written as starts with the tag of its level. -/
def IsTagged (r : LogRecord) : Prop := ∀ l ∈ r.line.lines, l.startsWith (tag r.level) = true

theorem isTagged_iff_tail (r : LogRecord) :
    r.IsTagged ↔ ∀ l ∈ r.text.lines.tail, l.startsWith (tag r.level) = true := by
  unfold IsTagged
  rw [lines_line]
  obtain ⟨first, rest, split⟩ := List.exists_cons_of_ne_nil r.text.lines_ne_nil
  rw [split, List.modifyHead_cons, List.forall_mem_cons, List.tail_cons]
  exact and_iff_right (Text.startsWith_append ..)

/-- A text of one line is tagged. -/
theorem isTagged_of_not_mem {r : LogRecord} (single : .char '\n' ∉ r.text.toList) : r.IsTagged := by
  rw [isTagged_iff_tail, Text.lines_of_not_mem single]
  exact List.forall_mem_nil _

/-- Whatever a text puts behind a line feed is written as it stands. -/
theorem lines_append_newline (level : Int) (a b : Text) :
    (line ⟨level, a ++ "\n" ++ b⟩).lines = (line ⟨level, a⟩).lines ++ b.lines := by
  rw [line_eq, line_eq, ← Text.append_assoc, ← Text.append_assoc, Text.lines_append_newline]

/-- The lines of a log are those of the records that it takes, and an empty one behind its last line
feed. -/
theorem lines_written (lowest : Int) (records : List LogRecord) :
    (written lowest records).lines =
      ((records.filter fun r => lowest ≤ r.level).flatMap fun r => r.line.lines) ++
        [Text.ofString ""] := by
  unfold written
  induction records.filter fun r => lowest ≤ r.level with
  | nil => rfl
  | cons r taken ih =>
    rw [List.map_cons, Text.join_cons, Text.lines_append_newline, ih, List.flatMap_cons,
      List.append_assoc]

/-! ### Filled templates -/

theorem fill_of_ofTemplate {level : Value} {template : Text} {args : List Value} {r : LogRecord}
    (formats : ofTemplate level template args = .ok r) :
    Template.fill template args = .ok r.text := by
  unfold ofTemplate at formats
  cases keyed : level.toKey with
  | error f =>
    rw [keyed] at formats
    cases formats
  | ok key =>
    rw [keyed] at formats
    cases filled : Template.fill template args with
    | error f =>
      rw [filled] at formats
      cases formats
    | ok text =>
      rw [filled] at formats
      cases formats
      rfl

/-- Whatever level a record has and whatever its template is filled with, all of its lines are
tagged exactly if the filled text itself puts the tag in front of each of its lines but the
first. -/
theorem isTagged_iff {level : Value} {template : Text} {args : List Value} {r : LogRecord}
    (formats : ofTemplate level template args = .ok r) :
    ∃ text, Template.fill template args = .ok text ∧
      (r.IsTagged ↔ ∀ l ∈ text.lines.tail, l.startsWith (tag r.level) = true) :=
  ⟨r.text, fill_of_ofTemplate formats, isTagged_iff_tail r⟩

/-- A warning of two lines that tags its second one. -/
theorem isTagged_iff_warning :
    ofTemplate (.int 30) "chip %s" [.text "a\n<4>b"] = .ok ⟨30, "chip a\n<4>b"⟩ ∧
      IsTagged ⟨30, "chip a\n<4>b"⟩ := by
  have formats : ofTemplate (.int 30) "chip %s" [.text "a\n<4>b"] = .ok ⟨30, "chip a\n<4>b"⟩ := by
    rfl
  obtain ⟨text, filled, iff⟩ := isTagged_iff formats
  refine ⟨formats, iff.2 ?_⟩
  cases filled.symm.trans (fill_of_ofTemplate formats)
  decide

/-- A name with a line feed in it makes a line of another priority. -/
theorem not_isTagged : ¬ ∀ (level : Value) (template : Text) (args : List Value) (r : LogRecord),
    ofTemplate level template args = .ok r → r.IsTagged := by
  intro all
  have tagged := all (.int 30) "chip %s" [.text "a\n<0>b"] ⟨30, "chip a\n<0>b"⟩ rfl
  revert tagged
  unfold IsTagged
  decide

end LogRecord

/-! ### The report of an unrecoverable failure -/

/-- Whether a text starts with a letter. -/
def Text.isLettered (t : Text) : Bool := t.toList.head?.any (·.isIn Char.isAlpha)

theorem Text.isLettered_append {t : Text} (lettered : t.isLettered = true) (more : Text) :
    (t ++ more).isLettered = true := by
  obtain ⟨c, first, letter⟩ := (Option.any_eq_true _ _).1 lettered
  unfold isLettered
  rw [toList_append, List.head?_append, first, Option.some_or, Option.any_some, letter]

theorem Fault.isLettered_title (f : Fault) : f.title.isLettered = true := by
  have kinds (k : FaultKind) : k.title.isLettered = true := by
    cases k with
    | misnomer sort => cases sort <;> decide
    | _ => decide
  have titles : ∀ e ∈ systemTitles, (Text.ofString e.2).isLettered = true := by decide
  unfold title
  split
  · split
    · rename_i found
      obtain ⟨number, -, found⟩ := Option.bind_eq_some_iff.1 found
      obtain ⟨before, after, split, -⟩ := List.lookup_eq_some_iff.1 found
      exact titles (number, _) (by simp [split])
    · exact kinds .system
  · exact kinds _

theorem isLettered_accountFrom (f : Fault) (behind : List (Link × Fault)) :
    (accountFrom f behind).isLettered = true := by
  have front {t : Text} := Text.isLettered_append (t := t)
  induction behind generalizing f with
  | nil =>
    unfold accountFrom Fault.account
    split
    · exact f.isLettered_title
    · exact front (front f.isLettered_title _) _
  | cons e behind ih => exact front (front (front (front (ih e.2) _) _) _) _

/-- The report of an unrecoverable failure is never tagged: the account of the failure has no
tag. -/
theorem LogRecord.not_isTagged_unrecoverable (level : Int) (e : Failure) :
    ¬ IsTagged ⟨level, Program.unrecoverable e⟩ := by
  obtain ⟨c, first, letter⟩ := (Option.any_eq_true _ _).1 (isLettered_accountFrom e.fault e.behind)
  have other (d : Char) (mark : d.isAlpha = false) : c ≠ .char d := by
    rintro rfl
    cases mark.symm.trans letter
  obtain ⟨l, there, head⟩ := Text.exists_line_of_head? first (other '\n' (by decide))
  have split : Program.unrecoverable e = "unrecoverable internal error" ++ "\n" ++ e.account := rfl
  intro tagged
  have starts : l.startsWith (tag level) = true := by
    refine tagged l ?_
    rw [split, lines_append_newline]
    exact List.mem_append_right _ there
  obtain ⟨rest, same⟩ := List.isPrefixOf_iff_prefix.1 starts
  rw [← same, List.head?_append, head?_tag, Option.some_or] at head
  exact other '<' (by decide) (Option.some.inj head).symm

end GpioBroker
