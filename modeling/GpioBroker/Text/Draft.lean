import GpioBroker.Text

/-!
# Drafts

A draft is a text in stretches, of which the runs of one character are only counted.  Its length is
known before any of it is written out, so a text that is too long is never made.
-/

namespace GpioBroker

/-- A stretch of a text: written out, or one character so many times. -/
inductive Stretch where
  | written (t : Text)
  | run (c : CodePoint) (count : Nat)
deriving DecidableEq, Repr, Inhabited

namespace Stretch

def length : Stretch → Nat
  | .written t => t.length
  | .run _ count => count

def text : Stretch → Text
  | .written t => t
  | .run c count => .replicate count c

/-- A stretch is as long as its text. -/
@[simp] theorem length_text (s : Stretch) : s.text.length = s.length := by
  cases s with
  | written t => rfl
  | run c count => exact Text.length_replicate count c

end Stretch

/-- A text in stretches, from the first to the last. -/
abbrev Draft := List Stretch

namespace Draft

def length : Draft → Nat
  | [] => 0
  | s :: d => s.length + length d

/-- The text that is written out. -/
def text (d : Draft) : Text := Text.join (d.map Stretch.text)

@[simp] theorem text_cons (s : Stretch) (d : Draft) : text (s :: d) = s.text ++ text d := rfl

/-- A draft is as long as its text. -/
@[simp] theorem length_text (d : Draft) : (text d).length = length d := by
  induction d with
  | nil => rfl
  | cons s d ih => simp [length, ih]

end Draft

end GpioBroker
