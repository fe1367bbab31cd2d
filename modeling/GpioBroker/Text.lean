import GpioBroker.Text.CodePoint

/-!
# Texts

A text is a list of code points.  Texts are compared by the numbers of their code points, from the
first one on.
-/

namespace GpioBroker

/-- A text. -/
structure Text where
  toList : List CodePoint
deriving DecidableEq, Repr, Inhabited

namespace Text

/-- The text of a list of characters. -/
def ofChars (cs : List Char) : Text := ⟨cs.map .char⟩

/-- The text of a string. -/
def ofString (s : String) : Text := ofChars s.toList

instance : Coe String Text := ⟨ofString⟩

instance : Append Text := ⟨fun a b => ⟨a.toList ++ b.toList⟩⟩

def isEmpty (t : Text) : Bool := t.toList.isEmpty

def length (t : Text) : Nat := t.toList.length

/-- The text of one code point. -/
def singleton (c : CodePoint) : Text := ⟨[c]⟩

/-- A code point so many times. -/
def replicate (count : Nat) (c : CodePoint) : Text := ⟨List.replicate count c⟩

/-- The first code points of a text, so many of them. -/
def take (t : Text) (count : Nat) : Text := ⟨t.toList.take count⟩

/-- Texts one after another. -/
def join (ts : List Text) : Text := ⟨ts.flatMap toList⟩

/-- Texts one after another with a text between them. -/
def intercalate (between : Text) (ts : List Text) : Text := join (ts.intersperse between)

/-- Whether a text starts with another one. -/
def startsWith (t start : Text) : Bool := start.toList.isPrefixOf t.toList

/-- Whether a text ends with another one. -/
def endsWith (t ending : Text) : Bool := ending.toList.isSuffixOf t.toList

/-- The numbers of the code points. -/
def numbers (t : Text) : List Nat := t.toList.map CodePoint.number

instance : LE Text := ⟨fun a b => List.le a.numbers b.numbers⟩

instance : DecidableLE Text := fun a b =>
  inferInstanceAs (Decidable (List.le a.numbers b.numbers))

/-- Texts in ascending order. -/
def sorted (ts : List Text) : List Text := ts.mergeSort fun a b => decide (a ≤ b)

/-- A text as a string: a half of a surrogate pair, which a string cannot hold, is written by its
number. -/
def toString (t : Text) : String :=
  t.toList.foldl (fun s c =>
    match c with
    | .char c => s.push c
    | .half _ => s ++ "\\u" ++ String.ofList (Nat.toDigits 16 c.number)) ""

/-! ### What makes up a text -/

@[ext] theorem ext {a b : Text} (h : a.toList = b.toList) : a = b := by
  cases a
  cases b
  cases h
  rfl

@[simp] theorem toList_append (a b : Text) : (a ++ b).toList = a.toList ++ b.toList := rfl

theorem append_assoc (a b c : Text) : a ++ b ++ c = a ++ (b ++ c) :=
  ext (List.append_assoc ..)

@[simp] theorem length_append (a b : Text) : (a ++ b).length = a.length + b.length :=
  List.length_append

@[simp] theorem length_replicate (count : Nat) (c : CodePoint) :
    (replicate count c).length = count :=
  List.length_replicate

@[simp] theorem join_nil : join [] = ⟨[]⟩ := rfl

@[simp] theorem join_cons (t : Text) (ts : List Text) : join (t :: ts) = t ++ join ts := rfl

/-! ### The order of texts -/

theorem le_total (a b : Text) : a ≤ b ∨ b ≤ a := List.le_total a.numbers b.numbers

theorem le_trans {a b c : Text} (h : a ≤ b) (h' : b ≤ c) : a ≤ c := List.le_trans h h'

end Text

end GpioBroker
