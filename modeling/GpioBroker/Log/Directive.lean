import GpioBroker.Text.Digit

/-!
# Directives of log templates

A log template is a text with directives in it.  A directive starts with a percent sign and ends
with its conversion.  Between them may stand the name of a field in parentheses, flags, a width, a
precision behind a point, and a letter that means nothing.  Two percent signs stand for one.  The
template is scanned one character after another; that a directive is unfinished is told only when
the template is filled.
-/

namespace GpioBroker

/-- A width or a precision. -/
inductive Measure where
  | given (n : Nat)
  /-- It is taken from the arguments. -/
  | taken
deriving DecidableEq, Repr, Inhabited

/-- The flags of a directive. -/
structure DirectiveFlags where
  alignsLeft : Bool := false
  showsPlus : Bool := false
  showsSpace : Bool := false
  /-- Shows the base of a whole number, or a point that nothing follows. -/
  isAlternate : Bool := false
  padsZeros : Bool := false
deriving DecidableEq, Repr, Inhabited

/-- How a directive takes the name of a field. -/
inductive FieldKey where
  | none
  | closed (key : Text)
  | unclosed
deriving DecidableEq, Repr, Inhabited

/-- A directive.  Without a conversion it is unfinished. -/
structure Directive where
  key : FieldKey := .none
  flags : DirectiveFlags := {}
  width : Option Measure := none
  precision : Option Measure := none
  conversion : Option CodePoint := none
  /-- Where the conversion stands in the template. -/
  index : Nat := 0
deriving DecidableEq, Repr, Inhabited

/-- A piece of a template. -/
inductive TemplatePiece where
  | literal (c : CodePoint)
  | directive (d : Directive)
deriving DecidableEq, Repr, Inhabited

namespace TemplateScan

/-- What may come next in an unfinished directive. -/
inductive Phase where
  | start
  /-- In the name of a field, with the parentheses open and what it is so far, last first. -/
  | key (depth : Nat) (reversed : List CodePoint)
  | flags
  | width
  | point
  | precisionStart
  | precision
  | letter
  | conversion
deriving DecidableEq, Repr, Inhabited

/-- A scan: the pieces found, last first, and the directive that is unfinished. -/
structure Scan where
  index : Nat := 0
  reversed : List TemplatePiece := []
  unfinished : Option (Directive × Phase) := none

/-- Whether a character is an ASCII digit. -/
def isDigit (c : CodePoint) : Bool := 0x30 ≤ c.number && c.number ≤ 0x39

/-- A measure with one more digit. -/
def withDigit (m : Option Measure) (c : CodePoint) : Option Measure :=
  let before := match m with
    | some (.given n) => n
    | _ => 0
  some (.given (10 * before + (c.number - 0x30)))

/-- The flags with one more, if a character is one. -/
def withFlag? (flags : DirectiveFlags) (c : CodePoint) : Option DirectiveFlags :=
  if c = '-' then some { flags with alignsLeft := true }
  else if c = '+' then some { flags with showsPlus := true }
  else if c = ' ' then some { flags with showsSpace := true }
  else if c = '#' then some { flags with isAlternate := true }
  else if c = '0' then some { flags with padsZeros := true }
  else none

/-- A directive is either still unfinished or ended by its conversion. -/
abbrev Progress := Directive × Option Phase

def onConversion (d : Directive) (c : CodePoint) : Progress :=
  ({ d with conversion := some c }, none)

def onLetter (d : Directive) (c : CodePoint) : Progress :=
  if c = 'h' ∨ c = 'l' ∨ c = 'L' then (d, some .conversion) else onConversion d c

def onPrecision (d : Directive) (c : CodePoint) : Progress :=
  if isDigit c then ({ d with precision := withDigit d.precision c }, some .precision)
  else onLetter d c

def onPrecisionStart (d : Directive) (c : CodePoint) : Progress :=
  if c = '*' then ({ d with precision := some .taken }, some .letter) else onPrecision d c

def onPoint (d : Directive) (c : CodePoint) : Progress :=
  if c = '.' then ({ d with precision := some (.given 0) }, some .precisionStart)
  else onLetter d c

def onWidth (d : Directive) (c : CodePoint) : Progress :=
  if isDigit c then ({ d with width := withDigit d.width c }, some .width) else onPoint d c

def onFlags (d : Directive) (c : CodePoint) : Progress :=
  match withFlag? d.flags c with
  | some flags => ({ d with flags }, some .flags)
  | none => if c = '*' then ({ d with width := some .taken }, some .point) else onWidth d c

def onKey (d : Directive) (depth : Nat) (reversed : List CodePoint) (c : CodePoint) : Progress :=
  if c = '(' then (d, some (.key (depth + 1) (c :: reversed)))
  else if c = ')' then
    if depth ≤ 1 then ({ d with key := .closed ⟨reversed.reverse⟩ }, some .flags)
    else (d, some (.key (depth - 1) (c :: reversed)))
  else (d, some (.key depth (c :: reversed)))

def onStart (d : Directive) (c : CodePoint) : Progress :=
  if c = '(' then ({ d with key := .unclosed }, some (.key 1 [])) else onFlags d c

/-- Goes on with an unfinished directive. -/
def onPhase (d : Directive) (c : CodePoint) : Phase → Progress
  | .start => onStart d c
  | .key depth reversed => onKey d depth reversed c
  | .flags => onFlags d c
  | .width => onWidth d c
  | .point => onPoint d c
  | .precisionStart => onPrecisionStart d c
  | .precision => onPrecision d c
  | .letter => onLetter d c
  | .conversion => onConversion d c

/-- Scans one character. -/
def step (s : Scan) (c : CodePoint) : Scan :=
  let index := s.index + 1
  match s.unfinished with
  | none =>
    if c = '%' then { s with index, unfinished := some ({}, .start) }
    else { s with index, reversed := .literal c :: s.reversed }
  | some (d, phase) =>
    if phase = .start ∧ c = '%' then
      { index, reversed := .literal '%' :: s.reversed, unfinished := none }
    else
      match onPhase d c phase with
      | (d, some phase) => { s with index, unfinished := some (d, phase) }
      | (d, none) =>
        { index
          reversed := .directive { d with index := s.index } :: s.reversed
          unfinished := none }

/-- The pieces found; an unfinished directive is the last of them. -/
def pieces (s : Scan) : List TemplatePiece :=
  match s.unfinished with
  | none => s.reversed.reverse
  | some (d, _) => (.directive d :: s.reversed).reverse

end TemplateScan

/-- The pieces of a template. -/
def TemplatePiece.ofTemplate (template : Text) : List TemplatePiece :=
  TemplateScan.pieces (template.toList.foldl TemplateScan.step {})

end GpioBroker
