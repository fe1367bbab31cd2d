import GpioBroker.Conversion
import GpioBroker.Decimal.Fixed
import GpioBroker.Journal
import GpioBroker.Log.Directive

/-!
# Log templates

A log text may be a template with arguments.  A directive takes the next argument, or the field of
the one map that was given, and writes it by its conversion: as a text, as a whole number in a base,
as a decimal or as a character.  A sign, leading zeros and the width follow.  A template without
arguments is taken verbatim; otherwise every argument has to be used, except that a single map may
stay unused.  A filled template is a draft, which is written out only when all of it is there and it
is not too long.
-/

namespace GpioBroker

namespace Template

open Decimal (twoTo)

/-- The arguments that are left. -/
structure Supply where
  left : List Value
  /-- The fields, if the only argument is a map with some. -/
  fields? : Option (List (Text × Value)) := none

/-- The supply of some arguments. -/
def Supply.ofArguments : List Value → Supply
  | [.map (p :: fields)] => { left := [.map (p :: fields)], fields? := some (p :: fields) }
  | args => { left := args }

/-- The next argument. -/
def Supply.next (s : Supply) : Except Misfit (Value × Supply) :=
  match s.left with
  | [] => .error .missingArgument
  | v :: rest => .ok (v, { s with left := rest })

/-- Makes the field that a directive names the only argument left. -/
def Supply.select (s : Supply) : FieldKey → Except Misfit Supply
  | .none => .ok s
  | key =>
    match s.fields?, key with
    | none, _ => .error .mapRequired
    | some fields, .closed name =>
      match fields.lookup name with
      | some v => .ok { s with left := [v] }
      | none => .error (.unknownKey name)
    | some _, _ => .error .incompleteKey

/-- What a kind of measure may be: the numbers of a word with a sign, by the greatest of them. -/
structure MeasureRange where
  greatest : Nat
  /-- Why a number in the template cannot be one. -/
  givenTooBig : Misfit
  /-- Why an argument cannot be one. -/
  takenOutOfRange : Misfit

/-- The range of widths. -/
def widths : MeasureRange := ⟨twoTo 63 - 1, .widthTooBig, .takenWidthOutOfRange⟩

/-- The range of precisions. -/
def precisions : MeasureRange := ⟨twoTo 31 - 1, .precisionTooBig, .takenPrecisionOutOfRange⟩

/-- Whether a word has room for a number. -/
def MeasureRange.contains (r : MeasureRange) (n : Int) : Bool :=
  -(r.greatest : Int) - 1 ≤ n && n ≤ r.greatest

/-- The size of a width or a precision, which is below zero only if it was taken so. -/
def measure (r : MeasureRange) (s : Supply) :
    Option Measure → Except Misfit (Option Int × Supply)
  | none => .ok (none, s)
  | some (.given n) => if r.contains n then .ok (some n, s) else .error r.givenTooBig
  | some .taken => do
    let (v, s) ← s.next
    match v.integer? with
    | some n => if r.contains n then return (some n, s) else throw r.takenOutOfRange
    | none => throw .measureRequired

/-! ### Shapes -/

/-- How a value is laid out. -/
structure Shape where
  flags : DirectiveFlags
  width : Nat
  precision : Option Nat

/-- The written form of a value, before it is padded. -/
structure Written where
  /-- A sign and a base, which leading zeros follow. -/
  front : Text := ""
  body : Draft
  isNumber : Bool

/-- The most characters that one directive may ask for: no memory holds more. -/
def directiveRoom : Nat := twoTo 33

/-- The most characters that a text may have to be written out. -/
def textRoom : Nat := twoTo 28

/-- Takes some characters of a room, if it has as many. -/
def reserve (room count : Nat) : Except Misfit Unit :=
  if room < count then .error .outOfMemory else .ok ()

/-- Pads a written value to its width: with zeros behind the sign and the base of a number, or with
spaces on one side. -/
def Shape.pad (shape : Shape) (w : Written) : Draft :=
  let missing := shape.width - (w.front.length + Draft.length w.body)
  if shape.flags.alignsLeft then .written w.front :: w.body ++ [.run ' ' missing]
  else if w.isNumber && shape.flags.padsZeros then .written w.front :: .run '0' missing :: w.body
  else .run ' ' missing :: .written w.front :: w.body

/-- The sign that a number is written with. -/
def Shape.sign (shape : Shape) (isNegative : Bool) : Text :=
  if isNegative then "-"
  else if shape.flags.showsPlus then "+"
  else if shape.flags.showsSpace then " "
  else ""

/-- A text, cut to its precision. -/
def Shape.text (shape : Shape) (t : Text) : Written where
  body := match shape.precision with
    | some n => [.written (t.take n)]
    | none => [.written t]
  isNumber := false

/-- Characters that may be in capitals. -/
def inCase (isCapital : Bool) (cs : List Char) : Text :=
  .ofChars (if isCapital then cs.map Char.toUpper else cs)

/-- The most digits that a precision may ask of a whole number: a sign and the mark of a base have
to fit before them. -/
def mostDigits : Nat := precisions.greatest - 3

/-- A whole number in a base, with at least as many digits as its precision says. -/
def Shape.whole (shape : Shape) (base : Nat) (mark : CodePoint) (isCapital : Bool) (n : Int) :
    Except Misfit Written := do
  let count := shape.precision.getD 0
  if mostDigits < count then throw .tooManyDigits
  let digits := Nat.toDigits base n.natAbs
  return {
    front := shape.sign (n < 0) ++
      (if shape.flags.isAlternate && base != 10 then ⟨['0', mark]⟩ else ⟨[]⟩)
    body := [.run '0' (count - digits.length), .written (inCase isCapital digits)]
    isNumber := true }

/-- The places of a text with an exponent.  There is one digit more than there are places, so with
the greatest precision the digits cannot be counted, and there is only the first one. -/
def countedPlaces (places : Nat) : Nat := if places = precisions.greatest then 0 else places

/-- A decimal, by one of the three ways to write one. -/
def Shape.decimal (shape : Shape) (conversion : Char) (x : Binary64) : Written :=
  let isCapital := conversion.isUpper
  let mark := if isCapital then 'E' else 'e'
  let places := shape.precision.getD 6
  let kept := shape.flags.isAlternate
  let body :=
    if x.isUndefined then [.written (inCase isCapital ['n', 'a', 'n'])]
    else if !x.isFinite then [.written (inCase isCapital ['i', 'n', 'f'])]
    else if conversion.toLower = 'f' then Decimal.fixed x places kept
    else if conversion.toLower = 'e' then Decimal.scientific mark x (countedPlaces places) kept
    else Decimal.general mark x places kept
  { front := shape.sign (x.negative && !x.isUndefined), body, isNumber := true }

/-- Lifts a misfit to a fault. -/
def fit {α : Type} (r : Except Misfit α) : Except Fault α := r.mapError Fault.template

/-! ### Conversions -/

/-- The argument of a conversion to a decimal whole number. -/
def numberOf (conversion : CodePoint) (v : Value) : Except Fault Int :=
  match v with
  | .bool _ | .int _ | .float _ => v.toInteger
  | _ => .error (.template (.numberRequired conversion v.typeName))

/-- The argument of a conversion to a whole number in another base. -/
def integerOf (conversion : CodePoint) (v : Value) : Except Fault Int :=
  match v.integer? with
  | some n => .ok n
  | none => .error (.template (.integerRequired conversion v.typeName))

/-- The argument of a conversion to a decimal. -/
def realOf (v : Value) : Except Fault Binary64 :=
  match v, v.integer? with
  | .float x, _ => .ok x
  | _, some n =>
    let x := Binary64.ofScientific n.natAbs (n < 0) 0
    if x.isFinite then .ok x else .error (.template .integerTooLarge)
  | _, none => .error (.template (.realRequired v.typeName))

/-- The argument of a conversion to a character. -/
def characterOf (v : Value) : Except Fault Text :=
  match v, v.integer? with
  | .text t, _ => if t.length = 1 then .ok t else .error (.template .characterRequired)
  | _, some n =>
    match CodePoint.ofInt? n with
    | some c => .ok (.singleton c)
    | none => .error (.template .noSuchCharacter)
  | _, none => .error (.template .characterRequired)

/-- The quoted form of a value in ASCII. -/
def quotedAscii (v : Value) : Text :=
  .join (v.quoted.toList.map fun c => if c.number < 0x80 then .singleton c else Text.coded c)

/-- The written form of an argument by a conversion that stands at an index. -/
def convert (shape : Shape) (conversion : CodePoint) (index : Nat) (v : Value) :
    Except Fault Written :=
  if conversion = 's' then .ok (shape.text v.display)
  else if conversion = 'r' then .ok (shape.text v.quoted)
  else if conversion = 'a' then .ok (shape.text (quotedAscii v))
  else if conversion = 'd' ∨ conversion = 'i' ∨ conversion = 'u' then
    (numberOf conversion v).bind fun n => fit (shape.whole 10 conversion false n)
  else if conversion = 'o' then
    (integerOf conversion v).bind fun n => fit (shape.whole 8 conversion false n)
  else if conversion = 'x' ∨ conversion = 'X' then
    (integerOf conversion v).bind fun n => fit (shape.whole 16 conversion (conversion = 'X') n)
  else if conversion = 'c' then
    (characterOf v).map fun t => { body := [.written t], isNumber := false }
  else
    match (['e', 'E', 'f', 'F', 'g', 'G'] : List Char).find? fun c => conversion = .char c with
    | some c => (realOf v).map (shape.decimal c)
    | none => .error (.template (.unsupported conversion index))

/-- The width that a size stands for: a size below zero stands for its opposite, and the least of
them, which has no opposite in its range, for none. -/
def widthOf (size : Int) : Nat := if widths.contains (-size) then size.natAbs else 0

/-- The shape of a directive, and the arguments left after its measures. -/
def shapeOf (d : Directive) (s : Supply) : Except Misfit (Shape × Supply) := do
  let s ← s.select d.key
  let (width, s) ← measure widths s d.width
  let (precision, s) ← measure precisions s d.precision
  let size := width.getD 0
  let flags := { d.flags with alignsLeft := d.flags.alignsLeft || size < 0 }
  return ({ flags, width := widthOf size, precision := precision.map Int.toNat }, s)

/-- Fills a directive: what is written, and the arguments left. -/
def fillDirective (d : Directive) (s : Supply) : Except Fault (Draft × Supply) := do
  let (shape, s) ← fit (shapeOf d s)
  match d.conversion with
  | none => throw (.template .incomplete)
  | some conversion =>
    let (v, s) ← fit s.next
    let written ← convert shape conversion d.index v
    let padded := shape.pad written
    fit (reserve directiveRoom (Draft.length padded))
    return (padded, s)

/-- Fills pieces of a template: what is written, and the arguments left. -/
def fillPieces : List TemplatePiece → Supply → Except Fault (Draft × Supply)
  | [], s => .ok ([], s)
  | .literal c :: rest, s => (fillPieces rest s).map fun r => (.run c 1 :: r.1, r.2)
  | .directive d :: rest, s => do
    let (padded, s) ← fillDirective d s
    let (more, s) ← fillPieces rest s
    return (padded ++ more, s)

/-- The text of a template with its arguments. -/
def fill (template : Text) (args : List Value) : Except Fault Text :=
  if args.isEmpty then .ok template
  else do
    let (draft, s) ← fillPieces (TemplatePiece.ofTemplate template) (Supply.ofArguments args)
    if s.left.isEmpty || s.fields?.isSome then
      fit (reserve textRoom (Draft.length draft))
      return Draft.text draft
    else throw (.template .unusedArguments)

end Template

/-- The record of a template with its arguments.  Its level is looked up by its key, and one that is
no whole number is a level without a name. -/
def LogRecord.ofTemplate (level : Value) (template : Text) (args : List Value) :
    Except Fault LogRecord := do
  discard level.toKey
  let text ← Template.fill template args
  return { level := level.wholeNumber?.getD 0, text }

end GpioBroker
