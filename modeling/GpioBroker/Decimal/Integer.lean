import GpioBroker.Text.Digit

/-!
# Written integers

A whole number as text: blanks around it, one sign, and digits of any script, where one underscore
may stand between two digits.  A number of more than 4300 digits is refused.
-/

namespace GpioBroker

namespace Decimal

/-- Why a text stands for no integer. -/
inductive Unreadable where
  | malformed
  | tooLong (digits : Nat)
deriving DecidableEq, Repr

/-- The most digits that a written integer may have. -/
def digitLimit : Nat := 4300

/-- The sign at the head of a text, and the text behind it. -/
def signed : List CodePoint → Bool × List CodePoint
  | .char '-' :: rest => (true, rest)
  | .char '+' :: rest => (false, rest)
  | cs => (false, cs)

/-- Whether a code point belongs to the digits of a number: a digit or an underscore. -/
def isDigitOrMark (c : CodePoint) : Bool := c == '_' || (Text.digitValue? c).isSome

/-- Whether every underscore stands between two digits, of which there is at least one. -/
def separated : List CodePoint → Bool
  | [] => false
  | [c] => c != '_'
  | c :: .char '_' :: rest => c != '_' && separated rest
  | c :: d :: rest => c != '_' && separated (d :: rest)

/-- The number that a list of digits stands for, most significant first. -/
def ofDigits (ds : List Nat) : Nat := ds.foldl (fun n d => 10 * n + d) 0

/-- The integer that a text stands for. -/
def integer (t : Text) : Except Unreadable Int :=
  let (negative, body) := signed (t.toList.dropWhile Text.isBlank)
  let run := body.takeWhile isDigitOrMark
  let rest := body.dropWhile isDigitOrMark
  let digits := run.filterMap Text.digitValue?
  if !separated run then .error .malformed
  else if digitLimit < digits.length then .error (.tooLong digits.length)
  else if !rest.all Text.isBlank then .error .malformed
  else .ok (if negative then -(ofDigits digits : Int) else ofDigits digits)

end Decimal

end GpioBroker
