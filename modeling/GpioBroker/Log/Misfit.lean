import GpioBroker.Fault.Kind
import GpioBroker.Text.Quoted

/-!
# Misfits of log templates

How a log template and its arguments may fail to fit.
-/

namespace GpioBroker

/-- Why a template cannot be filled with its arguments. -/
inductive Misfit where
  | unusedArguments
  | missingArgument
  | incomplete
  /-- The name of a field is not closed. -/
  | incompleteKey
  /-- A field is named, but the arguments are no map. -/
  | mapRequired
  | unknownKey (key : Text)
  | widthTooBig
  | precisionTooBig
  /-- A width that is taken from the arguments is out of range. -/
  | takenWidthOutOfRange
  /-- A precision that is taken from the arguments is out of range. -/
  | takenPrecisionOutOfRange
  /-- The precision of a whole number leaves no room for its sign and its base. -/
  | tooManyDigits
  /-- What a directive asks for takes more memory than there is. -/
  | outOfMemory
  /-- A width or a precision that is taken from the arguments is no integer. -/
  | measureRequired
  | unsupported (conversion : CodePoint) (index : Nat)
  | numberRequired (conversion : CodePoint) (typeName : Text)
  | integerRequired (conversion : CodePoint) (typeName : Text)
  | realRequired (typeName : Text)
  | characterRequired
  | noSuchCharacter
  | integerTooLarge
deriving DecidableEq, Repr, Inhabited

namespace Misfit

def kind : Misfit → FaultKind
  | .incomplete | .incompleteKey | .widthTooBig | .precisionTooBig | .unsupported .. => .value
  | .unknownKey _ => .missingKey
  | .takenWidthOutOfRange | .takenPrecisionOutOfRange | .tooManyDigits | .noSuchCharacter
  | .integerTooLarge => .overflow
  | .outOfMemory => .memory
  | .unusedArguments | .missingArgument | .mapRequired | .measureRequired | .numberRequired ..
  | .integerRequired .. | .realRequired _ | .characterRequired => .type

/-- A code point as messages show it: only ASCII is shown. -/
def shown (c : CodePoint) : CodePoint := if 0x1F ≤ c.number ∧ c.number < 0x7F then c else '?'

def message : Misfit → Text
  | .unusedArguments => "not all arguments converted during string formatting"
  | .missingArgument => "not enough arguments for format string"
  | .incomplete => "incomplete format"
  | .incompleteKey => "incomplete format key"
  | .mapRequired => "format requires a mapping"
  | .unknownKey key => key.quoted
  | .widthTooBig => "width too big"
  | .precisionTooBig => "precision too big"
  | .takenWidthOutOfRange => "Python int too large to convert to C ssize_t"
  | .takenPrecisionOutOfRange => "Python int too large to convert to C int"
  | .tooManyDigits => "precision too large"
  | .outOfMemory => ""
  | .measureRequired => "* wants int"
  | .unsupported conversion index =>
    "unsupported format character '" ++ Text.singleton (shown conversion) ++ "' (0x" ++
      Text.hex 1 conversion.number ++ ") at index " ++ toString index
  | .numberRequired conversion typeName =>
    "%" ++ Text.singleton conversion ++ " format: a real number is required, not " ++ typeName
  | .integerRequired conversion typeName =>
    "%" ++ Text.singleton conversion ++ " format: an integer is required, not " ++ typeName
  | .realRequired typeName => "must be real number, not " ++ typeName
  | .characterRequired => "%c requires int or char"
  | .noSuchCharacter => "%c arg not in range(0x110000)"
  | .integerTooLarge => "int too large to convert to float"

end Misfit

end GpioBroker
