import GpioBroker.Decimal.Integer
import GpioBroker.Fault
import GpioBroker.Value.Key

/-!
# Conversion of values

A value as an integer: a truth value counts as 0 or 1, a floating-point number is cut off toward
zero, and a text is read as a written integer.  A value as a key of a table: lists and maps cannot
be one.  A value as the number of an entry in a list, and as a sequence with a first item.
-/

namespace GpioBroker

/-- The integer that a value stands for. -/
def Value.toInteger : Value → Except Fault Int
  | .bool b => .ok (if b then 1 else 0)
  | .int n => .ok n
  | .float x =>
    if x.isUndefined then .error .undefined
    else if x.isFinite then .ok x.truncated
    else .error .infinite
  | .text s =>
    match Decimal.integer s with
    | .ok n => .ok n
    | .error .malformed => .error (.unreadableInteger s)
    | .error (.tooLong count) => .error (.tooManyDigits count)
  | .null => .error (.notNumeric (typeName .null))
  | .list items => .error (.notNumeric (typeName (.list items)))
  | .map fields => .error (.notNumeric (typeName (.map fields)))

/-- The key that a value is looked up by. -/
def Value.toKey (v : Value) : Except Fault Key :=
  match v.key? with
  | some key => .ok key
  | none => .error (.notLookedUp v.typeName)

/-- The place in a list of some length that a value stands for.  It has to be an integer, which
counts from the end if it is below zero. -/
def Value.toPlace (length : Nat) (v : Value) : Except Fault Nat :=
  match v.integer? with
  | none => .error (.noPlace v.typeName)
  | some n =>
    if !Fault.isCount n then .error .placeTooBig
    else
      let place := if n < 0 then n + length else n
      if 0 ≤ place ∧ place < length then .ok place.toNat else .error .noEntry

/-- The first item of a value, or none if the value counts as absent.  The items of a text are its
characters, and the fields of a map have no numbers. -/
def Value.firstItem? (v : Value) : Except Fault (Option Value) :=
  match v with
  | .list items => .ok items.head?
  | .text t => .ok (t.toList.head?.map fun c => .text (.singleton c))
  | .map fields => if fields.isEmpty then .ok none else .error (.noField 0)
  | v => if v.isFalsy then .ok none else .error (.noItems v.typeName)

@[simp] theorem Value.firstItem?_list (items : List Value) :
    (Value.list items).firstItem? = .ok items.head? := rfl

@[simp] theorem Value.toKey_text (t : Text) : (Value.text t).toKey = .ok (.text t) := rfl

end GpioBroker
