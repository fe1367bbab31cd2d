import GpioBroker.Value

/-!
# Keys of values

What tables know values by.  Values that are equal have one key: a truth value, a whole number and a
floating-point number without a fraction may be equal.  Lists and maps, which can change, have none;
they are equal if their parts are.
-/

namespace GpioBroker

/-- A key of a table. -/
inductive Key where
  | null
  | whole (n : Int)
  /-- A number that is not whole. -/
  | fraction (x : Binary64)
  | text (t : Text)
deriving DecidableEq, Repr, Inhabited

namespace Value

/-- The key of a value. -/
def key? : Value → Option Key
  | .null => some .null
  | .bool b => some (.whole (if b then 1 else 0))
  | .int n => some (.whole n)
  | .float x => some (if x.isWhole then .whole x.truncated else .fraction x)
  | .text t => some (.text t)
  | .list _ | .map _ => none

@[simp] theorem key?_text (t : Text) : (Value.text t).key? = some (.text t) := rfl

@[simp] theorem key?_int (n : Int) : (Value.int n).key? = some (.whole n) := rfl

/-- The whole number that a value equals. -/
def wholeNumber? (v : Value) : Option Int :=
  match v.key? with
  | some (.whole n) => some n
  | _ => none

mutual

/-- Whether two values are equal.  The fields of a map may come in any order. -/
def isEqual : Value → Value → Bool
  | .list a, .list b => areEqual a b
  | .map a, .map b => a.length == b.length && haveEqual a b
  | v, w => v.key?.isSome && v.key? == w.key?

/-- Whether two lists have equal items. -/
def areEqual : List Value → List Value → Bool
  | [], [] => true
  | v :: a, w :: b => isEqual v w && areEqual a b
  | _, _ => false

/-- Whether the second map has an equal field for each of the first. -/
def haveEqual : List (Text × Value) → List (Text × Value) → Bool
  | [], _ => true
  | (k, v) :: a, b =>
    match b.lookup k with
    | some w => isEqual v w && haveEqual a b
    | none => false

end

theorem isEqual_text (s t : Text) : isEqual (.text s) (.text t) = decide (s = t) := by
  by_cases h : s = t <;> simp [isEqual, h]

end Value

end GpioBroker
