import GpioBroker.Fault
import GpioBroker.Value.Key

/-!
# The order of values

Numbers are ordered by size, texts as texts, and lists by the first items in which they differ; no
other values have an order.  Sorting takes the longest run at the beginning that ascends or descends
and puts each further value in its place by halving.  Which values it compares first decides which
fault it has, if two of them have no order.
-/

namespace GpioBroker

namespace Value

/-- The number that a value is, as a quotient of whole numbers: by zero if it is infinite, and zero
by zero if it is undefined. -/
def quotient? (v : Value) : Option (Int × Nat) :=
  match v, v.integer? with
  | .float x, _ => some x.quotient
  | _, some n => some (n, 1)
  | _, none => none

/-- Whether a quotient is less than another one. -/
def isLessQuotient (p q : Int × Nat) : Bool :=
  p.1 * q.2 < q.1 * p.2 || (p.2 == 0 && q.2 == 0 && p.1 < 0 && 0 < q.1)

mutual

/-- Whether a value is less than another one. -/
def isLess : Value → Value → Except Fault Bool
  | .text s, .text t => .ok (!decide (t ≤ s))
  | .list a, .list b => areLess a b
  | v, w =>
    match v.quotient?, w.quotient? with
    | some p, some q => .ok (isLessQuotient p q)
    | _, _ => .error (.notOrdered v.typeName w.typeName)

/-- Whether a list is less than another one. -/
def areLess : List Value → List Value → Except Fault Bool
  | _, [] => .ok false
  | [], _ :: _ => .ok true
  | v :: a, w :: b => if v.isEqual w then areLess a b else isLess v w

end

/-- How many values go on with a run that a value begins. -/
def runLength (descends : Bool) (v : Value) : List Value → Except Fault Nat
  | [] => .ok 0
  | w :: rest => do
    if (← isLess w v) = descends then return (← runLength descends w rest) + 1 else return 0

/-- The place of a value between two places of an ordered list, behind all values equal to it. -/
def placeBetween (v : Value) (ordered : List Value) (low high : Nat) : Except Fault Nat :=
  if low < high then
    let middle := low + (high - low) / 2
    match isLess v (ordered.getD middle v) with
    | .error f => .error f
    | .ok true => placeBetween v ordered low middle
    | .ok false => placeBetween v ordered (middle + 1) high
  else .ok low
termination_by high - low

/-- Puts a value in its place in an ordered list. -/
def insertSorted (ordered : List Value) (v : Value) : Except Fault (List Value) :=
  (placeBetween v ordered 0 ordered.length).map fun place =>
    ordered.take place ++ v :: ordered.drop place

/-- Values in ascending order. -/
def sorted : List Value → Except Fault (List Value)
  | v :: w :: rest => do
    let descends ← isLess w v
    let values := v :: w :: rest
    let count := (← runLength descends v (w :: rest)) + 1
    let run := values.take count
    (values.drop count).foldlM insertSorted (if descends then run.reverse else run)
  | few => .ok few

end Value

end GpioBroker
