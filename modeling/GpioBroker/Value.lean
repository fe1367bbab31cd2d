import GpioBroker.Decimal.Binary64
import GpioBroker.Text

/-!
# Values

The values that come from devices, messages and property maps: the scalars, lists, and maps whose
keys keep the order in which they were first written.
-/

namespace GpioBroker

/-- A value whose shape is known only when it is met. -/
inductive Value where
  | null
  | bool (b : Bool)
  | int (n : Int)
  | float (x : Binary64)
  | text (t : Text)
  | list (items : List Value)
  | map (fields : List (Text × Value))
deriving Inhabited, Repr

/-- Sets a name of an ordered map: in place when the same name is there, else at the end. -/
def setField {κ α : Type} (same : κ → κ → Bool) (fields : List (κ × α)) (name : κ) (v : α) :
    List (κ × α) :=
  match fields with
  | [] => [(name, v)]
  | (k, w) :: rest => if same k name then (k, v) :: rest else (k, w) :: setField same rest name v

namespace Value

/-- The ordered map of a list of settings, in which the last setting of a name counts. -/
def ofFields (settings : List (Text × Value)) : Value :=
  .map (settings.foldl (fun fields s => setField (· == ·) fields s.1 s.2) [])

/-- Whether a value counts as absent: null, false, zero, or empty. -/
def isFalsy : Value → Bool
  | .null => true
  | .bool b => !b
  | .int n => n == 0
  | .float x => x.isZero
  | .text t => t.isEmpty
  | .list items => items.isEmpty
  | .map fields => fields.isEmpty

/-- The integer that a value is, without any conversion: a truth value is 0 or 1. -/
def integer? : Value → Option Int
  | .bool b => some (if b then 1 else 0)
  | .int n => some n
  | _ => none

/-- The name of the type of a value, as messages give it. -/
def typeName : Value → Text
  | .null => "NoneType"
  | .bool _ => "bool"
  | .int _ => "int"
  | .float _ => "float"
  | .text _ => "str"
  | .list _ => "list"
  | .map _ => "dict"

/-! ### Equality -/

mutual

/-- Whether two values are the same. -/
def isSame : Value → Value → Bool
  | .null, .null => true
  | .bool a, .bool b => a == b
  | .int a, .int b => a == b
  | .float a, .float b => a == b
  | .text a, .text b => a == b
  | .list a, .list b => areSame a b
  | .map a, .map b => areSameFields a b
  | _, _ => false

def areSame : List Value → List Value → Bool
  | [], [] => true
  | v :: a, w :: b => isSame v w && areSame a b
  | _, _ => false

def areSameFields : List (Text × Value) → List (Text × Value) → Bool
  | [], [] => true
  | (k, v) :: a, (l, w) :: b => k == l && (isSame v w && areSameFields a b)
  | _, _ => false

end

mutual

theorem isSame_iff (a b : Value) : isSame a b = true ↔ a = b := by
  cases a <;> cases b <;> simp [isSame]
  case list.list a b => exact areSame_iff a b
  case map.map a b => exact areSameFields_iff a b

theorem areSame_iff (a b : List Value) : areSame a b = true ↔ a = b := by
  cases a with
  | nil => cases b <;> simp [areSame]
  | cons v a =>
    cases b with
    | nil => simp [areSame]
    | cons w b => simp [areSame, isSame_iff v w, areSame_iff a b]

theorem areSameFields_iff (a b : List (Text × Value)) : areSameFields a b = true ↔ a = b := by
  cases a with
  | nil => cases b <;> simp [areSameFields]
  | cons p a =>
    obtain ⟨k, v⟩ := p
    cases b with
    | nil => simp [areSameFields]
    | cons q b =>
      obtain ⟨l, w⟩ := q
      simp [areSameFields, isSame_iff v w, areSameFields_iff a b, and_assoc]

end

instance : DecidableEq Value := fun a b => decidable_of_iff _ (isSame_iff a b)

end Value

end GpioBroker
