import GpioBroker.Value
import GpioBroker.Decimal.Shortest
import GpioBroker.Text.Quoted

/-!
# Displayed values

The text of a value in messages and log lines.  A text is displayed as itself and quoted inside
lists and maps, where every value has its quoted form.
-/

namespace GpioBroker

namespace Value

mutual

/-- The quoted form of a value. -/
def quoted : Value → Text
  | .null => "None"
  | .bool true => "True"
  | .bool false => "False"
  | .int n => toString n
  | .float x => x.text
  | .text t => t.quoted
  | .list items => "[" ++ Text.intercalate ", " (quotedItems items) ++ "]"
  | .map fields => "\x7b" ++ Text.intercalate ", " (quotedFields fields) ++ "\x7d"

/-- The quoted forms of the items of a list. -/
def quotedItems : List Value → List Text
  | [] => []
  | v :: rest => quoted v :: quotedItems rest

/-- The quoted forms of the fields of a map. -/
def quotedFields : List (Text × Value) → List Text
  | [] => []
  | (key, v) :: rest => (key.quoted ++ ": " ++ quoted v) :: quotedFields rest

end

/-- The text of a value: a text is itself, anything else has its quoted form. -/
def display : Value → Text
  | .text t => t
  | v => v.quoted

@[simp] theorem display_text (t : Text) : display (.text t) = t := rfl

end Value

end GpioBroker
