import GpioBroker.Value
import GpioBroker.Decimal.Shortest
import GpioBroker.Text.Digit

/-!
# JSON documents

The JSON text of a value in ASCII, each item of a list and each field of a map on a line of its own,
indented by two spaces a level.  Characters outside printable ASCII are written as UTF-16 units.
-/

namespace GpioBroker

namespace Json

/-- A UTF-16 unit as an escape. -/
def unitEscape (n : Nat) : Text := "\\u" ++ Text.hex 4 n

/-- The written form of one code point inside a JSON string. -/
def escaped (c : CodePoint) : Text :=
  let n := c.number
  if c = '"' then "\\\""
  else if c = '\\' then "\\\\"
  else if c = '\n' then "\\n"
  else if c = '\r' then "\\r"
  else if c = '\t' then "\\t"
  else if n = 0x08 then "\\b"
  else if n = 0x0C then "\\f"
  else if 0x20 ≤ n ∧ n ≤ 0x7E then Text.singleton c
  else if n < 0x10000 then unitEscape n
  else unitEscape (0xD800 + (n - 0x10000) / 0x400) ++ unitEscape (0xDC00 + (n - 0x10000) % 0x400)

/-- A JSON string. -/
def string (t : Text) : Text := "\"" ++ Text.join (t.toList.map escaped) ++ "\""

/-- A line break followed by the indentation of a level. -/
def newline (level : Nat) : Text := "\n" ++ Text.replicate (2 * level) ' '

/-- Encloses lines in brackets, each line one level deeper than the brackets. -/
def block (opening closing : Text) (level : Nat) (lines : List Text) : Text :=
  if lines.isEmpty then opening ++ closing
  else
    opening ++ newline (level + 1) ++
      Text.intercalate ("," ++ newline (level + 1)) lines ++ newline level ++ closing

/-- A JSON number for a double-precision number. -/
def number (x : Binary64) : Text :=
  if x.isUndefined then "NaN"
  else if x.isFinite then x.text
  else if x.negative then "-Infinity" else "Infinity"

end Json

namespace Value

mutual

/-- The JSON text of a value that starts at a level of indentation. -/
def jsonAt (level : Nat) : Value → Text
  | .null => "null"
  | .bool true => "true"
  | .bool false => "false"
  | .int n => toString n
  | .float x => Json.number x
  | .text t => Json.string t
  | .list items => Json.block "[" "]" level (jsonItems (level + 1) items)
  | .map fields => Json.block "\x7b" "\x7d" level (jsonFields (level + 1) fields)

/-- The JSON texts of the items of a list. -/
def jsonItems (level : Nat) : List Value → List Text
  | [] => []
  | v :: rest => jsonAt level v :: jsonItems level rest

/-- The JSON texts of the fields of a map. -/
def jsonFields (level : Nat) : List (Text × Value) → List Text
  | [] => []
  | (key, v) :: rest => (Json.string key ++ ": " ++ jsonAt level v) :: jsonFields level rest

end

/-- The JSON text of a value. -/
def json (v : Value) : Text := v.jsonAt 0

/-- The name that a field with a value for its name has in JSON. -/
def jsonName : Value → Text
  | .text t => t
  | v => v.json

end Value

end GpioBroker
