import GpioBroker.Text.Digit
import GpioBroker.Text.Printable

/-!
# Quoted text

The quoted form of a text in messages.  Apostrophes enclose it, unless the text holds an apostrophe
and no quotation mark.  The enclosing mark and the backslash are escaped, line feed, carriage
return and tab have letters of their own, and any other unprintable character is written as its
code point in two, four or eight hexadecimal digits.
-/

namespace GpioBroker

namespace Text

/-- The mark that encloses a text. -/
def enclosing (t : Text) : Char :=
  if t.toList.contains '\'' && !t.toList.contains '"' then '"' else '\''

/-- The number of a code point in two, four or eight hexadecimal digits. -/
def coded (c : CodePoint) : Text :=
  let n := c.number
  if n < 0x100 then "\\x" ++ hex 2 n
  else if n < 0x10000 then "\\u" ++ hex 4 n
  else "\\U" ++ hex 8 n

/-- The written form of one code point between two marks. -/
def escaped (mark : Char) (c : CodePoint) : Text :=
  if c = mark ∨ c = '\\' then ⟨['\\', c]⟩
  else if c = '\n' then "\\n"
  else if c = '\r' then "\\r"
  else if c = '\t' then "\\t"
  else if isPrintable c then singleton c
  else coded c

/-- The quoted form of a text. -/
def quoted (t : Text) : Text :=
  let mark := enclosing t
  singleton mark ++ join (t.toList.map (escaped mark)) ++ singleton mark

end Text

end GpioBroker
