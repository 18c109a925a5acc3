import Changeover.Text.Hex
import Changeover.Text.Printable

/-!
# Quoted text in messages

A message that shows a text puts it between single quotes, or between double quotes when it holds a
single quote and no double quote. The quote used and the backslash are escaped; tab, line feed and
carriage return have short escapes; any other character that does not print is shown by its number.
-/

namespace Changeover.Text.Quoted

/-- A character shown by its number, with as many digits as it needs. -/
def byNumber (c : Char) : List Char :=
  if c.toNat < 0x100 then '\\' :: 'x' :: Hex.fixed 2 c.toNat
  else if c.toNat < 0x10000 then '\\' :: 'u' :: Hex.fixed 4 c.toNat
  else '\\' :: 'U' :: Hex.fixed 8 c.toNat

/-- One character between quotes `q`. -/
def char (q c : Char) : List Char :=
  if c == q || c == '\\' then ['\\', c]
  else if c == '\n' then ['\\', 'n']
  else if c == '\r' then ['\\', 'r']
  else if c == '\t' then ['\\', 't']
  else if isPrintable c then [c]
  else byNumber c

/-- The quote that a text is shown with. -/
def quoteFor (s : List Char) : Char :=
  if s.contains '\'' && !s.contains '"' then '"' else '\''

/-- The text between quotes. -/
def quote (s : List Char) : List Char :=
  let q := quoteFor s
  q :: (s.flatMap (char q) ++ [q])

/-- The string between quotes. -/
def text (s : String) : String := String.ofList (quote s.toList)

end Changeover.Text.Quoted
