import Drill.Text.Hex
import Drill.Text.Printable

/-!
# Quoted texts

How a text is shown inside a message: between quotes, with escapes for the quote, the backslash,
line breaks and what cannot be shown. `quoted` picks single quotes unless the text has single quotes
and no double ones; `escape` writes one character.
-/

namespace Drill.Text

/-- One character inside quotes of the given kind. -/
def escape (quote c : Char) : List Char :=
  if c = quote || c = '\\' then ['\\', c]
  else if c = '\n' then ['\\', 'n']
  else if c = '\r' then ['\\', 'r']
  else if c = '\t' then ['\\', 't']
  else if isPrintable c then [c]
  else if c.toNat < 0x100 then '\\' :: 'x' :: hex 2 c.toNat
  else if c.toNat < 0x10000 then '\\' :: 'u' :: hex 4 c.toNat
  else '\\' :: 'U' :: hex 8 c.toNat

/-- The quote for a text: single, unless that would need an escape and double would not. -/
def quoteFor (text : List Char) : Char :=
  if text.contains '\'' && !text.contains '"' then '"' else '\''

/-- A text between quotes. -/
def quoted (s : String) : String :=
  let text := s.toList
  let quote := quoteFor text
  String.ofList (quote :: text.flatMap (escape quote) ++ [quote])

end Drill.Text
