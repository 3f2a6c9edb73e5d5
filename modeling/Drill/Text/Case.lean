/-!
# Capital and small letters of ASCII words

Level names are compared in capitals. A letter outside ASCII matters to that only if its capital
form is ASCII, and there are ten such letters; `capitals` maps those and the ASCII letters and
leaves every other character as it is, so a text spells an ASCII word here exactly when its full
capital form does.
-/

namespace Drill.Text

/-- The capital form of one character, where that form is ASCII; else the character itself. -/
def capital (c : Char) : List Char :=
  match c.toNat with
  | 0x00DF => ['S', 'S']
  | 0x0131 => ['I']
  | 0x017F => ['S']
  | 0xFB00 => ['F', 'F']
  | 0xFB01 => ['F', 'I']
  | 0xFB02 => ['F', 'L']
  | 0xFB03 => ['F', 'F', 'I']
  | 0xFB04 => ['F', 'F', 'L']
  | 0xFB05 => ['S', 'T']
  | 0xFB06 => ['S', 'T']
  | _ => [c.toUpper]

/-- A text in capitals, as far as they are ASCII. -/
def capitals (s : String) : String := String.ofList (s.toList.flatMap capital)

/-- The small form of a character, where that form is ASCII; else the character itself. -/
def small (c : Char) : Char := if c.toNat = 0x212A then 'k' else c.toLower

/-- A text in small letters, as far as they are ASCII. -/
def smalls (s : String) : String := String.ofList (s.toList.map small)

end Drill.Text
