import Drill.Text.Blank

/-!
# Decimal digits of all scripts

`digit?` gives the value of a character of the Unicode class of decimal digits. Each script has its
ten digits in a row, so the table holds the zeros only. `numeral?` reads a row of digits in which
single underscores may stand between two digits, and `integer?` such a row with a sign and blanks
around it (`int` of a text).
-/

namespace Drill.Text

/-- The code points of the zeros of all scripts. -/
def zeros : List Nat :=
  [0x30, 0x660, 0x6F0, 0x7C0, 0x966, 0x9E6, 0xA66, 0xAE6, 0xB66, 0xBE6, 0xC66, 0xCE6, 0xD66, 0xDE6,
   0xE50, 0xED0, 0xF20, 0x1040, 0x1090, 0x17E0, 0x1810, 0x1946, 0x19D0, 0x1A80, 0x1A90, 0x1B50,
   0x1BB0, 0x1C40, 0x1C50, 0xA620, 0xA8D0, 0xA900, 0xA9D0, 0xA9F0, 0xAA50, 0xABF0, 0xFF10, 0x104A0,
   0x10D30, 0x11066, 0x110F0, 0x11136, 0x111D0, 0x112F0, 0x11450, 0x114D0, 0x11650,
   0x116C0, 0x11730, 0x118E0, 0x11950, 0x11C50, 0x11D50, 0x11DA0, 0x16A60, 0x16AC0, 0x16B50,
   0x1D7CE, 0x1D7D8, 0x1D7E2, 0x1D7EC, 0x1D7F6, 0x1E140, 0x1E2F0, 0x1E950, 0x1FBF0]

/-- The value of a decimal digit of any script. -/
def digit? (c : Char) : Option Nat :=
  (zeros.find? fun z => z ≤ c.toNat && c.toNat < z + 10).map (c.toNat - ·)

/-- The value of a row of ASCII digits; none if another character is among them. -/
def asciiNumber (digits : List Char) : Nat :=
  digits.foldl (fun n c => 10 * n + (c.toNat - 48)) 0

/-- The value of an ASCII digit. -/
def asciiDigit? (c : Char) : Option Nat := if c.isDigit then some (c.toNat - 48) else none

/-- The values of a row of digits, single underscores between two of them left out. -/
def numeral? (digit? : Char → Option Nat) (text : List Char) : Option (List Nat) :=
  go false text
where
  /-- The same, given whether a digit stands before the text. -/
  go (afterDigit : Bool) : List Char → Option (List Nat)
    | [] => if afterDigit then some [] else none
    | c :: rest =>
      if c = '_' then (if afterDigit then go false rest else none)
      else match digit? c with
        | some d => (go true rest).map (d :: ·)
        | none => none

/-- The number that a row of digits stands for. -/
def ofDigits (digits : List Nat) : Nat := digits.foldl (fun n d => 10 * n + d) 0

/-- A sign, if there is one, and the text after it; true stands for a minus. -/
def signed : List Char → Bool × List Char
  | '-' :: rest => (true, rest)
  | '+' :: rest => (false, rest)
  | text => (false, text)

/-- The sign and the digits of a whole number in the digits of any script, with blanks around it.
The information separators are none of these blanks. -/
def integerDigits? (text : List Char) : Option (Bool × List Nat) :=
  let (negative, body) := signed (trimBy isBlank text)
  (numeral? digit? body).map fun digits => (negative, digits)

/-- The whole number of a sign and digits. -/
def integerOf (negative : Bool) (digits : List Nat) : Int :=
  if negative then -(ofDigits digits : Int) else ofDigits digits

/-- The whole number that a text spells. -/
def integer? (text : List Char) : Option Int :=
  (integerDigits? text).map fun (negative, digits) => integerOf negative digits

end Drill.Text
