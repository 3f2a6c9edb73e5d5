import Drill.Complaint
import Drill.Json.Value
import Drill.Text.Blank
import Drill.Text.Case
import Drill.Text.Digit

/-!
# Reading values loosely

A value may have another type than its setting and still stand for one: a text that spells a number,
a whole double, a one for yes. These readers take such values, and say what is wrong with the
others. They are the readers of the library that the program runs on (`Settings.lax`), and stand for
the lax coercions of a library that is not part of this project; nothing that is proved of settings
rests on them.
-/

namespace Drill.Settings

open Number (Double)

/-- The longest text that is read as a whole number. -/
def maxIntegerText : Nat := 4300

/-- The whole number that a text spells: a sign, digits, and a fraction of zeros only. -/
def integerText (s : String) : Except Problem Int :=
  let text := Text.trimBy Text.isBlank s.toList
  let (negative, body) := Text.signed text
  let whole := body.takeWhile (· ≠ '.')
  let fractionIsZero := match body.dropWhile (· ≠ '.') with
    | [] => true
    | _ :: zeros => !zeros.isEmpty && zeros.all (· = '0')
  match Text.numeral? Text.asciiDigit? whole with
  | some digits =>
    if maxIntegerText < text.length then .error .integerTooLong
    else if fractionIsZero then
      let n : Int := Text.ofDigits digits
      .ok (if negative then -n else n)
    else .error .notIntegerText
  | none => .error .notIntegerText

/-- A whole number. -/
def readInteger : Json.Value → Except Problem Int
  | .int n => .ok n
  | .bool b => .ok b.toInt
  | .number x =>
    if !x.isFinite then .error .notFinite
    else if !x.isWhole then .error .integerFraction
    else match x.truncate? with
      | some n => if n.natAbs < Nat.pow 2 63 then .ok n else .error .integerTooLong
      | none => .error .notFinite
  | .string s => integerText s
  | .null | .array _ | .object _ => .error .notInteger

/-- A whole number, or null for none. -/
def readOptional : Json.Value → Except Problem (Option Int)
  | .null => .ok none
  | value => (readInteger value).map some

/-- The exponent of a decimal, zero if there is none. -/
def exponent? : List Char → Option Int
  | [] => some 0
  | _ :: rest =>
    let (negative, body) := Text.signed rest
    (Text.numeral? Text.asciiDigit? body).map fun digits =>
      let n : Int := Text.ofDigits digits
      if negative then -n else n

/-- The digits of one side of the point; there may be none. -/
def side? (text : List Char) : Option (List Nat) :=
  if text.isEmpty then some [] else Text.numeral? Text.asciiDigit? text

/-- The double that a text without sign spells. -/
def unsignedDouble? (negative : Bool) (text : List Char) : Option Double :=
  match Text.smalls (String.ofList text) with
  | "inf" | "infinity" => some (.infinite negative)
  | "nan" => some .nan
  | _ => do
    let isMark (c : Char) : Bool := c = 'e' || c = 'E'
    let mantissa := text.takeWhile (!isMark ·)
    let power ← exponent? (text.dropWhile (!isMark ·))
    let whole ← side? (mantissa.takeWhile (· ≠ '.'))
    let places ← side? ((mantissa.dropWhile (· ≠ '.')).drop 1)
    if whole.isEmpty && places.isEmpty then none
    else some (.ofDecimal negative (Text.ofDigits (whole ++ places)) (power - places.length))

/-- The double that a text spells. -/
def doubleText (s : String) : Except Problem Double :=
  let (negative, body) := Text.signed (Text.trimBy Text.isBlank s.toList)
  match unsignedDouble? negative body with
  | some x => .ok x
  | none => .error .notNumberText

/-- A double. -/
def readDouble : Json.Value → Except Problem Double
  | .int n =>
    match Double.ofInt? n with
    | some x => .ok x
    | none => .error .notNumber
  | .bool b => .ok (.ofInt b.toInt)
  | .number x => .ok x
  | .string s => doubleText s
  | .null | .array _ | .object _ => .error .notNumber

/-- Words for no. -/
def noWords : List String := ["0", "off", "f", "false", "n", "no"]

/-- Words for yes. -/
def yesWords : List String := ["1", "on", "t", "true", "y", "yes"]

/-- Yes or no. -/
def readBoolean : Json.Value → Except Problem Bool
  | .bool b => .ok b
  | .int n => if n = 0 then .ok false else if n = 1 then .ok true else .error .notBooleanText
  | .number x =>
    if x.isZero then .ok false else if x = .one then .ok true else .error .notBoolean
  | .string s =>
    let word := Text.smalls s
    if word ∈ noWords then .ok false else if word ∈ yesWords then .ok true
      else .error .notBooleanText
  | .null | .array _ | .object _ => .error .notBoolean

/-- A text. -/
def readText : Json.Value → Except Problem String
  | .string s => .ok s
  | _ => .error .notText

end Drill.Settings
