import Drill.Json.Value
import Drill.Text.Digit
import Drill.Text.Encoding
import Drill.Text.Hex

/-!
# Reading JSON

`Json.readWithin` reads a text (`json.loads` of a `str`), `Json.readBytes` a body (`json.loads` of
`bytes`), whose encoding it takes from the byte order mark or from where the zero bytes stand
(`encodingOf`). Beyond the standard the words `NaN`, `Infinity` and `-Infinity` are numbers. Of two
members of one name the later counts; a whole number may have up to `maxDigits` digits; half
surrogates that find no partner are shown as `U+FFFD`.

Each list and each object is read by a call of its own, so the interpreter's limit on nested calls
limits how deep a body may go. How many calls are left when reading begins depends on the caller, so
that number is an argument (`room`); a list or an object beyond it ends the reading, whatever comes
later in the text.
-/

namespace Drill.Json

/-- Why a text is not read. -/
inductive ReadError where
  /-- The bytes are no text. -/
  | undecodable
  /-- The text is no JSON. -/
  | malformed
  /-- A whole number is too long. -/
  | tooManyDigits
  /-- A list, or an object, is nested too deep (`RecursionError`). -/
  | tooDeep (object : Bool)
deriving DecidableEq

/-- The longest whole number that is read. -/
def maxDigits : Nat := 4300

/-- A reader's answer: what it read and what is left. -/
abbrev Read (α : Type) := Except ReadError (α × List Char)

/-- Drops the blanks between tokens. -/
def skip (text : List Char) : List Char :=
  text.dropWhile fun c => c = ' ' || c = '\t' || c = '\n' || c = '\r'

/-- The value of four hexadecimal digits. -/
def hex4? (a b c d : Char) : Option Nat := do
  let a ← Text.hexValue? a
  let b ← Text.hexValue? b
  let c ← Text.hexValue? c
  let d ← Text.hexValue? d
  return ((a * 16 + b) * 16 + c) * 16 + d

/-- The code points of a string up to its closing quote, escapes resolved one by one. -/
def stringPoints : List Char → Read (List Nat)
  | '"' :: rest => .ok ([], rest)
  | '\\' :: 'u' :: a :: b :: c :: d :: rest =>
    match hex4? a b c d with
    | some point => (stringPoints rest).map fun (points, left) => (point :: points, left)
    | none => .error .malformed
  | '\\' :: e :: rest =>
    let point? := match e with
      | '"' => some 0x22
      | '\\' => some 0x5C
      | '/' => some 0x2F
      | 'b' => some 0x08
      | 'f' => some 0x0C
      | 'n' => some 0x0A
      | 'r' => some 0x0D
      | 't' => some 0x09
      | _ => none
    match point? with
    | some point => (stringPoints rest).map fun (points, left) => (point :: points, left)
    | none => .error .malformed
  | c :: rest =>
    if c.toNat < 0x20 || c = '\\' then .error .malformed
    else (stringPoints rest).map fun (points, left) => (c.toNat :: points, left)
  | [] => .error .malformed

/-- A string after its opening quote; two escapes that make a surrogate pair are one character. -/
def string (text : List Char) : Read String :=
  (stringPoints text).map fun (points, left) =>
    (String.ofList ((Text.joinHalves (points.map some)).map fun p =>
      (p.map Text.charOf).getD Text.replacement), left)

/-- The digits after a point; none if there are none, and then the point is left over too. -/
def fraction : List Char → List Char × List Char
  | '.' :: rest =>
    let digits := rest.takeWhile Char.isDigit
    if digits.isEmpty then ([], '.' :: rest) else (digits, rest.dropWhile Char.isDigit)
  | text => ([], text)

/-- An exponent, with the text after it. -/
def exponent? (text : List Char) : Option (Int × List Char) :=
  match text with
  | e :: rest =>
    if e = 'e' || e = 'E' then
      let (negative, body) := match rest with
        | '-' :: r => (true, r)
        | '+' :: r => (false, r)
        | r => (false, r)
      let digits := body.takeWhile Char.isDigit
      if digits.isEmpty then none
      else
        let n : Int := Text.asciiNumber digits
        some (if negative then -n else n, body.dropWhile Char.isDigit)
    else none
  | [] => none

/-- A number: a whole one unless it has a fraction or an exponent. -/
def number (text : List Char) : Read Value :=
  let (negative, body) := match text with
    | '-' :: rest => (true, rest)
    | rest => (false, rest)
  let (whole, rest) := match body with
    | '0' :: rest => (['0'], rest)
    | _ => (body.takeWhile Char.isDigit, body.dropWhile Char.isDigit)
  if whole.isEmpty then .error .malformed
  else
    let (places, rest) := fraction rest
    match exponent? rest with
    | some (power, left) =>
      .ok (.number
        (.ofDecimal negative (Text.asciiNumber (whole ++ places)) (power - places.length)), left)
    | none =>
      if places.isEmpty then
        if whole.length ≤ maxDigits then
          let n : Int := Text.asciiNumber whole
          .ok (.int (if negative then -n else n), rest)
        else .error .tooManyDigits
      else
        .ok (.number
          (.ofDecimal negative (Text.asciiNumber (whole ++ places)) (-(places.length : Int))),
          rest)

mutual

/-- One value, from its first character. The first argument bounds the recursion, and twice the
length of the text is always enough; the second is how many lists and objects may be nested. -/
def value : Nat → Nat → List Char → Read Value
  | 0, _, _ => .error .malformed
  | fuel + 1, room, text =>
    match text with
    | '"' :: rest => (string rest).map fun (s, left) => (.string s, left)
    | '[' :: rest =>
      match room with
      | 0 => .error (.tooDeep false)
      | room + 1 =>
        match skip rest with
        | ']' :: left => .ok (.array [], left)
        | body => (items fuel room body).map fun (vs, left) => (.array vs, left)
    | '{' :: rest =>
      match room with
      | 0 => .error (.tooDeep true)
      | room + 1 =>
        match skip rest with
        | '}' :: left => .ok (.object [], left)
        | body =>
          (members fuel room body).map fun (ms, left) => (.object (Assoc.ofPairs ms), left)
    | 'n' :: 'u' :: 'l' :: 'l' :: left => .ok (.null, left)
    | 't' :: 'r' :: 'u' :: 'e' :: left => .ok (.bool true, left)
    | 'f' :: 'a' :: 'l' :: 's' :: 'e' :: left => .ok (.bool false, left)
    | 'N' :: 'a' :: 'N' :: left => .ok (.number .nan, left)
    | 'I' :: 'n' :: 'f' :: 'i' :: 'n' :: 'i' :: 't' :: 'y' :: left =>
        .ok (.number (.infinite false), left)
    | '-' :: 'I' :: 'n' :: 'f' :: 'i' :: 'n' :: 'i' :: 't' :: 'y' :: left =>
      .ok (.number (.infinite true), left)
    | _ => number text

/-- The items of an array, from the first one to the closing bracket. -/
def items : Nat → Nat → List Char → Read (List Value)
  | 0, _, _ => .error .malformed
  | fuel + 1, room, text =>
    match value fuel room text with
    | .error e => .error e
    | .ok (v, rest) =>
      match skip rest with
      | ',' :: more => (items fuel room (skip more)).map fun (vs, left) => (v :: vs, left)
      | ']' :: left => .ok ([v], left)
      | _ => .error .malformed

/-- The members of an object, from the first name to the closing brace. -/
def members : Nat → Nat → List Char → Read (List (String × Value))
  | 0, _, _ => .error .malformed
  | fuel + 1, room, text =>
    match text with
    | '"' :: rest =>
      match string rest with
      | .error e => .error e
      | .ok (name, rest) =>
        match skip rest with
        | ':' :: body =>
          match value fuel room (skip body) with
          | .error e => .error e
          | .ok (v, rest) =>
            match skip rest with
            | ',' :: more =>
              (members fuel room (skip more)).map fun (ms, left) => ((name, v) :: ms, left)
            | '}' :: left => .ok ([(name, v)], left)
            | _ => .error .malformed
        | _ => .error .malformed
    | _ => .error .malformed

end

/-- Reads a text that is one value with blanks around it, if it is not nested too deep. -/
def readWithin (room : Nat) (text : List Char) : Except ReadError Value :=
  match value (2 * text.length + 2) room (skip text) with
  | .error e => .error e
  | .ok (v, rest) => if (skip rest).isEmpty then .ok v else .error .malformed

/-- Reads a text however deep it is nested: each level of it takes a character. -/
def read (text : List Char) : Except ReadError Value := readWithin text.length text

/-- The encoding of a body, and the body without its byte order mark. -/
def encodingOf (bytes : List Nat) : Text.Encoding × List Nat :=
  match bytes with
  | 0 :: 0 :: 0xFE :: 0xFF :: rest => (.utf32 true, rest)
  | 0xFF :: 0xFE :: 0 :: 0 :: rest => (.utf32 false, rest)
  | 0xFE :: 0xFF :: rest => (.utf16 true, rest)
  | 0xFF :: 0xFE :: rest => (.utf16 false, rest)
  | 0xEF :: 0xBB :: 0xBF :: rest => (.utf8, rest)
  | 0 :: b :: _ :: _ :: _ => (if b = 0 then .utf32 true else .utf16 true, bytes)
  | _ :: 0 :: c :: d :: _ => (if c = 0 ∧ d = 0 then .utf32 false else .utf16 false, bytes)
  | [0, _] => (.utf16 true, bytes)
  | [_, 0] => (.utf16 false, bytes)
  | _ => (.utf8, bytes)

/-- Reads a body, if it is not nested too deep. -/
def readBytes (room : Nat) (bytes : List Nat) : Except ReadError Value :=
  let (encoding, body) := encodingOf bytes
  match encoding.strict? body with
  | some text => readWithin room text
  | none => .error .undecodable

end Drill.Json
