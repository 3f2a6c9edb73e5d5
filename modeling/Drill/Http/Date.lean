import Drill.Text.Case
import Drill.Text.Digit

/-!
# Dates in headers

`secondsOf?` reads dates such as `Thu, 01 Jan 1970 00:00:00 GMT`, with blanks or hyphens between
day, month and year, as seconds since 1970. The library `web` needs them for cookies that expire.
-/

namespace Drill.Http.Date

/-- Has the year a 29th of February? -/
def isLeap (year : Nat) : Bool := year % 4 = 0 && (year % 100 ≠ 0 || year % 400 = 0)

/-- The days before a year, counted from the year zero. -/
def daysTo (year : Nat) : Nat :=
  365 * year + (year + 3) / 4 - (year + 99) / 100 + (year + 399) / 400

/-- The lengths of the months of a year. -/
def monthLengths (year : Nat) : List Nat :=
  [31, if isLeap year then 29 else 28, 31, 30, 31, 30, 31, 31, 30, 31, 30, 31]

/-- The days of some months together. -/
def sumDays (months : List Nat) : Nat := months.foldl (· + ·) 0

/-- The months, as headers name them. -/
def monthNames : List String :=
  ["jan", "feb", "mar", "apr", "may", "jun", "jul", "aug", "sep", "oct", "nov", "dec"]

/-- The number of a row of ASCII digits. -/
def number? (text : List Char) : Option Nat :=
  if text.isEmpty then none else (text.mapM Text.asciiDigit?).map Text.ofDigits

/-- The pieces of a text between characters of a class. -/
def pieces (isBetween : Char → Bool) (text : List Char) : List (List Char) :=
  (text.foldr (fun c found =>
    if isBetween c then [] :: found
    else match found with
      | first :: rest => (c :: first) :: rest
      | [] => [[c]]) [[]]).filter (!·.isEmpty)

/-- The seconds since 1970 of a date. -/
def secondsOf? (text : String) : Option Int := do
  let isBetween (c : Char) : Bool := c = ' ' || c = ',' || c = '-' || c = ':'
  let fields := pieces isBetween text.toList
  let fields := match fields with
    | first :: rest => if (number? first).isSome then fields else rest
    | [] => []
  match fields with
  | day :: month :: year :: hour :: minute :: second :: _ =>
    let day ← number? day
    let month := monthNames.idxOf (Text.smalls (String.ofList month))
    let year ← number? year
    let hour ← number? hour
    let minute ← number? minute
    let second ← number? second
    if 12 ≤ month then none
    else
      let days : Int :=
        daysTo year + sumDays ((monthLengths year).take month) + day - 1 - daysTo 1970
      some (((days * 24 + hour) * 60 + minute) * 60 + second)
  | _ => none

end Drill.Http.Date
