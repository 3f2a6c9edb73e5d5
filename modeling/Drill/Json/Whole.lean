import Drill.Json.Reader

/-!
# Whole numbers in JSON values

`Value.whole` takes the whole number out of a value (`int`): a number without its fraction, a yes as
one, or a text that spells a whole number in the digits of any script. There are three ways to have
none, and each is a fault of its own (`WholeFault`).
-/

namespace Drill.Json

/-- Why a value is no whole number. -/
inductive WholeFault where
  /-- Its type has no numbers. -/
  | noNumber
  /-- A text that spells none, or something that is not a number. -/
  | unreadable
  | infinite
deriving DecidableEq

/-- The whole number that a text spells. -/
def wholeText (s : String) : Except WholeFault Int :=
  match Text.integerDigits? s.toList with
  | some (negative, digits) =>
    if maxDigits < digits.length then .error .unreadable else .ok (Text.integerOf negative digits)
  | none => .error .unreadable

/-- The whole number in a value. -/
def Value.whole : Value → Except WholeFault Int
  | int n => .ok n
  | bool b => .ok b.toInt
  | number .nan => .error .unreadable
  | number x =>
    match x.truncate? with
    | some n => .ok n
    | none => .error .infinite
  | string s => wholeText s
  | null | array _ | object _ => .error .noNumber

end Drill.Json
