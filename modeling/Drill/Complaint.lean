/-!
# Complaints about an input

A value that is refused is refused with a complaint: what the problem is (`Problem`) and where it is
(`Place`s from the field inward). `Problem.tag` and `Problem.text` are its two written forms, those
of an entry of a `ValidationError`. `Checked` is an answer or all complaints about the input;
`Checked.apply` puts answers together and loses no complaint.
-/

namespace Drill

/-- What is wrong with a value. -/
inductive Problem where
  | notInteger
  | notIntegerText
  | integerFraction
  | integerTooLong
  | notFinite
  | notPositive
  | notNumber
  | notNumberText
  | notBoolean
  | notBooleanText
  | notText
  | notMap
  | notList
  /-- The value is of the right type and refused for another reason. -/
  | refused (why : String)
deriving DecidableEq

namespace Problem

/-- The short name of a problem. -/
def tag : Problem → String
  | notInteger => "int_type"
  | notIntegerText => "int_parsing"
  | integerFraction => "int_from_float"
  | integerTooLong => "int_parsing_size"
  | notFinite => "finite_number"
  | notPositive => "greater_than"
  | notNumber => "float_type"
  | notNumberText => "float_parsing"
  | notBoolean => "bool_type"
  | notBooleanText => "bool_parsing"
  | notText => "string_type"
  | notMap => "dict_type"
  | notList => "list_type"
  | refused _ => "value_error"

/-- The sentence for a problem. -/
def text : Problem → String
  | notInteger => "Input should be a valid integer"
  | notIntegerText => "Input should be a valid integer, unable to parse string as an integer"
  | integerFraction => "Input should be a valid integer, got a number with a fractional part"
  | integerTooLong => "Unable to parse input string as an integer, exceeded maximum size"
  | notFinite => "Input should be a finite number"
  | notPositive => "Input should be greater than 0"
  | notNumber => "Input should be a valid number"
  | notNumberText => "Input should be a valid number, unable to parse string as a number"
  | notBoolean => "Input should be a valid boolean"
  | notBooleanText => "Input should be a valid boolean, unable to interpret input"
  | notText => "Input should be a valid string"
  | notMap => "Input should be a valid dictionary"
  | notList => "Input should be a valid list"
  | refused why => "Value error, " ++ why

end Problem

/-- One step on the way to the refused value. -/
inductive Place where
  | name (field : String)
  | index (position : Nat)
deriving DecidableEq

/-- A problem and where it is. -/
structure Complaint where
  problem : Problem
  place : List Place
deriving DecidableEq

/-- What was read, or everything that is wrong with the input. -/
abbrev Checked (α : Type) := Except (List Complaint) α

namespace Checked

variable {α β : Type}

/-- The complaints, none if there is an answer. -/
def complaints : Checked α → List Complaint
  | .ok _ => []
  | .error found => found

/-- An answer without complaints. -/
def accept (a : α) : Checked α := .ok a

/-- A function and its argument, with the complaints of both. -/
def apply (f : Checked (α → β)) (a : Checked α) : Checked β :=
  match f, a with
  | .ok f, .ok a => .ok (f a)
  | f, a => .error (f.complaints ++ a.complaints)

/-- A row of answers, with the complaints of all. -/
def gather : List (Checked α) → Checked (List α)
  | [] => accept []
  | a :: rest => (accept List.cons).apply a |>.apply (gather rest)

end Checked

end Drill
