import Drill.Assoc
import Drill.Number.Decimal
import Drill.Text.Quoted

/-!
# JSON values

A value keeps whole numbers of any size apart from doubles, and the members of an object in order.
`Value.isBlank` tells the values that say nothing; `Value.describe` shows a value in a message, text
as it is and everything inside lists and objects in quotes.
-/

namespace Drill.Json

/-- A JSON value. -/
inductive Value where
  | null
  | bool (b : Bool)
  | int (n : Int)
  | number (x : Number.Double)
  | string (s : String)
  | array (items : List Value)
  | object (members : List (String × Value))

namespace Value

instance : Inhabited Value := ⟨null⟩

/-- The member of an object. -/
def member? : Value → String → Option Value
  | object members, name => Assoc.get? members name
  | _, _ => none

/-- Does the value say nothing: null, false, zero, or empty? -/
def isBlank : Value → Bool
  | null => true
  | bool b => !b
  | int n => n == 0
  | number x => x.isZero
  | string s => s.isEmpty
  | array items => items.isEmpty
  | object members => members.isEmpty

mutual

/-- A value inside a list or an object. -/
def inside : Value → String
  | null => "None"
  | bool b => if b then "True" else "False"
  | int n => toString n
  | number x => x.shortest
  | string s => Text.quoted s
  | array items => "[" ++ ", ".intercalate (insideItems items) ++ "]"
  | object members => "\x7b" ++ ", ".intercalate (insideMembers members) ++ "\x7d"

/-- The items of a list. -/
def insideItems : List Value → List String
  | [] => []
  | item :: rest => inside item :: insideItems rest

/-- The members of an object. -/
def insideMembers : List (String × Value) → List String
  | [] => []
  | (name, value) :: rest => (Text.quoted name ++ ": " ++ inside value) :: insideMembers rest

end

/-- A value in a message. -/
def describe : Value → String
  | string s => s
  | other => other.inside

end Value

end Drill.Json
