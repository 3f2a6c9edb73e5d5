import Drill.Text.Blank
import Drill.Text.Split

/-!
# Files of variables

A file assigns a variable in each of its lines (`assignments`), and a value may refer to variables
of the environment and to those that the file assigned before (`parse`). These are the files of the
library that the program runs on (`Settings.lax`), in the plain form in which settings are kept:
values on one line, without escapes inside quotes.
-/

namespace Drill.Settings.File

/-- The value of an assignment without quotes: a blank and a number sign begin a comment. -/
def bareValue : List Char → List Char
  | [] => []
  | c :: rest =>
    if Text.isSpacing c then
      match rest.dropWhile Text.isSpacing with
      | [] | '#' :: _ => []
      | _ => c :: bareValue rest
    else c :: bareValue rest

/-- The value of an assignment, out of its quotes if it has them. -/
def assignedValue (text : List Char) : List Char :=
  match text with
  | q :: rest =>
    if (q = '"' || q = '\'') && rest.contains q then rest.takeWhile (· ≠ q) else bareValue text
  | [] => []

/-- The name and the value that a line of a file assigns, if it assigns anything. -/
def assignment? (line : List Char) : Option (String × List Char) :=
  let text := Text.trimBy Text.isSpacing line
  let text := match text with
    | 'e' :: 'x' :: 'p' :: 'o' :: 'r' :: 't' :: c :: rest =>
      if Text.isSpacing c then rest.dropWhile Text.isSpacing else text
    | _ => text
  match text with
  | [] | '#' :: _ => none
  | _ =>
    match text.dropWhile (· ≠ '=') with
    | [] => none
    | _ :: value =>
      some (String.ofList (Text.trimBy Text.isSpacing (text.takeWhile (· ≠ '='))),
        assignedValue (value.dropWhile Text.isSpacing))

/-- What a file assigns, line by line, references not yet resolved. -/
def assignments (file : String) : List (String × List Char) :=
  (Text.split '\n' file.toList).filterMap assignment?

/-- The name in a reference, the text that stands for a missing variable, and what comes after the
reference, given the text after its dollar sign and brace. -/
def reference? (text : List Char) : Option (String × List Char × List Char) :=
  let name := text.takeWhile fun c => c ≠ '\x7d' && c ≠ ':'
  match text.drop name.length with
  | '\x7d' :: rest => some (String.ofList name, [], rest)
  | ':' :: '-' :: more =>
    match more.dropWhile (· ≠ '\x7d') with
    | _ :: rest => some (String.ofList name, more.takeWhile (· ≠ '\x7d'), rest)
    | [] => none
  | _ => none

/-- A value with its references resolved. The first argument bounds the recursion; the length of the
value is enough. -/
def resolve (lookup : String → Option String) : Nat → List Char → List Char
  | 0, _ => []
  | _ + 1, [] => []
  | fuel + 1, '$' :: '\x7b' :: text =>
    match reference? text with
    | some (name, missing, rest) =>
      ((lookup name).map (·.toList)).getD missing ++ resolve lookup fuel rest
    | none => '$' :: resolve lookup fuel ('\x7b' :: text)
  | fuel + 1, c :: text => c :: resolve lookup fuel text

/-- The value of the last pair of a name. -/
def lookup (pairs : List (String × String)) (name : String) : Option String :=
  (pairs.reverse.find? fun e => e.1 = name).map (·.2)

/-- The variables that a file assigns. A reference is to a variable that the file assigned before,
else to one of the environment. -/
def parse (environment : List (String × String)) (file : String) : List (String × String) :=
  (assignments file).foldl (fun assigned (name, value) =>
    let known (name : String) : Option String :=
      (lookup assigned name).or (lookup environment name)
    assigned ++ [(name, String.ofList (resolve known (value.length + 1) value))]) []

end Drill.Settings.File
