import Drill.Fault
import Drill.Http.Percent
import Drill.Text.Case
import Drill.Text.Digit
import Drill.Text.Quoted
import Drill.Text.Split

/-!
# Hosts

A host is a name or a number. `Host.normal` is the form that is shown: names in small letters,
numbers as they are, and what looks like a number and is none is refused.
-/

namespace Drill.Http.Host

/-- Is the text four rows of digits with one character between any two? Such a text can only be
meant as a number of four bytes. -/
def isFourNumbers (text : List Char) : Bool := go 3 false text
where
  /-- The same for `more` further rows, given whether the current row has a digit. -/
  go (more : Nat) (begun : Bool) : List Char → Bool
    | [] => begun && more = 0
    | c :: rest =>
        (c.isDigit && go more true rest) || (begun && 0 < more && go (more - 1) false rest)

/-- Is the text a number below 256 as hosts write it? -/
def isByteNumber (text : List Char) : Bool :=
  decide (1 ≤ text.length ∧ text.length ≤ 3) && text.all Char.isDigit &&
    (text.length = 1 || text.head? ≠ some '0') && Text.asciiNumber text < 256

/-- Is the text a number of four bytes? -/
def isFourBytes (text : List Char) : Bool :=
  let bytes := Text.split '.' text
  bytes.length = 4 && bytes.all isByteNumber

/-- Is the text a group of up to four hexadecimal digits? -/
def isGroup (text : List Char) : Bool :=
  decide (1 ≤ text.length ∧ text.length ≤ 4) &&
    text.all fun c => (Text.hexValue? c).isSome

/-- Are these the groups of a number of sixteen bytes? One empty piece may stand for a row of zeros;
at either end it needs a second one beside it. -/
def areGroups (pieces : List (List Char)) : Bool :=
  let inner := (pieces.drop 1).dropLast
  match inner.idxOf? [] with
  | none => pieces.length = 8 && pieces.all isGroup
  | some i =>
    let before := pieces.take (i + 1)
    let after := pieces.drop (i + 2)
    let groups := (if before = [[]] then [] else before) ++ (if after = [[]] then [] else after)
    pieces.length ≤ 9 && groups.length ≤ 7 && groups.all isGroup

/-- Is the text a number of sixteen bytes, with the name of an interface after a percent sign or
without? The last four bytes may be written as a number of four bytes. -/
def isSixteenBytes (text : List Char) : Bool :=
  let isNumber (c : Char) : Bool := c ≠ '%'
  let number := text.takeWhile isNumber
  let named := match text.dropWhile isNumber with
    | [] => true
    | _ :: interface => !interface.isEmpty && !interface.contains '%'
  let pieces := Text.split ':' number
  named && 3 ≤ pieces.length && match pieces.getLast? with
    | some last =>
      if last.contains '.' then isFourBytes last && areGroups (pieces.dropLast ++ [['0'], ['0']])
      else areGroups pieces
    | none => false

/-- The characters that names of hosts are written in. -/
def nameSafe : Char → Bool :=
  Percent.isVisibleBut ['#', '/', ':', '<', '>', '?', '@', '[', ']', '^']

/-- The text looks like a number of a host and is none. -/
def invalid (version : String) (text : List Char) : Fault :=
  .plain .address (s!"Invalid {version} address: " ++ Text.quoted (String.ofList text))

/-- The host as it is shown. -/
def normal (text : List Char) : Except Fault (List Char) :=
  if isFourNumbers text then
    if isFourBytes text then .ok text else .error (invalid "IPv4" text)
  else if text.head? = some '[' && text.getLast? = some ']' then
    if isSixteenBytes (text.drop 1).dropLast then .ok text else .error (invalid "IPv6" text)
  else .ok (Percent.encode nameSafe (text.map Text.small))

end Drill.Http.Host
