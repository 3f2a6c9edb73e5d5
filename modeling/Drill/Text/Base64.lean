/-!
# Bytes as letters

`base64` writes three bytes as four of 64 letters, and fills the last four up with equals signs.
-/

namespace Drill.Text

/-- The letter for a number below 64. -/
def letter64 (n : Nat) : Char :=
  if n < 26 then Char.ofNat (65 + n)
  else if n < 52 then Char.ofNat (71 + n)
  else if n < 62 then Char.ofNat (n - 4)
  else if n = 62 then '+' else '/'

/-- The letters for some bytes. -/
def base64 : List Nat → List Char
  | [] => []
  | [a] => [letter64 (a / 4), letter64 (a % 4 * 16), '=', '=']
  | [a, b] => [letter64 (a / 4), letter64 (a % 4 * 16 + b / 16), letter64 (b % 16 * 4), '=']
  | a :: b :: c :: rest =>
    [letter64 (a / 4), letter64 (a % 4 * 16 + b / 16), letter64 (b % 16 * 4 + c / 64),
      letter64 (c % 64)] ++
      base64 rest

end Drill.Text
