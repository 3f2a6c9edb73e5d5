import Drill.Number.Double

/-!
# Doubles as decimal text

Two printed forms. `Double.fixed` gives the exact value with a set number of places, a half going to
the even neighbour. `Double.shortest` gives the fewest significant digits that read back as the same
double: the digits come from `Double.digits?`, which tries one digit, two digits, … on the two
neighbours of the value on that decimal grid; `Layout` says how they are laid out.
-/

namespace Drill.Number

/-- A natural number in decimal, padded with zeros on the left to a width. -/
def padded (width n : Nat) : String :=
  let digits := toString n
  String.ofList (List.replicate (width - digits.length) '0') ++ digits

namespace Double

/-- The exact value with `places` digits after the point, a half going to the even neighbour. -/
def fixed (places : Nat) : Double → String
  | .nan => "nan"
  | .infinite s => if s then "-inf" else "inf"
  | .finite s m =>
    let scaled := roundHalfEven (m.units * Nat.pow 10 places) unitsPerOne
    let whole := toString (scaled / Nat.pow 10 places)
    let fraction := if places = 0 then "" else "." ++ padded places (scaled % Nat.pow 10 places)
    (if s then "-" else "") ++ whole ++ fraction

end Double

/-- The number `digits * 10 ^ exponent`. -/
structure Decimal where
  digits : Nat
  exponent : Int
deriving DecidableEq

namespace Decimal

/-- The distance between `units` units of `2 ^ -1074` and a decimal, as a fraction whose denominator
depends only on the decimal's exponent. -/
def distance (units : Nat) (d : Decimal) : Nat :=
  match d.exponent with
  | .ofNat e => ((units : Int) - (d.digits * Nat.pow 10 e * unitsPerOne : Nat)).natAbs
  | .negSucc e => ((units * Nat.pow 10 (e + 1) : Nat) - (d.digits * unitsPerOne : Nat) : Int).natAbs

/-- Does the decimal read back as this magnitude? -/
def readsBack (m : Magnitude) (d : Decimal) : Bool :=
  Double.ofDecimal false d.digits d.exponent == .finite false m

/-- How many powers of ten lie at or below `num / den`, from one up. -/
def wholeDigits (num den : Nat) : Nat := (toString (num / den)).length

/-- The place of the leading digit of a positive magnitude: it lies in `[10 ^ p, 10 ^ (p + 1))`. -/
def leadingPlace (m : Magnitude) : Int :=
  if unitsPerOne ≤ m.units then (wholeDigits m.units unitsPerOne : Int) - 1
  else
    -- scaled by `10 ^ 330` every positive double exceeds one
    (wholeDigits (m.units * Nat.pow 10 330) unitsPerOne : Int) - 331

/-- The two neighbours of a magnitude on the grid of multiples of `10 ^ exponent`. -/
def neighbours (m : Magnitude) (exponent : Int) : Decimal × Decimal :=
  let below := match exponent with
    | .ofNat e => m.units / (unitsPerOne * Nat.pow 10 e)
    | .negSucc e => m.units * Nat.pow 10 (e + 1) / unitsPerOne
  (⟨below, exponent⟩, ⟨below + 1, exponent⟩)

/-- The neighbour on a grid that reads back, the nearer one if both do; on an exact tie the even. -/
def onGrid? (m : Magnitude) (exponent : Int) : Option Decimal :=
  let (low, high) := neighbours m exponent
  match readsBack m low, readsBack m high with
  | false, false => none
  | true, false => some low
  | false, true => some high
  | true, true =>
    let dl := distance m.units low
    let dh := distance m.units high
    if dl < dh then some low
    else if dh < dl then some high
    else if low.digits % 2 = 0 then some low else some high

/-- The decimal with the fewest digits that reads back: the first grid, coarse to fine, with a
hit. -/
def shortest (m : Magnitude) : Decimal :=
  let place := leadingPlace m
  ((List.range 17).findSome? fun (n : Nat) => onGrid? m (place - n)).getD ⟨m.significand, 0⟩

/-- The same decimal without trailing zeros; `fuel` bounds their number. -/
def trim : Nat → Decimal → Decimal
  | 0, d => d
  | fuel + 1, d =>
    if d.digits ≠ 0 ∧ d.digits % 10 = 0 then trim fuel ⟨d.digits / 10, d.exponent + 1⟩ else d

end Decimal

/-- Where the shortest digits of a double are written out in full, and how exponents look. -/
structure Layout where
  /-- Powers of ten from which the exponent is written. -/
  scientificFrom : Int
  /-- Powers of ten below which the exponent is written. -/
  scientificBelow : Int
  /-- The least number of exponent digits. -/
  exponentWidth : Nat

/-- Numbers in messages: in full from `0.0001` up to below `10 ^ 16`, else as `1e-06`. -/
def Layout.message : Layout := ⟨16, -4, 2⟩

/-- A decimal without trailing zeros in a layout. -/
def Layout.render (layout : Layout) (d : Decimal) : String :=
  let text := (toString d.digits).toList
  let power : Int := d.exponent + (text.length - 1)
  if layout.scientificBelow ≤ power ∧ power < layout.scientificFrom then
    match d.exponent with
    | .ofNat e => String.ofList (text ++ List.replicate e '0') ++ ".0"
    | .negSucc e =>
      let places := e + 1
      if places < text.length then
        String.ofList (text.take (text.length - places)) ++ "." ++
          String.ofList (text.drop (text.length - places))
      else "0." ++ String.ofList (List.replicate (places - text.length) '0') ++ String.ofList text
  else
    let rest := String.ofList (text.drop 1)
    String.ofList (text.take 1) ++ (if rest.isEmpty then "" else "." ++ rest) ++ "e" ++
      (if power < 0 then "-" else "+") ++ padded layout.exponentWidth power.natAbs

namespace Double

/-- The fewest digits that read back as the number, laid out as in messages. -/
def shortest : Double → String
  | .nan => "nan"
  | .infinite s => if s then "-inf" else "inf"
  | .finite s m =>
    (if s then "-" else "") ++
      if m.significand = 0 then "0.0"
      else Layout.message.render ((Decimal.shortest m).trim 400)

end Double

end Drill.Number
