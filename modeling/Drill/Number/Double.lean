/-!
# Binary64 numbers, exactly

The timing rules of a drill are products and quotients of double-precision numbers, so they are
modelled here as what they are: a sign and a whole number of units of `2 ^ -1074`. Every operation
computes the exact rational result and rounds it once, to the nearest representable number, a half
going to the even neighbour (`roundHalfEven`, `Magnitude.nearest?`). `Magnitude` carries the proof
that its number has the one form that fits 53 bits, so two doubles are equal exactly when their bits
are, all NaNs counting as one.
-/

namespace Drill.Number

/-- The quotient `num / den` rounded to a whole number; a half goes to the even neighbour. -/
def roundHalfEven (num den : Nat) : Nat :=
  let quotient := num / den
  let rest := num % den
  if 2 * rest < den then quotient
  else if 2 * rest = den ∧ quotient % 2 = 0 then quotient
  else quotient + 1

/-- How many units of the smallest positive double make one. -/
def unitsPerOne : Nat := Nat.pow 2 1074

/-- The numbers `significand * 2 ^ exponent` that binary64 holds, counted in its smallest unit. -/
def IsCanonical (significand exponent : Nat) : Prop :=
  significand < Nat.pow 2 53 ∧ exponent ≤ 2045 ∧ (exponent = 0 ∨ Nat.pow 2 52 ≤ significand)

instance (significand exponent : Nat) : Decidable (IsCanonical significand exponent) :=
  inferInstanceAs (Decidable (_ ∧ _ ∧ (_ ∨ _)))

/-- A finite absolute value: `significand * 2 ^ exponent` units of `2 ^ -1074`. -/
structure Magnitude where
  significand : Nat
  exponent : Nat
  canonical : IsCanonical significand exponent
deriving DecidableEq

namespace Magnitude

/-- The absolute value in units of `2 ^ -1074`. -/
def units (m : Magnitude) : Nat := m.significand * Nat.pow 2 m.exponent

/-- The absolute value zero. -/
def zero : Magnitude := ⟨0, 0, by decide⟩

/-- The magnitude of the given parts, if they are in canonical form. -/
def ofParts? (significand exponent : Nat) : Option Magnitude :=
  if h : IsCanonical significand exponent then some ⟨significand, exponent, h⟩ else none

/-- The representable number nearest to `num / den` units; none when it exceeds the largest one. -/
def nearest? (num den : Nat) : Option Magnitude :=
  let exponent := Nat.log2 (num / den) - 52
  let significand := roundHalfEven num (den * Nat.pow 2 exponent)
  if significand = Nat.pow 2 53 then ofParts? (Nat.pow 2 52) (exponent + 1)
    else ofParts? significand exponent

/-- The 63 bits of the absolute value: biased exponent, then fraction. -/
def bits (m : Magnitude) : Nat :=
  if m.significand < Nat.pow 2 52 then m.significand
  else (m.exponent + 1) * Nat.pow 2 52 + (m.significand - Nat.pow 2 52)

end Magnitude

/-- A binary64 number. -/
inductive Double where
  | nan
  | infinite (negative : Bool)
  | finite (negative : Bool) (magnitude : Magnitude)
deriving DecidableEq

namespace Double

/-- Positive zero. -/
def zero : Double := .finite false .zero

/-- One. -/
def one : Double := .finite false ⟨Nat.pow 2 52, 1022, by decide⟩

/-- One half. -/
def half : Double := .finite false ⟨Nat.pow 2 52, 1021, by decide⟩

instance : Inhabited Double := ⟨zero⟩

/-- The double nearest to `num / den` units, with the given sign; infinite past the largest. -/
def nearestUnits (negative : Bool) (num den : Nat) : Double :=
  match Magnitude.nearest? num den with
  | some m => .finite negative m
  | none => .infinite negative

/-- The double nearest to the fraction `num / den`, with the given sign. -/
def ofRatio (negative : Bool) (num den : Nat) : Double :=
  nearestUnits negative (num * unitsPerOne) den

/-- The double nearest to a whole number. -/
def ofInt (n : Int) : Double := ofRatio (n < 0) n.natAbs 1

/-- The double nearest to `digits * 10 ^ exponent`, with the given sign. Exponents far outside the
range of doubles are answered without computing the power. -/
def ofDecimal (negative : Bool) (digits : Nat) (exponent : Int) : Double :=
  if digits = 0 then .finite negative .zero
  else if 400 < exponent then .infinite negative
  else if (Nat.log2 digits : Int) + 1080 < -3 * exponent then .finite negative .zero
  else match exponent with
    | .ofNat e => ofRatio negative (digits * Nat.pow 10 e) 1
    | .negSucc e => ofRatio negative digits (Nat.pow 10 (e + 1))

/-- Is the number finite? -/
def isFinite : Double → Bool
  | .finite _ _ => true
  | _ => false

/-- The double nearest to a whole number, if that is finite. -/
def ofInt? (n : Int) : Option Double := (some (ofInt n)).filter isFinite

/-- A finite double as a whole number of units of `2 ^ -1074`. -/
def units? : Double → Option Int
  | .finite false m => some m.units
  | .finite true m => some (-(m.units : Int))
  | _ => none

/-- Is the number greater than zero? NaN is not. -/
def isPositive : Double → Bool
  | .nan => false
  | .infinite s => !s
  | .finite s m => !s && m.significand != 0

/-- Is the number less than zero? Neither NaN nor negative zero is. -/
def isBelowZero : Double → Bool
  | .nan => false
  | .infinite s => s
  | .finite s m => s && m.significand != 0

/-- Is the number zero, of either sign? -/
def isZero : Double → Bool
  | .finite _ m => m.significand == 0
  | _ => false

/-- The product. -/
def mul : Double → Double → Double
  | .nan, _ | _, .nan => .nan
  | .infinite s, .infinite t => .infinite (s != t)
  | .infinite s, .finite t m | .finite s m, .infinite t =>
    if m.significand = 0 then .nan else .infinite (s != t)
  | .finite s m, .finite t n => nearestUnits (s != t) (m.units * n.units) unitsPerOne

/-- The quotient. -/
def div : Double → Double → Double
  | .nan, _ | _, .nan => .nan
  | .infinite _, .infinite _ => .nan
  | .infinite s, .finite t _ => .infinite (s != t)
  | .finite s _, .infinite t => .finite (s != t) .zero
  | .finite s m, .finite t n =>
    if n.significand = 0 then (if m.significand = 0 then .nan else .infinite (s != t))
    else ofRatio (s != t) m.units n.units

/-- The sum; an exact zero is positive unless both terms are negative zeros. -/
def add : Double → Double → Double
  | .nan, _ | _, .nan => .nan
  | .infinite s, .infinite t => if s = t then .infinite s else .nan
  | .infinite s, .finite _ _ => .infinite s
  | .finite _ _, .infinite t => .infinite t
  | .finite s m, .finite t n =>
    let sum : Int :=
      (if s then -(m.units : Int) else m.units) + (if t then -(n.units : Int) else n.units)
    if sum = 0 then .finite (s && t) .zero else nearestUnits (sum < 0) sum.natAbs 1

instance : Mul Double := ⟨mul⟩
instance : Div Double := ⟨div⟩
instance : Add Double := ⟨add⟩

/-- The largest whole number that is not above a finite double. -/
def floor? (x : Double) : Option Int := x.units?.map (Int.fdiv · unitsPerOne)

/-- The smallest whole number that is not below a finite double. -/
def ceil? (x : Double) : Option Int := x.units?.map fun u => -Int.fdiv (-u) unitsPerOne

/-- A finite double without its fraction. -/
def truncate? (x : Double) : Option Int := x.units?.map (Int.tdiv · unitsPerOne)

/-- The whole number nearest to a finite double, a half going to the even neighbour. -/
def round? : Double → Option Int
  | .finite s m =>
    let n : Int := roundHalfEven m.units unitsPerOne
    some (if s then -n else n)
  | _ => none

/-- Is a finite double a whole number? -/
def isWhole (x : Double) : Bool := x.units?.any fun u => Int.tmod u unitsPerOne == 0

/-- The 64 bits of the number; every NaN is the quiet one. -/
def bits : Double → Nat
  | .nan => 0x7FF8000000000000
  | .infinite s => s.toNat * Nat.pow 2 63 + 0x7FF0000000000000
  | .finite s m => s.toNat * Nat.pow 2 63 + m.bits

end Double

end Drill.Number
