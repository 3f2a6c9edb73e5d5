import Drill.Number.Double
import Mathlib.Algebra.Order.Field.Rat
import Mathlib.Data.Nat.Cast.Order.Field
import Mathlib.Data.Nat.Log
import Mathlib.Data.Rat.Floor
import Mathlib.Tactic.FieldSimp
import Mathlib.Tactic.Linarith
import Mathlib.Tactic.NormNum
import Mathlib.Tactic.Positivity
import Mathlib.Tactic.Ring

/-!
# How far a rounded number is from the exact one

Every operation on doubles rounds an exact rational once, and `Rounds x m` says that the magnitude
`m` is what the rational `x` is rounded to. Three facts about it are all that proofs about durations
need: above the subnormal numbers a rounding is off by a part in `2 ^ 53` at most (`Rounds.close`),
it keeps the order (`Rounds.mono`), and it leaves whole numbers below `2 ^ 53` alone
(`Rounds.whole`).
-/

namespace Drill.Number

/-! ## Whole numbers -/

/-- To round is to take the whole part or the next number. -/
theorem roundHalfEven_cases (num den : Nat) : roundHalfEven num den = num / den ∨
    roundHalfEven num den = num / den + 1 := by
  unfold roundHalfEven
  dsimp only
  split
  next => exact .inl rfl
  next =>
    split
    next => exact .inl rfl
    next => exact .inr rfl

/-- A rounded quotient is half a unit away at most. -/
theorem roundHalfEven_near (num : Nat) {den : Nat} (positive : 0 < den) :
    2 * num ≤ (2 * roundHalfEven num den + 1) * den ∧
      2 * roundHalfEven num den * den ≤ 2 * num + den := by
  have whole := Nat.div_add_mod num den
  have rest := Nat.mod_lt num positive
  unfold roundHalfEven
  dsimp only
  generalize num / den = quotient at whole ⊢
  generalize num % den = left at whole rest ⊢
  rw [Nat.mul_comm] at whole
  split
  next small =>
    rw [Nat.add_mul, Nat.mul_assoc]
    omega
  next large =>
    split
    next tie =>
      rw [Nat.add_mul, Nat.mul_assoc]
      omega
    next =>
      rw [Nat.add_mul, Nat.mul_assoc, Nat.add_mul]
      omega

section

variable {a b c d : Nat}

/-- Of two fractions the smaller one has no larger whole part. -/
theorem floor_le_floor (hb : 0 < b) (hd : 0 < d) (le : a * d ≤ c * b) : a / b ≤ c / d := by
  rw [Nat.le_div_iff_mul_le hd]
  refine Nat.le_of_mul_le_mul_right ?_ hb
  calc a / b * d * b = a / b * b * d := by ring
    _ ≤ a * d := Nat.mul_le_mul_right d (Nat.div_mul_le_self a b)
    _ ≤ c * b := le

/-- Of two quotients with one whole part the larger one has the larger fraction. -/
theorem rest_le_rest (same : a / b = c / d) (le : a * d ≤ c * b) : a % b * d ≤ c % d * b := by
  have expanded : (b * (c / d) + a % b) * d ≤ (d * (c / d) + c % d) * b := by
    rw [← same, Nat.div_add_mod a b, same, Nat.div_add_mod c d]
    exact le
  have common : b * (c / d) * d = d * (c / d) * b := by ring
  rw [Nat.add_mul, Nat.add_mul, common] at expanded
  exact Nat.le_of_add_le_add_left expanded

/-- If a fraction is a half at least, so is a larger one. -/
theorem half_le_of_rest_le (hb : 0 < b) (rests : a * d ≤ c * b) (half : b ≤ 2 * a) : d ≤ 2 * c := by
  refine Nat.le_of_mul_le_mul_right ?_ hb
  calc d * b = b * d := Nat.mul_comm d b
    _ ≤ 2 * a * d := Nat.mul_le_mul_right d half
    _ = 2 * (a * d) := Nat.mul_assoc _ _ _
    _ ≤ 2 * (c * b) := Nat.mul_le_mul_left 2 rests
    _ = 2 * c * b := (Nat.mul_assoc _ _ _).symm

/-- What is more than half stays more than half when it grows. -/
theorem half_lt_of_rest_le (hd : 0 < d) (rests : a * d ≤ c * b) (half : b < 2 * a) : d < 2 * c := by
  refine Nat.lt_of_mul_lt_mul_right (a := b) ?_
  calc d * b = b * d := Nat.mul_comm d b
    _ < 2 * a * d := Nat.mul_lt_mul_of_pos_right half hd
    _ = 2 * (a * d) := Nat.mul_assoc _ _ _
    _ ≤ 2 * (c * b) := Nat.mul_le_mul_left 2 rests
    _ = 2 * c * b := (Nat.mul_assoc _ _ _).symm

/-- A larger quotient is not rounded to a smaller number. -/
theorem roundHalfEven_mono (hb : 0 < b) (hd : 0 < d) (le : a * d ≤ c * b) :
    roundHalfEven a b ≤ roundHalfEven c d := by
  rcases Nat.lt_or_eq_of_le (floor_le_floor hb hd le) with apart | same
  · rcases roundHalfEven_cases a b with h | h <;>
      rcases roundHalfEven_cases c d with h' | h' <;> omega
  -- With one whole part the fractions decide, and a tie goes the same way for both.
  · have rests := rest_le_rest same le
    unfold roundHalfEven
    dsimp only
    rw [← same]
    generalize a / b = quotient
    generalize a % b = left at rests ⊢
    generalize c % d = left' at rests ⊢
    split
    next => split_ifs <;> omega
    next large =>
      split
      next tie => split_ifs <;> omega
      next odd =>
        have half := half_le_of_rest_le hb rests (by omega)
        by_cases tie : 2 * left = b
        · rw [if_neg (by omega), if_neg (by omega)]
        · have more := half_lt_of_rest_le hd rests (by omega)
          rw [if_neg (by omega), if_neg (by omega)]

end

/-- An exact quotient stays as it is. -/
theorem roundHalfEven_mul (n : Nat) {den : Nat} (positive : 0 < den) :
    roundHalfEven (n * den) den = n := by
  unfold roundHalfEven
  dsimp only
  rw [Nat.mul_div_cancel n positive, Nat.mul_mod_left, if_pos (by omega)]

/-! ## Magnitudes -/

theorem unitsPerOne_pos : 0 < unitsPerOne := by decide +kernel

namespace Magnitude

/-- The exponent of the numbers that a quotient of units is rounded to. -/
def grid (num den : Nat) : Nat := Nat.log2 (num / den) - 52

/-- The significand that a quotient of units is rounded to, before it is carried over. -/
def mantissa (num den : Nat) : Nat := roundHalfEven num (den * 2 ^ grid num den)

variable {num den num' den' : Nat} {m m' : Magnitude}

/-- The grid is coarse enough to leave 53 bits. -/
theorem quotient_lt (num den : Nat) : num / den < 2 ^ (grid num den + 53) := by
  refine Nat.lt_of_lt_of_le Nat.lt_log2_self ?_
  refine Nat.pow_le_pow_right (by decide) ?_
  unfold grid
  omega

/-- It is no coarser than that takes, unless it is the finest there is. -/
theorem le_quotient (normal : 0 < grid num den) : 2 ^ (grid num den + 52) ≤ num / den := by
  have exponent : grid num den + 52 = Nat.log2 (num / den) := by
    unfold grid at normal ⊢
    omega
  have some : num / den ≠ 0 := by
    intro none
    unfold grid at normal
    rw [none] at normal
    cases normal
  rw [exponent]
  exact Nat.log2_self_le some

/-- So a rounded mantissa has at most 53 bits, or is the first number beyond. -/
theorem mantissa_le (num den : Nat) : mantissa num den ≤ 2 ^ 53 := by
  have less : num / (den * 2 ^ grid num den) < 2 ^ 53 := by
    rw [← Nat.div_div_eq_div_mul, Nat.div_lt_iff_lt_mul (Nat.two_pow_pos _),
      ← Nat.pow_add, Nat.add_comm]
    exact quotient_lt num den
  unfold mantissa
  rcases roundHalfEven_cases num (den * 2 ^ grid num den) with h | h <;> omega

/-- And a normal one has all 53 of them. -/
theorem le_mantissa (normal : 0 < grid num den) : 2 ^ 52 ≤ mantissa num den := by
  have more : 2 ^ 52 ≤ num / (den * 2 ^ grid num den) := by
    rw [← Nat.div_div_eq_div_mul, Nat.le_div_iff_mul_le (Nat.two_pow_pos _),
      ← Nat.pow_add, Nat.add_comm]
    exact le_quotient normal
  unfold mantissa
  rcases roundHalfEven_cases num (den * 2 ^ grid num den) with h | h <;> omega

/-- What a quotient of units is rounded to is a number of the grid. -/
theorem units_nearest? (nearest : nearest? num den = some m) :
    m.units = mantissa num den * 2 ^ grid num den := by
  unfold nearest? at nearest
  simp only [Nat.pow_eq] at nearest
  change (if mantissa num den = 2 ^ 53 then ofParts? (2 ^ 52) (grid num den + 1)
    else ofParts? (mantissa num den) (grid num den)) = some m at nearest
  unfold ofParts? at nearest
  split at nearest
  next carried =>
    split at nearest
    next =>
      cases nearest
      rw [carried]
      show 2 ^ 52 * 2 ^ (grid num den + 1) = 2 ^ 53 * 2 ^ grid num den
      rw [Nat.pow_succ 2 (grid num den)]
      ring
    next => cases nearest
  next =>
    split at nearest
    next =>
      cases nearest
      rfl
    next => cases nearest

/-- Quotients that are not too large are rounded to a number. -/
theorem isSome_nearest? (small : Nat.log2 (num / den) ≤ 2096) :
    (nearest? num den).isSome = true := by
  have exponent : grid num den ≤ 2044 := by
    unfold grid
    omega
  unfold nearest?
  simp only [Nat.pow_eq]
  change (if mantissa num den = 2 ^ 53 then ofParts? (2 ^ 52) (grid num den + 1)
    else ofParts? (mantissa num den) (grid num den)).isSome = true
  unfold ofParts?
  split
  next =>
    rw [dif_pos]
    · rfl
    · refine ⟨?_, by omega, .inr ?_⟩ <;> decide +kernel
  next uncarried =>
    rw [dif_pos]
    · rfl
    · have most := mantissa_le num den
      refine ⟨?_, by omega, ?_⟩
      · rw [Nat.pow_eq]
        omega
      · rcases Nat.eq_zero_or_pos (grid num den) with none | normal
        · exact .inl none
        · exact .inr (le_mantissa normal)

/-- What has a nearest double is not beyond the largest one. -/
theorem log2_of_nearest? (nearest : nearest? num den = some m) : Nat.log2 (num / den) ≤ 2097 := by
  have exponent : grid num den ≤ 2045 := by
    unfold nearest? at nearest
    change (if mantissa num den = 2 ^ 53 then ofParts? (2 ^ 52) (grid num den + 1)
      else ofParts? (mantissa num den) (grid num den)) = some m at nearest
    unfold ofParts? at nearest
    split at nearest
    next =>
      split at nearest
      next canonical => exact Nat.le_of_succ_le canonical.2.1
      next => cases nearest
    next =>
      split at nearest
      next canonical => exact canonical.2.1
      next => cases nearest
  unfold grid at exponent
  omega

/-- A larger quotient is not rounded to a smaller number. -/
theorem units_mono (hd : 0 < den) (hd' : 0 < den') (le : num * den' ≤ num' * den)
    (nearest : nearest? num den = some m) (nearest' : nearest? num' den' = some m') :
    m.units ≤ m'.units := by
  have floors : num / den ≤ num' / den' := by
    rw [Nat.le_div_iff_mul_le hd']
    refine Nat.le_of_mul_le_mul_right ?_ hd
    calc num / den * den' * den = num / den * den * den' := by ring
      _ ≤ num * den' := Nat.mul_le_mul_right _ (Nat.div_mul_le_self num den)
      _ ≤ num' * den := le
  have grids : grid num den ≤ grid num' den' := by
    have logs : Nat.log2 (num / den) ≤ Nat.log2 (num' / den') := by
      rw [Nat.log2_eq_log_two, Nat.log2_eq_log_two]
      exact Nat.log_mono_right floors
    unfold grid
    omega
  rw [units_nearest? nearest, units_nearest? nearest']
  -- On a finer grid the smaller one stays below the next power of two; on the same grid the
  -- mantissas decide.
  rcases Nat.lt_or_eq_of_le grids with coarser | same
  · calc mantissa num den * 2 ^ grid num den
        ≤ 2 ^ 53 * 2 ^ grid num den := Nat.mul_le_mul_right _ (mantissa_le num den)
      _ = 2 ^ 52 * 2 ^ (grid num den + 1) := by rw [Nat.pow_succ]; ring
      _ ≤ 2 ^ 52 * 2 ^ grid num' den' :=
        Nat.mul_le_mul_left _ (Nat.pow_le_pow_right (by decide) coarser)
      _ ≤ mantissa num' den' * 2 ^ grid num' den' :=
        Nat.mul_le_mul_right _ (le_mantissa (Nat.zero_lt_of_lt coarser))
  · refine Nat.mul_le_mul ?_ (Nat.le_of_eq (by rw [same]))
    unfold mantissa
    refine roundHalfEven_mono (Nat.mul_pos hd (Nat.two_pow_pos _))
      (Nat.mul_pos hd' (Nat.two_pow_pos _)) ?_
    rw [same]
    calc num * (den' * 2 ^ grid num' den') = num * den' * 2 ^ grid num' den' := by ring
      _ ≤ num' * den * 2 ^ grid num' den' := Nat.mul_le_mul_right _ le
      _ = num' * (den * 2 ^ grid num' den') := by ring

/-- What a quotient of less than `2 ^ (e + 53)` units is rounded to is at most half of `2 ^ e` units
away. -/
theorem units_near {e : Nat} (positive : 0 < den) (below : num < 2 ^ (e + 53) * den)
    (nearest : nearest? num den = some m) :
    2 * num ≤ 2 * (m.units * den) + 2 ^ e * den ∧ 2 * (m.units * den) ≤ 2 * num + 2 ^ e * den := by
  have fine : grid num den ≤ e := by
    have floor : num / den < 2 ^ (e + 53) := (Nat.div_lt_iff_lt_mul positive).mpr below
    unfold grid
    rcases Nat.eq_zero_or_pos (num / den) with none | some
    · rw [none]
      exact Nat.zero_le e
    · have log := (Nat.log2_lt (Nat.ne_of_gt some)).mpr floor
      omega
  have unit : den * 2 ^ grid num den ≤ 2 ^ e * den := by
    rw [Nat.mul_comm]
    exact Nat.mul_le_mul_right den (Nat.pow_le_pow_right (by decide) fine)
  obtain ⟨above, beneath⟩ :=
    roundHalfEven_near num (Nat.mul_pos positive (Nat.two_pow_pos (grid num den)))
  have rounded : m.units * den = mantissa num den * (den * 2 ^ grid num den) := by
    rw [units_nearest? nearest]
    ring
  change 2 * num ≤ (2 * mantissa num den + 1) * (den * 2 ^ grid num den) at above
  change 2 * mantissa num den * (den * 2 ^ grid num den) ≤ 2 * num +
    den * 2 ^ grid num den at beneath
  rw [Nat.add_mul, Nat.mul_assoc, ← rounded] at above
  rw [Nat.mul_assoc, ← rounded] at beneath
  omega

/-- A quotient that binary64 holds is rounded to itself. -/
theorem units_exact {s e : Nat} (positive : 0 < den) (short : s < 2 ^ 53)
    (exact : num = s * 2 ^ e * den) (nearest : nearest? num den = some m) :
    m.units = s * 2 ^ e := by
  have quotient : num / den = s * 2 ^ e := by
    rw [exact, Nat.mul_div_cancel _ positive]
  have fine : grid num den ≤ e := by
    unfold grid
    rw [quotient]
    rcases Nat.eq_zero_or_pos (s * 2 ^ e) with none | some
    · rw [none]
      exact Nat.zero_le e
    · have below : s * 2 ^ e < 2 ^ (53 + e) := by
        rw [Nat.pow_add]
        exact Nat.mul_lt_mul_of_pos_right short (Nat.two_pow_pos e)
      have log := (Nat.log2_lt (Nat.ne_of_gt some)).mpr below
      omega
  have split : 2 ^ e = 2 ^ (e - grid num den) * 2 ^ grid num den := by
    rw [← Nat.pow_add, Nat.sub_add_cancel fine]
  have whole : mantissa num den = s * 2 ^ (e - grid num den) := by
    have scaled : num = s * 2 ^ (e - grid num den) * (den * 2 ^ grid num den) := by
      calc num = s * 2 ^ e * den := exact
        _ = s * (2 ^ (e - grid num den) * 2 ^ grid num den) * den := by rw [← split]
        _ = s * 2 ^ (e - grid num den) * (den * 2 ^ grid num den) := by ring
    calc mantissa num den
        = roundHalfEven (s * 2 ^ (e - grid num den) * (den * 2 ^ grid num den))
          (den * 2 ^ grid num den) := by
          rw [← scaled]
          rfl
      _ = s * 2 ^ (e - grid num den) :=
        roundHalfEven_mul _ (Nat.mul_pos positive (Nat.two_pow_pos _))
  rw [units_nearest? nearest, whole, Nat.mul_assoc, ← split]

/-- The value of a magnitude. -/
def value (m : Magnitude) : ℚ := m.units / unitsPerOne

/-- A value is counted in units. -/
theorem value_mul (m : Magnitude) : m.value * unitsPerOne = m.units :=
  div_mul_cancel₀ _ (Nat.cast_ne_zero.mpr (Nat.ne_of_gt unitsPerOne_pos))

theorem value_nonneg (m : Magnitude) : 0 ≤ m.value :=
  div_nonneg (Nat.cast_nonneg _) (Nat.cast_nonneg _)

/-- More units make no smaller value. -/
theorem value_le (le : m.units ≤ m'.units) : m.value ≤ m'.value :=
  div_le_div_of_nonneg_right (Nat.cast_le.mpr le) (Nat.cast_nonneg _)

end Magnitude

/-! ## Rounding a rational number -/

/-- The magnitude is what the rational number is rounded to. -/
def Rounds (x : ℚ) (m : Magnitude) : Prop :=
  ∃ num den : Nat, 0 < den ∧ x * (unitsPerOne * den) = num ∧ Magnitude.nearest? num den = some m

/-- The least number that is rounded to 53 bits. -/
def smallestNormal : ℚ := 2 ^ 52 / unitsPerOne

/-- A nanosecond is a normal double. -/
theorem smallestNormal_le : smallestNormal ≤ 1 / 10 ^ 9 := by
  have units : 2 ^ 52 * 10 ^ 9 ≤ unitsPerOne := by decide +kernel
  have cast : (2 ^ 52 * 10 ^ 9 : ℚ) ≤ unitsPerOne := by exact_mod_cast units
  have positive : (0 : ℚ) < unitsPerOne := Nat.cast_pos.mpr unitsPerOne_pos
  unfold smallestNormal
  rw [div_le_div_iff₀ positive (by positivity), one_mul]
  exact cast

/-- The part that a rounding is off by at most. -/
def roundoff : ℚ := 1 / 2 ^ 53

namespace Rounds

variable {x y : ℚ} {m m' : Magnitude}

/-- Over a common denominator there are only natural numbers left. -/
theorem value_mul_den (m : Magnitude) (den : Nat) :
    m.value * (unitsPerOne * den) = (m.units * den : Nat) := by
  rw [← mul_assoc, m.value_mul, Nat.cast_mul]

/-- Rounding keeps the order. -/
theorem mono (rounds : Rounds x m) (rounds' : Rounds y m') (le : x ≤ y) : m.value ≤ m'.value := by
  obtain ⟨num, den, positive, ratio, nearest⟩ := rounds
  obtain ⟨num', den', positive', ratio', nearest'⟩ := rounds'
  refine Magnitude.value_le (Magnitude.units_mono positive positive' ?_ nearest nearest')
  have scale : (0 : ℚ) ≤ unitsPerOne * den * den' :=
    mul_nonneg (mul_nonneg (Nat.cast_nonneg _) (Nat.cast_nonneg _)) (Nat.cast_nonneg _)
  have cast : (num * den' : ℚ) ≤ num' * den := by
    calc (num * den' : ℚ) = x * (unitsPerOne * den * den') := by rw [← ratio]; ring
      _ ≤ y * (unitsPerOne * den * den') := mul_le_mul_of_nonneg_right le scale
      _ = num' * den := by rw [← ratio']; ring
  exact_mod_cast cast

/-- A number that binary64 holds is rounded to itself. -/
theorem exact {s e : Nat} (rounds : Rounds x m) (short : s < 2 ^ 53)
    (held : x * unitsPerOne = (s * 2 ^ e : Nat)) : m.value = x := by
  obtain ⟨num, den, positive, ratio, nearest⟩ := rounds
  have whole : num = s * 2 ^ e * den := by
    refine Nat.cast_injective (R := ℚ) ?_
    rw [← ratio, ← mul_assoc, held, ← Nat.cast_mul]
  have units := Magnitude.units_exact positive short whole nearest
  have nonzero : (unitsPerOne : ℚ) ≠ 0 := Nat.cast_ne_zero.mpr (Nat.ne_of_gt unitsPerOne_pos)
  refine mul_right_cancel₀ nonzero ?_
  rw [m.value_mul, held, units]

/-- A whole number of 53 bits is rounded to itself. -/
theorem whole {n : Nat} (rounds : Rounds n m) (short : n < 2 ^ 53) : m.value = n := by
  obtain ⟨e, ones⟩ : ∃ e, unitsPerOne = 2 ^ e := ⟨1074, by decide +kernel⟩
  refine rounds.exact (s := n) (e := e) short ?_
  rw [ones, Nat.cast_mul]

/-- Above the subnormal numbers a rounding is off by a part in `2 ^ 53` at most. -/
theorem close (rounds : Rounds x m) (normal : smallestNormal ≤ x) :
    x * (1 - roundoff) ≤ m.value ∧ m.value ≤ x * (1 + roundoff) := by
  obtain ⟨num, den, positive, ratio, nearest⟩ := rounds
  have unit : (0 : ℚ) < unitsPerOne * den :=
    mul_pos (Nat.cast_pos.mpr unitsPerOne_pos) (Nat.cast_pos.mpr positive)
  have nonzero : (unitsPerOne : ℚ) ≠ 0 := Nat.cast_ne_zero.mpr (Nat.ne_of_gt unitsPerOne_pos)
  have large : 2 ^ 52 ≤ num / den := by
    have cast : (2 ^ 52 * den : ℚ) ≤ num := by
      calc (2 ^ 52 * den : ℚ) = smallestNormal * (unitsPerOne * den) := by
            unfold smallestNormal
            rw [← mul_assoc, div_mul_cancel₀ _ nonzero]
        _ ≤ x * (unitsPerOne * den) := mul_le_mul_of_nonneg_right normal unit.le
        _ = num := ratio
    exact (Nat.le_div_iff_mul_le positive).mpr (by exact_mod_cast cast)
  obtain ⟨above, beneath⟩ := Magnitude.units_near (e := Magnitude.grid num den) positive
    ((Nat.div_lt_iff_lt_mul positive).mp (Magnitude.quotient_lt num den)) nearest
  -- One step of the grid is a part in `2 ^ 52` of the quotient, and a rounding goes half a step.
  have step : 2 ^ Magnitude.grid num den * den * 2 ^ 52 ≤ num := by
    have exponent : Magnitude.grid num den + 52 = Nat.log2 (num / den) := by
      have log : 52 ≤ Nat.log2 (num / den) := (Nat.le_log2 (by omega)).mpr large
      unfold Magnitude.grid
      omega
    calc 2 ^ Magnitude.grid num den * den * 2 ^ 52
        = 2 ^ Nat.log2 (num / den) * den := by rw [← exponent, Nat.pow_add]; ring
      _ ≤ num / den * den := Nat.mul_le_mul_right den (Nat.log2_self_le (by omega))
      _ ≤ num := Nat.div_mul_le_self num den
  have above' : (2 * num : ℚ) ≤ 2 * (m.units * den : Nat) + 2 ^ Magnitude.grid num den * den := by
    exact_mod_cast above
  have beneath' : (2 * (m.units * den : Nat) : ℚ) ≤ 2 * num + 2 ^ Magnitude.grid num den * den := by
    exact_mod_cast beneath
  have step' : (2 ^ Magnitude.grid num den * den : ℚ) ≤ num / 2 ^ 52 := by
    rw [le_div_iff₀ (by positivity)]
    exact_mod_cast step
  unfold roundoff
  constructor
  · refine le_of_mul_le_mul_right ?_ unit
    rw [value_mul_den, mul_right_comm, ratio]
    linarith
  · refine le_of_mul_le_mul_right ?_ unit
    rw [value_mul_den, mul_right_comm, ratio]
    linarith

/-- A number below `2 ^ k` is moved by half a unit of its grid at most. -/
theorem near {k : Nat} (rounds : Rounds x m) (below : x < 2 ^ k) :
    |m.value - x| ≤ 2 ^ k / 2 ^ 54 := by
  obtain ⟨num, den, positive, ratio, nearest⟩ := rounds
  have unit : (0 : ℚ) < unitsPerOne * den :=
    mul_pos (Nat.cast_pos.mpr unitsPerOne_pos) (Nat.cast_pos.mpr positive)
  obtain ⟨e, ones⟩ : ∃ e, unitsPerOne = 2 ^ (e + 53) := ⟨1021, by decide +kernel⟩
  obtain ⟨above, beneath⟩ := Magnitude.units_near (e := k + e) positive (by
    have cast : (num : ℚ) < 2 ^ (k + (e + 53)) * den := by
      rw [← ratio, pow_add, ← mul_assoc]
      refine mul_lt_mul_of_pos_right ?_ (Nat.cast_pos.mpr positive)
      rw [ones, Nat.cast_pow, Nat.cast_ofNat]
      exact mul_lt_mul_of_pos_right below (by positivity)
    exact_mod_cast cast) nearest
  have scaled : |m.value - x| * (unitsPerOne * den) ≤ 2 ^ k / 2 ^ 54 * (unitsPerOne * den) := by
    rw [← abs_of_pos unit, ← abs_mul, abs_of_pos unit, sub_mul, value_mul_den, ratio, abs_le]
    have above' : (2 * num : ℚ) ≤ 2 * (m.units * den : Nat) + 2 ^ (k + e) * den := by
      exact_mod_cast above
    have beneath' : (2 * (m.units * den : Nat) : ℚ) ≤ 2 * num + 2 ^ (k + e) * den := by
      exact_mod_cast beneath
    have half : (2 ^ k / 2 ^ 54 * (unitsPerOne * den) : ℚ) = 2 ^ (k + e) * den / 2 := by
      rw [ones, Nat.cast_pow, Nat.cast_ofNat, pow_add, pow_add]
      ring
    rw [half]
    constructor <;> linarith
  exact le_of_mul_le_mul_right scaled unit

end Rounds

/-- A number is another one up to so many roundings. -/
def Within (n : Nat) (x y : ℚ) : Prop := x * (1 - roundoff) ^ n ≤ y ∧ y ≤ x * (1 + roundoff) ^ n

namespace Within

variable {n : Nat} {x y c : ℚ} {m : Magnitude}

/-- Without a rounding there is no error. -/
theorem refl (x : ℚ) : Within 0 x x := by
  unfold Within
  rw [pow_zero, pow_zero, mul_one]
  exact ⟨le_refl x, le_refl x⟩

/-- An error is relative, so it stays the same when both sides are scaled. -/
theorem scale (within : Within n x y) (nonneg : 0 ≤ c) : Within n (x * c) (y * c) := by
  obtain ⟨above, below⟩ := within
  constructor
  · rw [mul_right_comm]
    exact mul_le_mul_of_nonneg_right above nonneg
  · rw [mul_right_comm]
    exact mul_le_mul_of_nonneg_right below nonneg

/-- Each rounding of a normal number adds at most one step to the error. -/
theorem rounds (within : Within n x y) (rounds : Rounds y m) (normal : smallestNormal ≤ y) :
    Within (n + 1) x m.value := by
  obtain ⟨above, below⟩ := within
  obtain ⟨above', below'⟩ := rounds.close normal
  have low : (0 : ℚ) ≤ 1 - roundoff := by norm_num [roundoff]
  have high : (0 : ℚ) ≤ 1 + roundoff := by norm_num [roundoff]
  constructor
  · rw [pow_succ, ← mul_assoc]
    exact (mul_le_mul_of_nonneg_right above low).trans above'
  · rw [pow_succ, ← mul_assoc]
    exact below'.trans (mul_le_mul_of_nonneg_right below high)

/-- A few roundings do not halve a number. -/
theorem half_le (within : Within n x y) (few : n ≤ 4) (nonneg : 0 ≤ x) : x / 2 ≤ y := by
  have low : (0 : ℚ) ≤ 1 - roundoff := by norm_num [roundoff]
  have one : 1 - roundoff ≤ 1 := by norm_num [roundoff]
  have half : 1 / 2 ≤ (1 - roundoff) ^ n := by
    calc (1 / 2 : ℚ) ≤ (1 - roundoff) ^ 4 := by norm_num [roundoff]
      _ ≤ (1 - roundoff) ^ n := pow_le_pow_of_le_one low one few
  calc x / 2 = x * (1 / 2) := by ring
    _ ≤ x * (1 - roundoff) ^ n := mul_le_mul_of_nonneg_left half nonneg
    _ ≤ y := within.1

end Within

/-! ## Doubles -/

namespace Double

/-- A finite double is a sign and a magnitude. -/
theorem finite_of_isFinite {x : Double} (finite : x.isFinite = true) : ∃ s m, x = .finite s m := by
  cases x with
  | finite s m => exact ⟨s, m, rfl⟩
  | nan => cases finite
  | infinite s => cases finite

/-- A positive one is a magnitude that is not zero. -/
theorem finite_of_isPositive {x : Double} (positive : x.isPositive = true)
    (finite : x.isFinite = true) :
    ∃ m, x = .finite false m ∧ 0 < m.value := by
  obtain ⟨s, m, rfl⟩ := finite_of_isFinite finite
  cases s with
  | true => cases positive
  | false =>
    have some : m.significand ≠ 0 := by simpa [isPositive] using positive
    have units : 0 < m.units := Nat.mul_pos (Nat.pos_of_ne_zero some) (Nat.two_pow_pos _)
    exact ⟨m, rfl, div_pos (Nat.cast_pos.mpr units) (Nat.cast_pos.mpr unitsPerOne_pos)⟩

/-- A quotient rounds to a finite double only if it has a nearest magnitude. -/
theorem nearestUnits_finite {s : Bool} {num den : Nat}
    (finite : (nearestUnits s num den).isFinite = true) :
    ∃ m, nearestUnits s num den = .finite s m ∧ Magnitude.nearest? num den = some m := by
  unfold nearestUnits at finite ⊢
  cases nearest : Magnitude.nearest? num den with
  | some m => exact ⟨m, rfl, rfl⟩
  | none =>
    rw [nearest] at finite
    cases finite

/-- If it has one, the double is finite. -/
theorem isFinite_nearestUnits {s : Bool} {num den : Nat}
    (small : (Magnitude.nearest? num den).isSome = true) :
    (nearestUnits s num den).isFinite = true := by
  obtain ⟨m, nearest⟩ := Option.isSome_iff_exists.mp small
  unfold nearestUnits
  rw [nearest]
  rfl

/-- The double of a ratio is the nearest one to it. -/
theorem ofRatio_rounds {num den : Nat} (positive : 0 < den)
    (finite : (ofRatio false num den).isFinite = true) :
    ∃ m, ofRatio false num den = .finite false m ∧ Rounds (num / den) m := by
  obtain ⟨m, is, nearest⟩ := nearestUnits_finite finite
  have nonzero : (den : ℚ) ≠ 0 := Nat.cast_ne_zero.mpr (Nat.ne_of_gt positive)
  refine ⟨m, is, num * unitsPerOne, den, positive, ?_, nearest⟩
  rw [Nat.cast_mul, mul_comm (unitsPerOne : ℚ), ← mul_assoc, div_mul_cancel₀ _ nonzero]

theorem ofInt_natCast (n : Nat) : ofInt n = ofRatio false n 1 := by
  have natural : decide ((n : Int) < 0) = false := decide_eq_false (by omega)
  unfold ofInt
  rw [natural, Int.natAbs_natCast]

/-- The double of a whole number is the nearest one to it. -/
theorem ofInt_rounds {n : Nat} (finite : (ofInt n).isFinite = true) :
    ∃ m, ofInt n = .finite false m ∧ Rounds n m := by
  rw [ofInt_natCast] at finite ⊢
  obtain ⟨m, is, rounds⟩ := ofRatio_rounds Nat.one_pos finite
  rw [Nat.cast_one, div_one] at rounds
  exact ⟨m, is, rounds⟩

/-- A whole number with a finite double is not too large for one. -/
theorem ofInt?_finite {n : Int} {s : Bool} {m : Magnitude} (is : ofInt n = .finite s m) :
    ofInt? n = some (.finite s m) := by
  unfold ofInt?
  rw [is]
  rfl

/-- A product is rounded once. -/
theorem mul_rounds {a b : Magnitude}
    (finite : (Double.finite false a * .finite false b).isFinite = true) :
    ∃ m, Double.finite false a * .finite false b = .finite false m ∧
      Rounds (a.value * b.value) m := by
  have product : Double.finite false a * .finite false b
      = nearestUnits false (a.units * b.units) unitsPerOne := by
    show mul (.finite false a) (.finite false b) = _
    simp only [mul, bne_self_eq_false]
  rw [product] at finite ⊢
  obtain ⟨m, is, nearest⟩ := nearestUnits_finite finite
  refine ⟨m, is, a.units * b.units, unitsPerOne, unitsPerOne_pos, ?_, nearest⟩
  rw [Nat.cast_mul, ← a.value_mul, ← b.value_mul, mul_mul_mul_comm]

/-- So is a quotient. -/
theorem div_rounds {a b : Magnitude} (some : 0 < b.value)
    (finite : (Double.finite false a / .finite false b).isFinite = true) :
    ∃ m, Double.finite false a / .finite false b = .finite false m ∧
      Rounds (a.value / b.value) m := by
  have units : (0 : ℚ) < b.units := by
    rw [← b.value_mul]
    exact mul_pos some (Nat.cast_pos.mpr unitsPerOne_pos)
  have nonzero : b.significand ≠ 0 := by
    intro none
    unfold Magnitude.units at units
    rw [none, Nat.zero_mul, Nat.cast_zero] at units
    exact lt_irrefl 0 units
  have ratio : Double.finite false a / .finite false b = ofRatio false a.units b.units := by
    show (if b.significand = 0 then _ else ofRatio false a.units b.units) = _
    rw [if_neg nonzero]
  rw [ratio] at finite ⊢
  obtain ⟨m, is, rounds⟩ := ofRatio_rounds (Nat.cast_pos.mp units) finite
  refine ⟨m, is, ?_⟩
  have scale : (unitsPerOne : ℚ) ≠ 0 := Nat.cast_ne_zero.mpr (Nat.ne_of_gt unitsPerOne_pos)
  rw [← a.value_mul, ← b.value_mul, mul_div_mul_right _ _ scale] at rounds
  exact rounds

/-- If a number is no larger than the largest double, neither is a fraction of it. -/
theorem isFinite_ofRatio {n den : Nat} (fraction : 2 ≤ den) (finite : (ofInt n).isFinite = true) :
    (ofRatio false n den).isFinite = true := by
  rw [ofInt_natCast] at finite
  obtain ⟨m, _, nearest⟩ := nearestUnits_finite finite
  have large := Magnitude.log2_of_nearest? nearest
  rw [Nat.div_one] at large
  have halved (x e : Nat) (log : Nat.log2 x ≤ e + 1) : Nat.log2 (x / den) ≤ e := by
    rcases Nat.eq_zero_or_pos (x / den) with none | some
    · rw [none]
      exact Nat.zero_le e
    · have positive : x ≠ 0 := fun none => by simp [none] at some
      have below : x < 2 ^ (e + 1 + 1) := (Nat.log2_lt positive).mp (by omega)
      have half : x / den < 2 ^ (e + 1) := by
        refine (Nat.div_lt_iff_lt_mul (by omega)).mpr ?_
        calc x < 2 ^ (e + 1) * 2 := by rw [← Nat.pow_succ]; exact below
          _ ≤ 2 ^ (e + 1) * den := Nat.mul_le_mul_left _ fraction
      have log' := (Nat.log2_lt (Nat.ne_of_gt some)).mpr half
      omega
  exact isFinite_nearestUnits (Magnitude.isSome_nearest? (halved (n * unitsPerOne) 2096 large))

/-- A finite product has finite factors. -/
theorem isFinite_of_mul {x y : Double} (finite : (x * y).isFinite = true) :
    x.isFinite = true ∧ y.isFinite = true := by
  change (mul x y).isFinite = true at finite
  unfold mul at finite
  split at finite
  all_goals first
    | exact ⟨rfl, rfl⟩
    | cases finite
    | (split at finite <;> cases finite)

/-- A finite quotient by a finite number is one of a finite number. -/
theorem isFinite_of_div {x : Double} {s : Bool} {m : Magnitude}
    (finite : (x / .finite s m).isFinite = true) : x.isFinite = true := by
  cases x with
  | finite s m => rfl
  | nan => cases finite
  | infinite s => cases finite

/-- The whole part of a positive number is its floor. -/
theorem truncate?_finite (m : Magnitude) : (Double.finite false m).truncate? = some ⌊m.value⌋ := by
  show some (Int.tdiv (m.units : Int) (unitsPerOne : Int)) = some ⌊m.value⌋
  unfold Magnitude.value
  rw [Int.tdiv_eq_ediv_of_nonneg (Int.natCast_nonneg _), Rat.floor_natCast_div_natCast]

/-- A finite double has a ceiling, and it is that of its value. -/
theorem ceil?_finite (m : Magnitude) : (Double.finite false m).ceil? = some ⌈m.value⌉ := by
  show some (-Int.fdiv (-(m.units : Int)) (unitsPerOne : Int)) = some ⌈m.value⌉
  unfold Magnitude.value
  rw [Int.fdiv_eq_ediv_of_nonneg _ (Int.natCast_nonneg _), Rat.ceil_natCast_div_natCast]

end Double

end Drill.Number
