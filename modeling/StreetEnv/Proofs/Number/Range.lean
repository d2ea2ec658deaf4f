import StreetEnv.Proofs.Number.Mean

/-!
# The range of doubles

The largest double is `2 ^ 1024 - 2 ^ 971`.  What is less than half a unit above it is still rounded
to it, and everything from there on is stored as an infinity.  So the rounded sum or difference of
two doubles is finite exactly if the exact one stays below that bound.  Below a smaller power of two
a rounding is off by at most `2 ^ -53` of this power.

* `Number.beyond` is the bound;
* `Number.isFinite_round_iff`: the rationals that are stored as finite doubles;
* `Number.isFinite_add_iff`, `Number.isFinite_sub_iff`: the sums and differences that are;
* `Number.round_near`, `Number.mul_near`: how near rounded values and products are;
* `Number.store_add`: a sum is a double, and storing it again changes nothing.
-/

namespace StreetEnv

namespace Number

open Format

variable {q : Rat} {x y : Number}

/-- Half the unit of the largest doubles. -/
def halfUnit : Rat := 2 ^ 970

theorem halfUnit_pos : 0 < halfUnit := pow_pos (by norm_num) 970

theorem last_binade : (2 : Rat) ^ 1023 = 2 ^ 53 * halfUnit ∧ (2 : Rat) ^ 1024 = 2 ^ 54 * halfUnit :=
  ⟨pow_add 2 53 970, pow_add 2 54 970⟩

/-- The least magnitude that is out of range. -/
def beyond : Rat := 2 ^ 1024 - halfUnit

theorem beyond_eq : beyond = (2 ^ 54 - 1) * halfUnit := by
  rw [beyond, last_binade.2, sub_mul, one_mul]

theorem lt_beyond_of_le {j : Nat} (hj : j < 1024) (h : q ≤ 2 ^ j) : q < beyond := by
  have hpow : (2 : Rat) ^ j ≤ 2 ^ 1023 := pow_le_pow_right₀ (by norm_num) (by omega)
  refine lt_of_le_of_lt (h.trans hpow) ?_
  rw [beyond_eq, last_binade.1]
  exact mul_lt_mul_of_pos_right (by norm_num) halfUnit_pos

theorem ulp_of_last_binade (hlo : 2 ^ 1023 ≤ q) (hhi : q < 2 ^ 1024) :
    Format.double.ulp q = 2 * halfUnit := by
  have hulp : Format.double.ulp q = 2 ^ ((1023 : Int) - 52) :=
    double_ulp_eq (by norm_num) hlo hhi
  rw [hulp, halfUnit, ← pow_succ']
  exact zpow_natCast 2 971

theorem nearest_beyond : Format.double.nearest beyond = 2 ^ 1024 := by
  have hpos := halfUnit_pos
  have hlo : 2 ^ 1023 ≤ beyond := (lt_beyond_of_le (by decide) le_rfl).le
  have hhi : beyond < 2 ^ 1024 := sub_lt_self _ hpos
  have hunits : beyond / (2 * halfUnit) = ((2 ^ 53 - 1 : Int) : Rat) + 1 / 2 := by
    rw [beyond_eq, mul_div_mul_right _ _ hpos.ne']
    norm_num
  rw [nearest, ulp_of_last_binade hlo hhi, hunits, roundHalfEven_add_half, if_neg (by decide),
    last_binade.2]
  push_cast
  ring

/-- **The magnitudes that stay in range.** -/
theorem abs_nearest_lt_iff : |Format.double.nearest q| < 2 ^ 1024 ↔ |q| < beyond := by
  rw [← nearest_abs]
  constructor
  · intro h
    by_contra hge
    have hle := nearest_mono (f := .double) (by decide) (not_lt.1 hge)
    rw [nearest_beyond] at hle
    exact absurd h (not_lt.2 hle)
  · intro h
    rcases le_or_gt |q| (2 ^ 1023) with hsmall | hlarge
    · refine lt_of_le_of_lt (nearest_le (by decide) hsmall (nearest_two_pow 1023)) ?_
      exact pow_lt_pow_right₀ (by norm_num) (by norm_num)
    · -- in the last binade the error is at most half of its unit
      have htop : beyond + halfUnit = 2 ^ 1024 := sub_add_cancel _ _
      have hbelow : |q| < 2 ^ 1024 := h.trans (sub_lt_self _ halfUnit_pos)
      have herror := abs_nearest_sub_le Format.double |q|
      rw [ulp_of_last_binade hlarge.le hbelow] at herror
      calc Format.double.nearest |q|
        _ ≤ |q| + halfUnit := by linarith [le_abs_self (Format.double.nearest |q| - |q|)]
        _ < beyond + halfUnit := by linarith
        _ = 2 ^ 1024 := htop

/-- **The rationals that are stored as finite doubles.** -/
theorem isFinite_round_iff : (Format.double.round q).isFinite = true ↔ |q| < beyond := by
  rw [← abs_nearest_lt_iff]
  constructor
  · intro h
    by_contra hge
    rw [round_of_le (f := .double) (not_lt.1 hge)] at h
    cases h
  · intro h
    exact (round_of_lt (f := .double) h).1

theorem isFinite_add_iff (hx : x.isFinite = true) (hy : y.isFinite = true) :
    (x.add .binary64 y).isFinite = true ↔ |x.value + y.value| < beyond := by
  -- only the sum of two negative zeros is not rounded, and it is a zero
  have hzero : |(0 : Rat) + 0| < beyond := lt_beyond_of_le (j := 0) (by decide) (by norm_num)
  cases x with
  | nan => cases hx
  | infinite negative => cases hx
  | negativeZero =>
    cases y with
    | nan => cases hy
    | infinite negative => cases hy
    | negativeZero => exact iff_of_true rfl hzero
    | rational q => exact isFinite_round_iff
  | rational p =>
    cases y with
    | nan => cases hy
    | infinite negative => cases hy
    | negativeZero => exact isFinite_round_iff
    | rational q => exact isFinite_round_iff

/-- **The differences that are finite.** -/
theorem isFinite_sub_iff (hx : x.isFinite = true) (hy : y.isFinite = true) :
    (x.sub .binary64 y).isFinite = true ↔ |x.value - y.value| < beyond := by
  obtain ⟨hfinite, hvalue⟩ := isFinite_neg hy
  rw [sub, isFinite_add_iff hx hfinite, hvalue, sub_eq_add_neg]

/-! ### The error below a power of two -/

theorem abs_nearest_sub_le_of_abs_le {j : Nat} (h : |q| ≤ 2 ^ j) :
    |Format.double.nearest q - q| ≤ 2 ^ j / 2 ^ 53 := by
  have hpos : (0 : Rat) < 2 ^ j := by positivity
  by_cases hzero : q = 0
  · subst hzero
    rw [nearest_zero, sub_zero, abs_zero]
    positivity
  have hulp : Format.double.ulp (2 ^ j) = 2 ^ ((j : Int) - 52) := by
    refine double_ulp_eq (by omega) (by rw [zpow_natCast]) ?_
    rw [zpow_add_one₀ (by norm_num), zpow_natCast]
    linarith
  have hmono : Format.double.ulp q ≤ Format.double.ulp (2 ^ j) := by
    refine two_zpow_le (ulpExponent_mono ?_ hzero)
    rw [abs_of_pos hpos]
    exact h
  calc |Format.double.nearest q - q|
    _ ≤ Format.double.ulp q / 2 := abs_nearest_sub_le _ q
    _ ≤ 2 ^ ((j : Int) - 52) / 2 := by linarith
    _ = 2 ^ j / 2 ^ 53 := by
      rw [zpow_sub₀ (by norm_num), zpow_natCast]
      ring

theorem round_near {j : Nat} (hj : j < 1024) (h : |q| ≤ 2 ^ j) :
    (Format.double.round q).isFinite = true ∧
      |(Format.double.round q).value - q| ≤ 2 ^ j / 2 ^ 53 ∧
      |(Format.double.round q).value| ≤ 2 ^ j := by
  obtain ⟨hfinite, hvalue⟩ := round_of_abs_le hj h
  rw [hvalue]
  exact ⟨hfinite, abs_nearest_sub_le_of_abs_le h, abs_nearest_le h⟩

theorem value_zero (negative : Bool) : (zero negative).value = 0 := by
  cases negative <;> rfl

theorem mul_near {p : Rat} {j : Nat} (hj : j < 1024) (hx : x.isFinite = true)
    (h : |x.value * p| ≤ 2 ^ j) :
    |(x.mul .binary64 (.rational p)).value - x.value * p| ≤ 2 ^ j / 2 ^ 53 := by
  have hnear := (round_near hj h).2.1
  have herror : |(0 : Rat) - 0| ≤ 2 ^ j / 2 ^ 53 := by
    rw [sub_zero, abs_zero]
    positivity
  cases x with
  | nan => cases hx
  | infinite negative => cases hx
  | negativeZero =>
    have hmul : negativeZero.mul .binary64 (.rational p) =
        zero (negativeZero.isNegative != (rational p).isNegative) := if_pos (zero_mul p)
    rw [hmul, value_zero, value_negativeZero, zero_mul]
    exact herror
  | rational q =>
    by_cases hzero : q * p = 0
    · have hmul : (rational q).mul .binary64 (.rational p) =
          zero ((rational q).isNegative != (rational p).isNegative) := if_pos hzero
      rw [hmul, value_zero, value_rational, hzero]
      exact herror
    · have hmul : (rational q).mul .binary64 (.rational p) = Format.double.round (q * p) :=
        if_neg hzero
      rw [hmul]
      exact hnear

/-! ### Stored once -/

theorem store_round (q : Rat) :
    Rounding.binary64.store (Format.double.round q) = Format.double.round q := by
  cases hround : Format.double.round q with
  | nan => rfl
  | infinite negative => rfl
  | negativeZero => rfl
  | rational p => exact represents_of_round (f := .double) (by decide) hround

/-- **A sum is stored already.** -/
theorem store_add (x y : Number) :
    Rounding.binary64.store (x.add .binary64 y) = x.add .binary64 y := by
  cases x with
  | nan => rfl
  | infinite s =>
    cases y with
    | infinite t =>
      simp only [add]
      split <;> rfl
    | nan => rfl
    | negativeZero => rfl
    | rational q => rfl
  | negativeZero =>
    cases y with
    | rational q => exact store_round _
    | nan => rfl
    | infinite t => rfl
    | negativeZero => rfl
  | rational p =>
    cases y with
    | nan => rfl
    | infinite t => rfl
    | negativeZero => exact store_round _
    | rational q => exact store_round _

end Number

end StreetEnv
