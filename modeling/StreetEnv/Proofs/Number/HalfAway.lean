import StreetEnv.Proofs.Number.Nearest
import StreetEnv.Proofs.Number.Zeros

/-!
# Rounding half away from zero

A magnitude is rounded by adding one half and cutting.  The sum is rounded to a double first, and
that carries some magnitudes into the next integer: the largest one below a half, and the odd
integers whose significand is full, where a half is just half a unit.  All other doubles are rounded
to the nearest integer.

* `Number.IsNearestAway`: the nearest integer, the one of larger magnitude if there are two;
* `Number.IsCarried`: the magnitudes that are carried;
* `Number.floor_nearest_add_half`: the sum and its cut, without and with a carry;
* `Number.roundedAway`: the integer as a function of the value, its sign and its order;
* `Number.roundHalfAway_nearest`: the doubles that are rounded to the nearest integer.
-/

namespace StreetEnv

namespace Number

open Format

variable {a v : Rat} {n : Int}

/-! ### The nearest integer -/

/-- No integer is nearer, and none of larger magnitude is as near. -/
structure IsNearestAway (v : Rat) (n : Int) : Prop where
  /-- No integer is nearer. -/
  nearest : ∀ m : Int, |v - n| ≤ |v - m|
  /-- None that is as near has a larger magnitude. -/
  away : ∀ m : Int, |v - m| = |v - n| → |m| ≤ |n|

theorem IsNearestAway.neg (h : IsNearestAway v n) : IsNearestAway (-v) (-n) := by
  have hflip (m : Int) : |-v - m| = |v - ((-m : Int) : Rat)| := by
    rw [← abs_neg]
    push_cast
    congr 1
    ring
  refine ⟨fun m => ?_, fun m hm => ?_⟩
  · rw [hflip, hflip, neg_neg]
    exact h.nearest (-m)
  · rw [hflip, hflip, neg_neg] at hm
    have haway := h.away (-m) hm
    rwa [abs_neg] at haway ⊢

theorem abs_sub_le_iff_le_middle {p q : Rat} (h : p < q) : |a - p| ≤ |a - q| ↔ 2 * a ≤ p + q := by
  rw [← sq_le_sq]
  constructor
  · intro hle
    nlinarith
  · intro hle
    nlinarith

theorem abs_sub_le_iff_middle_le {p q : Rat} (h : p < q) : |a - q| ≤ |a - p| ↔ p + q ≤ 2 * a := by
  rw [← sq_le_sq]
  constructor
  · intro hle
    nlinarith
  · intro hle
    nlinarith

theorem IsNearestAway.floor_eq (h : IsNearestAway a n) (ha : 0 ≤ a) : (a + 1 / 2).floor = n := by
  have hlower : ((n - 1 : Int) : Rat) < n := Int.cast_lt.2 (by omega)
  have hupper : (n : Rat) < ((n + 1 : Int) : Rat) := Int.cast_lt.2 (by omega)
  have hlo := (abs_sub_le_iff_middle_le hlower).1 (h.nearest (n - 1))
  have hhi := (abs_sub_le_iff_le_middle hupper).1 (h.nearest (n + 1))
  push_cast at hlo hhi
  refine floor_eq_of_le_of_lt (by linarith) ?_
  by_contra hle
  push_cast at hle
  -- the upper neighbour is as near, so the integer is negative, and so is the middle
  have hclose : |a - ((n + 1 : Int) : Rat)| ≤ |a - n| :=
    (abs_sub_le_iff_middle_le hupper).2 (by push_cast; linarith)
  have haway := h.away (n + 1) (le_antisymm hclose (h.nearest (n + 1)))
  have hnegative : n ≤ -1 := by
    by_contra hn
    rw [abs_of_nonneg (by omega), abs_of_nonneg (by omega)] at haway
    omega
  have hnegative' : (n : Rat) ≤ ((-1 : Int) : Rat) := Int.cast_le.2 hnegative
  push_cast at hnegative'
  linarith

theorem isNearestAway_floor (ha : 0 ≤ a) : IsNearestAway a (a + 1 / 2).floor := by
  have hle : ((a + 1 / 2).floor : Rat) ≤ a + 1 / 2 := Rat.floor_le _
  have hlt : a + 1 / 2 < (((a + 1 / 2).floor + 1 : Int) : Rat) := Rat.lt_floor_add_one _
  generalize (a + 1 / 2).floor = k at hle hlt
  push_cast at hlt
  have hbelow {m : Int} (hm : m < k) : |a - k| ≤ |a - m| := by
    have hstep : ((m + 1 : Int) : Rat) ≤ k := Int.cast_le.2 hm
    push_cast at hstep
    exact (abs_sub_le_iff_middle_le (Int.cast_lt.2 hm)).2 (by linarith)
  -- an integer above is farther away
  have habove {m : Int} (hm : k < m) : ¬ |a - m| ≤ |a - k| := by
    have hstep : ((k + 1 : Int) : Rat) ≤ m := Int.cast_le.2 hm
    push_cast at hstep
    rw [abs_sub_le_iff_middle_le (Int.cast_lt.2 hm)]
    linarith
  refine ⟨fun m => ?_, fun m hm => ?_⟩
  · rcases lt_trichotomy m k with hlow | rfl | hhigh
    · exact hbelow hlow
    · exact le_rfl
    · exact (not_le.1 (habove hhigh)).le
  · rcases (not_lt.1 fun hhigh => habove hhigh (le_of_eq hm) : m ≤ k).eq_or_lt with rfl | hlow
    · exact le_rfl
    · -- half way between both, the magnitude is not negative
      have hmiddle := (abs_sub_le_iff_le_middle (Int.cast_lt.2 hlow)).1 (le_of_eq hm)
      have hsum : ((0 : Int) : Rat) ≤ ((m + k : Int) : Rat) := by push_cast; linarith
      have hsum' : 0 ≤ m + k := Int.cast_le.1 hsum
      rw [abs_of_nonneg (by omega : 0 ≤ k), abs_le]
      omega

theorem isNearestAway_iff_of_nonneg (ha : 0 ≤ a) :
    IsNearestAway a n ↔ (a + 1 / 2).floor = n := by
  constructor
  · intro h
    exact h.floor_eq ha
  · rintro rfl
    exact isNearestAway_floor ha

/-! ### The sum with one half -/

/-- Magnitudes whose sum with one half is carried into the next integer. -/
inductive IsCarried : Rat → Prop
  /-- The largest double below a half. -/
  | belowHalf : IsCarried (1 / 2 - 1 / 2 ^ 54)
  /-- An odd integer whose significand is full. -/
  | odd (n : Int) (lo : 2 ^ 52 < n) (hi : n < 2 ^ 53) (odd : n % 2 = 1) : IsCarried n

theorem double_ulp_eq {e : Int} (he : -1022 ≤ e) (hlo : 2 ^ e ≤ a) (hhi : a < 2 ^ (e + 1)) :
    Format.double.ulp a = 2 ^ (e - 52) := by
  have ha : 0 < a := lt_of_lt_of_le (two_zpow_pos e) hlo
  rw [← abs_of_pos ha] at hlo hhi
  have hulp : Format.double.ulpExponent a = e - 52 := by
    rw [ulpExponent, exponent_eq hlo hhi]
    show max (e - (53 - 1)) (-1074) = e - 52
    omega
  rw [ulp, hulp]

theorem double_units {m k : Int} (hm : |m| ≤ 2 ^ 53) (hk : -1074 ≤ k) :
    Format.double.nearest (m * 2 ^ k) = m * 2 ^ k :=
  nearest_units (f := .double) (by decide) hm hk

theorem double_nearest_intCast (hn : |n| ≤ 2 ^ 53) : Format.double.nearest n = n := by
  simpa using double_units hn (k := 0) (by norm_num)

theorem nearest_half : Format.double.nearest (1 / 2) = 1 / 2 := by
  have hunits := double_units (m := 1) (k := -1) (by norm_num) (by norm_num)
  rw [Int.cast_one, one_mul, zpow_neg_one] at hunits
  simpa using hunits

theorem exists_units_of_binade {e : Int} (he : -1022 ≤ e) (ha : Format.double.nearest a = a)
    (hlo : 2 ^ e ≤ a) (hhi : a < 2 ^ (e + 1)) :
    ∃ m : Int, a = m * 2 ^ (e - 52) ∧ 0 < m ∧ m < 2 ^ 53 := by
  obtain ⟨m, hm, hshort⟩ := exists_eq_units ha
  rw [double_ulp_eq he hlo hhi] at hm
  have hpos : 0 < (m : Rat) * 2 ^ (e - 52) := hm ▸ lt_of_lt_of_le (two_zpow_pos e) hlo
  exact ⟨m, hm, Int.cast_pos.1 ((mul_pos_iff_of_pos_right (two_zpow_pos _)).1 hpos),
    (abs_lt.1 hshort).2⟩

theorem two_zpow_eq_units (e : Int) :
    (2 : Rat) ^ (e + 1) = ((2 ^ 53 : Int) : Rat) * 2 ^ (e - 52) := by
  have hcast : ((2 ^ 53 : Int) : Rat) = 2 ^ (53 : Int) := by norm_num
  rw [hcast, ← two_zpow_add]
  congr 1
  ring

theorem exists_units_of_full (ha : Format.double.nearest a = a) (hfull : 2 ^ 52 ≤ a) :
    ∃ (m : Int) (j : Nat), a = m * 2 ^ j ∧ 2 ^ 52 ≤ m ∧ m < 2 ^ 53 := by
  have hpos : 0 < a := lt_of_lt_of_le (by norm_num) hfull
  have hexponent : 52 ≤ exponent a := le_exponent (by rw [abs_of_pos hpos]; exact_mod_cast hfull)
  obtain ⟨j, hj⟩ : ∃ j : Nat, exponent a = 52 + j := ⟨(exponent a - 52).toNat, by omega⟩
  have hspec := exponent_spec hpos.ne'
  rw [abs_of_pos hpos, hj] at hspec
  obtain ⟨m, hm, -, hhi⟩ := exists_units_of_binade (by omega) ha hspec.1 hspec.2
  rw [add_sub_cancel_left, zpow_natCast] at hm
  refine ⟨m, j, hm, ?_, hhi⟩
  have hlo : ((2 ^ 52 : Int) : Rat) * 2 ^ j ≤ m * 2 ^ j := by
    rw [← hm, ← zpow_natCast]
    refine (le_of_eq ?_).trans hspec.1
    rw [two_zpow_add]
    norm_num
  exact Int.cast_le.1 ((mul_le_mul_iff_left₀ (by positivity)).1 hlo)

/-- Beside a full significand a half is lost, unless it is half a unit beside an odd integer. -/
theorem nearest_units_add_half {m : Int} (j : Nat) (hlo : 2 ^ 52 ≤ m) (hhi : m < 2 ^ 53) :
    Format.double.nearest (m * 2 ^ j + 1 / 2) =
      if j = 0 ∧ m % 2 = 1 then ((m + 1 : Int) : Rat) else m * 2 ^ j := by
  have hj1 : (1 : Rat) ≤ 2 ^ j := one_le_pow₀ (by norm_num)
  have hbelow : (2 : Rat) ^ (52 + (j : Int)) ≤ m * 2 ^ j + 1 / 2 := by
    have hm : ((2 ^ 52 : Int) : Rat) * 2 ^ j ≤ m * 2 ^ j :=
      mul_le_mul_of_nonneg_right (Int.cast_le.2 hlo) (by positivity)
    have hcast : (2 : Rat) ^ (52 : Int) = ((2 ^ 52 : Int) : Rat) := by norm_num
    rw [two_zpow_add, zpow_natCast, hcast]
    exact le_add_of_le_of_nonneg hm (by norm_num)
  have habove : (m : Rat) * 2 ^ j + 1 / 2 < 2 ^ (52 + (j : Int) + 1) := by
    have hm : (m : Rat) * 2 ^ j ≤ ((2 ^ 53 - 1 : Int) : Rat) * 2 ^ j :=
      mul_le_mul_of_nonneg_right (Int.cast_le.2 (by omega)) (by positivity)
    rw [two_zpow_eq_units, add_sub_cancel_left, zpow_natCast]
    push_cast at hm ⊢
    linarith
  have hquotient : ((m : Rat) * 2 ^ j + 1 / 2) / 2 ^ j = m + 1 / 2 / 2 ^ j := by
    rw [add_div, mul_div_cancel_right₀ _ (by positivity)]
  have hulp : Format.double.ulp (m * 2 ^ j + 1 / 2) = 2 ^ j := by
    rw [double_ulp_eq (by omega) hbelow habove, add_sub_cancel_left, zpow_natCast]
  rw [nearest, hulp, hquotient]
  cases j with
  | zero =>
    simp only [pow_zero, div_one, mul_one, roundHalfEven_add_half, true_and]
    split
    · next h => rw [if_neg (by omega)]
    · next h => rw [if_pos (by omega)]
  | succ j =>
    have hlost : (1 / 2 : Rat) / 2 ^ (j + 1) < 1 / 2 := by
      refine div_lt_self (by norm_num) (one_lt_pow₀ (by norm_num) (by omega))
    rw [roundHalfEven_add m (by positivity) hlost, if_neg (by omega)]

theorem nearest_add_half_of_full (ha : Format.double.nearest a = a) (hfull : 2 ^ 52 ≤ a) :
    ∃ n : Int, a = n ∧ Format.double.nearest (a + 1 / 2) =
      if n < 2 ^ 53 ∧ n % 2 = 1 then ((n + 1 : Int) : Rat) else n := by
  obtain ⟨m, j, rfl, hlo, hhi⟩ := exists_units_of_full ha hfull
  refine ⟨m * 2 ^ j, by push_cast; rfl, ?_⟩
  rw [nearest_units_add_half j hlo hhi]
  cases j with
  | zero => simp only [pow_zero, mul_one, true_and, hhi]
  | succ j =>
    -- with a larger unit the integer is even, and not below the bound
    have hone : (1 : Int) ≤ 2 ^ j := one_le_pow₀ (by norm_num)
    have hlarge : ¬ m * 2 ^ (j + 1) < 2 ^ 53 := by
      rw [pow_succ]
      nlinarith
    rw [if_neg (by omega), if_neg fun h => hlarge h.1]
    push_cast
    rfl

theorem floor_of_passed {i : Nat} (hi : i ≤ 51) (hlo : ((2 ^ i : Int) : Rat) ≤ a)
    (hhi : a < ((2 ^ i : Int) : Rat) + 1 / 2) :
    (Format.double.nearest a).floor = 2 ^ i ∧ a.floor = 2 ^ i := by
  have hsmall : (2 : Int) ^ i ≤ 2 ^ 51 := pow_le_pow_right₀ (by norm_num) hi
  have hpos : (0 : Int) < 2 ^ i := by positivity
  -- both bounds are doubles
  have hbelow : ((2 ^ i : Int) : Rat) ≤ Format.double.nearest a := by
    refine le_nearest (by decide) hlo (double_nearest_intCast ?_)
    rw [abs_of_pos hpos]
    omega
  have habove : Format.double.nearest a ≤ ((2 ^ i : Int) : Rat) + 1 / 2 := by
    refine nearest_le (by decide) hhi.le ?_
    have hunits : ((2 ^ i : Int) : Rat) + 1 / 2 =
        ((2 * 2 ^ i + 1 : Int) : Rat) * 2 ^ (-1 : Int) := by
      rw [zpow_neg_one]
      push_cast
      ring
    rw [hunits]
    refine double_units ?_ (by norm_num)
    rw [abs_of_pos (by omega)]
    omega
  constructor
  · exact floor_eq_of_le_of_lt hbelow (by push_cast at habove ⊢; linarith)
  · exact floor_eq_of_le_of_lt hlo (by push_cast at hhi ⊢; linarith)

theorem floor_nearest_add_half_of_short (ha : Format.double.nearest a = a) (hlo : 1 / 2 ≤ a)
    (hhi : a < 2 ^ 52) : (Format.double.nearest (a + 1 / 2)).floor = (a + 1 / 2).floor := by
  have hpos : 0 < a := lt_of_lt_of_le (by norm_num) hlo
  have hexponent : -1 ≤ exponent a :=
    le_exponent (by rw [abs_of_pos hpos, zpow_neg_one]; linarith)
  have hexponent' : exponent a < 52 :=
    exponent_lt hpos.ne' (by rw [abs_of_pos hpos]; exact_mod_cast hhi)
  have hspec := exponent_spec hpos.ne'
  rw [abs_of_pos hpos] at hspec
  generalize exponent a = e at hexponent hexponent' hspec
  obtain ⟨m, hm, hm0, hm53⟩ := exists_units_of_binade (by omega) ha hspec.1 hspec.2
  -- a half is a whole number of units
  obtain ⟨j, hj⟩ : ∃ j : Nat, 51 - e = j := ⟨(51 - e).toNat, by omega⟩
  have hhalf : (1 / 2 : Rat) = ((2 ^ j : Int) : Rat) * 2 ^ (e - 52) := by
    push_cast
    rw [← zpow_natCast, ← hj, ← two_zpow_add]
    norm_num
  have hsum : a + 1 / 2 = ((m + 2 ^ j : Int) : Rat) * 2 ^ (e - 52) := by
    rw [Int.cast_add, add_mul, ← hm, ← hhalf]
  by_cases hfits : m + 2 ^ j ≤ 2 ^ 53
  · have hexact : Format.double.nearest (a + 1 / 2) = a + 1 / 2 := by
      rw [hsum]
      refine double_units ?_ (by omega)
      rw [abs_of_pos (by positivity)]
      exact hfits
    rw [hexact]
  · -- a half is more than one unit, so the power behind the binade is not a full significand
    have hj0 : j ≠ 0 := by
      rintro rfl
      omega
    obtain ⟨i, hi⟩ : ∃ i : Nat, e + 1 = i := ⟨(e + 1).toNat, by omega⟩
    have hpower : ((2 ^ i : Int) : Rat) = 2 ^ (e + 1) := by
      rw [hi, zpow_natCast]
      push_cast
      rfl
    have hpass : ((2 ^ i : Int) : Rat) ≤ a + 1 / 2 := by
      rw [hpower, two_zpow_eq_units, hsum]
      exact mul_le_mul_of_nonneg_right (Int.cast_le.2 (by omega)) (two_zpow_pos _).le
    have hnext : a + 1 / 2 < ((2 ^ i : Int) : Rat) + 1 / 2 := by
      rw [hpower]
      linarith
    obtain ⟨hrounded, hexact⟩ := floor_of_passed (by omega) hpass hnext
    rw [hrounded, hexact]

/-- Below one half, the sum stays below one, unless the value is the last double there. -/
theorem nearest_add_half_of_small (ha : Format.double.nearest a = a) (hlo : 0 ≤ a)
    (hhi : a < 1 / 2) : a = 1 / 2 - 1 / 2 ^ 54 ∨
      1 / 2 ≤ Format.double.nearest (a + 1 / 2) ∧ Format.double.nearest (a + 1 / 2) < 1 := by
  have hbelow : 1 / 2 ≤ Format.double.nearest (a + 1 / 2) :=
    le_nearest (by decide) (by linarith) nearest_half
  by_cases hlast : a ≤ 1 / 2 - 1 / 2 ^ 53
  · -- the next double below one is still not below the sum
    refine .inr ⟨hbelow, ?_⟩
    have hunits := double_units (m := 2 ^ 53 - 1) (k := -53) (by norm_num) (by norm_num)
    have hvalue : ((2 ^ 53 - 1 : Int) : Rat) * 2 ^ (-53 : Int) = 1 - 1 / 2 ^ 53 := by norm_num
    rw [hvalue] at hunits
    have hle : Format.double.nearest (a + 1 / 2) ≤ 1 - 1 / 2 ^ 53 :=
      nearest_le (by decide) (by linarith) hunits
    refine lt_of_le_of_lt hle ?_
    norm_num
  · refine .inl ?_
    have hquarter : (2 : Rat) ^ (-2 : Int) ≤ a := by
      refine LE.le.trans ?_ (not_le.1 hlast).le
      norm_num
    obtain ⟨m, hm, -, hm53⟩ :=
      exists_units_of_binade (by norm_num) ha hquarter (by norm_num; linarith)
    -- between the last two units below one half there is no other
    have hunit : (2 : Rat) ^ ((-2 : Int) - 52) = 1 / 2 ^ 54 := by norm_num
    rw [hunit] at hm
    have hlast' : ((2 ^ 53 - 2 : Int) : Rat) < m := by
      push_cast
      rw [hm] at hlast
      have := not_le.1 hlast
      norm_num at this ⊢
      linarith
    have hlast'' : 2 ^ 53 - 2 < m := Int.cast_lt.1 hlast'
    obtain rfl : m = 2 ^ 53 - 1 := by omega
    rw [hm]
    norm_num

theorem nearest_add_half_belowHalf :
    Format.double.nearest (1 / 2 - 1 / 2 ^ 54 + 1 / 2) = 1 := by
  have hulp : Format.double.ulp (1 / 2 - 1 / 2 ^ 54 + 1 / 2) = 2 ^ ((-1 : Int) - 52) :=
    double_ulp_eq (by norm_num) (by norm_num) (by norm_num)
  -- half way between the last two doubles before one, the even significand is that of one
  have hunits : (1 / 2 - 1 / 2 ^ 54 + 1 / 2 : Rat) / 2 ^ ((-1 : Int) - 52) =
      ((2 ^ 53 - 1 : Int) : Rat) + 1 / 2 := by norm_num
  rw [nearest, hulp, hunits, roundHalfEven_add_half]
  norm_num

theorem isCarried_iff : IsCarried a ↔
    a = 1 / 2 - 1 / 2 ^ 54 ∨ ∃ n : Int, a = n ∧ 2 ^ 52 < n ∧ n < 2 ^ 53 ∧ n % 2 = 1 := by
  constructor
  · rintro (_ | ⟨n, lo, hi, odd⟩)
    · exact .inl rfl
    · exact .inr ⟨n, rfl, lo, hi, odd⟩
  · rintro (rfl | ⟨n, rfl, lo, hi, odd⟩)
    · exact .belowHalf
    · exact .odd n lo hi odd

theorem IsCarried.lt_half_or_full (h : IsCarried a) : a < 1 / 2 ∨ 2 ^ 52 < a := by
  cases h with
  | belowHalf => exact .inl (by norm_num)
  | odd n lo => exact .inr (by exact_mod_cast lo)

/-- **The sum with one half, cut.**  It is that of exact arithmetic, or the next integer after a
carry. -/
theorem floor_nearest_add_half (ha : Format.double.nearest a = a) (hpos : 0 ≤ a) :
    ¬ IsCarried a ∧ (Format.double.nearest (a + 1 / 2)).floor = (a + 1 / 2).floor ∨
      IsCarried a ∧ (Format.double.nearest (a + 1 / 2)).floor = (a + 1 / 2).floor + 1 := by
  rcases lt_or_ge a (1 / 2) with hsmall | hsmall
  · have hfloor : (a + 1 / 2).floor = 0 :=
      floor_eq_of_le_of_lt (by push_cast; linarith) (by push_cast; linarith)
    rw [hfloor]
    rcases nearest_add_half_of_small ha hpos hsmall with rfl | ⟨hlo, hhi⟩
    · rw [nearest_add_half_belowHalf]
      exact .inr ⟨.belowHalf, rfl⟩
    · have hcut := floor_eq_of_le_of_lt (n := 0) (by push_cast; linarith) (by simpa using hhi)
      refine .inl ⟨fun hcarried => ?_, hcut⟩
      cases hcarried with
      | belowHalf =>
        rw [nearest_add_half_belowHalf] at hhi
        exact hhi.false.elim
      | odd n lo =>
        have hlarge : (2 : Rat) ^ 52 < n := by exact_mod_cast lo
        norm_num at hlarge
        linarith
  · rcases lt_or_ge a (2 ^ 52) with hshort | hfull
    · refine .inl ⟨fun hcarried => ?_, floor_nearest_add_half_of_short ha hsmall hshort⟩
      rcases hcarried.lt_half_or_full with h | h
      · exact absurd h (not_lt.2 hsmall)
      · exact (h.trans hshort).false.elim
    · obtain ⟨n, rfl, hnearest⟩ := nearest_add_half_of_full ha hfull
      have hn : (2 : Int) ^ 52 ≤ n := by exact_mod_cast hfull
      have hfloor : ((n : Rat) + 1 / 2).floor = n :=
        floor_eq_of_le_of_lt (by linarith) (by push_cast; linarith)
      rw [hnearest, hfloor]
      split
      · next h => exact .inr ⟨.odd n (by omega) h.1 h.2, by rw [Rat.floor_intCast]⟩
      · next h =>
        refine .inl ⟨fun hcarried => ?_, Rat.floor_intCast n⟩
        rcases isCarried_iff.1 hcarried with heq | ⟨m, heq, -, hhi, hodd⟩
        · have hlarge := heq ▸ hfull
          norm_num at hlarge
        · rw [Int.cast_inj.1 heq] at h
          exact h ⟨hhi, hodd⟩

/-! ### The rounded integer -/

/-- The integer the magnitude and the sign of a value lead to. -/
def roundedAway (v : Rat) : Int :=
  if v < 0 then -(Format.double.nearest (|v| + 1 / 2)).floor
  else (Format.double.nearest (|v| + 1 / 2)).floor

theorem roundedAway_of_nonneg (ha : 0 ≤ a) :
    roundedAway a = (Format.double.nearest (a + 1 / 2)).floor := by
  rw [roundedAway, if_neg (not_lt.2 ha), abs_of_nonneg ha]

theorem floor_nearest_half : (Format.double.nearest (1 / 2)).floor = 0 := by
  rw [nearest_half]
  exact floor_eq_of_le_of_lt (by norm_num) (by norm_num)

theorem roundedAway_neg (v : Rat) : roundedAway (-v) = -roundedAway v := by
  unfold roundedAway
  rw [abs_neg]
  rcases lt_trichotomy v 0 with h | rfl | h
  · rw [if_neg (by linarith), if_pos h, neg_neg]
  · simp only [neg_zero, abs_zero, zero_add, floor_nearest_half, ite_self]
  · rw [if_pos (by linarith), if_neg (by linarith)]

theorem roundedAway_mono {w : Rat} (h : v ≤ w) : roundedAway v ≤ roundedAway w := by
  have hmono {p q : Rat} (hp : 0 ≤ p) (hpq : p ≤ q) : roundedAway p ≤ roundedAway q := by
    rw [roundedAway_of_nonneg hp, roundedAway_of_nonneg (hp.trans hpq)]
    exact Rat.floor_monotone (nearest_mono (by decide) (by linarith))
  have hzero : roundedAway 0 = 0 := by
    rw [roundedAway_of_nonneg le_rfl, zero_add, floor_nearest_half]
  rcases le_total 0 v with hv | hv
  · exact hmono hv h
  · have hbelow := hmono le_rfl (neg_nonneg.2 hv)
    rw [roundedAway_neg, hzero] at hbelow
    rcases le_total 0 w with hw | hw
    · have habove := hmono le_rfl hw
      omega
    · have hflip := hmono (neg_nonneg.2 hw) (neg_le_neg h)
      rw [roundedAway_neg, roundedAway_neg] at hflip
      omega

theorem abs_eq_rational {x : Number} (hx : x.isFinite = true) : x.abs = rational |x.value| := by
  cases x with
  | nan => cases hx
  | infinite negative => cases hx
  | negativeZero => simp [abs, isNegative, Neg.neg, Number.neg]
  | rational q => exact abs_rational q

theorem floor_of_isFinite {x : Number} (hx : x.isFinite = true) : x.floor = .ok x.value.floor := by
  cases x with
  | nan => cases hx
  | infinite negative => cases hx
  | negativeZero => rfl
  | rational q => rfl

theorem roundHalfAway_binary64 {x : Number} (hx : x.isFinite = true)
    (hrange : Format.double.nearest (|x.value| + 1 / 2) < 2 ^ 1024) :
    x.roundHalfAway .binary64 = .ok (roundedAway x.value) := by
  have hpos : 0 ≤ |x.value| + 1 / 2 := by positivity
  obtain ⟨hfinite, hvalue⟩ := Format.round_of_lt (f := .double) (q := |x.value| + 1 / 2)
    (by rw [abs_of_nonneg (nearest_nonneg hpos)]; exact hrange)
  have hsum : x.abs.add .binary64 (rational (1 / 2)) =
      Format.double.round (|x.value| + 1 / 2) := by
    rw [abs_eq_rational hx]
    rfl
  rw [roundHalfAway, hsum, floor_of_isFinite hfinite, hvalue]
  show Except.ok _ = _
  congr 1
  cases x with
  | nan => cases hx
  | infinite negative => cases hx
  | negativeZero =>
    simp only [value_negativeZero, roundedAway, abs_zero, zero_add, floor_nearest_half, neg_zero,
      ite_self]
  | rational q => simp [roundedAway, isNegative]

theorem nearest_add_half_lt (ha : Format.double.nearest a = a) (hhi : a < 2 ^ 1024) :
    Format.double.nearest (a + 1 / 2) < 2 ^ 1024 := by
  rcases lt_or_ge a (2 ^ 53) with hshort | hfull
  · have hunits := double_units (m := 1) (k := 54) (by norm_num) (by norm_num)
    rw [Int.cast_one, one_mul] at hunits
    have hle : Format.double.nearest (a + 1 / 2) ≤ 2 ^ (54 : Int) :=
      nearest_le (by decide) (by norm_num at hshort ⊢; linarith) hunits
    refine lt_of_le_of_lt hle ?_
    rw [← zpow_natCast, two_zpow_lt_iff]
    norm_num
  · obtain ⟨n, rfl, hnearest⟩ := nearest_add_half_of_full ha (LE.le.trans (by norm_num) hfull)
    have hlarge : (2 : Int) ^ 53 ≤ n := by exact_mod_cast hfull
    rw [if_neg (by omega)] at hnearest
    exact hnearest.trans_lt hhi

/-- An integer is the nearest to itself only. -/
theorem isNearestAway_intCast {m : Int} : IsNearestAway (m : Rat) n ↔ n = m := by
  constructor
  · intro h
    have hzero := h.nearest m
    rw [sub_self, abs_zero] at hzero
    have heq := abs_nonpos_iff.1 hzero
    exact (Int.cast_inj.1 (sub_eq_zero.1 heq)).symm
  · rintro rfl
    refine ⟨fun m => by simp, fun m hm => ?_⟩
    rw [sub_self, abs_zero, abs_eq_zero, sub_eq_zero] at hm
    rw [Int.cast_inj.1 hm]

theorem nearest_abs_of_stored {x : Number} (hfinite : x.isFinite = true)
    (hdouble : Rounding.binary64.store x = x) :
    Format.double.nearest |x.value| = |x.value| ∧ |x.value| < 2 ^ 1024 := by
  cases x with
  | nan => cases hfinite
  | infinite negative => cases hfinite
  | negativeZero => simp
  | rational q =>
    obtain ⟨hnearest, hlt⟩ := Represents.nearest_eq (f := .double) hdouble
    rw [value_rational, nearest_abs, hnearest]
    exact ⟨rfl, hlt⟩

theorem isNearestAway_roundedAway (hv : Format.double.nearest |v| = |v|) :
    (¬ IsCarried |v| → IsNearestAway v (roundedAway v)) ∧
      (IsCarried |v| →
        IsNearestAway v (if v < 0 then roundedAway v + 1 else roundedAway v - 1)) := by
  have hmagnitude := floor_nearest_add_half hv (abs_nonneg v)
  rcases lt_or_ge v 0 with hneg | hpos
  · have hround : roundedAway v = -(Format.double.nearest (|v| + 1 / 2)).floor := if_pos hneg
    have hexact : IsNearestAway v (-(|v| + 1 / 2).floor) := by
      have h := (isNearestAway_iff_of_nonneg (abs_nonneg v)).2 rfl
      rw [abs_of_neg hneg] at h ⊢
      simpa using h.neg
    rw [hround, if_pos hneg]
    rcases hmagnitude with ⟨hcarried, hfloor⟩ | ⟨hcarried, hfloor⟩
    · rw [hfloor]
      exact ⟨fun _ => hexact, fun h => absurd h hcarried⟩
    · rw [hfloor, neg_add, neg_add_cancel_right]
      exact ⟨fun h => absurd hcarried h, fun _ => hexact⟩
  · have hround : roundedAway v = (Format.double.nearest (|v| + 1 / 2)).floor :=
      if_neg (not_lt.2 hpos)
    have hexact : IsNearestAway v (|v| + 1 / 2).floor := by
      rw [abs_of_nonneg hpos, isNearestAway_iff_of_nonneg hpos]
    rw [hround, if_neg (not_lt.2 hpos)]
    rcases hmagnitude with ⟨hcarried, hfloor⟩ | ⟨hcarried, hfloor⟩
    · rw [hfloor]
      exact ⟨fun _ => hexact, fun h => absurd h hcarried⟩
    · rw [hfloor, add_sub_cancel_right]
      exact ⟨fun h => absurd hcarried h, fun _ => hexact⟩

theorem isCarried_intCast {m : Int} :
    IsCarried (m : Rat) ↔ 2 ^ 52 < m ∧ m < 2 ^ 53 ∧ m % 2 = 1 := by
  rw [isCarried_iff]
  constructor
  · rintro (heq | ⟨n, heq, h⟩)
    · -- the fraction is not an integer
      have hlo : ((0 : Int) : Rat) < m := by rw [heq]; norm_num
      have hhi : (m : Rat) < ((1 : Int) : Rat) := by rw [heq]; norm_num
      have hlo' := Int.cast_lt.1 hlo
      have hhi' := Int.cast_lt.1 hhi
      omega
    · rwa [Int.cast_inj.1 heq]
  · intro h
    exact .inr ⟨m, rfl, h⟩

/-- **Rounding a double.**  Every finite double gives an integer.  It is the nearest one, a half
going away from zero, unless the magnitude is carried; then it is the next one away from zero.  An
integer is its own result, unless it is odd and its significand is full. -/
theorem roundHalfAway_nearest {x : Number} (hfinite : x.isFinite = true)
    (hdouble : Rounding.binary64.store x = x) :
    ∃ n, x.roundHalfAway .binary64 = .ok n ∧
      (¬ IsCarried |x.value| → IsNearestAway x.value n) ∧
      (IsCarried |x.value| → IsNearestAway x.value (if x.value < 0 then n + 1 else n - 1)) ∧
      ∀ m : Int, x.value = m → (n = m ↔ ¬ (2 ^ 52 < |m| ∧ |m| < 2 ^ 53 ∧ |m| % 2 = 1)) := by
  obtain ⟨hnearest, hlt⟩ := nearest_abs_of_stored hfinite hdouble
  obtain ⟨hplain, hcarried⟩ := isNearestAway_roundedAway hnearest
  refine ⟨roundedAway x.value, roundHalfAway_binary64 hfinite (nearest_add_half_lt hnearest hlt),
    hplain, hcarried, fun m hm => ?_⟩
  rw [hm, ← Int.cast_abs, isCarried_intCast, isNearestAway_intCast] at hplain hcarried
  rw [hm]
  refine ⟨fun heq h => ?_, hplain⟩
  have hnext := hcarried h
  split at hnext <;> omega

/-- The largest double below one half. -/
theorem roundHalfAway_nearest_belowHalf :
    ∃ n, (rational (1 / 2 - 1 / 2 ^ 54)).roundHalfAway .binary64 = .ok n ∧
      IsNearestAway (1 / 2 - 1 / 2 ^ 54) (n - 1) := by
  obtain ⟨n, hn, -, hcarried, -⟩ :=
    roundHalfAway_nearest (x := rational (1 / 2 - 1 / 2 ^ 54)) rfl (by decide +kernel)
  have hpos : ¬ (1 / 2 - 1 / 2 ^ 54 : Rat) < 0 := by norm_num
  have habs : |(1 / 2 - 1 / 2 ^ 54 : Rat)| = 1 / 2 - 1 / 2 ^ 54 := abs_of_nonneg (not_lt.1 hpos)
  rw [value_rational, habs, if_neg hpos] at hcarried
  exact ⟨n, hn, hcarried .belowHalf⟩

/-- Zero is nearest to that double, and an odd integer to itself, but neither is returned. -/
theorem exists_not_nearest :
    (Rounding.binary64.store (rational (1 / 2 - 1 / 2 ^ 54)) = rational (1 / 2 - 1 / 2 ^ 54) ∧
        (rational (1 / 2 - 1 / 2 ^ 54)).roundHalfAway .binary64 = .ok 1 ∧
        ¬ IsNearestAway (1 / 2 - 1 / 2 ^ 54) 1) ∧
      Rounding.binary64.store (ofInt (2 ^ 52 + 1)) = ofInt (2 ^ 52 + 1) ∧
      (ofInt (2 ^ 52 + 1)).roundHalfAway .binary64 = .ok (2 ^ 52 + 2) := by
  refine ⟨⟨by decide +kernel, by decide +kernel, fun h => ?_⟩, by decide +kernel, by decide +kernel⟩
  have hfloor : (1 / 2 - 1 / 2 ^ 54 + 1 / 2 : Rat).floor = 0 :=
    floor_eq_of_le_of_lt (by norm_num) (by norm_num)
  have hone := (isNearestAway_iff_of_nonneg (by norm_num)).1 h
  omega

end Number

end StreetEnv
