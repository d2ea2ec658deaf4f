import Mathlib.Algebra.Order.Field.Power
import Mathlib.Algebra.Order.Ring.Abs
import Mathlib.Tactic.FieldSimp
import StreetEnv.Proofs.Number.HalfEven

/-!
# The nearest value of a format

A rational is rounded to a multiple of the unit in the last place of its own size.  The result does
not leave an interval between two values of the format, which is what bounds are proved with.

* `Format.ulp` is the unit, `Format.nearest` the nearest multiple, whatever the range;
* `Format.round_of_lt` and `Format.round_of_le`: what is stored, in range and out of it;
* `Format.exists_eq_units` and `Format.nearest_units`: the values of a format are the multiples of a
  unit with a short enough significand;
* `Format.nearest_mono`, `Format.abs_nearest_sub_le`: order and error;
* `Format.represents_of_round`: what is stored is a value of the format.
-/

namespace StreetEnv

namespace Format

variable {f : Format} {p q : Rat}

/-! ### Units -/

theorem two_zpow_pos (e : Int) : (0 : Rat) < 2 ^ e := zpow_pos (by norm_num) e

theorem two_zpow_le {e e' : Int} (h : e ≤ e') : (2 : Rat) ^ e ≤ 2 ^ e' :=
  zpow_le_zpow_right₀ (by norm_num) h

theorem two_zpow_lt_iff {e e' : Int} : (2 : Rat) ^ e < 2 ^ e' ↔ e < e' :=
  zpow_lt_zpow_iff_right₀ (by norm_num)

theorem two_zpow_add (e e' : Int) : (2 : Rat) ^ (e + e') = 2 ^ e * 2 ^ e' :=
  zpow_add₀ (by norm_num) e e'

theorem ofTwo_cast (n : Nat) : ((Power.ofTwo n : Nat) : Rat) = 2 ^ (n : Int) := by
  rw [Power.ofTwo, Nat.pow_eq, Nat.cast_pow, Nat.cast_ofNat, zpow_natCast]

theorem ofUnits_eq (m : Nat) (u : Int) : ofUnits m u = m * 2 ^ u := by
  unfold ofUnits
  split
  · next hu =>
    obtain ⟨k, rfl⟩ := Int.eq_ofNat_of_zero_le hu
    rw [Int.toNat_natCast, Nat.cast_mul, ofTwo_cast]
  · next hu =>
    obtain ⟨k, rfl⟩ : ∃ k : Nat, u = -k := ⟨(-u).toNat, by omega⟩
    rw [neg_neg, Int.toNat_natCast, Rat.mkRat_eq_div, ofTwo_cast, zpow_neg]
    rfl

theorem inUnits_eq (a : Nat) {d : Nat} (hd : 0 < d) (u : Int) :
    0 < (inUnits a d u).2 ∧
      ((inUnits a d u).1 : Rat) / (inUnits a d u).2 = (a : Rat) / d / 2 ^ u := by
  unfold inUnits
  split
  · next hu =>
    obtain ⟨k, rfl⟩ := Int.eq_ofNat_of_zero_le hu
    rw [Int.toNat_natCast]
    refine ⟨Nat.mul_pos hd (Power.ofTwo_pos k), ?_⟩
    dsimp only
    rw [Nat.cast_mul, ofTwo_cast, div_div]
  · next hu =>
    obtain ⟨k, rfl⟩ : ∃ k : Nat, u = -k := ⟨(-u).toNat, by omega⟩
    refine ⟨hd, ?_⟩
    dsimp only
    rw [neg_neg, Int.toNat_natCast, Nat.cast_mul, ofTwo_cast, zpow_neg, div_inv_eq_mul,
      mul_div_right_comm]

theorem binaryExponent_spec {a d : Nat} (ha : 0 < a) (hd : 0 < d) :
    (2 : Rat) ^ binaryExponent a d ≤ a / d ∧ (a : Rat) / d < 2 ^ (binaryExponent a d + 1) := by
  have ha' : (0 : Rat) < a := Nat.cast_pos.2 ha
  have hd' : (0 : Rat) < d := Nat.cast_pos.2 hd
  have hpow (n : Nat) : ((2 ^ n : Nat) : Rat) = 2 ^ (n : Int) := ofTwo_cast n
  have halo : (2 : Rat) ^ (a.log2 : Int) ≤ a :=
    hpow _ ▸ Nat.cast_le.2 (Nat.log2_self_le ha.ne')
  have hahi : (a : Rat) < 2 ^ ((a.log2 : Int) + 1) :=
    hpow (a.log2 + 1) ▸ Nat.cast_lt.2 Nat.lt_log2_self
  have hdlo : (2 : Rat) ^ (d.log2 : Int) ≤ d :=
    hpow _ ▸ Nat.cast_le.2 (Nat.log2_self_le hd.ne')
  have hdhi : (d : Rat) < 2 ^ ((d.log2 : Int) + 1) :=
    hpow (d.log2 + 1) ▸ Nat.cast_lt.2 Nat.lt_log2_self
  -- the difference of the exponents is right, or one too large
  have hlo : (2 : Rat) ^ ((a.log2 : Int) - d.log2 - 1) ≤ a / d := by
    rw [le_div_iff₀ hd']
    refine le_trans ?_ halo
    have hsum : (a.log2 : Int) = ((a.log2 : Int) - d.log2 - 1) + (d.log2 + 1) := by ring
    rw [hsum, two_zpow_add]
    refine mul_le_mul ?_ hdhi.le hd'.le (two_zpow_pos _).le
    rw [← hsum]
  have hhi : (a : Rat) / d < 2 ^ ((a.log2 : Int) - d.log2 + 1) := by
    rw [div_lt_iff₀ hd']
    refine lt_of_lt_of_le hahi ?_
    have hsum : (a.log2 : Int) + 1 = ((a.log2 : Int) - d.log2 + 1) + d.log2 := by ring
    rw [hsum, two_zpow_add]
    refine mul_le_mul_of_nonneg_left hdlo ?_
    exact (two_zpow_pos _).le
  obtain ⟨hpos, hscaled⟩ := inUnits_eq a hd ((a.log2 : Int) - d.log2)
  have hpos' : (0 : Rat) < (inUnits a d ((a.log2 : Int) - d.log2)).2 := Nat.cast_pos.2 hpos
  have hfits :
      (inUnits a d ((a.log2 : Int) - d.log2)).2 ≤ (inUnits a d ((a.log2 : Int) - d.log2)).1 ↔
        (2 : Rat) ^ ((a.log2 : Int) - d.log2) ≤ a / d := by
    rw [← one_le_div (two_zpow_pos _), ← hscaled, one_le_div hpos', Nat.cast_le]
  unfold binaryExponent
  dsimp only
  split
  · next h => exact ⟨hfits.1 h, hhi⟩
  · next h =>
    rw [Int.sub_add_cancel]
    exact ⟨hlo, not_le.1 fun h' => h (hfits.2 h')⟩

/-- The exponent of the binade of a rational. -/
def exponent (q : Rat) : Int := binaryExponent q.num.natAbs q.den

theorem natAbs_div_den (q : Rat) : (q.num.natAbs : Rat) / q.den = |q| := by
  have hden : (0 : Rat) < q.den := Nat.cast_pos.2 q.den_pos
  conv_rhs => rw [← Rat.num_div_den q]
  rw [abs_div, abs_of_pos hden, Nat.cast_natAbs, Int.cast_abs]

theorem exponent_spec (hq : q ≠ 0) : 2 ^ exponent q ≤ |q| ∧ |q| < 2 ^ (exponent q + 1) := by
  rw [← natAbs_div_den]
  exact binaryExponent_spec (Int.natAbs_pos.2 (Rat.num_ne_zero.2 hq)) q.den_pos

theorem le_exponent {e : Int} (h : 2 ^ e ≤ |q|) : e ≤ exponent q := by
  have hq : q ≠ 0 := by
    rintro rfl
    exact absurd h (by simpa using two_zpow_pos e)
  have hlt := two_zpow_lt_iff.1 (lt_of_le_of_lt h (exponent_spec hq).2)
  omega

theorem exponent_lt {e : Int} (hq : q ≠ 0) (h : |q| < 2 ^ e) : exponent q < e :=
  two_zpow_lt_iff.1 (lt_of_le_of_lt (exponent_spec hq).1 h)

theorem exponent_eq {e : Int} (hlo : 2 ^ e ≤ |q|) (hhi : |q| < 2 ^ (e + 1)) : exponent q = e := by
  have hne : q ≠ 0 := by
    rintro rfl
    exact absurd hlo (by simpa using two_zpow_pos e)
  have hge := le_exponent hlo
  have hlt := exponent_lt hne hhi
  omega

/-- The exponent of the unit in the last place. -/
def ulpExponent (f : Format) (q : Rat) : Int :=
  max (exponent q - ((f.precision : Int) - 1)) (-(f.finest : Int))

/-- The unit in the last place of values of the size of a rational. -/
def ulp (f : Format) (q : Rat) : Rat := 2 ^ f.ulpExponent q

theorem ulp_pos (f : Format) (q : Rat) : 0 < f.ulp q := two_zpow_pos _

theorem exponent_neg (q : Rat) : exponent (-q) = exponent q := by
  simp [exponent]

theorem ulp_neg (f : Format) (q : Rat) : f.ulp (-q) = f.ulp q := by
  simp [ulp, ulpExponent, exponent_neg]

/-! ### The nearest multiple of the unit -/

/-- The nearest multiple of the unit in the last place, in range or not. -/
def nearest (f : Format) (q : Rat) : Rat := Number.roundHalfEven (q / f.ulp q) * f.ulp q

@[simp] theorem nearest_zero (f : Format) : f.nearest 0 = 0 := by
  have hzero : Number.roundHalfEven 0 = 0 := Number.roundHalfEven_intCast 0
  simp [nearest, hzero]

theorem nearest_neg (f : Format) (q : Rat) : f.nearest (-q) = -f.nearest q := by
  rw [nearest, ulp_neg, neg_div, Number.roundHalfEven_neg]
  simp [nearest]

theorem nearest_le_units {n : Int} (h : q ≤ n * f.ulp q) : f.nearest q ≤ n * f.ulp q := by
  have hn : Number.roundHalfEven (q / f.ulp q) ≤ n :=
    Number.roundHalfEven_le ((div_le_iff₀ (f.ulp_pos q)).2 h)
  exact mul_le_mul_of_nonneg_right (Int.cast_le.2 hn) (f.ulp_pos q).le

theorem units_le_nearest {n : Int} (h : n * f.ulp q ≤ q) : n * f.ulp q ≤ f.nearest q := by
  have hn : n ≤ Number.roundHalfEven (q / f.ulp q) :=
    Number.le_roundHalfEven ((le_div_iff₀ (f.ulp_pos q)).2 h)
  exact mul_le_mul_of_nonneg_right (Int.cast_le.2 hn) (f.ulp_pos q).le

theorem nearest_eq_of_units {n : Int} (h : q = n * f.ulp q) : f.nearest q = q := by
  have hle := nearest_le_units (le_of_eq h)
  have hge := units_le_nearest (le_of_eq h.symm)
  rw [← h] at hle hge
  exact le_antisymm hle hge

theorem nearest_nonneg (h : 0 ≤ q) : 0 ≤ f.nearest q := by
  have hzero := units_le_nearest (f := f) (q := q) (n := 0) (by simpa using h)
  simpa using hzero

theorem nearest_abs (f : Format) (q : Rat) : f.nearest |q| = |f.nearest q| := by
  rcases le_total 0 q with h | h
  · rw [abs_of_nonneg h, abs_of_nonneg (nearest_nonneg h)]
  · have hneg := nearest_nonneg (f := f) (neg_nonneg.2 h)
    rw [abs_of_nonpos h, nearest_neg, abs_of_nonpos]
    rw [nearest_neg] at hneg
    linarith

/-- **The error** is at most half a unit. -/
theorem abs_nearest_sub_le (f : Format) (q : Rat) : |f.nearest q - q| ≤ f.ulp q / 2 := by
  have hulp := f.ulp_pos q
  have herror := Number.abs_roundHalfEven_sub_le (q / f.ulp q)
  have hscale : f.nearest q - q = (Number.roundHalfEven (q / f.ulp q) - q / f.ulp q) * f.ulp q := by
    rw [sub_mul, div_mul_cancel₀ _ hulp.ne', nearest]
  rw [hscale, abs_mul, abs_of_pos hulp]
  calc |(Number.roundHalfEven (q / f.ulp q) : Rat) - q / f.ulp q| * f.ulp q
    _ ≤ 1 / 2 * f.ulp q := mul_le_mul_of_nonneg_right herror hulp.le
    _ = f.ulp q / 2 := by ring

/-! ### Values of the format -/

theorem ulpExponent_mono (h : |p| ≤ |q|) (hp : p ≠ 0) : f.ulpExponent p ≤ f.ulpExponent q := by
  have hexponent : exponent p ≤ exponent q := le_exponent (le_trans (exponent_spec hp).1 h)
  unfold ulpExponent
  omega

/-- A multiple of any unit of the format, with a significand that is short enough, is its own
nearest value. -/
theorem nearest_units (hf : 0 < f.precision) {m k : Int} (hm : |m| ≤ 2 ^ f.precision)
    (hk : -(f.finest : Int) ≤ k) : f.nearest (m * 2 ^ k) = m * 2 ^ k := by
  rcases eq_or_ne m 0 with rfl | hm0
  · simp
  have hq0 : (m : Rat) * 2 ^ k ≠ 0 :=
    mul_ne_zero (Int.cast_ne_zero.2 hm0) (two_zpow_pos k).ne'
  have habs : |(m : Rat) * 2 ^ k| = |m| * 2 ^ k := by
    rw [abs_mul, abs_of_pos (two_zpow_pos k), Int.cast_abs]
  have hm' : ((|m| : Int) : Rat) ≤ 2 ^ (f.precision : Int) := by
    rw [zpow_natCast]
    exact_mod_cast hm
  -- the value has at most one binade more than the significand
  have hle : |(m : Rat) * 2 ^ k| ≤ 2 ^ ((f.precision : Int) + k) := by
    rw [habs, two_zpow_add]
    exact mul_le_mul_of_nonneg_right hm' (two_zpow_pos k).le
  have hspec := exponent_spec hq0
  have hexponent : exponent ((m : Rat) * 2 ^ k) ≤ f.precision + k :=
    (zpow_le_zpow_iff_right₀ (by norm_num)).1 (le_trans hspec.1 hle)
  obtain ⟨n, hn⟩ : ∃ n : Int, (m : Rat) * 2 ^ k = n * f.ulp (m * 2 ^ k) := by
    by_cases hu : f.ulpExponent (m * 2 ^ k) ≤ k
    · -- the unit divides the one of the significand
      obtain ⟨j, hj⟩ := Int.eq_ofNat_of_zero_le (sub_nonneg.2 hu)
      have hkj : k = (j : Int) + f.ulpExponent (m * 2 ^ k) := by omega
      refine ⟨m * 2 ^ j, ?_⟩
      rw [ulp, Int.cast_mul, Int.cast_pow, Int.cast_ofNat, ← zpow_natCast, mul_assoc,
        ← two_zpow_add, ← hkj]
    · -- the significand is a full power of two, and the unit twice the one of the significand
      have hu' : f.ulpExponent ((m : Rat) * 2 ^ k) = k + 1 ∧
          exponent ((m : Rat) * 2 ^ k) = f.precision + k := by
        unfold ulpExponent at hu ⊢
        omega
      have hge : 2 ^ ((f.precision : Int) + k) ≤ |(m : Rat) * 2 ^ k| := hu'.2 ▸ hspec.1
      have hfull : |m| = 2 ^ f.precision := by
        rw [habs, two_zpow_add, mul_le_mul_iff_left₀ (two_zpow_pos k), zpow_natCast] at hge
        refine le_antisymm hm ?_
        exact_mod_cast hge
      obtain ⟨j, hj⟩ : ∃ j, f.precision = j + 1 := ⟨f.precision - 1, by omega⟩
      have hdouble : m = 2 ^ j * 2 ∨ m = -(2 ^ j) * 2 := by
        rw [hj, pow_succ] at hfull
        rcases abs_choice m with h | h
        · exact .inl (h ▸ hfull)
        · exact .inr (by omega)
      rcases hdouble with h | h
      · refine ⟨2 ^ j, ?_⟩
        rw [ulp, hu'.1, two_zpow_add, h]
        push_cast
        ring
      · refine ⟨-(2 ^ j), ?_⟩
        rw [ulp, hu'.1, two_zpow_add, h]
        push_cast
        ring
  exact nearest_eq_of_units hn

theorem abs_lt_units (hq : q ≠ 0) : |q| < 2 ^ (f.precision : Int) * f.ulp q := by
  refine lt_of_lt_of_le (exponent_spec hq).2 ?_
  rw [ulp, ← two_zpow_add]
  refine two_zpow_le ?_
  unfold ulpExponent
  omega

theorem exists_eq_units (h : f.nearest q = q) :
    ∃ n : Int, q = n * f.ulp q ∧ |n| < 2 ^ f.precision := by
  rcases eq_or_ne q 0 with rfl | hq
  · exact ⟨0, by simp, by simp⟩
  have hq' : q = Number.roundHalfEven (q / f.ulp q) * f.ulp q := h.symm
  generalize Number.roundHalfEven (q / f.ulp q) = n at hq'
  refine ⟨n, hq', ?_⟩
  have hlt := abs_lt_units (f := f) hq
  have habs : |q| = |n| * f.ulp q := by
    conv_lhs => rw [hq']
    rw [abs_mul, abs_of_pos (f.ulp_pos q), Int.cast_abs]
  rw [habs, mul_lt_mul_iff_left₀ (f.ulp_pos q), zpow_natCast] at hlt
  exact_mod_cast hlt

theorem nearest_nearest (hf : 0 < f.precision) (q : Rat) :
    f.nearest (f.nearest q) = f.nearest q := by
  rcases eq_or_ne q 0 with rfl | hq
  · simp
  -- a rounded significand is at most a full one
  have hshort : |q / f.ulp q| ≤ ((2 ^ f.precision : Int) : Rat) := by
    rw [abs_div, abs_of_pos (f.ulp_pos q), div_le_iff₀ (f.ulp_pos q)]
    push_cast
    rw [← zpow_natCast]
    exact (abs_lt_units hq).le
  obtain ⟨hlo, hhi⟩ := abs_le.1 hshort
  refine nearest_units hf (abs_le.2 ⟨?_, Number.roundHalfEven_le hhi⟩) (le_max_right _ _)
  exact Number.le_roundHalfEven (by push_cast at hlo ⊢; exact hlo)

/-! ### Order -/

theorem nearest_mono_of_pos (hf : 0 < f.precision) (hp : 0 < p) (h : p ≤ q) :
    f.nearest p ≤ f.nearest q := by
  have hq : 0 < q := lt_of_lt_of_le hp h
  have habs : |p| ≤ |q| := by rwa [abs_of_pos hp, abs_of_pos hq]
  rcases (ulpExponent_mono (f := f) habs hp.ne').eq_or_lt with heq | hlt
  · -- both are rounded to multiples of the same unit
    have hulp : f.ulp p = f.ulp q := by rw [ulp, ulp, heq]
    have hround := Number.roundHalfEven_mono (div_le_div_of_nonneg_right h (f.ulp_pos q).le)
    rw [nearest, nearest, hulp]
    exact mul_le_mul_of_nonneg_right (Int.cast_le.2 hround) (f.ulp_pos q).le
  · -- the binade of the larger one begins between them, and it is a multiple of either unit
    have hbinade : f.ulpExponent q = exponent q - ((f.precision : Int) - 1) ∧
        exponent p < exponent q ∧ f.ulpExponent p ≤ exponent q := by
      unfold ulpExponent at hlt ⊢
      omega
    obtain ⟨hu, hexponent, hup⟩ := hbinade
    have hbelow : p ≤ 2 ^ exponent q := by
      have hp' := (exponent_spec hp.ne').2
      rw [abs_of_pos hp] at hp'
      exact le_trans hp'.le (two_zpow_le (by omega))
    have habove : 2 ^ exponent q ≤ q := by
      have hq' := (exponent_spec hq.ne').1
      rwa [abs_of_pos hq] at hq'
    have hunits {u : Int} (hue : u ≤ exponent q) :
        ∃ n : Int, (2 : Rat) ^ exponent q = n * 2 ^ u := by
      refine ⟨2 ^ (exponent q - u).toNat, ?_⟩
      rw [Int.cast_pow, Int.cast_ofNat, ← zpow_natCast, Int.toNat_of_nonneg (by omega),
        ← two_zpow_add, Int.sub_add_cancel]
    obtain ⟨m, hm⟩ := hunits hup
    obtain ⟨n, hn⟩ := hunits (u := f.ulpExponent q) (by omega)
    calc f.nearest p
      _ ≤ m * f.ulp p := nearest_le_units (by rw [ulp, ← hm]; exact hbelow)
      _ = n * f.ulp q := by rw [ulp, ulp, ← hm, ← hn]
      _ ≤ f.nearest q := units_le_nearest (by rw [ulp, ← hn]; exact habove)

/-- **Rounding keeps the order.** -/
theorem nearest_mono (hf : 0 < f.precision) (h : p ≤ q) : f.nearest p ≤ f.nearest q := by
  rcases lt_trichotomy p 0 with hp | rfl | hp
  · rcases lt_or_ge q 0 with hq | hq
    · have hneg := nearest_mono_of_pos hf (neg_pos.2 hq) (neg_le_neg h)
      rw [nearest_neg, nearest_neg] at hneg
      exact neg_le_neg_iff.1 hneg
    · have hneg := nearest_nonneg (f := f) (neg_nonneg.2 hp.le)
      rw [nearest_neg] at hneg
      exact le_trans (neg_nonneg.1 hneg) (nearest_nonneg hq)
  · rw [nearest_zero]
    exact nearest_nonneg h
  · exact nearest_mono_of_pos hf hp h

theorem nearest_le (hf : 0 < f.precision) (h : p ≤ q) (hq : f.nearest q = q) : f.nearest p ≤ q :=
  hq ▸ nearest_mono hf h

theorem le_nearest (hf : 0 < f.precision) (h : p ≤ q) (hp : f.nearest p = p) : p ≤ f.nearest q :=
  hp ▸ nearest_mono hf h

/-- **The relative error** of what is not below the smallest full significand. -/
theorem abs_nearest_sub_le_mul (hq : 2 ^ ((f.precision : Int) - 1 - f.finest) ≤ |q|) :
    |f.nearest q - q| ≤ |q| / 2 ^ f.precision := by
  have hq0 : q ≠ 0 := by
    rintro rfl
    exact absurd hq (by simpa using two_zpow_pos _)
  have hexponent := le_exponent hq
  have hulp : f.ulp q = 2 ^ exponent q / 2 ^ f.precision * 2 := by
    have hu : f.ulpExponent q = exponent q - f.precision + 1 := by
      unfold ulpExponent
      omega
    rw [ulp, hu, two_zpow_add, zpow_sub₀ (by norm_num), zpow_natCast, zpow_one]
  have hpow : (0 : Rat) < 2 ^ f.precision := by positivity
  calc |f.nearest q - q|
    _ ≤ f.ulp q / 2 := f.abs_nearest_sub_le q
    _ = 2 ^ exponent q / 2 ^ f.precision := by rw [hulp]; ring
    _ ≤ |q| / 2 ^ f.precision := div_le_div_of_nonneg_right (exponent_spec hq0).1 hpow.le

/-! ### What is stored -/

theorem roundMagnitude_eq (f : Format) (q : Rat) :
    f.roundMagnitude q.num.natAbs q.den =
      if f.nearest |q| < 2 ^ f.ceiling then some (f.nearest |q|) else none := by
  have hulp : f.ulp |q| = 2 ^ f.unitExponent q.num.natAbs q.den := by
    rcases abs_choice q with h | h
    · rw [h]
      rfl
    · rw [h, ulp_neg]
      rfl
  obtain ⟨hpos, hscaled⟩ := inUnits_eq q.num.natAbs q.den_pos (f.unitExponent q.num.natAbs q.den)
  have hvalue : ofUnits (nearestQuotient
      (inUnits q.num.natAbs q.den (f.unitExponent q.num.natAbs q.den)).1
      (inUnits q.num.natAbs q.den (f.unitExponent q.num.natAbs q.den)).2)
      (f.unitExponent q.num.natAbs q.den) = f.nearest |q| := by
    rw [ofUnits_eq, ← Int.cast_natCast, nearestQuotient_eq _ hpos, hscaled, natAbs_div_den, nearest,
      hulp]
  have hceiling : ((Power.ofTwo f.ceiling : Nat) : Rat) = 2 ^ f.ceiling := by
    rw [ofTwo_cast, zpow_natCast]
  unfold roundMagnitude
  dsimp only
  rw [hvalue, hceiling]

theorem round_of_lt (h : |f.nearest q| < 2 ^ f.ceiling) :
    (f.round q).isFinite = true ∧ (f.round q).value = f.nearest q := by
  by_cases hnum : q.num = 0
  · obtain rfl : q = 0 := Rat.num_eq_zero.1 hnum
    exact ⟨rfl, (nearest_zero f).symm⟩
  rw [← nearest_abs] at h
  have hmagnitude := roundMagnitude_eq f q
  rw [if_pos h] at hmagnitude
  simp only [round, hnum, if_false, hmagnitude]
  have hsign : (if q.num < 0 then -f.nearest |q| else f.nearest |q|) = f.nearest q := by
    rcases lt_or_ge q 0 with hlt | hge
    · rw [if_pos (Rat.num_neg.2 hlt), abs_of_neg hlt, nearest_neg, neg_neg]
    · rw [if_neg (not_lt.2 (Rat.num_nonneg.2 hge)), abs_of_nonneg hge]
  split
  · next hzero =>
    -- a zero keeps the sign
    have hnearest : f.nearest |q| = 0 := Rat.num_eq_zero.1 hzero
    rw [hnearest, neg_zero, ite_self] at hsign
    rw [← hsign]
    cases decide (q.num < 0)
    · exact ⟨rfl, rfl⟩
    · exact ⟨rfl, rfl⟩
  · refine ⟨rfl, ?_⟩
    simpa using hsign

theorem round_of_le (h : 2 ^ f.ceiling ≤ |f.nearest q|) :
    f.round q = .infinite (decide (q.num < 0)) := by
  have hnum : q.num ≠ 0 := by
    intro hnum
    obtain rfl : q = 0 := Rat.num_eq_zero.1 hnum
    rw [nearest_zero, abs_zero] at h
    exact absurd h (not_le.2 (by positivity))
  rw [← nearest_abs] at h
  have hmagnitude := roundMagnitude_eq f q
  rw [if_neg (not_lt.2 h)] at hmagnitude
  simp only [round, hnum, if_false, hmagnitude]

theorem Represents.nearest_eq (h : f.Represents q) :
    f.nearest q = q ∧ |q| < 2 ^ f.ceiling := by
  have hstored : f.round q = .rational q := h
  rcases lt_or_ge |f.nearest q| (2 ^ f.ceiling) with hlt | hge
  · have hvalue := (round_of_lt hlt).2
    rw [hstored, Number.value_rational] at hvalue
    exact ⟨hvalue.symm, hvalue ▸ hlt⟩
  · rw [round_of_le hge] at hstored
    cases hstored

theorem represents_of_nearest_eq (h : f.nearest q = q) (hq : |q| < 2 ^ f.ceiling) :
    f.Represents q := by
  rw [← h] at hq
  obtain ⟨hfinite, hvalue⟩ := round_of_lt hq
  rw [h] at hvalue
  cases hround : f.round q with
  | nan => rw [hround] at hfinite; cases hfinite
  | infinite negative => rw [hround] at hfinite; cases hfinite
  | negativeZero =>
    -- zero itself has no sign
    rw [hround] at hvalue
    obtain rfl : 0 = q := hvalue
    cases hround
  | rational p =>
    rw [hround] at hvalue
    obtain rfl : p = q := hvalue
    exact hround

/-- **What is stored is a value of the format.** -/
theorem represents_of_round (hf : 0 < f.precision) (h : f.round q = .rational p) :
    f.Represents p := by
  have hrange : |f.nearest q| < 2 ^ f.ceiling := by
    by_contra hge
    rw [round_of_le (not_lt.1 hge)] at h
    cases h
  have hvalue := (round_of_lt hrange).2
  rw [h, Number.value_rational] at hvalue
  subst hvalue
  exact represents_of_nearest_eq (nearest_nearest hf q) hrange

end Format

end StreetEnv
