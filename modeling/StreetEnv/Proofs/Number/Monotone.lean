import StreetEnv.Proofs.Fault.Traversal
import StreetEnv.Proofs.Number.HalfAway
import StreetEnv.Proofs.Number.Zeros

/-!
# Arithmetic that keeps the order

Storing a rational as the nearest value of a format keeps the order, even where the values end and
the infinities begin.  So do the operations that store their results: a larger argument never gives
a smaller result.

* `Rounding.IsMonotone`: a rounding that keeps the order, as `Rounding.exact` and the formats do;
* `Format.round_mono`: what a format stores;
* `Number.add_le_add_of_ne_nan`, `Number.sub_le_sub_of_ne_nan` and `Number.div_natural_le`: sums,
  differences and quotients by a count;
* `Number.roundHalfAway_mono`: the rounded integer, which is built from a magnitude and a sign.
-/

namespace StreetEnv

namespace Rounding

/-- A larger rational is not stored as a smaller number, and zero and one half are stored as they
are. -/
structure IsMonotone (r : Rounding) : Prop where
  /-- The order is kept. -/
  round_le : ∀ {p q : Rat}, p ≤ q → r.round p ≤ r.round q
  /-- Zero is stored. -/
  round_zero : r.round 0 = .rational 0
  /-- One half is stored. -/
  round_half : r.round (1 / 2) = .rational (1 / 2)

end Rounding

/-! ### Formats -/

namespace Format

open Number

variable {f : Format} {p q : Rat}

theorem round_of_ge (h : 2 ^ f.ceiling ≤ f.nearest q) : f.round q = .infinite false := by
  have hpos : (0 : Rat) < 2 ^ f.ceiling := by positivity
  have hsign : ¬ q.num < 0 := by
    intro hneg
    have hnearest := nearest_nonneg (f := f) (neg_nonneg.2 (Rat.num_neg.1 hneg).le)
    rw [nearest_neg] at hnearest
    linarith
  rw [round_of_le (h.trans (le_abs_self _)), decide_eq_false hsign]

theorem round_of_le_neg (h : f.nearest q ≤ -2 ^ f.ceiling) : f.round q = .infinite true := by
  have hpos : (0 : Rat) < 2 ^ f.ceiling := by positivity
  have hsign : q.num < 0 := by
    by_contra hnonneg
    have hnearest := nearest_nonneg (f := f) (Rat.num_nonneg.1 (not_lt.1 hnonneg))
    linarith
  rw [round_of_le (le_abs.2 (.inr (by linarith))), decide_eq_true hsign]

theorem round_ne_nan (f : Format) (q : Rat) : f.round q ≠ .nan := by
  rcases lt_or_ge |f.nearest q| (2 ^ f.ceiling) with h | h
  · exact ne_nan_of_isFinite (round_of_lt h).1
  · rw [round_of_le h]
    simp

/-- **What is stored keeps the order**, in range and out of it. -/
theorem round_mono (hf : 0 < f.precision) (h : p ≤ q) : f.round p ≤ f.round q := by
  have hnearest := nearest_mono hf h
  by_cases hq : 2 ^ f.ceiling ≤ f.nearest q
  · rw [round_of_ge hq]
    exact le_infinity (f.round_ne_nan p)
  by_cases hp : f.nearest p ≤ -2 ^ f.ceiling
  · rw [round_of_le_neg hp]
    exact minusInfinity_le (f.round_ne_nan q)
  · -- both are in range
    rw [not_le] at hp hq
    obtain ⟨hpfinite, hpvalue⟩ := round_of_lt (abs_lt.2 ⟨hp, hnearest.trans_lt hq⟩)
    obtain ⟨hqfinite, hqvalue⟩ := round_of_lt (abs_lt.2 ⟨hp.trans_le hnearest, hq⟩)
    rw [le_iff_of_isFinite hpfinite hqfinite, hpvalue, hqvalue]
    exact hnearest

end Format

namespace Rounding

theorem isMonotone_exact : exact.IsMonotone where
  round_le h := Number.le_rational.2 h
  round_zero := rfl
  round_half := rfl

theorem isMonotone_binary64 : binary64.IsMonotone where
  round_le h := Format.round_mono (by decide) h
  round_zero := rfl
  round_half := by decide +kernel

theorem isMonotone_binary32 : binary32.IsMonotone where
  round_le h := Format.round_mono (by decide) h
  round_zero := rfl
  round_half := by decide +kernel

end Rounding

namespace Number

variable {x y z : Number} {r : Rounding}

theorem ne_nan_of_isMonotone (hr : r.IsMonotone) (q : Rat) :
    r.round q ≠ nan :=
  (ne_nan_of_le (hr.round_le (Rat.le_refl))).1

/-! ### Sums and differences -/

theorem unsigned_add_of_isFinite (hr : r.round 0 = rational 0) (hx : x.isFinite = true)
    (hz : z.isFinite = true) : (x.add r z).unsigned = (r.round (x.value + z.value)).unsigned := by
  cases x with
  | nan => cases hx
  | infinite negative => cases hx
  | rational p =>
    cases z with
    | nan => cases hz
    | infinite negative => cases hz
    | negativeZero => rfl
    | rational q => rfl
  | negativeZero =>
    cases z with
    | nan => cases hz
    | infinite negative => cases hz
    | rational q => rfl
    | negativeZero =>
      show rational 0 = (r.round (0 + 0)).unsigned
      rw [Rat.add_zero, hr]
      rfl

theorem add_infinite {negative : Bool} (h : x.add r (infinite negative) ≠ nan) :
    x.add r (infinite negative) = infinite negative := by
  cases x with
  | nan => exact absurd rfl h
  | infinite s =>
    by_cases hs : s = negative
    · subst hs
      simp [add]
    · simp [add, hs] at h
  | negativeZero => rfl
  | rational q => rfl

theorem add_infinite_ne_nan {negative : Bool} (hx : x ≠ nan) (hne : x ≠ infinite !negative) :
    x.add r (infinite negative) ≠ nan := by
  cases x with
  | nan => exact absurd rfl hx
  | infinite s =>
    have hs : s = negative := by simpa using hne
    simp [add, hs]
  | negativeZero => simp [add]
  | rational q => simp [add]

theorem infinite_add (hz : z.isFinite = true) (negative : Bool) :
    (infinite negative).add r z = infinite negative := by
  cases z with
  | nan => cases hz
  | infinite s => cases hz
  | negativeZero => rfl
  | rational q => rfl

theorem add_ne_nan (hr : r.IsMonotone) (hx : x ≠ nan) (hz : z.isFinite = true) :
    x.add r z ≠ nan := by
  rcases infinite_or_isFinite hx with ⟨negative, rfl⟩ | hxfinite
  · rw [infinite_add hz]
    simp
  · rw [ne_eq, ← unsigned_eq_nan_iff, unsigned_add_of_isFinite hr.round_zero hxfinite hz,
      unsigned_eq_nan_iff]
    exact ne_nan_of_isMonotone hr _

theorem ne_nan_of_add (h : x.add r z ≠ nan) : x ≠ nan ∧ z ≠ nan := by
  constructor
  · rintro rfl
    exact h rfl
  · rintro rfl
    cases x <;> exact h rfl

/-- A sum of numbers is a number, unless it is one of opposite infinities. -/
theorem add_ne_nan_iff (hr : r.IsMonotone) (hx : x ≠ nan) :
    x.add r z ≠ nan ↔ z ≠ nan ∧ ∀ negative, z = infinite negative → x ≠ infinite !negative := by
  constructor
  · refine fun h => ⟨(ne_nan_of_add h).2, ?_⟩
    rintro negative rfl rfl
    cases negative <;> exact h rfl
  · rintro ⟨hz, hopposite⟩
    rcases infinite_or_isFinite hz with ⟨negative, rfl⟩ | hfinite
    · exact add_infinite_ne_nan hx (hopposite negative rfl)
    · exact add_ne_nan hr hx hfinite

/-- A difference of numbers is a number, unless it is one of equal infinities. -/
theorem sub_ne_nan_iff (hr : r.IsMonotone) (hx : x ≠ nan) :
    x.sub r z ≠ nan ↔ z ≠ nan ∧ ∀ negative, z = infinite negative → x ≠ infinite negative := by
  have hnan : -z ≠ nan ↔ z ≠ nan := by
    cases z with
    | rational q => by_cases hq : q = 0 <;> simp [Neg.neg, Number.neg, hq]
    | _ => simp [Neg.neg, Number.neg]
  have hinfinite (negative : Bool) : -z = infinite negative ↔ z = infinite !negative := by
    cases z with
    | rational q => by_cases hq : q = 0 <;> simp [Neg.neg, Number.neg, hq]
    | _ => simp [Neg.neg, Number.neg, Bool.not_eq_eq_eq_not]
  rw [sub, add_ne_nan_iff hr hx, hnan]
  simp only [hinfinite]
  refine and_congr_right fun _ => ⟨fun h negative hz => ?_, fun h negative hz => h _ hz⟩
  simpa using h (!negative) (by simpa using hz)

/-- **A larger summand gives no smaller sum**, if both sums are numbers. -/
theorem add_le_add_of_ne_nan (hr : r.IsMonotone) (h : x ≤ y) (hx : x.add r z ≠ nan)
    (hy : y.add r z ≠ nan) : x.add r z ≤ y.add r z := by
  rcases infinite_or_isFinite (ne_nan_of_add hx).2 with ⟨negative, rfl⟩ | hz
  · rw [add_infinite hx, add_infinite hy]
    exact le_self (by simp)
  rcases infinite_or_isFinite (ne_nan_of_le h).1 with ⟨negative, rfl⟩ | hxfinite
  · cases negative
    · rw [eq_infinity_of_le h]
      exact le_self hx
    · rw [infinite_add hz]
      exact minusInfinity_le hy
  rcases infinite_or_isFinite (ne_nan_of_le h).2 with ⟨negative, rfl⟩ | hyfinite
  · cases negative
    · rw [infinite_add hz]
      exact le_infinity hx
    · rw [eq_minusInfinity_of_le h]
      exact le_self hy
  · rw [le_congr_left (unsigned_add_of_isFinite hr.round_zero hxfinite hz),
      le_congr_right (unsigned_add_of_isFinite hr.round_zero hyfinite hz)]
    rw [le_iff_of_isFinite hxfinite hyfinite] at h
    exact hr.round_le (by linarith)

theorem sub_le_sub_of_ne_nan (hr : r.IsMonotone) (h : x ≤ y) (hx : x.sub r z ≠ nan)
    (hy : y.sub r z ≠ nan) : x.sub r z ≤ y.sub r z :=
  add_le_add_of_ne_nan hr h hx hy

/-! ### Quotients by a count -/

theorem unsigned_div_natural (hr : r.round 0 = rational 0) (hx : x.isFinite = true) {n : Nat}
    (hn : 0 < n) : (x.div r (natural n)).unsigned = (r.round (x.value / n)).unsigned := by
  have hn0 : (n : Rat) ≠ 0 := Nat.cast_ne_zero.2 hn.ne'
  have hzero (negative : Bool) : (zero negative).unsigned = (r.round 0).unsigned := by
    rw [hr]
    cases negative <;> rfl
  cases x with
  | nan => cases hx
  | infinite negative => cases hx
  | negativeZero => simp [div, natural, hn0, hzero]
  | rational q =>
    by_cases hq : q = 0
    · simp [div, natural, hn0, hq, hzero]
    · simp [div, natural, hn0, hq]

/-- **A larger sum gives no smaller mean.** -/
theorem div_natural_le (hr : r.IsMonotone) (hx : x.isFinite = true) (hy : y.isFinite = true)
    (h : x ≤ y) {n : Nat} (hn : 0 < n) : x.div r (natural n) ≤ y.div r (natural n) := by
  rw [le_congr_left (unsigned_div_natural hr.round_zero hx hn),
    le_congr_right (unsigned_div_natural hr.round_zero hy hn)]
  rw [le_iff_of_isFinite hx hy] at h
  exact hr.round_le (div_le_div_of_nonneg_right h (Nat.cast_nonneg n))

/-! ### Rounded integers -/

theorem floor_eq_ok_iff {n : Int} :
    floor x = .ok n ↔ x.isFinite = true ∧ x.value.floor = n := by
  by_cases hx : x.isFinite = true
  · simp [floor_of_isFinite hx, hx]
  · cases x <;> simp_all [floor, isFinite, value?]

/-- What a magnitude is cut to, when one half was added. -/
def cut (r : Rounding) (a : Rat) : Int := (r.round (a + 1 / 2)).value.floor

theorem cut_mono (hr : r.IsMonotone) {a b : Rat} (h : a ≤ b)
    (ha : (r.round (a + 1 / 2)).isFinite = true) (hb : (r.round (b + 1 / 2)).isFinite = true) :
    cut r a ≤ cut r b := by
  have hstored := hr.round_le (add_le_add_left h (1 / 2))
  rw [le_iff_of_isFinite ha hb] at hstored
  exact Rat.floor_monotone hstored

theorem cut_zero (hr : r.IsMonotone) : cut r 0 = 0 := by
  rw [cut, zero_add, hr.round_half]
  exact floor_eq_of_le_of_lt (by norm_num) (by norm_num)

theorem roundHalfAway_eq_ok_iff (hr : r.IsMonotone) (hx : x.isFinite = true) {n : Int} :
    x.roundHalfAway r = .ok n ↔ (r.round (|x.value| + 1 / 2)).isFinite = true ∧
      n = if x.value < 0 then -cut r |x.value| else cut r |x.value| := by
  have hsum : x.abs.add r (rational (1 / 2)) = r.round (|x.value| + 1 / 2) := by
    rw [abs_eq_rational hx]
    rfl
  have hsign : (if x.isNegative then -cut r |x.value| else cut r |x.value|) =
      if x.value < 0 then -cut r |x.value| else cut r |x.value| := by
    cases x with
    | nan => cases hx
    | infinite negative => cases hx
    | negativeZero => simp [cut_zero hr]
    | rational q => by_cases hq : q < 0 <;> simp [isNegative, hq]
  rw [roundHalfAway, hsum, Traversal.bind_eq_ok_iff]
  simp only [floor_eq_ok_iff]
  constructor
  · rintro ⟨k, ⟨hfinite, rfl⟩, hn⟩
    exact ⟨hfinite, (Except.ok.inj hn).symm.trans hsign⟩
  · rintro ⟨hfinite, rfl⟩
    exact ⟨_, ⟨hfinite, rfl⟩, congrArg Except.ok hsign⟩

/-- **A larger number is not rounded to a smaller integer**, on either side of zero. -/
theorem roundHalfAway_mono (hr : r.IsMonotone) (hx : x.isFinite = true) (hy : y.isFinite = true)
    (h : x ≤ y) {m n : Int} (hm : x.roundHalfAway r = .ok m) (hn : y.roundHalfAway r = .ok n) :
    m ≤ n := by
  obtain ⟨hxcut, rfl⟩ := (roundHalfAway_eq_ok_iff hr hx).1 hm
  obtain ⟨hycut, rfl⟩ := (roundHalfAway_eq_ok_iff hr hy).1 hn
  rw [le_iff_of_isFinite hx hy] at h
  -- a magnitude is not cut below zero
  have hzero : (r.round (0 + 1 / 2)).isFinite = true := by
    rw [zero_add, hr.round_half]
    rfl
  have hxnonneg := cut_mono hr (abs_nonneg x.value) hzero hxcut
  have hynonneg := cut_mono hr (abs_nonneg y.value) hzero hycut
  rw [cut_zero hr] at hxnonneg hynonneg
  rcases lt_or_ge x.value 0 with hxneg | hxpos
  · rw [if_pos hxneg]
    rcases lt_or_ge y.value 0 with hyneg | hypos
    · -- of two negative values, the larger one has the smaller magnitude
      rw [if_pos hyneg]
      have habs : |y.value| ≤ |x.value| := by
        rw [abs_of_neg hyneg, abs_of_neg hxneg]
        linarith
      exact neg_le_neg (cut_mono hr habs hycut hxcut)
    · rw [if_neg (not_lt.2 hypos)]
      omega
  · rw [if_neg (not_lt.2 hxpos), if_neg (not_lt.2 (hxpos.trans h))]
    exact cut_mono hr (abs_le_abs_of_nonneg hxpos h) hxcut hycut

end Number

end StreetEnv
