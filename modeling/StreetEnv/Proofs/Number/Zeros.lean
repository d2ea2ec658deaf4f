import Mathlib.Algebra.Order.Group.Abs
import Mathlib.Algebra.Order.Ring.Rat
import StreetEnv.Number.Arithmetic
import StreetEnv.Proofs.Number.Order

/-!
# Exact distances, and numbers up to the sign of zero

Without rounding, the distance of two finite numbers is that of their rationals.

Two numbers are numerically the same if they differ at most in the sign of a zero.  Comparisons do
not see that sign, and sums keep such numbers the same.

* `Number.unsigned` forgets the sign of a zero;
* `Number.unsigned_eq_of_le_of_le`: numbers of which none is larger are numerically the same;
* `Number.unsigned_add_congr`: so are sums of numbers that are;
* `Number.foldl_least_congr` and `Number.foldl_greatest_congr`: so are the smallest and the largest
  of the same numbers in another order.
-/

namespace StreetEnv

/-! ### Exact distances -/

namespace Number

variable {x y : Number}

theorem abs_rational (q : Rat) : (rational q).abs = rational |q| := by
  by_cases h : q < 0
  · have hq : q ≠ 0 := ne_of_lt h
    simp only [abs, isNegative, h, decide_true, if_true, abs_of_neg h]
    exact if_neg hq
  · simp only [abs, isNegative, h, decide_false, abs_of_nonneg (not_lt.1 h)]
    rfl

theorem isFinite_neg (hx : x.isFinite = true) : (-x).isFinite = true ∧ (-x).value = -x.value := by
  cases x with
  | nan => cases hx
  | infinite negative => cases hx
  | negativeZero => exact ⟨rfl, rfl⟩
  | rational q =>
    have hneg : -rational q = if q = 0 then negativeZero else rational (-q) := rfl
    rw [hneg]
    split
    · next h => exact ⟨rfl, by simp [h]⟩
    · exact ⟨rfl, rfl⟩

theorem abs_add_exact (hx : x.isFinite = true) (hy : y.isFinite = true) :
    (x.add .exact y).abs = rational |x.value + y.value| := by
  cases x with
  | nan => cases hx
  | infinite negative => cases hx
  | negativeZero =>
    cases y with
    | nan => cases hy
    | infinite negative => cases hy
    | negativeZero => simp [add, abs, isNegative, Neg.neg, Number.neg]
    | rational q => exact abs_rational _
  | rational p =>
    cases y with
    | nan => cases hy
    | infinite negative => cases hy
    | negativeZero => exact abs_rational _
    | rational q => exact abs_rational _

theorem abs_sub_exact (hx : x.isFinite = true) (hy : y.isFinite = true) :
    (x.sub .exact y).abs = rational |x.value - y.value| := by
  obtain ⟨hfinite, hvalue⟩ := isFinite_neg hy
  rw [sub, abs_add_exact hx hfinite, hvalue, sub_eq_add_neg]

end Number

/-! ### The sign of zero -/

namespace Number

variable {x y z : Number} {r : Rounding}

/-- The number without the sign of a zero. -/
def unsigned : Number → Number
  | negativeZero => rational 0
  | x => x

@[simp] theorem side_unsigned (x : Number) : x.unsigned.side = x.side := by cases x <;> rfl

@[simp] theorem value_unsigned (x : Number) : x.unsigned.value = x.value := by cases x <;> rfl

@[simp] theorem unsigned_eq_nan_iff : x.unsigned = nan ↔ x = nan := by cases x <;> simp [unsigned]

theorem lt_unsigned_iff : x.unsigned < y.unsigned ↔ x < y := by
  simp [lt_iff]

theorem le_unsigned_iff : x.unsigned ≤ y.unsigned ↔ x ≤ y := by
  by_cases hnan : x = nan ∨ y = nan
  · -- no comparison holds with a number that is none
    have hnot (x y : Number) (hnan : x = nan ∨ y = nan) : ¬ x ≤ y := by
      intro h
      obtain ⟨hx, hy⟩ := ne_nan_of_le h
      exact hnan.elim hx hy
    have hnan' : x.unsigned = nan ∨ y.unsigned = nan := by simpa using hnan
    exact iff_of_false (hnot _ _ hnan') (hnot _ _ hnan)
  · obtain ⟨hx, hy⟩ := not_or.1 hnan
    have hx' : x.unsigned ≠ nan := by simpa using hx
    have hy' : y.unsigned ≠ nan := by simpa using hy
    rw [le_iff_not_lt hx hy, le_iff_not_lt hx' hy', lt_unsigned_iff]

theorem le_congr_left (h : x.unsigned = y.unsigned) : x ≤ z ↔ y ≤ z := by
  rw [← le_unsigned_iff, h, le_unsigned_iff]

theorem le_congr_right (h : x.unsigned = y.unsigned) : z ≤ x ↔ z ≤ y := by
  rw [← le_unsigned_iff, h, le_unsigned_iff]

/-- **Numbers of which none is larger are numerically the same.** -/
theorem unsigned_eq_of_le_of_le (hxy : x ≤ y) (hyx : y ≤ x) : x.unsigned = y.unsigned := by
  obtain ⟨hx, hy⟩ := ne_nan_of_le hxy
  rw [le_iff_not_lt hx hy, lt_iff] at hxy
  rw [le_iff_not_lt hy hx, lt_iff] at hyx
  have hside : x.side = y.side := by grind
  have hvalue : x.value = y.value := by grind
  rcases x with _ | (_ | _) | _ | p <;> rcases y with _ | (_ | _) | _ | q <;>
    simp_all [unsigned, side]

/-! ### Sums -/

theorem unsigned_add_unsigned (hr : r.round 0 = rational 0) (x y : Number) :
    (x.unsigned.add r y).unsigned = (x.add r y).unsigned := by
  cases x with
  | nan => rfl
  | infinite negative => rfl
  | rational q => rfl
  | negativeZero =>
    cases y with
    | nan => rfl
    | infinite negative => rfl
    | rational q => rfl
    | negativeZero =>
      have hzero : (rational 0).add r negativeZero = r.round (0 + 0) := rfl
      rw [unsigned, hzero, Rat.add_zero, hr]
      rfl

theorem unsigned_add_congr (hr : r.round 0 = rational 0) (h : x.unsigned = y.unsigned) :
    (x.add r z).unsigned = (y.add r z).unsigned := by
  rw [← unsigned_add_unsigned hr, h, unsigned_add_unsigned hr]

/-! ### The best of the same numbers -/

theorem foldl_least_nan (xs : List Number) : xs.foldl least nan = nan := by
  induction xs with
  | nil => rfl
  | cons x xs ih =>
    have hkept : least nan x = nan := if_neg (not_lt_nan x)
    rw [List.foldl_cons, hkept, ih]

theorem foldl_greatest_nan (xs : List Number) : xs.foldl greatest nan = nan := by
  induction xs with
  | nil => rfl
  | cons x xs ih =>
    have hkept : greatest nan x = nan := if_neg (not_nan_lt x)
    rw [List.foldl_cons, hkept, ih]

variable {a b : Number} {xs ys : List Number}

/-- **The smallest of the same numbers is numerically the same**, unless one of the two orders
begins with `nan`. -/
theorem foldl_least_congr (ha : a ≠ nan) (hb : b ≠ nan)
    (h : ∀ x, x ∈ a :: xs ↔ x ∈ b :: ys) :
    (xs.foldl least a).unsigned = (ys.foldl least b).unsigned := by
  obtain ⟨hmem, hle⟩ := foldl_least ha xs
  obtain ⟨hmem', hle'⟩ := foldl_least hb ys
  have hne := (ne_nan_of_le (hle a List.mem_cons_self ha)).1
  have hne' := (ne_nan_of_le (hle' b List.mem_cons_self hb)).1
  exact unsigned_eq_of_le_of_le (hle _ ((h _).2 hmem') hne') (hle' _ ((h _).1 hmem) hne)

/-- **The largest of the same numbers is numerically the same**, unless one of the two orders begins
with `nan`. -/
theorem foldl_greatest_congr (ha : a ≠ nan) (hb : b ≠ nan)
    (h : ∀ x, x ∈ a :: xs ↔ x ∈ b :: ys) :
    (xs.foldl greatest a).unsigned = (ys.foldl greatest b).unsigned := by
  obtain ⟨hmem, hle⟩ := foldl_greatest ha xs
  obtain ⟨hmem', hle'⟩ := foldl_greatest hb ys
  have hne := (ne_nan_of_le (hle a List.mem_cons_self ha)).2
  have hne' := (ne_nan_of_le (hle' b List.mem_cons_self hb)).2
  exact unsigned_eq_of_le_of_le (hle' _ ((h _).1 hmem) hne) (hle _ ((h _).2 hmem') hne')

theorem foldl_greatest_perm (a : Number) (h : xs.Perm ys) :
    (xs.foldl greatest a).unsigned = (ys.foldl greatest a).unsigned := by
  by_cases ha : a = nan
  · rw [ha, foldl_greatest_nan, foldl_greatest_nan]
  · exact foldl_greatest_congr ha ha fun x => (h.cons a).mem_iff

end Number

end StreetEnv
