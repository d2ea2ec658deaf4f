import Mathlib.Algebra.BigOperators.Ring.Finset
import Mathlib.Algebra.Order.BigOperators.Group.List
import StreetEnv.Proofs.Number.HalfAway

/-!
# The mean in double precision

The mean of doubles is their sum, rounded once, divided by their number and rounded again.

* `Number.sum_eq_round`: a sum that is not refused is the exact one, rounded;
* `Number.mean`: the mean as a function of the values;
* `Number.mean_of_sum`: the operations compute it, as long as no sum leaves the range;
* `Number.abs_mean_le`: it does not pass a power of two that no value passes;
* `Number.mean_le_of_sum`: nor a double that no value passes, when the sum is a double;
* `Number.mean_le_add_quarter`: among integers of at most 51 bits it is off by a quarter at most;
* `Number.IsModerate.roundedAway_mean_between`: so the rounded mean of such integers, and of those
  whose sum is a double, lies between two of them.
-/

namespace StreetEnv

namespace Number

open Format

variable {ys : List Rat} {xs : List Int} {B M v : Rat}

/-- The mean of doubles: the sum is rounded, and then the quotient. -/
def mean (ys : List Rat) : Rat := Format.double.nearest (Format.double.nearest ys.sum / ys.length)

/-! ### Sums -/

theorem abs_sum_le (h : ∀ y ∈ ys, |y| ≤ B) : |ys.sum| ≤ ys.length * B := by
  have hlo := List.card_nsmul_le_sum ys (-B) fun y hy => (abs_le.1 (h y hy)).1
  have hhi := List.sum_le_card_nsmul ys B fun y hy => (abs_le.1 (h y hy)).2
  rw [nsmul_eq_mul] at hlo hhi
  exact abs_le.2 ⟨by linarith, hhi⟩

theorem sum_eq_round {r : Rounding} {xs : List Number} {total : Number} (h : sum r xs = .ok total) :
    total = r.round (xs.map value).sum := by
  simp only [sum] at h
  split at h
  · rw [List.sum_eq_foldl]
    exact (Except.ok.inj h).symm
  · cases h

theorem runningSums_append (q : Rat) (xs ys : List Rat) :
    ∃ rest, runningSums q (xs ++ ys) = runningSums q xs ++ rest := by
  induction xs generalizing q with
  | nil => exact ⟨_, rfl⟩
  | cons x xs ih =>
    obtain ⟨rest, hrest⟩ := ih (q + x)
    exact ⟨rest, by rw [List.cons_append, runningSums, hrest]; rfl⟩

theorem exists_sum_of_append {r : Rounding} {xs ys : List Number} {total : Number}
    (h : sum r (xs ++ ys) = .ok total) : ∃ part, sum r xs = .ok part := by
  obtain ⟨rest, hrest⟩ := runningSums_append 0 (xs.map value) (ys.map value)
  simp only [sum, List.map_append, hrest, List.all_append] at h ⊢
  split at h
  · next hall =>
    rw [if_pos (Bool.and_eq_true _ _ ▸ hall).1]
    exact ⟨_, rfl⟩
  · cases h

theorem abs_le_of_mem_runningSums (h : ∀ y ∈ ys, |y| ≤ B) (hB : 0 ≤ B) {p q : Rat}
    (hp : p ∈ runningSums q ys) : |p| ≤ |q| + ys.length * B := by
  induction ys generalizing q with
  | nil => cases hp
  | cons y ys ih =>
    obtain ⟨hy, hys⟩ := List.forall_mem_cons.1 h
    have hstep : |q + y| ≤ |q| + B := (abs_add_le q y).trans (by linarith)
    have hrest : 0 ≤ (ys.length : Rat) * B := by positivity
    rw [List.length_cons, Nat.cast_succ, add_mul, one_mul]
    rcases List.mem_cons.1 hp with rfl | hp
    · linarith
    · linarith [ih hys hp]

theorem nearest_two_pow (j : Nat) : Format.double.nearest (2 ^ j) = 2 ^ j := by
  simpa using double_units (m := 1) (k := j) (by norm_num) (by omega)

theorem abs_nearest_le {j : Nat} (h : |v| ≤ 2 ^ j) : |Format.double.nearest v| ≤ 2 ^ j := by
  rw [← nearest_abs]
  exact nearest_le (by decide) h (nearest_two_pow j)

theorem round_of_abs_le {j : Nat} (hj : j < 1024) (h : |v| ≤ 2 ^ j) :
    (Format.double.round v).isFinite = true ∧
      (Format.double.round v).value = Format.double.nearest v := by
  have hrange : (2 : Rat) ^ j < 2 ^ 1024 := pow_lt_pow_right₀ (by norm_num) hj
  exact round_of_lt ((abs_nearest_le h).trans_lt hrange)

theorem count_mul_le {n : Nat} (hn : n ≤ 2 ^ 959) : (n : Rat) * 2 ^ 64 ≤ 2 ^ 1023 := by
  have hcount : (n : Rat) ≤ 2 ^ 959 := by exact_mod_cast hn
  calc (n : Rat) * 2 ^ 64
    _ ≤ 2 ^ 959 * 2 ^ 64 := mul_le_mul_of_nonneg_right hcount (by norm_num)
    _ = 2 ^ 1023 := (pow_add 2 959 64).symm

/-- A sum of moderate numbers is accepted, unless there are too many of them. -/
theorem sum_binary64 {xs : List Number} (hlength : xs.length ≤ 2 ^ 959)
    (h : ∀ x ∈ xs, |x.value| ≤ 2 ^ 64) :
    sum .binary64 xs = .ok (Format.double.round (xs.map value).sum) := by
  have hvalues : ∀ y ∈ xs.map value, |y| ≤ (2 : Rat) ^ 64 := List.forall_mem_map.2 h
  have hrunning : ∀ p ∈ runningSums 0 (xs.map value), |p| ≤ (2 : Rat) ^ 1023 := by
    intro p hp
    have hbound := abs_le_of_mem_runningSums hvalues (by norm_num) hp
    rw [abs_zero, zero_add, List.length_map] at hbound
    exact hbound.trans (count_mul_le hlength)
  have hall : ((runningSums 0 (xs.map value)).all fun q =>
      (Rounding.binary64.round q).isFinite) = true :=
    List.all_eq_true.2 fun p hp => (round_of_abs_le (by norm_num) (hrunning p hp)).1
  simp only [sum, hall, if_true, ← List.sum_eq_foldl]
  rfl

theorem div_binary64 {x : Number} (hx : x.isFinite = true) {n : Nat} (hn : 0 < n) {j : Nat}
    (hj : j < 1024) (hrange : |x.value / n| ≤ 2 ^ j) :
    (x.div .binary64 (rational n)).isFinite = true ∧
      (x.div .binary64 (rational n)).value = Format.double.nearest (x.value / n) := by
  have hn0 : (n : Rat) ≠ 0 := Nat.cast_ne_zero.2 hn.ne'
  have hpositive : (rational n).isNegative = false := by simp [isNegative]
  cases x with
  | nan => cases hx
  | infinite negative => cases hx
  | negativeZero =>
    simp only [div, hn0, value_rational, if_false, value_negativeZero, if_true, hpositive, zero_div,
      nearest_zero]
    exact ⟨rfl, rfl⟩
  | rational q =>
    simp only [div, value_rational, hn0, if_false, hpositive] at hrange ⊢
    split
    · next hq =>
      rw [hq, zero_div, nearest_zero]
      cases (rational q).isNegative <;> exact ⟨rfl, rfl⟩
    · exact round_of_abs_le hj hrange

/-! ### The mean -/

theorem abs_nearest_intCast_sub_le (n : Int) :
    |Format.double.nearest n - n| ≤ |(n : Rat)| / 2 ^ 53 := by
  rcases eq_or_ne n 0 with rfl | hn
  · simp
  · have hone : (1 : Rat) ≤ |(n : Rat)| := by exact_mod_cast Int.one_le_abs hn
    refine abs_nearest_sub_le_mul (f := .double) (LE.le.trans ?_ hone)
    rw [← zpow_zero (2 : Rat)]
    exact two_zpow_le (by decide)

theorem nearest_two_pow_mul (j : Nat) :
    Format.double.nearest (2 ^ j * (1 + 1 / 2 ^ 53)) = 2 ^ j := by
  have hpow : (0 : Rat) < 2 ^ j := by positivity
  have hulp : Format.double.ulp (2 ^ j * (1 + 1 / 2 ^ 53)) = 2 ^ ((j : Int) - 52) := by
    refine double_ulp_eq (by omega) ?_ ?_
    · rw [zpow_natCast]
      linarith
    · rw [zpow_add_one₀ (by norm_num), zpow_natCast]
      exact mul_lt_mul_of_pos_left (by norm_num) hpow
  have hunits : (2 ^ j * (1 + 1 / 2 ^ 53) : Rat) / 2 ^ ((j : Int) - 52) =
      ((2 ^ 52 : Int) : Rat) + 1 / 2 := by
    rw [zpow_sub₀ (by norm_num), zpow_natCast]
    field_simp
    norm_num
  rw [nearest, hulp, hunits, roundHalfEven_add_half, if_pos (by norm_num), zpow_sub₀ (by norm_num),
    zpow_natCast]
  push_cast
  field_simp

/-- The sum of values below a power of two is rounded to at most one unit above their number of
times that power. -/
theorem abs_nearest_sum_div_le (hne : ys ≠ []) {j : Nat} (h : ∀ y ∈ ys, |y| ≤ 2 ^ j) :
    |Format.double.nearest ys.sum / ys.length| ≤ 2 ^ j * (1 + 1 / 2 ^ 53) := by
  have hcount : (0 : Rat) < ys.length := Nat.cast_pos.2 (List.length_pos_iff.2 hne)
  -- the product is an integer, and the rounding keeps the order
  have hcast : ((ys.length * 2 ^ j : Int) : Rat) = ys.length * 2 ^ j := by push_cast; rfl
  have herror := abs_nearest_intCast_sub_le (ys.length * 2 ^ j)
  rw [hcast, abs_of_pos (by positivity : (0 : Rat) < ys.length * 2 ^ j)] at herror
  have hsum : |Format.double.nearest ys.sum| ≤ Format.double.nearest (ys.length * 2 ^ j) := by
    rw [← nearest_abs]
    exact nearest_mono (by decide) (abs_sum_le h)
  rw [abs_div, abs_of_pos hcount, div_le_iff₀ hcount]
  linarith [(abs_le.1 herror).2]

theorem abs_mean_le (hne : ys ≠ []) {j : Nat} (h : ∀ y ∈ ys, |y| ≤ 2 ^ j) :
    |mean ys| ≤ 2 ^ j := by
  rw [mean, ← nearest_abs]
  exact (nearest_mono (by decide) (abs_nearest_sum_div_le hne h)).trans (nearest_two_pow_mul j).le

/-- A mean of numbers is computed as the function `mean`, as long as no sum leaves the range. -/
theorem mean_of_sum {xs : List Number} (hne : xs ≠ []) (hlength : xs.length ≤ 2 ^ 959)
    (h : ∀ x ∈ xs, |x.value| ≤ 2 ^ 64) :
    ∃ total, sum .binary64 xs = .ok total ∧
      (total.div .binary64 (rational xs.length)).isFinite = true ∧
      (total.div .binary64 (rational xs.length)).value = mean (xs.map value) := by
  have hvalues : ∀ y ∈ xs.map value, |y| ≤ (2 : Rat) ^ 64 := List.forall_mem_map.2 h
  have hsum : |(xs.map value).sum| ≤ (2 : Rat) ^ 1023 := by
    refine (abs_sum_le hvalues).trans ?_
    rw [List.length_map]
    exact count_mul_le hlength
  obtain ⟨hfinite, hvalue⟩ := round_of_abs_le (by norm_num) hsum
  have hquotient := abs_nearest_sum_div_le (by simpa using hne) hvalues
  rw [List.length_map] at hquotient
  have hdiv := div_binary64 hfinite (List.length_pos_iff.2 hne) (j := 65) (by norm_num)
    (by rw [hvalue]; exact hquotient.trans (by norm_num))
  refine ⟨_, sum_binary64 hlength h, hdiv.1, ?_⟩
  rw [hdiv.2, hvalue, mean, List.length_map]

theorem mean_le_of_sum (hne : ys ≠ []) (hsum : Format.double.nearest ys.sum = ys.sum)
    (hM : Format.double.nearest M = M) (h : ∀ y ∈ ys, y ≤ M) : mean ys ≤ M := by
  have hcount : (0 : Rat) < ys.length := Nat.cast_pos.2 (List.length_pos_iff.2 hne)
  have hhi := List.sum_le_card_nsmul ys M h
  rw [nsmul_eq_mul] at hhi
  rw [mean, hsum]
  exact nearest_le (by decide) ((div_le_iff₀ hcount).2 (by linarith)) hM

theorem mean_nonneg (h : ∀ y ∈ ys, 0 ≤ y) : 0 ≤ mean ys :=
  nearest_nonneg (div_nonneg (nearest_nonneg (List.sum_nonneg h)) (Nat.cast_nonneg _))

theorem mean_neg (ys : List Rat) : mean (ys.map (-·)) = -mean ys := by
  have hsum : (ys.map (-·)).sum = -ys.sum := (List.sum_neg ys).symm
  rw [mean, hsum, List.length_map, nearest_neg, neg_div, nearest_neg, mean]

/-! ### Close to an integer -/

/-- Integers as rationals. -/
def rationals (xs : List Int) : List Rat := xs.map fun x : Int => (x : Rat)

@[simp] theorem length_rationals (xs : List Int) : (rationals xs).length = xs.length :=
  List.length_map ..

theorem sum_rationals (xs : List Int) : (rationals xs).sum = (xs.sum : Int) :=
  (Int.cast_list_sum xs).symm

theorem rationals_ne_nil (hne : xs ≠ []) : rationals xs ≠ [] := by
  simpa [rationals] using hne

theorem nearest_quarters {k : Int} (hk : |k| ≤ 2 ^ 53) :
    Format.double.nearest ((k : Rat) / 4) = k / 4 := by
  have hunit : (2 : Rat) ^ (-2 : Int) = 1 / 4 := by norm_num
  have hunits := double_units hk (k := -2) (by norm_num)
  rwa [hunit, mul_one_div] at hunits

theorem mean_le_add_quarter (hne : xs ≠ []) (hsmall : ∀ x ∈ xs, |x| < 2 ^ 51)
    {n : Int} (hn : |n| < 2 ^ 51) (h : ∀ x ∈ xs, x ≤ n) :
    mean (rationals xs) ≤ n + 1 / 4 := by
  have hcount : (0 : Rat) < xs.length := Nat.cast_pos.2 (List.length_pos_iff.2 hne)
  have hvalues : ∀ y ∈ rationals xs, |y| ≤ 2 ^ 51 := by
    refine List.forall_mem_map.2 fun x hx => ?_
    exact_mod_cast (hsmall x hx).le
  -- the sum loses less than a quarter for each value
  have herror := abs_le.1 (abs_nearest_intCast_sub_le xs.sum)
  have hbound := abs_sum_le hvalues
  have hhi : (xs.sum : Rat) ≤ xs.length * n := by
    have hle := List.sum_le_card_nsmul xs n h
    rw [nsmul_eq_mul] at hle
    exact_mod_cast hle
  rw [length_rationals, sum_rationals] at hbound
  -- a quarter is a unit or more there
  have hquarter : Format.double.nearest ((n : Rat) + 1 / 4) = n + 1 / 4 := by
    have hvalue : ((4 * n + 1 : Int) : Rat) / 4 = n + 1 / 4 := by
      push_cast
      ring
    rw [← hvalue]
    rw [abs_lt] at hn
    exact nearest_quarters (by rw [abs_le]; omega)
  rw [mean, sum_rationals, length_rationals]
  refine nearest_le (by decide) ((div_le_iff₀ hcount).2 ?_) hquarter
  have hloss : |(xs.sum : Rat)| / 2 ^ 53 ≤ xs.length / 4 := by
    rw [div_le_iff₀ (by norm_num)]
    linarith
  linarith [herror.2]

theorem roundedAway_le_of_le_add_quarter {n : Int} (hn : |n| < 2 ^ 51) (h : v ≤ n + 1 / 4) :
    roundedAway v ≤ n := by
  rw [abs_lt] at hn
  refine (roundedAway_mono h).trans (le_of_eq ?_)
  rcases le_or_gt 0 n with hpos | hneg
  · have hpos' : (0 : Rat) ≤ n := Int.cast_nonneg hpos
    have hvalue : (n : Rat) + 1 / 4 + 1 / 2 = ((4 * n + 3 : Int) : Rat) / 4 := by
      push_cast
      ring
    rw [roundedAway_of_nonneg (by linarith), hvalue, nearest_quarters (by rw [abs_le]; omega),
      ← hvalue]
    exact floor_eq_of_le_of_lt (by linarith) (by push_cast; linarith)
  · have hneg' : (n : Rat) ≤ ((-1 : Int) : Rat) := Int.cast_le.2 (by omega)
    push_cast at hneg'
    have hvalue : -((n : Rat) + 1 / 4) + 1 / 2 = ((-4 * n + 1 : Int) : Rat) / 4 := by
      push_cast
      ring
    have hround : roundedAway (-(n + 1 / 4)) = -n := by
      rw [roundedAway_of_nonneg (by linarith), hvalue, nearest_quarters (by rw [abs_le]; omega),
        ← hvalue]
      exact floor_eq_of_le_of_lt (by push_cast; linarith) (by push_cast; linarith)
    rw [roundedAway_neg] at hround
    omega

/-- An integer that is a double is rounded to itself, unless it is carried. -/
theorem roundedAway_intCast {n : Int} (hn : Format.double.nearest n = n)
    (hcarried : ¬ IsCarried |(n : Rat)|) : roundedAway n = n := by
  have habs : Format.double.nearest |(n : Rat)| = |(n : Rat)| := by rw [nearest_abs, hn]
  exact isNearestAway_intCast.1 ((isNearestAway_roundedAway habs).1 hcarried)

theorem roundedAway_of_abs_le {n : Int} (hn : |n| ≤ 2 ^ 52) : roundedAway n = n := by
  refine roundedAway_intCast (double_nearest_intCast (by omega)) ?_
  rw [← Int.cast_abs, isCarried_intCast]
  omega

theorem roundedAway_two_pow (j : Nat) : roundedAway (2 ^ j) = 2 ^ j := by
  have hcast : ((2 ^ j : Int) : Rat) = 2 ^ j := by push_cast; rfl
  have hnotCarried : ¬ IsCarried |((2 ^ j : Int) : Rat)| := by
    rw [← Int.cast_abs, abs_of_pos (by positivity), isCarried_intCast]
    rintro ⟨hlo, hhi, -⟩
    -- no power of two lies between two neighbouring ones
    have hlo' := (pow_lt_pow_iff_right₀ (by norm_num : (1 : Int) < 2)).1 hlo
    have hhi' := (pow_lt_pow_iff_right₀ (by norm_num : (1 : Int) < 2)).1 hhi
    omega
  have hround := roundedAway_intCast (by rw [hcast, nearest_two_pow]) hnotCarried
  rwa [hcast] at hround

theorem abs_roundedAway_le {j : Nat} (h : |v| ≤ 2 ^ j) : |roundedAway v| ≤ 2 ^ j := by
  obtain ⟨hlo, hhi⟩ := abs_le.1 h
  have hlo' := roundedAway_mono hlo
  have hhi' := roundedAway_mono hhi
  rw [roundedAway_neg, roundedAway_two_pow] at hlo'
  rw [roundedAway_two_pow] at hhi'
  exact abs_le.2 ⟨hlo', hhi'⟩

/-! ### The rounded mean of integers -/

/-- Integers that keep the rounded mean among them: they have at most 51 bits, or one more and a sum
that is a double. -/
def IsModerate (xs : List Int) : Prop :=
  (∀ x ∈ xs, |x| < 2 ^ 51) ∨
    (∀ x ∈ xs, |x| ≤ 2 ^ 52) ∧ Format.double.nearest xs.sum = xs.sum

theorem IsModerate.abs_le_two_pow (h : IsModerate xs) : ∀ x ∈ xs, |x| ≤ 2 ^ 52 := by
  rcases h with h | h
  · intro x hx
    have hsmall := h x hx
    omega
  · exact h.1

theorem IsModerate.neg (h : IsModerate xs) : IsModerate (xs.map (-·)) := by
  have hsum : (xs.map (-·)).sum = -xs.sum := (List.sum_neg xs).symm
  refine h.imp (fun h => ?_) fun h => ⟨?_, ?_⟩
  · exact List.forall_mem_map.2 fun x hx => by simpa using h x hx
  · exact List.forall_mem_map.2 fun x hx => by simpa using h.1 x hx
  · rw [hsum, Int.cast_neg, nearest_neg, h.2]

theorem abs_roundedAway_mean_le (hne : xs ≠ []) {j : Nat} (h : ∀ x ∈ xs, |x| ≤ 2 ^ j) :
    |roundedAway (mean (rationals xs))| ≤ 2 ^ j := by
  refine abs_roundedAway_le (abs_mean_le (rationals_ne_nil hne) ?_)
  refine List.forall_mem_map.2 fun x hx => ?_
  exact_mod_cast h x hx

theorem IsModerate.exists_roundedAway_mean_le (h : IsModerate xs) (hne : xs ≠ []) :
    ∃ x ∈ xs, roundedAway (mean (rationals xs)) ≤ x := by
  by_contra hall
  push Not at hall
  -- all of them are bounded by the predecessor, which is as small as they are
  obtain ⟨x, hx⟩ := List.exists_mem_of_ne_nil xs hne
  have hbelow (x : Int) (hx : x ∈ xs) : x ≤ roundedAway (mean (rationals xs)) - 1 := by
    have := hall x hx
    omega
  have hlow := hbelow x hx
  rcases h with hsmall | ⟨hsmall, hsum⟩
  · have hround := abs_roundedAway_mean_le hne fun x hx => (hsmall x hx).le
    have hx51 := hsmall x hx
    rw [abs_le] at hround
    rw [abs_lt] at hx51
    have hn : |roundedAway (mean (rationals xs)) - 1| < 2 ^ 51 := by rw [abs_lt]; omega
    have hle := roundedAway_le_of_le_add_quarter hn (mean_le_add_quarter hne hsmall hn hbelow)
    omega
  · have hround := abs_roundedAway_mean_le hne hsmall
    have hx52 := hsmall x hx
    rw [abs_le] at hround hx52
    have hn : |roundedAway (mean (rationals xs)) - 1| ≤ 2 ^ 52 := by rw [abs_le]; omega
    have hmean := mean_le_of_sum (rationals_ne_nil hne) (by rw [sum_rationals, hsum])
      (double_nearest_intCast (n := roundedAway (mean (rationals xs)) - 1) (by omega))
      (List.forall_mem_map.2 fun x hx => Int.cast_le.2 (hbelow x hx))
    have hle := roundedAway_mono hmean
    rw [roundedAway_of_abs_le hn] at hle
    omega

/-- **The rounded mean of moderate integers** lies between two of them. -/
theorem IsModerate.roundedAway_mean_between (h : IsModerate xs) (hne : xs ≠ []) :
    (∃ x ∈ xs, x ≤ roundedAway (mean (rationals xs))) ∧
      ∃ x ∈ xs, roundedAway (mean (rationals xs)) ≤ x := by
  refine ⟨?_, h.exists_roundedAway_mean_le hne⟩
  obtain ⟨y, hy, hle⟩ := h.neg.exists_roundedAway_mean_le (by simpa using hne)
  obtain ⟨x, hx, rfl⟩ := List.mem_map.1 hy
  have hneg : rationals (xs.map (-·)) = (rationals xs).map (-·) := by
    simp [rationals, Function.comp_def]
  rw [hneg, mean_neg, roundedAway_neg] at hle
  exact ⟨x, hx, by omega⟩

end Number

end StreetEnv
