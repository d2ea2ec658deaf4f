import Mathlib.Algebra.Order.Field.Rat
import Mathlib.Data.Rat.Floor
import Mathlib.Tactic.Linarith
import StreetEnv.Number.Arithmetic

/-!
# The nearest integer

Rounding to an integer takes a half to the even neighbour.  The result is at most one half away, and
these two facts determine it.

* `Number.roundHalfEven_eq_iff`: closer than a half, or half away and even;
* `Number.roundHalfEven_mono`, `Number.roundHalfEven_neg` and `Number.roundHalfEven_intCast`: it
  keeps the order, the sign and the integers;
* `Number.roundHalfEven_add_half`: a half between two integers;
* `Format.nearestQuotient_eq`: the same for a quotient of natural numbers.
-/

namespace StreetEnv

namespace Number

variable {p q : Rat} {n : Int}

theorem floor_eq_of_le_of_lt (hle : (n : Rat) ≤ q) (hlt : q < (n + 1 : Int)) : q.floor = n := by
  have h : n ≤ q.floor := Rat.le_floor_iff.2 hle
  have h' : q.floor < n + 1 := Rat.floor_lt_iff.2 hlt
  omega

theorem roundHalfEven_cases (q : Rat) :
    roundHalfEven q = q.floor ∧ q - q.floor ≤ 1 / 2 ∨
      roundHalfEven q = q.floor + 1 ∧ 1 / 2 ≤ q - q.floor := by
  unfold roundHalfEven
  dsimp only
  split
  · next h => exact .inl ⟨rfl, by linarith⟩
  · next h =>
    split
    · next h' => exact .inr ⟨rfl, by linarith⟩
    · next h' =>
      -- both neighbours are half away
      split
      · exact .inl ⟨rfl, by linarith⟩
      · exact .inr ⟨rfl, by linarith⟩

theorem abs_roundHalfEven_sub_le (q : Rat) : |(roundHalfEven q : Rat) - q| ≤ 1 / 2 := by
  have hle : (q.floor : Rat) ≤ q := Rat.floor_le q
  have hlt : q < ((q.floor + 1 : Int) : Rat) := Rat.lt_floor_add_one q
  push_cast at hlt
  rw [abs_le]
  rcases roundHalfEven_cases q with ⟨h, hnear⟩ | ⟨h, hnear⟩
  · rw [h]
    constructor <;> linarith
  · rw [h]
    push_cast
    constructor <;> linarith

theorem roundHalfEven_add_half (n : Int) :
    roundHalfEven (n + 1 / 2) = if n % 2 = 0 then n else n + 1 := by
  have hfloor : ((n : Rat) + 1 / 2).floor = n :=
    floor_eq_of_le_of_lt (by linarith) (by push_cast; linarith)
  have htwice : 2 * ((n : Rat) + 1 / 2 - n) = 1 := by ring
  simp only [roundHalfEven, hfloor, htwice, lt_self_iff_false, if_false]

theorem eq_or_neighbours {m : Int} (hn : |(n : Rat) - q| ≤ 1 / 2) (hm : |(m : Rat) - q| ≤ 1 / 2) :
    n = m ∨ (m = n + 1 ∧ q = n + 1 / 2) ∨ (n = m + 1 ∧ q = m + 1 / 2) := by
  rw [abs_le] at hn hm
  have hnm : ((n - 1 : Int) : Rat) ≤ m := by push_cast; linarith
  have hmn : ((m - 1 : Int) : Rat) ≤ n := by push_cast; linarith
  have hnm' : n - 1 ≤ m := Int.cast_le.1 hnm
  have hmn' : m - 1 ≤ n := Int.cast_le.1 hmn
  rcases (by omega : n = m ∨ m = n + 1 ∨ n = m + 1) with rfl | rfl | rfl
  · exact .inl rfl
  · push_cast at hm
    exact .inr (.inl ⟨rfl, by linarith⟩)
  · push_cast at hn
    exact .inr (.inr ⟨rfl, by linarith⟩)

/-- **The nearest integer**: closer than a half, or half away and even. -/
theorem roundHalfEven_eq_iff :
    roundHalfEven q = n ↔ |(n : Rat) - q| < 1 / 2 ∨ |(n : Rat) - q| = 1 / 2 ∧ n % 2 = 0 := by
  have hround := abs_roundHalfEven_sub_le q
  constructor
  · rintro rfl
    rcases hround.lt_or_eq with hlt | heq
    · exact .inl hlt
    · -- half away from the result, the rational lies half way between two integers
      refine .inr ⟨heq, ?_⟩
      rcases (abs_eq (by norm_num)).1 heq with h | h
      · have hq : q = ((roundHalfEven q - 1 : Int) : Rat) + 1 / 2 := by push_cast; linarith
        have hhalf := roundHalfEven_add_half (roundHalfEven q - 1)
        rw [← hq] at hhalf
        split at hhalf <;> omega
      · have hq : q = (roundHalfEven q : Rat) + 1 / 2 := by linarith
        have hhalf := roundHalfEven_add_half (roundHalfEven q)
        rw [← hq] at hhalf
        split at hhalf <;> omega
  · intro h
    have hn : |(n : Rat) - q| ≤ 1 / 2 := h.elim (fun h => h.le) fun h => le_of_eq h.1
    rcases eq_or_neighbours hround hn with heq | ⟨hnext, hq⟩ | ⟨hnext, hq⟩
    · exact heq
    · -- two integers are half away, and then the even one is taken
      have heven : n % 2 = 0 := by
        refine (h.resolve_left fun hlt => ?_).2
        have hfar : (n : Rat) - q = 1 / 2 := by rw [hq, hnext]; push_cast; ring
        rw [hfar, abs_of_pos (by norm_num)] at hlt
        exact hlt.false
      have hhalf := roundHalfEven_add_half (roundHalfEven q)
      rw [← hq] at hhalf
      split at hhalf <;> omega
    · have heven : n % 2 = 0 := by
        refine (h.resolve_left fun hlt => ?_).2
        have hfar : (n : Rat) - q = -(1 / 2) := by rw [hq]; ring
        rw [hfar, abs_neg, abs_of_pos (by norm_num)] at hlt
        exact hlt.false
      have hhalf := roundHalfEven_add_half n
      rw [← hq, if_pos heven] at hhalf
      exact hhalf

@[simp] theorem roundHalfEven_intCast (n : Int) : roundHalfEven n = n :=
  roundHalfEven_eq_iff.2 (.inl (by simp))

theorem roundHalfEven_add (n : Int) (hpos : 0 ≤ q) (h : q < 1 / 2) : roundHalfEven (n + q) = n := by
  refine roundHalfEven_eq_iff.2 (.inl ?_)
  rwa [sub_add_cancel_left, abs_neg, abs_of_nonneg hpos]

theorem roundHalfEven_neg (q : Rat) : roundHalfEven (-q) = -roundHalfEven q := by
  have hflip : |((-roundHalfEven q : Int) : Rat) - -q| = |(roundHalfEven q : Rat) - q| := by
    rw [← abs_neg]
    push_cast
    congr 1
    ring
  rw [roundHalfEven_eq_iff, hflip]
  refine (roundHalfEven_eq_iff.1 rfl).imp_right fun h => ⟨h.1, ?_⟩
  omega

theorem roundHalfEven_mono (h : p ≤ q) : roundHalfEven p ≤ roundHalfEven q := by
  by_contra hlt
  have hp := abs_le.1 (abs_roundHalfEven_sub_le p)
  have hq := abs_le.1 (abs_roundHalfEven_sub_le q)
  have hstep : ((roundHalfEven q + 1 : Int) : Rat) ≤ roundHalfEven p := Int.cast_le.2 (by omega)
  push_cast at hstep
  -- an inversion leaves no room between the two
  obtain rfl : p = q := by linarith
  exact hlt le_rfl

theorem roundHalfEven_le (h : q ≤ n) : roundHalfEven q ≤ n := by
  simpa using roundHalfEven_mono h

theorem le_roundHalfEven (h : (n : Rat) ≤ q) : n ≤ roundHalfEven q := by
  simpa using roundHalfEven_mono h

end Number

theorem Format.nearestQuotient_eq (a : Nat) {d : Nat} (hd : 0 < d) :
    (nearestQuotient a d : Int) = Number.roundHalfEven ((a : Rat) / d) := by
  have hd' : (0 : Rat) < d := Nat.cast_pos.2 hd
  have hsplit : (a : Rat) / d = (a / d : Nat) + (a % d : Nat) / d := by
    have hsum : (a : Rat) = d * (a / d : Nat) + (a % d : Nat) := by
      exact_mod_cast (Nat.div_add_mod a d).symm
    rw [div_eq_iff hd'.ne', add_mul, div_mul_cancel₀ _ hd'.ne']
    linarith
  have hrest : ((a % d : Nat) : Rat) / d < 1 := (div_lt_one hd').2 (Nat.cast_lt.2 (Nat.mod_lt a hd))
  have hrest' : (0 : Rat) ≤ ((a % d : Nat) : Rat) / d := by positivity
  have hfloor : ((a : Rat) / d).floor = (a / d : Nat) :=
    Number.floor_eq_of_le_of_lt (by rw [Int.cast_natCast]; linarith)
      (by rw [Int.cast_add, Int.cast_natCast, Int.cast_one]; linarith)
  have htwice : 2 * ((a : Rat) / d - ((a / d : Nat) : Int)) = (2 * (a % d) : Nat) / d := by
    rw [hsplit, Int.cast_natCast, Nat.cast_mul]
    ring
  have hbelow : ((2 * (a % d) : Nat) : Rat) / d < 1 ↔ 2 * (a % d) < d := by
    rw [div_lt_one hd', Nat.cast_lt]
  have habove : 1 < ((2 * (a % d) : Nat) : Rat) / d ↔ d < 2 * (a % d) := by
    rw [one_lt_div hd', Nat.cast_lt]
  simp only [nearestQuotient, Number.roundHalfEven, hfloor, htwice, hbelow, habove]
  split
  · rfl
  · split
    · rfl
    · split <;> split <;> omega

end StreetEnv
