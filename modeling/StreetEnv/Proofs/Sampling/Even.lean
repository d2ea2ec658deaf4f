import Mathlib.Algebra.Order.Field.Rat
import Mathlib.Algebra.Order.Ring.Abs
import Mathlib.Tactic.Ring
import StreetEnv.Proofs.Sampling.Nearest

/-!
# Evenly spaced axes

The cells of an evenly spaced axis lie side by side, and each entry is the centre of its cell.  The
side between two cells is half way between their centres.  So the nearest entry of a value is the
centre of the cell in which the value falls, the first of two cells on the side between them, and
the outermost cell beyond the ends.

* `Axis.centres` is such an axis, for cells of a positive or a negative size;
* `Axis.isNearest_centre`: the nearest centre of a value so many sizes away from the first side;
* `Axis.FallsInto`: the cell of a value, inside, on a side and beyond the ends;
* `Axis.IsNearest.fallsInto`: the nearest centre is that of the cell.
-/

namespace StreetEnv

namespace Axis

/-- The centres of `n` cells of the size `s`, of which the first one begins at `e`. -/
def centres (n : Nat) (e s : Rat) : List Number :=
  (List.range n).map fun i : Nat => .rational (e + (i + 1 / 2) * s)

variable {n k : Nat} {e s t : Rat} {v : Number}

@[simp] theorem length_centres : (centres n e s).length = n := by
  simp [centres]

theorem getElem_centres {i : Nat} (hi : i < (centres n e s).length) :
    (centres n e s)[i] = .rational (e + (i + 1 / 2) * s) := by
  simp [centres]

theorem isStrict_centres (hs : s ≠ 0) : IsStrict (centres n e s) := by
  refine ⟨fun x hx => ?_, ?_⟩
  · obtain ⟨i, -, rfl⟩ := List.mem_map.1 hx
    rfl
  · have hstep {i j : Nat} (hij : i < j) : (i : Rat) + 1 / 2 < j + 1 / 2 := by
      have hlt : (i : Rat) < j := Nat.cast_lt.2 hij
      linarith
    rcases lt_or_gt_of_ne hs with hneg | hpos
    · refine .inr (List.pairwise_map.2 (List.pairwise_lt_range.imp fun hij => ?_))
      rw [Number.lt_rational]
      linarith [mul_lt_mul_of_neg_right (hstep hij) hneg]
    · refine .inl (List.pairwise_map.2 (List.pairwise_lt_range.imp fun hij => ?_))
      rw [Number.lt_rational]
      linarith [mul_lt_mul_of_pos_right (hstep hij) hpos]

/-! ### The nearest centre -/

theorem abs_centre_sub_lt {i j : Nat} (hij : j < i) (ht : (i : Rat) < t) :
    |(i : Rat) + 1 / 2 - t| < |(j : Rat) + 1 / 2 - t| := by
  have hle : (j : Rat) + 1 ≤ i := by exact_mod_cast hij
  have hfar : |(j : Rat) + 1 / 2 - t| = t - (j + 1 / 2) := by
    rw [abs_of_neg (by linarith), neg_sub]
  rw [hfar, abs_lt]
  constructor
  · linarith
  · linarith

theorem abs_centre_sub_le {i : Nat} (ht : t ≤ i + 1) :
    |(i : Rat) + 1 / 2 - t| ≤ |((i + 1 : Nat) : Rat) + 1 / 2 - t| := by
  push_cast
  rw [abs_of_pos (by linarith : 0 < (i : Rat) + 1 + 1 / 2 - t), abs_le]
  constructor
  · linarith
  · linarith

/-- **The nearest centre** of a value that lies `t` sizes behind the first side: the cell begins
before the value and does not end before it, unless there is no other cell on that side. -/
theorem isNearest_centre (hs : s ≠ 0) (hv : v.value = e + t * s) (hk : k < n)
    (hlo : 0 < k → (k : Rat) < t) (hhi : k + 1 < n → t ≤ k + 1) :
    IsNearest (centres n e s) v k := by
  have hgap (i : Nat) (hi : i < (centres n e s).length) :
      gap v (centres n e s)[i] = |(i : Rat) + 1 / 2 - t| * |s| := by
    rw [gap, getElem_centres, Number.value_rational, hv, ← abs_mul]
    ring_nf
  have hpos : 0 < |s| := abs_pos.2 hs
  refine (isStrict_centres hs).isNearest (by simpa using hk) (fun j hj => ?_) fun hnext => ?_
  · rw [hgap, hgap]
    exact mul_lt_mul_of_pos_right (abs_centre_sub_lt hj (hlo (by omega))) hpos
  · rw [length_centres] at hnext
    rw [hgap, hgap]
    exact mul_le_mul_of_nonneg_right (abs_centre_sub_le (hhi hnext)) hpos.le

/-! ### The cell of a value -/

/-- Strictly between two numbers, whichever is the larger one. -/
def Between (a b x : Rat) : Prop := a < x ∧ x < b ∨ b < x ∧ x < a

/-- The cell `k` of `n` cells of the size `s` from `e` on is the one in which the value falls. -/
structure FallsInto (n : Nat) (e s x : Rat) (k : Nat) : Prop where
  /-- Inside a cell, it is this cell. -/
  inside : ∀ i < n, Between (e + i * s) (e + (i + 1) * s) x → k = i
  /-- On the side of two cells, it is the first of them. -/
  side : ∀ i, i + 1 < n → x = e + (i + 1) * s → k = i
  /-- Beyond the first cell, it is the first one. -/
  before : 0 < s ∧ x ≤ e ∨ s < 0 ∧ e ≤ x → k = 0
  /-- Beyond the last cell, it is the last one. -/
  behind : 0 < s ∧ e + n * s ≤ x ∨ s < 0 ∧ x ≤ e + n * s → k + 1 = n

theorem between_iff (hs : s ≠ 0) (i : Nat) :
    Between (e + i * s) (e + (i + 1) * s) (e + t * s) ↔ (i : Rat) < t ∧ t < i + 1 := by
  simp only [Between, add_lt_add_iff_left]
  rcases lt_or_gt_of_ne hs with hneg | hpos
  · simp only [mul_lt_mul_right_of_neg hneg]
    constructor
    · rintro (⟨h, h'⟩ | ⟨h, h'⟩)
      · linarith
      · exact ⟨h', h⟩
    · rintro ⟨h, h'⟩
      exact .inr ⟨h', h⟩
  · simp only [mul_lt_mul_iff_left₀ hpos]
    constructor
    · rintro (⟨h, h'⟩ | ⟨h, h'⟩)
      · exact ⟨h, h'⟩
      · linarith
    · exact .inl

/-- **The nearest centre is that of the cell in which the value falls.** -/
theorem IsNearest.fallsInto (hs : s ≠ 0) (hn : 0 < n) (h : IsNearest (centres n e s) v k) :
    FallsInto n e s v.value k := by
  obtain ⟨t, ht⟩ : ∃ t, v.value = e + t * s :=
    ⟨(v.value - e) / s, by rw [div_mul_cancel₀ _ hs]; ring⟩
  have heq {i : Nat} (hi : i < n) (hlo : 0 < i → (i : Rat) < t) (hhi : i + 1 < n → t ≤ i + 1) :
      k = i :=
    h.unique (isNearest_centre hs ht hi hlo hhi)
  rw [ht]
  refine ⟨fun i hi hx => ?_, fun i hi hx => ?_, fun hx => ?_, fun hx => ?_⟩
  · obtain ⟨hlo, hhi⟩ := (between_iff hs i).1 hx
    exact heq hi (fun _ => hlo) fun _ => hhi.le
  · have hside : t = i + 1 := mul_right_cancel₀ hs (add_left_cancel hx)
    exact heq (by omega) (fun _ => by linarith) fun _ => hside.le
  · have hzero : t ≤ 0 := by
      rcases hx with ⟨hpos, hle⟩ | ⟨hneg, hle⟩
      · exact nonpos_of_mul_nonpos_left (by linarith) hpos
      · exact nonpos_of_mul_nonneg_left (by linarith) hneg
    exact heq hn (fun hlt => absurd hlt (lt_irrefl 0)) fun _ => by push_cast; linarith
  · have hend : (n : Rat) ≤ t := by
      rcases hx with ⟨hpos, hle⟩ | ⟨hneg, hle⟩
      · exact le_of_mul_le_mul_right (by linarith) hpos
      · exact (mul_le_mul_right_of_neg hneg).1 (by linarith)
    have hlast : ((n - 1 : Nat) : Rat) < n := Nat.cast_lt.2 (by omega)
    have hk : k = n - 1 := heq (by omega) (fun _ => by linarith) fun hlt => by omega
    omega

end Axis

end StreetEnv
