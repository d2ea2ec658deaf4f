import StreetEnv.Proofs.Sampling.Nearest

/-!
# An axis in the other direction

Which of two storage orders an axis has decides which neighbour a value midway between two entries
gets, and nothing else: where one entry is nearest, the scans of the axis and of its reverse end at
it.  They need finite distances for that.  An axis that starts at infinity is not scanned at all.

* `Axis.IsDecided`: a value with a single nearest entry, which the rounding does not hide;
* `Axis.IsNearest.reverse`: the nearest entry of the reversed axis;
* `Axis.IsDecided.closestIndex_reverse`: the scans of both find the same entry.
-/

namespace StreetEnv

namespace Axis

variable {r : Rounding} {axis : List Number} {v : Number}

/-- The entries go strictly up, or strictly down. -/
def IsMonotone (axis : List Number) : Prop :=
  axis.Pairwise (· < ·) ∨ axis.Pairwise fun x y => y < x

theorem IsMonotone.reverse (h : IsMonotone axis) : IsMonotone axis.reverse := by
  rcases h with hup | hdown
  · exact .inr (List.pairwise_reverse.2 hup)
  · exact .inl (List.pairwise_reverse.2 hdown)

/-- The value is not in the middle of two neighbours. -/
def NotMidway (axis : List Number) (v : Number) : Prop :=
  ∀ (i : Nat) (a b : Number), axis[i]? = some a → axis[i + 1]? = some b →
    v.value ≠ (a.value + b.value) / 2

/-- The value lies midway between no two neighbours, and the rounded distances compare as the
distances do. -/
structure IsDecided (r : Rounding) (axis : List Number) (v : Number) : Prop
    extends Resolves r axis v where
  /-- The value is not in the middle of two neighbours. -/
  notMidway : NotMidway axis v

/-- Without rounding, every finite value is decided that lies midway between no two neighbours of
finite entries. -/
theorem IsStrict.isDecided_exact (h : IsStrict axis) (hv : v.isFinite = true)
    (hmid : NotMidway axis v) : IsDecided .exact axis v :=
  ⟨h.resolves_exact hv, hmid⟩

theorem not_distance_lt_of_infinite (negative : Bool) (v : Number) :
    ¬ distance r v (.infinite negative) < .infinite false := by
  cases v with
  | nan => exact Number.not_nan_lt _
  | infinite negative' => cases negative <;> cases negative' <;> exact Bool.false_ne_true
  | negativeZero => cases negative <;> exact Number.lt_irrefl _
  | rational q =>
    have hsum : (Number.infinite negative).sub r (.rational q) = .infinite negative := by
      show (Number.infinite negative).add r (-.rational q) = .infinite negative
      have hfinite := (Number.isFinite_neg (x := .rational q) rfl).1
      generalize -Number.rational q = y at hfinite
      cases y with
      | nan => cases hfinite
      | infinite negative => cases hfinite
      | negativeZero => rfl
      | rational q => rfl
    rw [distance, hsum]
    cases negative <;> exact Number.lt_irrefl _

theorem isFinite_of_distance_lt {x : Number} (h : distance r v x < .infinite false) :
    x.isFinite = true := by
  cases x with
  | nan => exact absurd h (by cases v <;> exact Number.not_nan_lt _)
  | infinite negative => exact absurd h (not_distance_lt_of_infinite negative v)
  | negativeZero => rfl
  | rational q => rfl

theorem Resolves.isStrict (hr : Resolves r axis v) (h : IsMonotone axis) : IsStrict axis :=
  ⟨fun x hx => isFinite_of_distance_lt (hr.lt_infinite x hx), h⟩

theorem Resolves.reverse (hr : Resolves r axis v) : Resolves r axis.reverse v :=
  ⟨fun x hx => hr.lt_infinite x (List.mem_reverse.1 hx), fun x hx y hy =>
    hr.lt_iff x (List.mem_reverse.1 hx) y (List.mem_reverse.1 hy)⟩

theorem midway_of_gap_eq {x y : Number} (hne : x.value ≠ y.value) (h : gap v x = gap v y) :
    v.value = (x.value + y.value) / 2 := by
  rcases abs_eq_abs.1 h with heq | hopposite
  · exact absurd (by linarith) hne
  · linarith

/-- All other entries are farther away than the nearest one, if the value lies midway between no two
neighbours. -/
theorem IsNearest.lt_of_ne (h : IsStrict axis) {k : Nat} (hlength : k < axis.length)
    (hk : IsNearest axis v k) (hmid : NotMidway axis v)
    {j : Nat} (hj : j < axis.length) (hjk : j ≠ k) : gap v axis[k] < gap v axis[j] := by
  rcases Nat.lt_or_gt_of_ne hjk with hlt | hgt
  · exact hk.lt j hlt
  · have hnext : k + 1 < axis.length := by omega
    have hle : gap v axis[k] ≤ gap v axis[k + 1] := hk.le (k + 1) hnext
    by_cases hadjacent : j = k + 1
    · subst hadjacent
      refine lt_of_le_of_ne hle fun heq => hmid k _ _ (List.getElem?_eq_getElem hlength)
        (List.getElem?_eq_getElem hnext) (midway_of_gap_eq ?_ heq)
      rcases h.monotone with hup | hdown
      · exact ne_of_lt (h.value_lt_of_ascending hup k (k + 1) (Nat.lt_succ_self k) hnext)
      · exact ne_of_gt (h.value_lt_of_descending hdown k (k + 1) (Nat.lt_succ_self k) hnext)
    · exact lt_of_le_of_lt hle (h.gap_lt_of_passed hlength hnext hj (.inl ⟨by omega, by omega⟩) hle)

/-- **The nearest entry of the reversed axis** is the same one. -/
theorem IsNearest.reverse (h : IsStrict axis) {k : Nat} (hk : IsNearest axis v k)
    (hmid : NotMidway axis v) :
    IsNearest axis.reverse v (axis.length - 1 - k) := by
  have hlength := hk.lt_length
  have hback : axis.length - 1 - (axis.length - 1 - k) = k := by omega
  refine ⟨by rw [List.length_reverse]; omega, fun j hj => ?_, fun j hj => ?_⟩
  · simp only [List.getElem_reverse, hback]
    exact hk.le _ _
  · simp only [List.getElem_reverse, hback]
    exact hk.lt_of_ne h hlength hmid (by omega) (by omega)

/-- **The scans of an axis and of its reverse find the same entry**, for a value that has a single
nearest one. -/
theorem IsDecided.closestIndex_reverse (hv : IsDecided r axis v) (h : IsMonotone axis)
    (hne : axis ≠ []) :
    ∃ k < axis.length, closestIndex r axis v = k ∧
      closestIndex r axis.reverse v = (axis.length - 1 - k : Nat) := by
  have hstrict := hv.isStrict h
  obtain ⟨k, hk, hnearest⟩ := hv.closestIndex_isNearest hstrict hne
  obtain ⟨m, hm, hreverse⟩ := hv.toResolves.reverse.closestIndex_isNearest
    (hv.toResolves.reverse.isStrict h.reverse) (by simpa using hne)
  obtain rfl := hreverse.unique (hnearest.reverse hstrict hv.notMidway)
  exact ⟨k, hnearest.lt_length, hk, hm⟩

end Axis

end StreetEnv
