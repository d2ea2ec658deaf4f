import StreetEnv.Proofs.Grid.Mirror
import StreetEnv.Proofs.Number.Range

/-!
# Where a lookup starts

The scan of an axis takes its first entry only if this comes closer than infinity.  So the nearest
index is the index of an entry exactly if the first entry is finite and its distance is in the range
of doubles.  Otherwise it is the index before the axis, and the lookup reads the last row or column.

* `Axis.closestIndex_nonneg_iff`: the first comparison decides;
* `Axis.StartsInReach`: what it asks of an axis of doubles;
* `Axis.IsLookup`: what a lookup in one axis does;
* `AirQualityFile.isLookup_of_isValid`: so do the lookups in both axes of a valid file.
-/

namespace StreetEnv

theorem Number.abs_lt_infinite_iff {x : Number} : x.abs < .infinite false ↔ x.isFinite = true := by
  cases x with
  | nan => exact iff_of_false (Number.not_nan_lt _) Bool.false_ne_true
  | infinite negative =>
    refine iff_of_false ?_ Bool.false_ne_true
    cases negative
    · exact Number.lt_irrefl _
    · exact Number.lt_irrefl _
  | negativeZero => exact iff_of_true rfl rfl
  | rational q => exact iff_of_true (by rw [Number.abs_rational]; rfl) rfl

namespace Axis

open AirQualityPass

variable {axis : List Number} {v : Number}

/-- **The first comparison decides** whether the nearest index is that of an entry. -/
theorem closestIndex_nonneg_iff {r : Rounding} :
    0 ≤ closestIndex r axis v ↔
      ∃ x, axis.head? = some x ∧ distance r v x < .infinite false := by
  cases axis with
  | nil => exact iff_of_false (by simp [closestIndex, scan]) (by simp)
  | cons x xs =>
    simp only [List.head?_cons, Option.some.injEq, exists_eq_left']
    by_cases hx : distance r v x < .infinite false
    · have hscan : closestIndex r (x :: xs) v = scan r v (distance r v x) 1 xs := if_pos hx
      have hle := le_scan (r := r) v (distance r v x) 1 xs
      refine iff_of_true ?_ hx
      rw [hscan]
      omega
    · have hscan : closestIndex r (x :: xs) v = -1 := if_neg hx
      refine iff_of_false ?_ hx
      rw [hscan]
      decide

/-- The index is that of an entry. -/
def IsIndex (axis : List Number) (i : Int) : Prop := 0 ≤ i ∧ i < axis.length

/-- The first entry is finite, and its distance from the value is in the range of doubles. -/
def StartsInReach (axis : List Number) (v : Number) : Prop :=
  ∃ x, axis.head? = some x ∧ x.isFinite = true ∧ |x.value - v.value| < Number.beyond

theorem isIndex_closestIndex_iff (hv : v.isFinite = true) :
    IsIndex axis (closestIndex .binary64 axis v) ↔ StartsInReach axis v := by
  have hindex : IsIndex axis (closestIndex .binary64 axis v) ↔ 0 ≤ closestIndex .binary64 axis v :=
    and_iff_left (closestIndex_lt axis v)
  have hreach (x : Number) : distance .binary64 v x < .infinite false ↔
      x.isFinite = true ∧ |x.value - v.value| < Number.beyond := by
    constructor
    · intro h
      have hx := isFinite_of_distance_lt h
      exact ⟨hx, (Number.isFinite_sub_iff hx hv).1 (Number.abs_lt_infinite_iff.1 h)⟩
    · rintro ⟨hx, hrange⟩
      exact Number.abs_lt_infinite_iff.2 ((Number.isFinite_sub_iff hx hv).2 hrange)
  rw [hindex, closestIndex_nonneg_iff]
  simp only [hreach]
  rfl

/-- What a lookup of a value in an axis does: the scan gives the index of an entry, and the place
that is read has this index, exactly if the scan starts in reach.  Otherwise it gives the index
before the axis, and the last place is read. -/
structure IsLookup (axis : List Number) (v : Number) (place : Nat) : Prop where
  /-- The scan gives the index of an entry exactly if it starts in reach. -/
  isIndex_iff : IsIndex axis (closestIndex .binary64 axis v) ↔ StartsInReach axis v
  /-- Then this entry is read. -/
  eq_of_inReach : StartsInReach axis v → closestIndex .binary64 axis v = place
  /-- Otherwise the index is the one before the axis, and the last entry is read. -/
  last_of_outOfReach : ¬ StartsInReach axis v →
    closestIndex .binary64 axis v = -1 ∧ place = axis.length - 1

/-- **A lookup** of a finite value in an axis that has an entry. -/
theorem isLookup (hne : axis ≠ []) (hv : v.isFinite = true) :
    IsLookup axis v (position (closestIndex .binary64 axis v) axis.length) := by
  have hiff : IsIndex axis (closestIndex .binary64 axis v) ↔ StartsInReach axis v :=
    isIndex_closestIndex_iff hv
  refine ⟨hiff, fun hreach => ?_, fun hreach => ?_⟩
  · obtain ⟨k, hk⟩ := Int.eq_ofNat_of_zero_le (hiff.2 hreach).1
    rw [hk, position_natCast]
  · -- the index is no index of an entry, and not below the one before the axis
    have hlow := neg_one_le_closestIndex (r := .binary64) axis v
    have hhigh := closestIndex_lt (r := .binary64) axis v
    have hbefore : closestIndex .binary64 axis v = -1 := by
      have hnone : ¬ 0 ≤ closestIndex .binary64 axis v := fun h => hreach (hiff.1 ⟨h, hhigh⟩)
      omega
    have hlength : 0 < axis.length := List.length_pos_iff.2 hne
    refine ⟨hbefore, ?_⟩
    rw [hbefore, position, if_pos (by decide)]
    omega

end Axis

namespace AirQualityPass

theorem axis_ne_nil {a : DataArray} (ha : a.IsAxis) : axis a ≠ [] := by
  rw [← List.length_pos_iff, length_axis]
  exact Nat.pos_of_ne_zero ha.2

end AirQualityPass

namespace AirQualityFile

open AirQualityPass

/-- **The nearest row and column of a finite point in a valid file.**  Each is the index of an entry
exactly if the first entry of its axis is finite and its distance from the point is in the range of
doubles; otherwise the index is the one before the axis, and the last row or column is read. -/
theorem isLookup_of_isValid (file : AirQualityFile) (hvalid : file.isValid = true) :
    ∃ g, file.grid? = some g ∧ ∀ c : Coordinate, c.x.isFinite = true → c.y.isFinite = true →
      let place := nearestOn .binary64 (axis g.latitude) (axis g.longitude) c
      Axis.IsLookup (axis g.latitude) c.y place.1 ∧
        Axis.IsLookup (axis g.longitude) c.x place.2 := by
  obtain ⟨g, hgrid⟩ := exists_grid_of_isValid hvalid
  refine ⟨g, hgrid, fun c hx hy => ⟨?_, ?_⟩⟩
  · exact Axis.isLookup (axis_ne_nil g.latitude_isAxis) hy
  · exact Axis.isLookup (axis_ne_nil g.longitude_isAxis) hx

/-- The grid whose columns begin infinitely far west: a point beside its middle column has its row,
and the last column instead of the middle one. -/
theorem isLookup_of_isValid_open :
    let file : AirQualityFile := ⟨.ofText "open.nc", .grid Strip.openGrid⟩
    file.isValid = true ∧
      Axis.closestIndex .binary64 (axis Strip.openGrid.latitude) 0 = 0 ∧
      Axis.closestIndex .binary64 (axis Strip.openGrid.longitude) 1 = -1 ∧
      nearestOn .binary64 (axis Strip.openGrid.latitude) (axis Strip.openGrid.longitude) ⟨1, 0⟩ =
        (0, 2) := by
  intro file
  obtain ⟨g, hg, hlookup⟩ := isLookup_of_isValid file rfl
  obtain rfl : Strip.openGrid = g := Option.some.inj hg
  obtain ⟨hrow, hcolumn⟩ := hlookup ⟨1, 0⟩ rfl rfl
  have hnorth : Axis.StartsInReach (axis Strip.openGrid.latitude) 0 :=
    ⟨0, by decide +kernel, rfl, Number.lt_beyond_of_le (j := 0) (by decide) (by norm_num)⟩
  have hwest : ¬ Axis.StartsInReach (axis Strip.openGrid.longitude) 1 := by
    rintro ⟨x, hx, hfinite, -⟩
    have hhead : (axis Strip.openGrid.longitude).head? = some (.infinite true) := by decide +kernel
    rw [hhead] at hx
    cases hx
    cases hfinite
  have hfirst : (nearestOn .binary64 (axis Strip.openGrid.latitude)
      (axis Strip.openGrid.longitude) ⟨1, 0⟩).1 = 0 := by decide +kernel
  have hindex := hrow.eq_of_inReach hnorth
  obtain ⟨hbefore, hlast⟩ := hcolumn.last_of_outOfReach hwest
  refine ⟨rfl, ?_, hbefore, Prod.ext hfirst ?_⟩
  · rw [hindex, hfirst]
    rfl
  · rw [hlast]
    decide +kernel

/-- Not every nearest index in a valid file is that of an entry. -/
theorem exists_index_before_axis :
    ¬ ∀ (file : AirQualityFile) (g : AirQualityGrid) (c : Coordinate), file.isValid = true →
      file.grid? = some g → c.x.isFinite = true → c.y.isFinite = true →
        Axis.IsIndex (axis g.longitude) (Axis.closestIndex .binary64 (axis g.longitude) c.x) := by
  intro h
  have hindex := h ⟨.ofText "open.nc", .grid Strip.openGrid⟩ Strip.openGrid ⟨1, 0⟩ rfl rfl rfl rfl
  have hbefore : Axis.closestIndex .binary64 (axis Strip.openGrid.longitude) 1 = -1 := by
    decide +kernel
  exact absurd (hbefore ▸ hindex.1) (by decide)

end AirQualityFile

end StreetEnv
