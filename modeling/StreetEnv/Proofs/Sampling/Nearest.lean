import Mathlib.Algebra.Order.Ring.Rat
import Mathlib.Data.Nat.Find
import Mathlib.Tactic.Linarith
import StreetEnv.Proofs.Number.Zeros
import StreetEnv.Sampling.Sampler

/-!
# The nearest entry of an axis

The scan of an axis answers an index of the axis or the index `-1` before its first entry, whatever
numbers the axis holds.  It follows the axis as long as the entries come closer.

* `Axis.neg_one_le_closestIndex` and `Axis.closestIndex_lt` are the bounds of the answer;
* `Axis.closestIndex_eq_of_descent`: the answer is where the distances cease to fall;
* `Axis.exists_closestIndex_eq`: there is such a place.

Along a strictly monotone axis the distances from a value fall, entry by entry, as long as the axis
comes closer to the value, and rise from then on.  A scan that stops before the first distance that
does not fall has therefore found the least of all.

* `Axis.IsStrict`: finite entries that go strictly up or strictly down;
* `Axis.lt_of_passed`: behind an entry that is not closer than the one before, distances rise;
* `Axis.IsNearest`: the first of the entries at the least distance;
* `Axis.Resolves.closestIndex_isNearest`: the scan finds it, unless the rounding hides it;
* `Axis.closestIndex_isNearest`: so it does without rounding;
* `Axis.closestIndex_exact_of_le`: the index nearest to a value below the axis;
* `Axis.closestIndex_first_nearest`: the nearest index, at the ends and midway too.
-/

namespace StreetEnv

/-! ### The range of the scan -/

namespace Axis

variable {r : Rounding}

theorem le_scan (v best : Number) (next : Int) (axis : List Number) :
    next - 1 ≤ scan r v best next axis := by
  induction axis generalizing best next with
  | nil => exact Int.le_refl _
  | cons c cs ih =>
    simp only [scan]
    split
    · have := ih (c.sub r v).abs (next + 1)
      omega
    · exact Int.le_refl _

theorem scan_lt (v best : Number) (next : Int) (axis : List Number) :
    scan r v best next axis < next + axis.length := by
  induction axis generalizing best next with
  | nil => simp only [scan, List.length_nil]; omega
  | cons c cs ih =>
    simp only [scan, List.length_cons]
    split
    · have := ih (c.sub r v).abs (next + 1)
      omega
    · omega

theorem neg_one_le_closestIndex (axis : List Number) (v : Number) :
    -1 ≤ closestIndex r axis v :=
  le_scan v _ 0 axis

theorem closestIndex_lt (axis : List Number) (v : Number) :
    closestIndex r axis v < axis.length := by
  simpa [closestIndex] using scan_lt (r := r) v (.infinite false) 0 axis

/-! ### Where the scan stops -/

/-- The distance of an entry from a value. -/
def distance (r : Rounding) (v c : Number) : Number := (c.sub r v).abs

theorem scan_eq_of_descent {v best : Number} {next : Int} {axis : List Number} {k : Nat}
    (hk : k < axis.length) (hfirst : distance r v (axis[0]) < best)
    (hdown : ∀ i (_ : i + 1 < axis.length), i < k →
      distance r v axis[i + 1] < distance r v axis[i])
    (hstop : ∀ _ : k + 1 < axis.length, ¬ distance r v axis[k + 1] < distance r v axis[k]) :
    scan r v best next axis = next + k := by
  induction axis generalizing best next k with
  | nil => simp at hk
  | cons c cs ih =>
    have hscan : scan r v best next (c :: cs) = scan r v (distance r v c) (next + 1) cs :=
      if_pos hfirst
    rw [hscan]
    cases k with
    | zero =>
      cases cs with
      | nil => simp [scan]
      | cons c' cs =>
        have hfar : ¬ distance r v c' < distance r v c := hstop (by simp)
        have hscan' : scan r v (distance r v c) (next + 1) (c' :: cs) = next + 1 - 1 :=
          if_neg hfar
        rw [hscan']
        omega
    | succ k =>
      have hk' : k < cs.length := by simpa using hk
      have hcloser : distance r v (cs[0]) < distance r v c := hdown 0 (by simp; omega) (by omega)
      rw [ih hk' hcloser]
      · omega
      · intro i hi hik
        exact hdown (i + 1) (by simpa using hi) (by omega)
      · intro h
        exact hstop (by simpa using h)

/-- **The nearest index is where the distances cease to fall**, if the first one is finite. -/
theorem closestIndex_eq_of_descent {v : Number} {axis : List Number} {k : Nat}
    (hk : k < axis.length) (hfirst : distance r v (axis[0]) < .infinite false)
    (hdown : ∀ i (_ : i + 1 < axis.length), i < k →
      distance r v axis[i + 1] < distance r v axis[i])
    (hstop : ∀ _ : k + 1 < axis.length, ¬ distance r v axis[k + 1] < distance r v axis[k]) :
    closestIndex r axis v = k := by
  rw [closestIndex, scan_eq_of_descent hk hfirst hdown hstop, Int.zero_add]

theorem exists_closestIndex_eq {v : Number} {axis : List Number} (hne : axis ≠ [])
    (hfirst : ∀ _ : 0 < axis.length, distance r v (axis[0]) < .infinite false) :
    ∃ k, ∃ _ : k < axis.length, closestIndex r axis v = k ∧
      (∀ i (_ : i + 1 < axis.length), i < k →
        distance r v axis[i + 1] < distance r v axis[i]) ∧
      ∀ _ : k + 1 < axis.length, ¬ distance r v axis[k + 1] < distance r v axis[k] := by
  have hlength : 0 < axis.length := List.length_pos_iff.2 hne
  -- the first entry whose successor, if it has one, is not closer
  let Stops (k : Nat) : Prop :=
    ∀ _ : k + 1 < axis.length, ¬ distance r v axis[k + 1] < distance r v axis[k]
  have hstops : ∃ k, Stops k := ⟨axis.length - 1, fun h => by omega⟩
  let k := Nat.find hstops
  have hk : k ≤ axis.length - 1 := Nat.find_min' hstops fun h => by omega
  have hdown (i : Nat) (hi : i + 1 < axis.length) (hik : i < k) :
      distance r v axis[i + 1] < distance r v axis[i] := by
    by_contra hfar
    exact Nat.find_min hstops hik fun _ => hfar
  have hstop : Stops k := Nat.find_spec hstops
  have hk' : k < axis.length := by omega
  exact ⟨k, hk', closestIndex_eq_of_descent hk' (hfirst hlength) hdown hstop, hdown, hstop⟩

end Axis

/-! ### Monotone axes -/

namespace Axis

/-- The entries are finite and go strictly up, or strictly down. -/
structure IsStrict (axis : List Number) : Prop where
  /-- The entries are finite. -/
  isFinite : ∀ x ∈ axis, x.isFinite = true
  /-- They go strictly up, or strictly down. -/
  monotone : axis.Pairwise (· < ·) ∨ axis.Pairwise fun x y => y < x

variable {axis : List Number} {v : Number}

/-! ### Distances -/

/-- What lies behind an entry, seen from a value that the entry has on its other side, is farther
away. -/
theorem lt_of_beyond {b c v : Rat} (h : v ≤ b ∧ b < c ∨ c < b ∧ b ≤ v) : |b - v| < |c - v| := by
  rcases h with ⟨hv, hc⟩ | ⟨hc, hv⟩
  · rw [abs_of_nonneg (sub_nonneg.2 hv), abs_of_nonneg (by linarith)]
    linarith
  · rw [abs_of_nonpos (sub_nonpos.2 hv), abs_of_nonpos (by linarith)]
    linarith

/-- Of three entries in a row, the second is not closer than the first.  Then the third is farther
away. -/
theorem lt_of_passed {a b c v : Rat} (hrow : a < b ∧ b < c ∨ c < b ∧ b < a)
    (hpassed : |a - v| ≤ |b - v|) : |b - v| < |c - v| := by
  -- the value is not behind the second entry, or that one would be closer
  rcases hrow with ⟨hab, hbc⟩ | ⟨hcb, hba⟩
  · refine lt_of_beyond (.inl ⟨?_, hbc⟩)
    by_contra hv
    rw [abs_of_nonpos (by linarith), abs_of_nonpos (by linarith)] at hpassed
    linarith
  · refine lt_of_beyond (.inr ⟨hcb, ?_⟩)
    by_contra hv
    rw [abs_of_nonneg (by linarith), abs_of_nonneg (by linarith)] at hpassed
    linarith

/-- The distance of an entry without rounding. -/
def gap (v x : Number) : Rat := |x.value - v.value|

theorem distance_exact {x : Number} (hx : x.isFinite = true) (hv : v.isFinite = true) :
    distance .exact v x = .rational (gap v x) :=
  Number.abs_sub_exact hx hv

theorem distance_exact_lt_iff {x y : Number} (hx : x.isFinite = true) (hy : y.isFinite = true)
    (hv : v.isFinite = true) : distance .exact v x < distance .exact v y ↔ gap v x < gap v y := by
  rw [distance_exact hx hv, distance_exact hy hv, Number.lt_rational]

namespace IsStrict

theorem isFinite_get (h : IsStrict axis) {i : Nat} (hi : i < axis.length) :
    axis[i].isFinite = true :=
  h.isFinite _ (List.getElem_mem hi)

theorem value_lt_of_ascending (h : IsStrict axis) (hup : axis.Pairwise (· < ·)) (i j : Nat)
    (hij : i < j) (hj : j < axis.length) : axis[i].value < axis[j].value := by
  have hlt : axis[i] < axis[j] := List.pairwise_iff_getElem.1 hup i j (by omega) hj hij
  exact (Number.lt_iff_of_isFinite (h.isFinite_get _) (h.isFinite_get hj)).1 hlt

theorem value_lt_of_descending (h : IsStrict axis) (hdown : axis.Pairwise fun x y => y < x)
    (i j : Nat) (hij : i < j) (hj : j < axis.length) : axis[j].value < axis[i].value := by
  have hlt : axis[j] < axis[i] := List.pairwise_iff_getElem.1 hdown i j (by omega) hj hij
  exact (Number.lt_iff_of_isFinite (h.isFinite_get hj) (h.isFinite_get _)).1 hlt

/-- Distances rise on both sides of two entries: away from the one that is not closer than the
other. -/
theorem gap_lt_of_passed (h : IsStrict axis) {i j k : Nat} (hi : i < axis.length)
    (hj : j < axis.length) (hk : k < axis.length) (hrow : i < j ∧ j < k ∨ k < j ∧ j < i)
    (hpassed : gap v axis[i] ≤ gap v axis[j]) : gap v axis[j] < gap v axis[k] := by
  refine lt_of_passed ?_ hpassed
  rcases h.monotone with hup | hdown
  · have hlt := h.value_lt_of_ascending hup
    rcases hrow with ⟨hij, hjk⟩ | ⟨hkj, hji⟩
    · exact .inl ⟨hlt i j hij hj, hlt j k hjk hk⟩
    · exact .inr ⟨hlt k j hkj hj, hlt j i hji hi⟩
  · have hlt := h.value_lt_of_descending hdown
    rcases hrow with ⟨hij, hjk⟩ | ⟨hkj, hji⟩
    · exact .inr ⟨hlt j k hjk hk, hlt i j hij hj⟩
    · exact .inl ⟨hlt j i hji hi, hlt k j hkj hj⟩

end IsStrict

/-! ### The nearest entry -/

/-- The entry at an index is the first one at the least distance from a value. -/
structure IsNearest (axis : List Number) (v : Number) (k : Nat) : Prop where
  /-- There is such an entry. -/
  lt_length : k < axis.length
  /-- No entry is closer. -/
  le : ∀ j (_ : j < axis.length), gap v axis[k] ≤ gap v axis[j]
  /-- No earlier entry is as close. -/
  lt : ∀ j (_ : j < k), gap v axis[k] < gap v axis[j]

/-- There is only one first nearest entry. -/
theorem IsNearest.unique {k m : Nat} (hk : IsNearest axis v k) (hm : IsNearest axis v m) :
    k = m := by
  rcases Nat.lt_trichotomy k m with hlt | heq | hgt
  · exact absurd (hk.le m hm.lt_length) (not_le.2 (hm.lt k hlt))
  · exact heq
  · exact absurd (hm.le k hk.lt_length) (not_le.2 (hk.lt m hgt))

/-- An entry with the value on one side of it and all other entries on the other side is the nearest
one. -/
theorem isNearest_of_beyond {k : Nat} (hk : k < axis.length)
    (h : ∀ j (_ : j < axis.length), j ≠ k →
      v.value ≤ axis[k].value ∧ axis[k].value < axis[j].value ∨
        axis[j].value < axis[k].value ∧ axis[k].value ≤ v.value) :
    IsNearest axis v k := by
  have hlt (j : Nat) (hj : j < axis.length) (hjk : j ≠ k) : gap v axis[k] < gap v axis[j] :=
    lt_of_beyond (h j hj hjk)
  refine ⟨hk, fun j hj => ?_, fun j hj => hlt j (by omega) (by omega)⟩
  by_cases hjk : j = k
  · subst hjk
    exact le_rfl
  · exact le_of_lt (hlt j hj hjk)

/-- An entry is the nearest one if all before it are farther away and the next one is not
closer. -/
theorem IsStrict.isNearest (h : IsStrict axis) {k : Nat} (hk : k < axis.length)
    (hbefore : ∀ j (_ : j < k), gap v axis[k] < gap v axis[j])
    (hnext : ∀ _ : k + 1 < axis.length, gap v axis[k] ≤ gap v axis[k + 1]) :
    IsNearest axis v k := by
  refine ⟨hk, fun j hj => ?_, hbefore⟩
  rcases Nat.lt_trichotomy j k with hlt | rfl | hgt
  · exact le_of_lt (hbefore j hlt)
  · exact le_rfl
  · have hfar : gap v axis[k] ≤ gap v axis[k + 1] := hnext (by omega)
    by_cases hadjacent : j = k + 1
    · subst hadjacent
      exact hfar
    · exact le_trans hfar (le_of_lt (h.gap_lt_of_passed hk (by omega) hj
        (.inl ⟨Nat.lt_succ_self k, by omega⟩) hfar))

theorem IsStrict.isNearest_zero (h : IsStrict axis) (hne : axis ≠ []) (hv : v.isFinite = true)
    (hbefore : axis.Pairwise (· < ·) ∧ v ≤ axis.head hne ∨
      (axis.Pairwise fun x y => y < x) ∧ axis.head hne ≤ v) : IsNearest axis v 0 := by
  have hk : 0 < axis.length := List.length_pos_iff.2 hne
  have hfirst : axis[0].isFinite = true := h.isFinite_get hk
  rw [List.head_eq_getElem] at hbefore
  refine isNearest_of_beyond hk fun j hj hj0 => ?_
  rcases hbefore with ⟨hup, hle⟩ | ⟨hdown, hle⟩
  · exact .inl ⟨(Number.le_iff_of_isFinite hv hfirst).1 hle,
      h.value_lt_of_ascending hup 0 j (by omega) hj⟩
  · exact .inr ⟨h.value_lt_of_descending hdown 0 j (by omega) hj,
      (Number.le_iff_of_isFinite hfirst hv).1 hle⟩

theorem IsStrict.isNearest_last (h : IsStrict axis) (hne : axis ≠ []) (hv : v.isFinite = true)
    (hbehind : axis.Pairwise (· < ·) ∧ axis.getLast hne ≤ v ∨
      (axis.Pairwise fun x y => y < x) ∧ v ≤ axis.getLast hne) :
    IsNearest axis v (axis.length - 1) := by
  have hk : axis.length - 1 < axis.length := by
    have hlength : 0 < axis.length := List.length_pos_iff.2 hne
    omega
  have hlast : axis[axis.length - 1].isFinite = true := h.isFinite_get hk
  rw [List.getLast_eq_getElem] at hbehind
  refine isNearest_of_beyond hk fun j hj hjlast => ?_
  rcases hbehind with ⟨hup, hle⟩ | ⟨hdown, hle⟩
  · exact .inr ⟨h.value_lt_of_ascending hup j _ (by omega) hk,
      (Number.le_iff_of_isFinite hlast hv).1 hle⟩
  · exact .inl ⟨(Number.le_iff_of_isFinite hv hlast).1 hle,
      h.value_lt_of_descending hdown j _ (by omega) hk⟩

theorem IsStrict.isNearest_of_midway (h : IsStrict axis) {i : Nat} (hi : i + 1 < axis.length)
    (hmid : v.value = (axis[i].value + axis[i + 1].value) / 2) : IsNearest axis v i := by
  have hequal : gap v axis[i + 1] = gap v axis[i] := by
    have hopposite : axis[i + 1].value - v.value = -(axis[i].value - v.value) := by
      rw [hmid]
      linarith
    rw [gap, gap, hopposite, abs_neg]
  -- distances rise from the two neighbours in both directions
  refine h.isNearest (by omega) (fun j hj => ?_) fun _ => le_of_eq hequal.symm
  exact h.gap_lt_of_passed hi (by omega) (by omega) (.inr ⟨hj, Nat.lt_succ_self i⟩)
    (le_of_eq hequal)

/-- No rounded distance is infinite, and they compare as the distances themselves do. -/
structure Resolves (r : Rounding) (axis : List Number) (v : Number) : Prop where
  /-- No distance is infinite. -/
  lt_infinite : ∀ x ∈ axis, distance r v x < .infinite false
  /-- They compare as without rounding. -/
  lt_iff : ∀ x ∈ axis, ∀ y ∈ axis, distance r v x < distance r v y ↔ gap v x < gap v y

theorem IsStrict.resolves_exact (h : IsStrict axis) (hv : v.isFinite = true) :
    Resolves .exact axis v := by
  refine ⟨fun x hx => ?_, fun x hx y hy => ?_⟩
  · rw [distance_exact (h.isFinite x hx) hv]
    rfl
  · exact distance_exact_lt_iff (h.isFinite x hx) (h.isFinite y hy) hv

/-- **The scan of a strictly monotone axis finds the nearest entry**, unless the rounding hides
it. -/
theorem Resolves.closestIndex_isNearest {r : Rounding} (hr : Resolves r axis v)
    (h : IsStrict axis) (hne : axis ≠ []) :
    ∃ k : Nat, closestIndex r axis v = k ∧ IsNearest axis v k := by
  have hcloser {i j : Nat} (hi : i < axis.length) (hj : j < axis.length) :
      distance r v axis[i] < distance r v axis[j] ↔ gap v axis[i] < gap v axis[j] :=
    hr.lt_iff _ (List.getElem_mem hi) _ (List.getElem_mem hj)
  obtain ⟨k, hk, hclosest, hdown, hstop⟩ :=
    exists_closestIndex_eq hne fun hlength => hr.lt_infinite _ (List.getElem_mem hlength)
  refine ⟨k, hclosest, h.isNearest hk (fun j hj => ?_) fun hnext => ?_⟩
  · -- the distances fall all the way from an earlier entry
    have hfalls (m : Nat) (hm : j < m) (hmk : m ≤ k) : gap v axis[m] < gap v axis[j] := by
      induction m, hm using Nat.le_induction with
      | base => exact (hcloser (by omega) (by omega)).1 (hdown j (by omega) (by omega))
      | succ m _ ih =>
        exact lt_trans ((hcloser (by omega) (by omega)).1 (hdown m (by omega) (by omega)))
          (ih (by omega))
    exact hfalls k hj le_rfl
  · exact not_lt.1 fun hlt => hstop hnext ((hcloser hnext hk).2 hlt)

theorem closestIndex_isNearest (h : IsStrict axis) (hne : axis ≠ []) (hv : v.isFinite = true) :
    ∃ k : Nat, closestIndex .exact axis v = k ∧ IsNearest axis v k :=
  (h.resolves_exact hv).closestIndex_isNearest h hne

/-- **The entry nearest to a value below the axis is the least one.** -/
theorem closestIndex_exact_of_le (haxis : IsStrict axis) (hne : axis ≠ [])
    (hfinite : v.isFinite = true) (hv : ∀ x ∈ axis, v ≤ x) :
    ∃ k, ∃ h : k < axis.length, closestIndex .exact axis v = k ∧ ∀ x ∈ axis, axis[k] ≤ x := by
  obtain ⟨k, hclosest, hnearest⟩ := closestIndex_isNearest haxis hne hfinite
  have hk := hnearest.lt_length
  refine ⟨k, hk, hclosest, fun x hx => ?_⟩
  have hx' := haxis.isFinite x hx
  obtain ⟨j, hj, rfl⟩ := List.getElem_of_mem hx
  rw [Number.le_iff_of_isFinite (haxis.isFinite_get hk) hx']
  by_contra hlt
  refine absurd (hnearest.le j hj) (not_le.2 (lt_of_beyond (.inl ⟨?_, not_le.1 hlt⟩)))
  exact (Number.le_iff_of_isFinite hfinite hx').1 (hv _ hx)

/-- **The scan finds the first nearest entry** of every strictly monotone axis, up or down, for
every finite value and without rounding.  For a value beyond an end that is the entry at this end,
and for one midway between two neighbours the one with the lower index. -/
theorem closestIndex_first_nearest (h : IsStrict axis) (hne : axis ≠ [])
    (hv : v.isFinite = true) :
    ∃ k : Nat, closestIndex .exact axis v = k ∧ IsNearest axis v k ∧
      (axis.Pairwise (· < ·) ∧ v ≤ axis.head hne ∨
        (axis.Pairwise fun x y => y < x) ∧ axis.head hne ≤ v → k = 0) ∧
      (axis.Pairwise (· < ·) ∧ axis.getLast hne ≤ v ∨
        (axis.Pairwise fun x y => y < x) ∧ v ≤ axis.getLast hne → k = axis.length - 1) ∧
      ∀ i (_ : i + 1 < axis.length),
        v.value = (axis[i].value + axis[i + 1].value) / 2 → k = i := by
  obtain ⟨k, hclosest, hnearest⟩ := closestIndex_isNearest h hne hv
  refine ⟨k, hclosest, hnearest, ?_, ?_, ?_⟩
  · intro hbefore
    exact hnearest.unique (h.isNearest_zero hne hv hbefore)
  · intro hbehind
    exact hnearest.unique (h.isNearest_last hne hv hbehind)
  · intro i hi hmid
    exact hnearest.unique (h.isNearest_of_midway hi hmid)

/-- Rows from north to south: the middle of two of them, and a place beyond the last one. -/
theorem closestIndex_first_nearest_southward :
    IsNearest [30, 20, 10] 15 1 ∧ closestIndex .exact [30, 20, 10] 15 = 1 ∧
      closestIndex .exact [30, 20, 10] (.rational (-7)) = 2 := by
  have hdown : ([30, 20, 10] : List Number).Pairwise fun x y => y < x := by decide +kernel
  have hstrict : IsStrict [30, 20, 10] := ⟨by decide +kernel, .inr hdown⟩
  have hne : ([30, 20, 10] : List Number) ≠ [] := by decide
  obtain ⟨k, hk, hnearest, -, -, hmid⟩ := closestIndex_first_nearest (v := 15) hstrict hne rfl
  obtain ⟨m, hm, -, -, hbehind, -⟩ :=
    closestIndex_first_nearest (v := .rational (-7)) hstrict hne rfl
  obtain rfl : k = 1 := hmid 1 (by decide) (by decide +kernel)
  have hbeyond : Number.rational (-7) ≤ 10 := by decide +kernel
  obtain rfl : m = 2 := hbehind (.inr ⟨hdown, hbeyond⟩)
  exact ⟨hnearest, hk, hm⟩

end Axis

end StreetEnv
