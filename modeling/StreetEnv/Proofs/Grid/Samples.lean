import Std.Data.TreeMap.Lemmas
import StreetEnv.Grid.Update

/-!
# The samples of a time

An accumulator is seen through `Accumulator.samplesAt`: the accepted samples of a time, in order of
arrival.  Every operation is described by what it does to this view.

* `Accumulator.samplesAt_accept`: a finite sample joins the samples of its own time;
* `AirQualityPass.samplesAt_collect`: a row of cells gives every time at most one sample;
* `AirQualityPass.samplesAt_foldl_collect`: rows taken one after the other leave, at each time, the
  finite ones among their cells of that time.  This exchanges the loop over sample points with the
  loop over time steps.
-/

namespace StreetEnv

namespace Accumulator

variable {r : Rounding}

@[simp] theorem type_empty (type : CellType) : (empty type).type = type := rfl

@[simp] theorem samplesAt_empty (type : CellType) (t : Nat) : (empty type).samplesAt t = [] := by
  simp [samplesAt, empty]

@[simp] theorem type_accept (a : Accumulator) (t : Nat) (x : Number) :
    (a.accept r t x).type = a.type := by
  unfold accept
  simp only
  split <;> rfl

theorem samplesAt_accept (a : Accumulator) (t u : Nat) (x : Number) :
    (a.accept r t x).samplesAt u =
      a.samplesAt u ++ if t = u ∧ (r.store x).isFinite = true then [r.store x] else [] := by
  unfold accept
  by_cases hx : (r.store x).isFinite = true
  · by_cases ht : t = u
    · subst ht
      simp [hx, samplesAt]
    · have hne : compare t u ≠ .eq := fun h => ht (Nat.compare_eq_eq.1 h)
      simp [hx, ht, samplesAt, Std.TreeMap.getD_insert, hne]
  · simp [hx]

theorem average_natCast (a : Accumulator) (t : Nat) :
    a.average r (t : Int) = averageOf r a.type (a.samplesAt t) := by
  have h : ¬ (t : Int) < 0 := by omega
  simp [average, h]

end Accumulator

namespace AirQualityPass

variable {r : Rounding}

/-- The accepted part of a list of cells: those that are finite as doubles. -/
def accepted (r : Rounding) (cells : List Number) : List Number :=
  (cells.map r.store).filter Number.isFinite

@[simp] theorem accepted_nil : accepted r [] = [] := rfl

theorem accepted_append (xs ys : List Number) :
    accepted r (xs ++ ys) = accepted r xs ++ accepted r ys := by
  simp [accepted]

theorem accepted_singleton (x : Number) :
    accepted r [x] = if (r.store x).isFinite = true then [r.store x] else [] := by
  simp [accepted, List.filter_cons]

/-- Taking the cells of `row` at the times `n, n + 1, …` gives the time `t` the cell at `t - n`, if
there is one. -/
theorem samplesAt_foldl_accept (row : List Number) (n : Nat) (a : Accumulator) (t : Nat) :
    ((row.zipIdx n).foldl (fun a (x, u) => a.accept r u x) a).samplesAt t =
      a.samplesAt t ++ accepted r (if n ≤ t then row[t - n]?.toList else []) := by
  induction row generalizing n a with
  | nil => simp
  | cons x row ih =>
    rw [List.zipIdx_cons, List.foldl_cons, ih, Accumulator.samplesAt_accept]
    -- the time of the first cell is before `t`, or is `t`, or is after it
    rcases Nat.lt_trichotomy n t with h | h | h
    · have hk : t - n = t - (n + 1) + 1 := by omega
      rw [if_pos (by omega : n + 1 ≤ t), if_pos (by omega : n ≤ t), hk]
      simp [Nat.ne_of_lt h]
    · subst h
      rw [if_neg (by omega : ¬ n + 1 ≤ n), if_pos (Nat.le_refl n), Nat.sub_self]
      simp [accepted_singleton]
    · rw [if_neg (by omega : ¬ n + 1 ≤ t), if_neg (by omega : ¬ n ≤ t)]
      simp [Nat.ne_of_gt h]

theorem samplesAt_collect (a : Accumulator) (row : List Number) (t : Nat) :
    (collect r a row).samplesAt t = a.samplesAt t ++ accepted r row[t]?.toList := by
  simpa [collect] using samplesAt_foldl_accept (r := r) row 0 a t

/-- **The loops over sample points and over time steps can be exchanged.**  Rows of cells taken one
after the other leave, at each time, the finite ones among their cells of that time. -/
theorem samplesAt_foldl_collect (rows : List (List Number)) (a : Accumulator) (t : Nat) :
    (rows.foldl (collect r) a).samplesAt t =
      a.samplesAt t ++ accepted r (rows.filterMap (·[t]?)) := by
  induction rows generalizing a with
  | nil => simp
  | cons row rows ih =>
    rw [List.foldl_cons, ih, samplesAt_collect, List.append_assoc, ← accepted_append]
    cases h : row[t]? <;> simp [h]

@[simp] theorem type_collect (a : Accumulator) (row : List Number) :
    (collect r a row).type = a.type := by
  unfold collect
  -- the induction is on any list of cells with their times, not on those counted from zero
  generalize row.zipIdx = cells
  induction cells generalizing a with
  | nil => rfl
  | cons c cells ih => rw [List.foldl_cons, ih, Accumulator.type_accept]

@[simp] theorem type_foldl_collect (rows : List (List Number)) (a : Accumulator) :
    (rows.foldl (collect r) a).type = a.type := by
  induction rows generalizing a with
  | nil => rfl
  | cons row rows ih => rw [List.foldl_cons, ih, type_collect]

end AirQualityPass

end StreetEnv
