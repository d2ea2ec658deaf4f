import StreetEnv.Proofs.Fault.Traversal
import StreetEnv.Proofs.Grid.Samples
import StreetEnv.Proofs.Sampling.Nearest

/-!
# The average of an edge, time step by time step

The pass takes sample after sample and pushes the cells of all time steps into an accumulator.  Here
its answer is described without that loop: entry `t` is the rounded mean of the finite cells of the
time step `t` near the sample points.

* `AirQualityPass.samplePoints` are the points of an edge, `AirQualityPass.finiteCells` the finite
  cells near them at one time step;
* `IsStepMean` relates samples to their mean, and `AirQualityPass.IsMeanSeries` points to a series;
* `AirQualityPass.average_eq_ok_iff`: the average of an edge is exactly the series of these means;
* `AirQualityPass.average_eq_step_means` adds when there is one, and that an entry depends on its
  own time step alone.
-/

namespace StreetEnv

/-- `y` is the mean of samples, rounded half away from zero and narrowed to a cell of the type; it
is zero if there are no samples. -/
inductive IsStepMean (r : Rounding) (type : CellType) : List Number → Number → Prop
  /-- Without samples. -/
  | none : IsStepMean r type [] 0
  /-- With samples: the sum, the quotient, the rounded quotient and the cell. -/
  | mean {xs : List Number} {total y : Number} {n : Int} (nonempty : xs ≠ [])
      (sum : Number.sum r xs = .ok total)
      (rounded : (total.div r (.natural xs.length)).roundHalfAway r = .ok n)
      (narrowed : type.narrow n = .ok y) : IsStepMean r type xs y

namespace Accumulator

variable {r : Rounding} {type : CellType}

theorem averageOf_eq_ok_iff {xs : List Number} {y : Number} :
    averageOf r type xs = .ok y ↔ IsStepMean r type xs y := by
  cases xs with
  | nil =>
    constructor
    · intro h
      obtain rfl : 0 = y := Except.ok.inj h
      exact .none
    · intro h
      cases h with
      | none => rfl
      | mean nonempty => exact absurd rfl nonempty
  | cons x xs =>
    have hrun : averageOf r type (x :: xs) = (do
        let total ← Number.sum r (x :: xs)
        let n ← (total.div r (.natural (x :: xs).length)).roundHalfAway r
        type.narrow n) := rfl
    rw [hrun]
    simp only [Traversal.bind_eq_ok_iff]
    constructor
    · rintro ⟨total, hs, n, hn, hy⟩
      exact .mean (by simp) hs hn hy
    · intro h
      cases h with
      | mean _ hs hn hy => exact ⟨_, hs, _, hn, hy⟩

theorem averages_eq_ok_iff {a : Accumulator} {n : Nat} {s : Series} :
    a.averages r n = .ok s ↔
      s.type = a.type ∧ s.values.length = n ∧
        ∀ t (h : t < s.values.length), IsStepMean r a.type (a.samplesAt t) s.values[t] := by
  have hrun : a.averages r n = (do
      let values ← (List.range n).mapM fun (t : Nat) => a.average r t
      return ⟨a.type, values⟩) := rfl
  rw [hrun, Traversal.bind_eq_ok_iff]
  simp only [Traversal.mapM_eq_ok_iff, List.length_range, List.getElem_range, average_natCast,
    averageOf_eq_ok_iff]
  constructor
  · rintro ⟨values, ⟨hlen, hget⟩, hs⟩
    obtain rfl : ⟨a.type, values⟩ = s := Except.ok.inj hs
    exact ⟨rfl, hlen, fun t h => hget t (hlen ▸ h) h⟩
  · rintro ⟨htype, hlen, hget⟩
    refine ⟨s.values, ⟨hlen, fun t _ h => hget t h⟩, ?_⟩
    rw [← htype]
    rfl

end Accumulator

theorem IsStepMean.unique {r : Rounding} {type : CellType} {xs : List Number} {y z : Number}
    (hy : IsStepMean r type xs y) (hz : IsStepMean r type xs z) : y = z :=
  Except.ok.inj ((Accumulator.averageOf_eq_ok_iff.2 hy).symm.trans
    (Accumulator.averageOf_eq_ok_iff.2 hz))

namespace AirQualityPass

variable (p : AirQualityPass) (r : Rounding) (earth : Earth)

/-- The sample points of an edge. -/
def samplePoints (e : Edge) : Except Fault (List Coordinate) := do
  let sampler ← Sampler.between earth e.origin e.destination p.spacing
  sampler.points r earth

/-- The cell of a time step in the row and the column whose axis entries are nearest to a point; the
index before the first entry means the last one. -/
def nearestCell (t : Nat) (c : Coordinate) : Number :=
  let rows := axis p.grid.latitude
  let columns := axis p.grid.longitude
  p.grid.cell t (position (Axis.closestIndex r rows c.y) rows.length)
    (position (Axis.closestIndex r columns c.x) columns.length)

/-- The finite ones among the cells of a time step near points, in the order of the points. -/
def finiteCells (t : Nat) (points : List Coordinate) : List Number :=
  (points.map fun c => r.store (p.nearestCell r t c)).filter Number.isFinite

/-- The series has one rounded mean per time step, of the finite cells near the points. -/
structure IsMeanSeries (points : List Coordinate) (s : Series) : Prop where
  /-- The cells are of the grid's type. -/
  type_eq : s.type = p.grid.aqi.type
  /-- There is one per time step. -/
  length_eq : s.values.length = p.grid.timeSize
  /-- Each is the mean of its own time step. -/
  isStepMean : ∀ t (h : t < s.values.length),
    IsStepMean r p.grid.aqi.type (p.finiteCells r t points) s.values[t]

variable {p r earth}

theorem samplesBetween_eq (e : Edge) :
    p.samplesBetween r earth e.origin e.destination =
      (p.samplePoints r earth e).map fun points => points.map (p.sampleAt r) := by
  unfold samplesBetween samplePoints
  cases Sampler.between earth e.origin e.destination p.spacing with
  | error f => rfl
  | ok sampler =>
    show (sampler.points r earth >>= _) = (sampler.points r earth).map _
    cases sampler.points r earth <;> rfl

theorem samplesAt_foldl_sampleAt {t : Nat} (ht : t < p.grid.timeSize) (points : List Coordinate) :
    ((points.map (p.sampleAt r)).foldl (collect r) (.empty p.grid.aqi.type)).samplesAt t =
      p.finiteCells r t points := by
  have hcell : ∀ c, (p.sampleAt r c)[t]? = some (p.nearestCell r t c) := by
    intro c
    simp [sampleAt, cellsAt, ht, nearestCell, nearestOn]
  rw [samplesAt_foldl_collect, Accumulator.samplesAt_empty, List.nil_append, List.filterMap_map]
  simp [Function.comp_def, hcell, accepted, finiteCells]

theorem averages_foldl_eq_ok_iff {points : List Coordinate} {s : Series} :
    ((points.map (p.sampleAt r)).foldl (collect r) (.empty p.grid.aqi.type)).averages r
        p.grid.timeSize = .ok s ↔ p.IsMeanSeries r points s := by
  rw [Accumulator.averages_eq_ok_iff, type_foldl_collect, Accumulator.type_empty]
  constructor
  · rintro ⟨htype, hlen, hmean⟩
    refine ⟨htype, hlen, fun t h => ?_⟩
    rw [← samplesAt_foldl_sampleAt (hlen ▸ h)]
    exact hmean t h
  · rintro ⟨htype, hlen, hmean⟩
    refine ⟨htype, hlen, fun t h => ?_⟩
    rw [samplesAt_foldl_sampleAt (hlen ▸ h)]
    exact hmean t h

/-- **The average of an edge** is missing when the edge has no sample points, and else it is the
series of the means of its points. -/
theorem average_eq_ok_iff {e : Edge} {out : Option Series} :
    p.average r earth e = .ok out ↔ ∃ points, p.samplePoints r earth e = .ok points ∧
      (points = [] ∧ out = none ∨
        ∃ s, points ≠ [] ∧ out = some s ∧ p.IsMeanSeries r points s) := by
  unfold average
  rw [samplesBetween_eq]
  cases p.samplePoints r earth e with
  | error f => simp [Except.map, bind, Except.bind]
  | ok points =>
    cases points with
    | nil => simp [Except.map, bind, Except.bind, pure, Except.pure, eq_comm]
    | cons c cs =>
      -- there is a sample, so the accumulator is read back
      show ((((c :: cs).map (p.sampleAt r)).foldl (collect r) (.empty p.grid.aqi.type)).averages r
        p.grid.timeSize >>= fun s => Except.ok (some s)) = .ok out ↔ _
      rw [Traversal.bind_eq_ok_iff]
      simp only [averages_foldl_eq_ok_iff, Except.ok.injEq, exists_eq_left', reduceCtorEq,
        false_and, false_or, ne_eq, not_false_eq_true, true_and]
      exact ⟨fun ⟨s, hs, h⟩ => ⟨s, h.symm, hs⟩, fun ⟨s, h, hs⟩ => ⟨s, hs, h.symm⟩⟩

theorem exists_isMeanSeries {points : List Coordinate}
    (h : ∀ t < p.grid.timeSize, ∃ y, IsStepMean r p.grid.aqi.type (p.finiteCells r t points) y) :
    ∃ s, p.IsMeanSeries r points s := by
  have hy : ∀ t, ∃ y, t < p.grid.timeSize →
      IsStepMean r p.grid.aqi.type (p.finiteCells r t points) y := by
    intro t
    -- after the last time step any number will do
    by_cases ht : t < p.grid.timeSize
    · obtain ⟨y, hy⟩ := h t ht
      exact ⟨y, fun _ => hy⟩
    · exact ⟨0, fun ht' => absurd ht' ht⟩
  obtain ⟨mean, hmean⟩ := Classical.axiomOfChoice hy
  refine ⟨⟨p.grid.aqi.type, (List.range p.grid.timeSize).map mean⟩, rfl, by simp, fun t ht => ?_⟩
  rw [List.getElem_map, List.getElem_range]
  exact hmean t (by simpa using ht)

/-! ### Slices -/

@[simp] theorem length_axis (a : DataArray) : (axis a).length = a.size := by simp [axis]

theorem position_closestIndex_lt {a : DataArray} (ha : a.IsAxis) (v : Number) :
    position (Axis.closestIndex r (axis a) v) (axis a).length < a.size := by
  have hlo := Axis.neg_one_le_closestIndex (r := r) (axis a) v
  have hhi := Axis.closestIndex_lt (r := r) (axis a) v
  have hpos := ha.2
  rw [length_axis] at hhi ⊢
  unfold position
  split <;> omega

/-- The cells of two passes agree on one time step. -/
def SameSlice (p q : AirQualityPass) (t : Nat) : Prop :=
  ∀ row < p.grid.latitude.size, ∀ column < p.grid.longitude.size,
    q.grid.cell t row column = p.grid.cell t row column

theorem finiteCells_congr {q : AirQualityPass} (hlat : q.grid.latitude = p.grid.latitude)
    (hlon : q.grid.longitude = p.grid.longitude) {t : Nat} (hslice : SameSlice p q t)
    (points : List Coordinate) : q.finiteCells r t points = p.finiteCells r t points := by
  have hcell : ∀ c, q.nearestCell r t c = p.nearestCell r t c := by
    intro c
    simp only [nearestCell, hlat, hlon]
    exact hslice _ (position_closestIndex_lt p.grid.latitude_isAxis c.y) _
      (position_closestIndex_lt p.grid.longitude_isAxis c.x)
  simp only [finiteCells, hcell]

theorem samplePoints_congr {q : AirQualityPass} (hs : q.spacing = p.spacing) (e : Edge) :
    q.samplePoints r earth e = p.samplePoints r earth e := by
  simp only [samplePoints, hs]

/-- **The grid average of an edge is the series of rounded means of its time steps.**  When the
points can be sampled and the mean of every time step exists, the pass has an answer; it has none
else.  The answer is missing exactly when there are no sample points, and otherwise entry `t` is the
mean of the finite ones among the cells of the time step `t` nearest to the points, in the order of
the points.  An entry depends on the cells of its own time step alone. -/
theorem average_eq_step_means (p : AirQualityPass) (r : Rounding) (earth : Earth) (e : Edge) :
    (∀ points, p.samplePoints r earth e = .ok points →
      (∀ t < p.grid.timeSize, ∃ y, IsStepMean r p.grid.aqi.type (p.finiteCells r t points) y) →
      ∃ out, p.average r earth e = .ok out ∧ (out = none ↔ points = []) ∧
        ∀ s, out = some s → p.IsMeanSeries r points s) ∧
    (∀ out, p.average r earth e = .ok out →
      ∃ points, p.samplePoints r earth e = .ok points ∧ (out = none ↔ points = []) ∧
        ∀ s, out = some s → p.IsMeanSeries r points s) ∧
    ∀ q : AirQualityPass, q.spacing = p.spacing → q.grid.latitude = p.grid.latitude →
      q.grid.longitude = p.grid.longitude → q.grid.aqi.type = p.grid.aqi.type →
      ∀ s s', p.average r earth e = .ok (some s) → q.average r earth e = .ok (some s') →
        ∀ t, ∀ (h : t < s.values.length) (h' : t < s'.values.length),
          SameSlice p q t → s'.values[t] = s.values[t] := by
  refine ⟨fun points hpoints hmeans => ?_, fun out hout => ?_, ?_⟩
  · by_cases hnil : points = []
    · refine ⟨none, average_eq_ok_iff.2 ⟨points, hpoints, .inl ⟨hnil, rfl⟩⟩, by simp [hnil], ?_⟩
      rintro s ⟨⟩
    · obtain ⟨s, hs⟩ := exists_isMeanSeries hmeans
      refine ⟨some s, average_eq_ok_iff.2 ⟨points, hpoints, .inr ⟨s, hnil, rfl, hs⟩⟩,
        by simp [hnil], ?_⟩
      rintro _ ⟨⟩
      exact hs
  · obtain ⟨points, hpoints, ⟨hnil, rfl⟩ | ⟨s, hnil, rfl, hs⟩⟩ := average_eq_ok_iff.1 hout
    · refine ⟨points, hpoints, by simp [hnil], ?_⟩
      rintro s ⟨⟩
    · refine ⟨points, hpoints, by simp [hnil], ?_⟩
      rintro _ ⟨⟩
      exact hs
  · -- both entries are means, of the same samples
    intro q hspacing hlat hlon htype s s' hp hq t h h' hslice
    obtain ⟨points, hpoints, ⟨-, ⟨⟩⟩ | ⟨_, -, ⟨⟩, hs⟩⟩ := average_eq_ok_iff.1 hp
    obtain ⟨points', hpoints', ⟨-, ⟨⟩⟩ | ⟨_, -, ⟨⟩, hs'⟩⟩ := average_eq_ok_iff.1 hq
    rw [samplePoints_congr hspacing, hpoints] at hpoints'
    obtain rfl : points = points' := Except.ok.inj hpoints'
    have hmean := hs'.isStepMean t h'
    rw [htype, finiteCells_congr hlat hlon hslice] at hmean
    exact hmean.unique (hs.isStepMean t h)

end AirQualityPass

/-! ### A strip of cells along the equator -/

namespace Strip

/-- The metres of a degree of the equator on the ellipsoid of satellite positioning. -/
def metresPerDegree : Rat := 1113194907932736 / 10000000000

/-- Geodesics between points of the equator. -/
def earth : Earth where
  inverse p q :=
    let metres := (q.x.value - p.x.value) * metresPerDegree
    if metres = 0 then (180, 0)
    else if metres < 0 then (.rational (-90), .rational (-metres))
    else (90, .rational metres)
  direct p azimuth distance :=
    let degrees := distance.value / metresPerDegree
    ⟨.rational (p.x.value + if azimuth.isNegative then -degrees else degrees), p.y⟩

/-- The centre of column `k` of the strip, on the equator. -/
def centre (k : Nat) : Coordinate := ⟨.rational (mkRat k 8192), 0⟩

/-- Two time steps, from an hour on, over a row of `n + 1` cells. -/
def grid (n : Nat) (type : CellType) (cells : List Number) (hour : Nat) : AirQualityGrid where
  time := .ofList .int64 [.natural hour, .natural (hour + 1)]
  latitude := .ofList .float64 [0]
  longitude := .ofList .float64 ((List.range (n + 1)).map fun k => (centre k).x)
  aqi := .ofCells type [2, 1, n + 1] cells
  origin := .micros 0
  unit := .hour
  time_isAxis := by simp [DataArray.IsAxis, DataArray.rank, DataArray.size, DataArray.ofList]
  latitude_isAxis := by simp [DataArray.IsAxis, DataArray.rank, DataArray.size, DataArray.ofList]
  longitude_isAxis := by simp [DataArray.IsAxis, DataArray.rank, DataArray.size, DataArray.ofList]
  shape_eq := by simp [DataArray.size, DataArray.ofList, DataArray.ofCells]

/-- Four cells with gaps, averaged by three workers. -/
def pass : AirQualityPass :=
  { grid := grid 3 .float32 [1, .nan, 4, 9, .nan, .nan, .nan, 7] 6, workers := 3 }

/-- A street between the centres of two columns. -/
def street (a b : Nat) : Edge := { id := .integer a, origin := centre a, destination := centre b }

theorem average_street :
    pass.average .binary64 earth (street 0 3) = .ok (some ⟨.float32, [3, 0]⟩) :=
  Traversal.eq_ok_of_toOption (by decide +kernel)

theorem average_street_short : pass.average .binary64 earth (street 2 2) = .ok none :=
  Traversal.eq_ok_of_toOption (by decide +kernel)

end Strip

/-- The three samples of a street of the strip meet a cell without data; a half is rounded up. -/
theorem AirQualityPass.average_eq_step_means_strip :
    ∃ points, Strip.pass.samplePoints .binary64 Strip.earth (Strip.street 0 3) = .ok points ∧
      points ≠ [] ∧ Strip.pass.IsMeanSeries .binary64 points ⟨.float32, [3, 0]⟩ := by
  obtain ⟨points, hpoints, hnil, hmeans⟩ :=
    (average_eq_step_means Strip.pass .binary64 Strip.earth (Strip.street 0 3)).2.1 _
      Strip.average_street
  exact ⟨points, hpoints, fun h => by simp [h] at hnil, hmeans _ rfl⟩

end StreetEnv
