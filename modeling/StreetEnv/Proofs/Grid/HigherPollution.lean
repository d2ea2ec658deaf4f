import StreetEnv.Proofs.Grid.AverageOrder
import StreetEnv.Proofs.Grid.PassesInStep

/-!
# Grids with higher cells

Of two grids on the same axes, the second has no smaller cell anywhere.  Then an update by the
second writes on the edges that an update by the first writes on, and no smaller series.

* `AirQualityGrid.IsBelow` and `AirQualityGrid.HasFiniteCells`: the grids;
* `AirQualityPass.AveragesExactly`: the averages of an edge are those of exact arithmetic;
* `AirQualityPass.inStep_average`: the averages of an edge, from both grids;
* `AirQualityUpdate.applyFile_le_of_isBelow`: the updates by two files.
-/

namespace StreetEnv

open Traversal

/-- Two series of one type and length, of which the second is no smaller at any time step. -/
structure Series.IsAtMost (s s' : Series) : Prop where
  /-- The types are the same. -/
  type_eq : s'.type = s.type
  /-- So are the lengths. -/
  length_eq : s'.values.length = s.values.length
  /-- The second one is no smaller. -/
  le : ∀ t (h : t < s.values.length) (h' : t < s'.values.length), s.values[t] ≤ s'.values[t]

/-! ### Grids -/

namespace AirQualityGrid

/-- Two grids with the same axes, origin and type of cells, of which the second has no smaller cell
anywhere. -/
structure IsBelow (g h : AirQualityGrid) : Prop where
  /-- The time axes are the same. -/
  time_eq : h.time = g.time
  /-- So are the latitudes. -/
  latitude_eq : h.latitude = g.latitude
  /-- So are the longitudes. -/
  longitude_eq : h.longitude = g.longitude
  /-- Time zero is the same instant. -/
  origin_eq : h.origin = g.origin
  /-- The unit of the time axis is the same. -/
  unit_eq : h.unit = g.unit
  /-- The cells are of one type. -/
  type_eq : h.aqi.type = g.aqi.type
  /-- The cells of the second grid are no smaller. -/
  cell_le : ∀ t < g.timeSize, ∀ row < g.latitude.size, ∀ column < g.longitude.size,
    g.cell t row column ≤ h.cell t row column

/-- All cells are finite values of their type. -/
def HasFiniteCells (g : AirQualityGrid) : Prop :=
  ∀ t < g.timeSize, ∀ row < g.latitude.size, ∀ column < g.longitude.size,
    (g.cell t row column).isFinite = true ∧ g.aqi.type.Holds (g.cell t row column)

variable {g h : AirQualityGrid}

theorem IsBelow.timeSize_eq (hbelow : g.IsBelow h) : h.timeSize = g.timeSize := by
  rw [timeSize, timeSize, hbelow.time_eq]

theorem IsBelow.boundingBox_eq (hbelow : g.IsBelow h) : h.boundingBox = g.boundingBox := by
  rw [boundingBox, boundingBox, hbelow.latitude_eq, hbelow.longitude_eq]

theorem IsBelow.originMillis_eq (hbelow : g.IsBelow h) (timeline : Timeline) :
    h.originMillis timeline = g.originMillis timeline := by
  unfold originMillis timestampAt timeSize
  rw [hbelow.time_eq, hbelow.origin_eq, hbelow.unit_eq]

theorem hasFiniteCells_of_integers {ends : Int × Int}
    (hrange : g.aqi.type.range? = some ends)
    (h : ∀ t < g.timeSize, ∀ row < g.latitude.size, ∀ column < g.longitude.size,
      g.cell t row column = .ofInt (g.cell t row column).value.num ∧
        g.aqi.type.HoldsInt (g.cell t row column).value.num) : g.HasFiniteCells := by
  intro t ht row hrow column hcolumn
  obtain ⟨hcell, hint⟩ := h t ht row hrow column hcolumn
  rw [hcell]
  refine ⟨rfl, ?_⟩
  simp only [CellType.Holds, hrange, Number.ofInt]
  exact ⟨Rat.den_intCast _, hint⟩

end AirQualityGrid

/-! ### Averages of an edge -/

namespace AirQualityPass

variable {p q : AirQualityPass} {r : Rounding} {earth : Earth} {e : Edge} {t : Nat}
  {points : List Coordinate}

theorem nearestCell_eq (r : Rounding) (t : Nat) (c : Coordinate) :
    ∃ row < p.grid.latitude.size, ∃ column < p.grid.longitude.size,
      p.nearestCell r t c = p.grid.cell t row column :=
  ⟨_, position_closestIndex_lt p.grid.latitude_isAxis c.y, _,
    position_closestIndex_lt p.grid.longitude_isAxis c.x, rfl⟩

theorem holds_nearestCell (h : p.grid.HasFiniteCells) (ht : t < p.grid.timeSize) (c : Coordinate) :
    (p.nearestCell r t c).isFinite = true ∧ p.grid.aqi.type.Holds (p.nearestCell r t c) := by
  obtain ⟨row, hrow, column, hcolumn, hcell⟩ := nearestCell_eq (p := p) r t c
  rw [hcell]
  exact h t ht row hrow column hcolumn

theorem nearestCell_le (hbelow : p.grid.IsBelow q.grid) (ht : t < p.grid.timeSize)
    (c : Coordinate) : p.nearestCell r t c ≤ q.nearestCell r t c := by
  simp only [nearestCell, hbelow.latitude_eq, hbelow.longitude_eq]
  exact hbelow.cell_le t ht _ (position_closestIndex_lt p.grid.latitude_isAxis c.y) _
    (position_closestIndex_lt p.grid.longitude_isAxis c.x)

theorem finiteCells_eq_map (h : ∀ c, (r.store (p.nearestCell r t c)).isFinite = true)
    (points : List Coordinate) :
    p.finiteCells r t points = points.map fun c => r.store (p.nearestCell r t c) :=
  List.filter_eq_self.2 (List.forall_mem_map.2 fun c _ => h c)

variable (p r earth e) in
/-- The averages of an edge are those of exact arithmetic on the cells near its sample points. -/
def AveragesExactly : Prop :=
  ∀ points, p.samplePoints r earth e = .ok points → ∀ t < p.grid.timeSize,
    Accumulator.averageOf r p.grid.aqi.type (p.finiteCells r t points) =
      Accumulator.averageOf .exact p.grid.aqi.type (points.map (p.nearestCell r t))

theorem averagesExactly_exact (h : p.grid.HasFiniteCells) : p.AveragesExactly .exact earth e := by
  intro points _ t ht
  rw [finiteCells_eq_map fun c => by simpa using (holds_nearestCell h ht c).1]
  simp

/-- A mean of an edge that is averaged exactly is a mean in exact arithmetic. -/
theorem AveragesExactly.isStepMean_iff (h : p.AveragesExactly r earth e)
    (hpoints : p.samplePoints r earth e = .ok points) (ht : t < p.grid.timeSize) {y : Number} :
    IsStepMean r p.grid.aqi.type (p.finiteCells r t points) y ↔
      IsStepMean .exact p.grid.aqi.type (points.map (p.nearestCell r t)) y := by
  rw [← Accumulator.averageOf_eq_ok_iff, ← Accumulator.averageOf_eq_ok_iff, h points hpoints t ht]

variable (p q r points t) in
/-- At a time step, both grids have a mean near some points, and the second one is no smaller. -/
structure MeansKeepOrder : Prop where
  /-- The first grid has a mean. -/
  left : ∃ x, IsStepMean r p.grid.aqi.type (p.finiteCells r t points) x
  /-- So has the second one. -/
  right : ∃ y, IsStepMean r q.grid.aqi.type (q.finiteCells r t points) y
  /-- It is no smaller. -/
  le : ∀ x y, IsStepMean r p.grid.aqi.type (p.finiteCells r t points) x →
    IsStepMean r q.grid.aqi.type (q.finiteCells r t points) y → x ≤ y

theorem average_of_samplePoints_eq_error {f : Fault} (h : p.samplePoints r earth e = .error f) :
    p.average r earth e = .error f := by
  unfold average
  rw [samplesBetween_eq, h]
  rfl

/-- **The averages of an edge from both grids.**  If at every time step the means keep the order,
either both are refused for the same reason, or both are missing, or the second series is no
smaller. -/
theorem inStep_average (hbelow : p.grid.IsBelow q.grid) (hspacing : q.spacing = p.spacing)
    (hmeans : ∀ points, p.samplePoints r earth e = .ok points → ∀ t < p.grid.timeSize,
      MeansKeepOrder p q r t points) :
    InStep (Option.Rel Series.IsAtMost) (p.average r earth e) (q.average r earth e) := by
  have hpointsq : q.samplePoints r earth e = p.samplePoints r earth e :=
    samplePoints_congr hspacing e
  cases hpoints : p.samplePoints r earth e with
  | error f =>
    rw [average_of_samplePoints_eq_error hpoints,
      average_of_samplePoints_eq_error (hpointsq.trans hpoints)]
    exact .error f
  | ok points =>
    by_cases hnil : points = []
    · rw [average_eq_ok_iff.2 ⟨points, hpoints, .inl ⟨hnil, rfl⟩⟩,
        average_eq_ok_iff.2 ⟨points, hpointsq.trans hpoints, .inl ⟨hnil, rfl⟩⟩]
      exact .ok .none
    · have horder := hmeans points hpoints
      obtain ⟨s, hs⟩ := exists_isMeanSeries fun t ht => (horder t ht).left
      obtain ⟨s', hs'⟩ := exists_isMeanSeries fun t ht =>
        (horder t (hbelow.timeSize_eq ▸ ht)).right
      rw [average_eq_ok_iff.2 ⟨points, hpoints, .inr ⟨s, hnil, rfl, hs⟩⟩,
        average_eq_ok_iff.2 ⟨points, hpointsq.trans hpoints, .inr ⟨s', hnil, rfl, hs'⟩⟩]
      refine .ok (.some ⟨?_, ?_, fun t h h' => ?_⟩)
      · rw [hs'.type_eq, hs.type_eq, hbelow.type_eq]
      · rw [hs'.length_eq, hs.length_eq, hbelow.timeSize_eq]
      · exact (horder t (hs.length_eq ▸ h)).le _ _ (hs.isStepMean t h) (hs'.isStepMean t h')

/-! ### Means that keep the order -/

/-- Cells near the same points, stored by a rounding that keeps the order, have means that do so
too. -/
theorem le_of_isStepMean {stored : Rounding} (hmono : stored.IsMonotone)
    (hbelow : p.grid.IsBelow q.grid) (hp : p.grid.HasFiniteCells) (hq : q.grid.HasFiniteCells)
    (ht : t < p.grid.timeSize)
    (hpstored : ∀ c, (stored.store (p.nearestCell r t c)).isFinite = true)
    (hqstored : ∀ c, (stored.store (q.nearestCell r t c)).isFinite = true) {x y : Number}
    (hx : IsStepMean stored p.grid.aqi.type
      (points.map fun c => stored.store (p.nearestCell r t c)) x)
    (hy : IsStepMean stored q.grid.aqi.type
      (points.map fun c => stored.store (q.nearestCell r t c)) y) : x ≤ y := by
  have htq : t < q.grid.timeSize := hbelow.timeSize_eq.symm ▸ ht
  rw [hbelow.type_eq] at hy
  refine hx.le_of_forall₂ hmono ?_ (List.forall_mem_map.2 fun c _ => hpstored c)
    (List.forall_mem_map.2 fun c _ => hqstored c) hy
  rw [List.forall₂_map_left_iff, List.forall₂_map_right_iff, List.forall₂_same]
  exact fun c _ => Number.store_le_store hmono (holds_nearestCell hp ht c).1
    (holds_nearestCell hq htq c).1 (nearestCell_le hbelow ht c)

theorem meansKeepOrder_of_exact (hbelow : p.grid.IsBelow q.grid) (hspacing : q.spacing = p.spacing)
    (hp : p.grid.HasFiniteCells) (hq : q.grid.HasFiniteCells)
    (hpexact : p.AveragesExactly r earth e) (hqexact : q.AveragesExactly r earth e)
    (hpoints : p.samplePoints r earth e = .ok points) (ht : t < p.grid.timeSize) :
    MeansKeepOrder p q r t points := by
  have htq : t < q.grid.timeSize := hbelow.timeSize_eq.symm ▸ ht
  have hpointsq : q.samplePoints r earth e = .ok points :=
    (samplePoints_congr hspacing e).trans hpoints
  refine ⟨?_, ?_, fun x y hx hy => ?_⟩
  · simp only [hpexact.isStepMean_iff hpoints ht]
    exact exists_isStepMean_exact (List.forall_mem_map.2 fun c _ => holds_nearestCell hp ht c)
  · simp only [hqexact.isStepMean_iff hpointsq htq]
    exact exists_isStepMean_exact (List.forall_mem_map.2 fun c _ => holds_nearestCell hq htq c)
  · rw [hpexact.isStepMean_iff hpoints ht] at hx
    rw [hqexact.isStepMean_iff hpointsq htq] at hy
    have hx' : IsStepMean .exact p.grid.aqi.type
        (points.map fun c => Rounding.exact.store (p.nearestCell r t c)) x := by simpa using hx
    have hy' : IsStepMean .exact q.grid.aqi.type
        (points.map fun c => Rounding.exact.store (q.nearestCell r t c)) y := by simpa using hy
    exact le_of_isStepMean Rounding.isMonotone_exact hbelow hp hq ht
      (fun c => by simpa using (holds_nearestCell hp ht c).1)
      (fun c => by simpa using (holds_nearestCell hq htq c).1) hx' hy'

theorem exists_isStepMean_of_average {out : Option Series} (h : p.average r earth e = .ok out)
    (hpoints : p.samplePoints r earth e = .ok points) (ht : t < p.grid.timeSize) :
    ∃ x, IsStepMean r p.grid.aqi.type (p.finiteCells r t points) x := by
  obtain ⟨points', hpoints', hout⟩ := average_eq_ok_iff.1 h
  obtain rfl : points = points' := Except.ok.inj (hpoints.symm.trans hpoints')
  rcases hout with ⟨rfl, -⟩ | ⟨s, -, -, hs⟩
  · exact ⟨0, .none⟩
  · exact ⟨_, hs.isStepMean t (hs.length_eq.symm ▸ ht)⟩

theorem meansKeepOrder_of_average (hbelow : p.grid.IsBelow q.grid)
    (hspacing : q.spacing = p.spacing) (hp : p.grid.HasFiniteCells) (hq : q.grid.HasFiniteCells)
    {out out' : Option Series} (hout : p.average .binary64 earth e = .ok out)
    (hout' : q.average .binary64 earth e = .ok out')
    (hpoints : p.samplePoints .binary64 earth e = .ok points) (ht : t < p.grid.timeSize) :
    MeansKeepOrder p q .binary64 t points := by
  have htq : t < q.grid.timeSize := hbelow.timeSize_eq.symm ▸ ht
  have hpstored (c : Coordinate) := (holds_nearestCell (r := .binary64) hp ht c)
  have hqstored (c : Coordinate) := (holds_nearestCell (r := .binary64) hq htq c)
  have hpfinite (c : Coordinate) := CellType.isFinite_store (hpstored c).2 (hpstored c).1
  have hqfinite (c : Coordinate) := CellType.isFinite_store (hqstored c).2 (hqstored c).1
  refine ⟨exists_isStepMean_of_average hout hpoints ht, exists_isStepMean_of_average hout'
    ((samplePoints_congr hspacing e).trans hpoints) htq, fun x y hx hy => ?_⟩
  rw [finiteCells_eq_map hpfinite] at hx
  rw [finiteCells_eq_map hqfinite] at hy
  exact le_of_isStepMean Rounding.isMonotone_binary64 hbelow hp hq ht hpfinite hqfinite hx hy

end AirQualityPass

/-! ### Updates -/

namespace AirQualityUpdate

open AirQualityPass

/-- **Higher cells never give a lower series.**  Two files hold grids with the same axes, origin and
type and with finite cells, and no cell of the second is below that of the first.  If the averages
are taken in exact arithmetic, be it altogether or only as far as the averages of the selected edges
agree with it, the updates answer and report the same, every edge is written by both or by neither,
and a series of the second is at no time step below that of the first.  In double precision, too,
this holds of all files for which no average is refused. -/
theorem applyFile_le_of_isBelow (u : AirQualityUpdate) (earth : Earth) {grid grid' : AirQualityGrid}
    (hbelow : grid.IsBelow grid') (hfinite : grid.HasFiniteCells) (hfinite' : grid'.HasFiniteCells)
    (path path' : FilePath) (g : Graph) :
    let file : AirQualityFile := ⟨path, .grid grid⟩
    let file' : AirQualityFile := ⟨path', .grid grid'⟩
    Outcome.InStep Series.IsAtMost g (u.applyFile .exact earth file g)
      (u.applyFile .exact earth file' g) ∧
    (∀ r, (∀ e ∈ g.edgesIn grid.boundingBox, (u.pass grid).AveragesExactly r earth e ∧
        (u.pass grid').AveragesExactly r earth e) →
      Outcome.InStep Series.IsAtMost g (u.applyFile r earth file g)
        (u.applyFile r earth file' g)) ∧
    ((∀ e ∈ g.edgesIn grid.boundingBox,
        (∃ out, (u.pass grid).average .binary64 earth e = .ok out) ∧
        ∃ out, (u.pass grid').average .binary64 earth e = .ok out) →
      Outcome.InStep Series.IsAtMost g (u.applyFile .binary64 earth file g)
        (u.applyFile .binary64 earth file' g)) := by
  intro file file'
  have hfile (r : Rounding) (h : ∀ e ∈ g.edgesIn grid.boundingBox,
      Traversal.InStep (Option.Rel Series.IsAtMost) ((u.pass grid).average r earth e)
        ((u.pass grid').average r earth e)) :
      Outcome.InStep Series.IsAtMost g (u.applyFile r earth file g)
        (u.applyFile r earth file' g) := by
    show Outcome.InStep Series.IsAtMost g (u.applyGrid r earth grid grid.boundingBox g)
      (u.applyGrid r earth grid' grid'.boundingBox g)
    rw [hbelow.boundingBox_eq]
    exact applyGrid_inStep (hbelow.originMillis_eq _) _ g h
  have hexact (r : Rounding) (h : ∀ e ∈ g.edgesIn grid.boundingBox,
      (u.pass grid).AveragesExactly r earth e ∧ (u.pass grid').AveragesExactly r earth e) :
      Outcome.InStep Series.IsAtMost g (u.applyFile r earth file g)
        (u.applyFile r earth file' g) :=
    hfile r fun e he => inStep_average (p := u.pass grid) (q := u.pass grid') hbelow rfl
      fun _ hpoints _ ht =>
        meansKeepOrder_of_exact hbelow rfl hfinite hfinite' (h e he).1 (h e he).2 hpoints ht
  refine ⟨hexact .exact fun e _ => ⟨averagesExactly_exact hfinite, averagesExactly_exact hfinite'⟩,
    hexact, fun h => hfile .binary64 fun e he => ?_⟩
  obtain ⟨⟨out, hout⟩, out', hout'⟩ := h e he
  exact inStep_average (p := u.pass grid) (q := u.pass grid') hbelow rfl fun _ hpoints _ ht =>
    meansKeepOrder_of_average hbelow rfl hfinite hfinite' hout hout' hpoints ht

end AirQualityUpdate

/-! ### Two grids of the strip -/

namespace Strip

/-- Four cells at each of two time steps. -/
def lowGrid : AirQualityGrid := grid 3 .int8 [-3, -2, -2, 9, 0, 1, 1, 7] 6

/-- The same strip with higher cells. -/
def highGrid : AirQualityGrid := grid 3 .int8 [-3, 1, -2, 9, 0, 1, 5, 7] 6

theorem isBelow_highGrid : lowGrid.IsBelow highGrid :=
  ⟨rfl, rfl, rfl, rfl, rfl, rfl, by decide +kernel⟩

theorem hasFiniteCells_lowGrid : lowGrid.HasFiniteCells :=
  AirQualityGrid.hasFiniteCells_of_integers rfl (by decide +kernel)

theorem hasFiniteCells_highGrid : highGrid.HasFiniteCells :=
  AirQualityGrid.hasFiniteCells_of_integers rfl (by decide +kernel)

end Strip

namespace AirQualityUpdate

theorem applyFile_le_of_isBelow_strip :
    let u : AirQualityUpdate := { files := [], workers := 3 }
    let g : Graph := ⟨[Strip.street 0 3, Strip.street 2 2]⟩
    let low := u.applyFile .binary64 Strip.earth ⟨.ofText "low.nc", .grid Strip.lowGrid⟩ g
    let high := u.applyFile .binary64 Strip.earth ⟨.ofText "high.nc", .grid Strip.highGrid⟩ g
    Strip.lowGrid.IsBelow Strip.highGrid ∧ Strip.lowGrid.HasFiniteCells ∧
      Strip.highGrid.HasFiniteCells ∧ Outcome.InStep Series.IsAtMost g low high ∧
      low.graph.edges.map Edge.airQuality = [some ⟨.int8, [-2, 1]⟩, none] ∧
      high.graph.edges.map Edge.airQuality = [some ⟨.int8, [-1, 2]⟩, none] := by
  intro u g low high
  have hall : ∀ e ∈ g.edgesIn Strip.lowGrid.boundingBox,
      (∃ out, (u.pass Strip.lowGrid).average .binary64 Strip.earth e = .ok out) ∧
      ∃ out, (u.pass Strip.highGrid).average .binary64 Strip.earth e = .ok out := by
    intro e he
    have hmem : e ∈ [Strip.street 0 3, Strip.street 2 2] := List.mem_of_mem_filter he
    rcases List.mem_cons.1 hmem with rfl | hmem
    · exact ⟨⟨some ⟨.int8, [-2, 1]⟩, Traversal.eq_ok_of_toOption (by decide +kernel)⟩,
        some ⟨.int8, [-1, 2]⟩, Traversal.eq_ok_of_toOption (by decide +kernel)⟩
    · obtain rfl := List.mem_singleton.1 hmem
      exact ⟨⟨none, Traversal.eq_ok_of_toOption (by decide +kernel)⟩,
        none, Traversal.eq_ok_of_toOption (by decide +kernel)⟩
  refine ⟨Strip.isBelow_highGrid, Strip.hasFiniteCells_lowGrid, Strip.hasFiniteCells_highGrid, ?_,
    by decide +kernel, by decide +kernel⟩
  exact (applyFile_le_of_isBelow u Strip.earth Strip.isBelow_highGrid Strip.hasFiniteCells_lowGrid
    Strip.hasFiniteCells_highGrid (.ofText "low.nc") (.ofText "high.nc") g).2.2 hall

end AirQualityUpdate

end StreetEnv
