import StreetEnv.Proofs.Grid.Arrays
import StreetEnv.Proofs.Grid.LastFile
import StreetEnv.Proofs.Grid.StepMeans
import StreetEnv.Proofs.Sampling.Mirror

/-!
# A grid in the other direction

A grid may list its rows from north to south or from south to north, and its columns likewise.  The
bounding box does not depend on that, and neither does the series of an edge whose samples all have
a single nearest row and column.

* `AirQualityGrid.mirrored`: the grid with its rows, its columns or both in the other direction;
* `AirQualityGrid.boundingBox_mirrored`: it has the same bounding box;
* `AirQualityPass.Decides`: the edges whose samples have a single nearest cell;
* `AirQualityPass.decides_exact`: which edges these are when distances are exact;
* `AirQualityPass.average_mirrored`: such an edge has the same series;
* `AirQualityUpdate.applyFile_mirrored`: what an update leaves of such edges is the same.
-/

namespace StreetEnv

namespace AirQualityGrid

open DataArray AirQualityPass

variable {g : AirQualityGrid} {rows columns : Bool}

/-- The grid with its rows, its columns or both in the other direction. -/
def mirrored (g : AirQualityGrid) (rows columns : Bool) : AirQualityGrid :=
  { g with
    latitude := g.latitude.flipIf rows 0
    longitude := g.longitude.flipIf columns 0
    aqi := (g.aqi.flipIf rows 1).flipIf columns 2
    latitude_isAxis := g.latitude_isAxis.flipIf 0
    longitude_isAxis := g.longitude_isAxis.flipIf 0
    shape_eq := by simp [g.shape_eq] }

theorem cell_mirrored {t row column : Nat} (ht : t < g.timeSize) (hrow : row < g.latitude.size)
    (hcolumn : column < g.longitude.size) :
    (g.mirrored rows columns).cell t (mirror rows g.latitude.size row)
        (mirror columns g.longitude.size column) = g.cell t row column := by
  have hrange {i j : Nat} (hi : i < g.latitude.size) (hj : j < g.longitude.size) :
      InRange g.aqi.shape [t, i, j] := by
    rw [g.shape_eq]
    exact .cons ht (.cons hi (.cons hj .nil))
  show ((g.aqi.flipIf rows 1).flipIf columns 2).get _ = _
  rw [get_flipIf 2 (by rw [shape_flipIf]; exact hrange (mirror_lt hrow) (mirror_lt hcolumn))]
  have hcolumns :
      [t, mirror rows g.latitude.size row, mirror columns g.longitude.size column].modify
        2 (mirror columns ((g.aqi.flipIf rows 1).shape.getD 2 0)) =
        [t, mirror rows g.latitude.size row, column] := by
    simp [g.shape_eq, mirror_mirror hcolumn]
  rw [hcolumns, get_flipIf 1 (hrange (mirror_lt hrow) hcolumn)]
  have hrows : [t, mirror rows g.latitude.size row, column].modify 1
      (mirror rows (g.aqi.shape.getD 1 0)) = [t, row, column] := by
    simp [g.shape_eq, mirror_mirror hrow]
  rw [hrows]
  rfl

/-- The first entry of an axis. -/
def firstEntry (a : DataArray) : Number := Rounding.binary64.store (a.get [0])

/-- The last entry of an axis. -/
def lastEntry (a : DataArray) : Number := Rounding.binary64.store (a.get [a.size - 1])

theorem boundingBox_eq (g : AirQualityGrid) :
    g.boundingBox = .ofCorners (firstEntry g.longitude) (lastEntry g.longitude)
      (firstEntry g.latitude) (lastEntry g.latitude) :=
  rfl

section Ends

variable {a : DataArray}

theorem firstEntry_flip (ha : a.IsAxis) : firstEntry (a.flip 0) = lastEntry a := by
  rw [firstEntry, ha.get_flip (Nat.pos_of_ne_zero ha.2), Nat.sub_zero, lastEntry]

theorem lastEntry_flip (ha : a.IsAxis) : lastEntry (a.flip 0) = firstEntry a := by
  have hsize : 0 < a.size := Nat.pos_of_ne_zero ha.2
  rw [lastEntry, size_flip, ha.get_flip (by omega), Nat.sub_self, firstEntry]

theorem ends_comparable (ha : a.IsAxis) (h : Axis.IsMonotone (axis a)) :
    lastEntry a < firstEntry a ∨ firstEntry a < lastEntry a ∨ lastEntry a = firstEntry a := by
  have hsize : 0 < a.size := Nat.pos_of_ne_zero ha.2
  by_cases hone : a.size = 1
  · refine .inr (.inr ?_)
    rw [lastEntry, hone, firstEntry]
  have hzero : 0 < (axis a).length := by rwa [length_axis]
  have hend : a.size - 1 < (axis a).length := by
    rw [length_axis]
    omega
  have hfirst : (axis a)[0] = firstEntry a := getElem_axis ha hzero
  have hlast : (axis a)[a.size - 1] = lastEntry a := getElem_axis ha hend
  rw [← hfirst, ← hlast]
  rcases h with hup | hdown
  · exact .inr (.inl (List.pairwise_iff_getElem.1 hup 0 (a.size - 1) hzero hend (by omega)))
  · exact .inl (List.pairwise_iff_getElem.1 hdown 0 (a.size - 1) hzero hend (by omega))

theorem ends_flipIf (ha : a.IsAxis) (h : Axis.IsMonotone (axis a)) (b : Bool) :
    (firstEntry (a.flipIf b 0)).least (lastEntry (a.flipIf b 0)) =
        (firstEntry a).least (lastEntry a) ∧
      (firstEntry (a.flipIf b 0)).greatest (lastEntry (a.flipIf b 0)) =
        (firstEntry a).greatest (lastEntry a) := by
  cases b
  · exact ⟨rfl, rfl⟩
  · have hends := ends_comparable ha h
    show (firstEntry (a.flip 0)).least (lastEntry (a.flip 0)) = _ ∧
      (firstEntry (a.flip 0)).greatest (lastEntry (a.flip 0)) = _
    rw [firstEntry_flip ha, lastEntry_flip ha]
    exact ⟨Number.least_comm_of hends, Number.greatest_comm_of hends⟩

end Ends

/-- **The bounding box of the mirrored grid** is the same. -/
theorem boundingBox_mirrored (hlat : Axis.IsMonotone (axis g.latitude))
    (hlon : Axis.IsMonotone (axis g.longitude)) :
    (g.mirrored rows columns).boundingBox = g.boundingBox := by
  have hx := ends_flipIf g.longitude_isAxis hlon columns
  have hy := ends_flipIf g.latitude_isAxis hlat rows
  rw [boundingBox_eq, boundingBox_eq, Envelope.ofCorners, Envelope.ofCorners]
  simp only [mirrored]
  rw [hx.1, hx.2, hy.1, hy.2]

end AirQualityGrid

namespace AirQualityPass

open DataArray

variable {p : AirQualityPass} {r : Rounding} {earth : Earth} {rows columns : Bool} {e : Edge}

/-! ### The nearest cell -/

theorem position_closestIndex_flipIf {a : DataArray} (ha : a.IsAxis)
    (h : Axis.IsMonotone (axis a)) {v : Number} (hv : Axis.IsDecided r (axis a) v) (b : Bool) :
    ∃ k < a.size, position (Axis.closestIndex r (axis a) v) (axis a).length = k ∧
      position (Axis.closestIndex r (axis (a.flipIf b 0)) v) (axis (a.flipIf b 0)).length =
        mirror b a.size k := by
  have hne : axis a ≠ [] := by
    rw [← List.length_pos_iff, length_axis]
    exact Nat.pos_of_ne_zero ha.2
  obtain ⟨k, hlt, hk, hreverse⟩ := hv.closestIndex_reverse h hne
  rw [length_axis] at hlt hreverse
  refine ⟨k, hlt, by rw [hk, position_natCast], ?_⟩
  cases b
  · show position (Axis.closestIndex r (axis a) v) (axis a).length = k
    rw [hk, position_natCast]
  · show position (Axis.closestIndex r (axis (a.flip 0)) v) (axis (a.flip 0)).length =
      a.size - 1 - k
    rw [axis_flip ha, hreverse, position_natCast]

/-- The pass of the mirrored grid. -/
def mirrored (p : AirQualityPass) (rows columns : Bool) : AirQualityPass :=
  { p with grid := p.grid.mirrored rows columns }

/-- Every sample of the edge has a single nearest row and a single nearest column. -/
def Decides (p : AirQualityPass) (r : Rounding) (earth : Earth) (e : Edge) : Prop :=
  ∀ points, p.samplePoints r earth e = .ok points → ∀ c ∈ points,
    Axis.IsDecided r (axis p.grid.latitude) c.y ∧ Axis.IsDecided r (axis p.grid.longitude) c.x

/-- Without rounding, these are the edges whose samples are finite and midway between no two
neighbours, if the axes are finite. -/
theorem decides_exact (hlat : Axis.IsStrict (axis p.grid.latitude))
    (hlon : Axis.IsStrict (axis p.grid.longitude))
    (h : ∀ points, p.samplePoints .exact earth e = .ok points → ∀ c ∈ points,
      (c.y.isFinite = true ∧ Axis.NotMidway (axis p.grid.latitude) c.y) ∧
        c.x.isFinite = true ∧ Axis.NotMidway (axis p.grid.longitude) c.x) :
    p.Decides .exact earth e := by
  intro points hpoints c hc
  obtain ⟨⟨hy, hmidY⟩, hx, hmidX⟩ := h points hpoints c hc
  exact ⟨hlat.isDecided_exact hy hmidY, hlon.isDecided_exact hx hmidX⟩

theorem sampleAt_mirrored (hlat : Axis.IsMonotone (axis p.grid.latitude))
    (hlon : Axis.IsMonotone (axis p.grid.longitude)) {c : Coordinate}
    (hy : Axis.IsDecided r (axis p.grid.latitude) c.y)
    (hx : Axis.IsDecided r (axis p.grid.longitude) c.x) :
    (p.mirrored rows columns).sampleAt r c = p.sampleAt r c := by
  obtain ⟨row, hrow, hy, hy'⟩ := position_closestIndex_flipIf p.grid.latitude_isAxis hlat hy rows
  obtain ⟨column, hcolumn, hx, hx'⟩ :=
    position_closestIndex_flipIf p.grid.longitude_isAxis hlon hx columns
  have hplace : nearestOn r (axis p.grid.latitude) (axis p.grid.longitude) c = (row, column) :=
    Prod.ext hy hx
  have hplace' : nearestOn r (axis (p.mirrored rows columns).grid.latitude)
      (axis (p.mirrored rows columns).grid.longitude) c =
        (mirror rows p.grid.latitude.size row, mirror columns p.grid.longitude.size column) :=
    Prod.ext hy' hx'
  rw [sampleAt, sampleAt, hplace, hplace']
  exact List.map_congr_left fun t ht =>
    AirQualityGrid.cell_mirrored (List.mem_range.1 ht) hrow hcolumn

/-- **An edge whose samples have a single nearest cell has the same series.** -/
theorem average_mirrored (hlat : Axis.IsMonotone (axis p.grid.latitude))
    (hlon : Axis.IsMonotone (axis p.grid.longitude)) (he : p.Decides r earth e) :
    (p.mirrored rows columns).average r earth e = p.average r earth e := by
  have hsamples : (p.mirrored rows columns).samplesBetween r earth e.origin e.destination =
      p.samplesBetween r earth e.origin e.destination := by
    have hpoints :
        (p.mirrored rows columns).samplePoints r earth e = p.samplePoints r earth e := rfl
    rw [samplesBetween_eq, samplesBetween_eq, hpoints]
    cases hpoints : p.samplePoints r earth e with
    | error f => rfl
    | ok points =>
      have hsame : points.map ((p.mirrored rows columns).sampleAt r) = points.map (p.sampleAt r) :=
        List.map_congr_left fun c hc => sampleAt_mirrored hlat hlon (he points hpoints c hc).1
          (he points hpoints c hc).2
      exact congrArg Except.ok hsame
  have htype : (p.mirrored rows columns).grid.aqi.type = p.grid.aqi.type := by
    simp [mirrored, AirQualityGrid.mirrored]
  unfold average
  rw [hsamples, htype]
  rfl

theorem offer?_mirrored (hlat : Axis.IsMonotone (axis p.grid.latitude))
    (hlon : Axis.IsMonotone (axis p.grid.longitude)) (he : p.Decides r earth e) :
    (p.mirrored rows columns).offer? r earth e = p.offer? r earth e := by
  rw [offer?, average_mirrored hlat hlon he]
  rfl

end AirQualityPass

namespace AirQualityUpdate

open AirQualityPass

variable {u : AirQualityUpdate} {r : Rounding} {earth : Earth} {grid : AirQualityGrid}
  {rows columns : Bool} {g : Graph}

/-- If all selected edges have a single nearest cell for each sample, the update by the mirrored
grid is the same, its faults included. -/
theorem applyGrid_mirrored (hlat : Axis.IsMonotone (axis grid.latitude))
    (hlon : Axis.IsMonotone (axis grid.longitude))
    (hall : ∀ e ∈ g.edgesIn grid.boundingBox, (u.pass grid).Decides r earth e) :
    u.applyGrid r earth (grid.mirrored rows columns) (grid.mirrored rows columns).boundingBox g =
      u.applyGrid r earth grid grid.boundingBox g := by
  have hrun : (u.pass (grid.mirrored rows columns)).run r earth (g.edgesIn grid.boundingBox) =
      (u.pass grid).run r earth (g.edgesIn grid.boundingBox) :=
    run_congr (p := u.pass grid) (q := u.pass (grid.mirrored rows columns)) rfl rfl rfl
      fun e he => average_mirrored (p := u.pass grid) hlat hlon (hall e he)
  rw [AirQualityGrid.boundingBox_mirrored hlat hlon, applyGrid, applyGrid, hrun]

/-- If neither update fails, an edge that has a single nearest cell for each sample ends the same,
whatever the other edges are. -/
theorem getElem?_applyGrid_mirrored (hlat : Axis.IsMonotone (axis grid.latitude))
    (hlon : Axis.IsMonotone (axis grid.longitude)) {n m : Nat}
    (hn : (u.applyGrid r earth grid grid.boundingBox g).result = .ok n)
    (hm : (u.applyGrid r earth (grid.mirrored rows columns)
      (grid.mirrored rows columns).boundingBox g).result = .ok m)
    {i : Nat} {e : Edge} (hi : g.edges[i]? = some e) (he : (u.pass grid).Decides r earth e) :
    (u.applyGrid r earth (grid.mirrored rows columns)
        (grid.mirrored rows columns).boundingBox g).graph.edges[i]? =
      (u.applyGrid r earth grid grid.boundingBox g).graph.edges[i]? := by
  have hoffer : (u.pass (grid.mirrored rows columns)).offer? r earth e =
      (u.pass grid).offer? r earth e :=
    offer?_mirrored (p := u.pass grid) hlat hlon he
  rw [(applyGrid_of_ok hn).1, (applyGrid_of_ok hm).1, List.getElem?_map, List.getElem?_map, hi]
  refine congrArg some ?_
  rw [run_overwrite_singleton, run_overwrite_singleton, hoffer]
  show (if (grid.mirrored rows columns).boundingBox.contains e.envelope = true then _ else _) = _
  rw [AirQualityGrid.boundingBox_mirrored hlat hlon]
  rfl

/-- **The direction of an axis does not matter** to edges whose samples have a single nearest row
and a single nearest column.  The bounding box of the mirrored grid is the same, and so are the
edges it selects.  Such an edge is offered the same series and time.  If all selected edges are
such, the whole update is the same, its faults included; and if there are others but neither update
fails, the edges of this kind end the same. -/
theorem applyFile_mirrored (hlat : Axis.IsMonotone (axis grid.latitude))
    (hlon : Axis.IsMonotone (axis grid.longitude)) (rows columns : Bool) (path : FilePath)
    (g : Graph) :
    let file : AirQualityFile := ⟨path, .grid grid⟩
    let file' : AirQualityFile := ⟨path, .grid (grid.mirrored rows columns)⟩
    file'.boundingBox = file.boundingBox ∧
      g.edgesIn (grid.mirrored rows columns).boundingBox = g.edgesIn grid.boundingBox ∧
      (∀ e, (u.pass grid).Decides r earth e →
        (u.pass (grid.mirrored rows columns)).average r earth e = (u.pass grid).average r earth e ∧
        (u.pass (grid.mirrored rows columns)).offer? r earth e = (u.pass grid).offer? r earth e) ∧
      ((∀ e ∈ g.edgesIn grid.boundingBox, (u.pass grid).Decides r earth e) →
        u.applyFile r earth file' g = u.applyFile r earth file g) ∧
      ∀ n m, (u.applyFile r earth file g).result = .ok n →
        (u.applyFile r earth file' g).result = .ok m →
        ∀ (i : Nat) e, g.edges[i]? = some e → (u.pass grid).Decides r earth e →
          (u.applyFile r earth file' g).graph.edges[i]? =
            (u.applyFile r earth file g).graph.edges[i]? := by
  intro file file'
  have hbox : (grid.mirrored rows columns).boundingBox = grid.boundingBox :=
    AirQualityGrid.boundingBox_mirrored hlat hlon
  refine ⟨congrArg Except.ok hbox, by rw [hbox], fun e he => ⟨?_, ?_⟩, fun hall => ?_, ?_⟩
  · exact average_mirrored (p := u.pass grid) hlat hlon he
  · exact offer?_mirrored (p := u.pass grid) hlat hlon he
  · exact applyGrid_mirrored hlat hlon hall
  · intro n m hn hm i e hi he
    exact getElem?_applyGrid_mirrored hlat hlon hn hm hi he

end AirQualityUpdate

/-! ### Two grids and their mirror images -/

namespace Strip

/-- Three columns, the first of them infinitely far west. -/
def openGrid : AirQualityGrid :=
  { grid 2 .int8 [1, 2, 3, 1, 2, 3] 0 with
    longitude := .ofList .float64 [.infinite true, 0, 10]
    longitude_isAxis := by simp [DataArray.IsAxis, DataArray.rank, DataArray.size, DataArray.ofList]
    shape_eq := by simp [grid, DataArray.size, DataArray.ofList, DataArray.ofCells] }

/-- A street that begins beside the middle column. -/
def besideMiddle : Edge :=
  { id := .missing, origin := ⟨1, 0⟩, destination := ⟨.rational (1 + 1 / 5000), 0⟩ }

/-- The only sample of the first street of the strip is its origin, and that is on a column. -/
theorem decides_street : pass.Decides .binary64 earth (street 0 1) := by
  have hpoints : pass.samplePoints .binary64 earth (street 0 1) = .ok [⟨0, 0⟩] :=
    Traversal.eq_ok_of_toOption (by decide +kernel)
  intro points h c hc
  rw [hpoints] at h
  obtain rfl := Except.ok.inj h
  obtain rfl := List.mem_singleton.1 hc
  refine ⟨⟨⟨by decide +kernel, by decide +kernel⟩, ?_⟩,
    ⟨⟨by decide +kernel, by decide +kernel⟩, ?_⟩⟩
  · intro i a b _ hnext
    have hrow : (AirQualityPass.axis pass.grid.latitude).length = 1 := by decide +kernel
    have hi := (List.getElem?_eq_some_iff.1 hnext).1
    omega
  · -- the first column is at the sample, and the others are behind it
    have haxis : AirQualityPass.axis pass.grid.longitude =
        [0, .rational (1 / 8192), .rational (1 / 4096), .rational (3 / 8192)] := by decide +kernel
    intro i a b ha hb
    rw [haxis] at ha hb
    have hi : i + 1 < 4 := (List.getElem?_eq_some_iff.1 hb).1
    rcases (by omega : i = 0 ∨ i = 1 ∨ i = 2) with rfl | rfl | rfl <;>
      cases ha <;> cases hb <;> decide +kernel

end Strip

namespace AirQualityUpdate

open AirQualityPass

/-- The first street of the strip, with the columns listed from both ends. -/
theorem applyFile_mirrored_strip :
    let u : AirQualityUpdate := { files := [], workers := 3 }
    Axis.IsMonotone (axis Strip.pass.grid.latitude) ∧
      Axis.IsMonotone (axis Strip.pass.grid.longitude) ∧
      u.applyFile .binary64 Strip.earth
        ⟨.ofText "west.nc", .grid (Strip.pass.grid.mirrored true true)⟩
          ⟨[Strip.street 0 1]⟩ =
        u.applyFile .binary64 Strip.earth ⟨.ofText "west.nc", .grid Strip.pass.grid⟩
          ⟨[Strip.street 0 1]⟩ := by
  intro u
  have hlat : Axis.IsMonotone (axis Strip.pass.grid.latitude) := .inl (by decide +kernel)
  have hlon : Axis.IsMonotone (axis Strip.pass.grid.longitude) := .inl (by decide +kernel)
  obtain ⟨-, -, -, hall, -⟩ := @applyFile_mirrored u .binary64 Strip.earth Strip.pass.grid hlat hlon
    true true (.ofText "west.nc") ⟨[Strip.street 0 1]⟩
  refine ⟨hlat, hlon, hall fun e he => ?_⟩
  obtain rfl := List.mem_singleton.1 (List.mem_of_mem_filter he)
  exact Strip.decides_street

/-- A street beside the middle column gets the cell of this column or of the last one, depending on
the end from which the columns are listed. -/
theorem exists_mirrored_ne :
    let u : AirQualityUpdate := { files := [] }
    Axis.IsMonotone (axis Strip.openGrid.longitude) ∧
      (u.pass Strip.openGrid).samplePoints .binary64 Strip.earth Strip.besideMiddle =
        .ok [⟨1, 0⟩] ∧
      (u.applyFile .binary64 Strip.earth ⟨.ofText "east.nc", .grid Strip.openGrid⟩
        ⟨[Strip.besideMiddle]⟩).graph.edges.map Edge.airQuality = [some ⟨.int8, [3, 3]⟩] ∧
      (u.applyFile .binary64 Strip.earth
        ⟨.ofText "west.nc", .grid (Strip.openGrid.mirrored false true)⟩
        ⟨[Strip.besideMiddle]⟩).graph.edges.map Edge.airQuality = [some ⟨.int8, [2, 2]⟩] := by
  intro u
  refine ⟨.inl (by decide +kernel), ?_, by decide +kernel, by decide +kernel⟩
  exact Traversal.eq_ok_of_toOption (by decide +kernel)

end AirQualityUpdate

end StreetEnv
