import StreetEnv.Grid.Reader
import StreetEnv.Proofs.Grid.Arrays
import StreetEnv.Proofs.Grid.Reading
import StreetEnv.Proofs.Number.Range
import StreetEnv.Proofs.Sampling.Even

/-!
# The pixels of a raster

A raster without rotation cuts the plane into rectangles.  The file that is read from it keeps the
centres of the pixels as its axes, and a lookup takes the nearest ones.  Without rounding the
nearest centre is that of the pixel in which a point lies.

* `Raster.IsReadable`: the rasters that hold a grid, and `AirQualityFile.read_raster` reads them;
* `Raster.pixelNear` is the pixel with the nearest centre, `Raster.Encloses` the rectangle of one;
* `Raster.IsExact`: the arithmetic gives the centres and compares their distances as they are;
* `Raster.isExact_exact`: so it does without rounding;
* `AirQualityFile.sampleAt_raster`: what a lookup in the file answers;
* `AirQualityFile.read_raster_pixels`: that is the pixel in which the point lies.
-/

namespace StreetEnv

/-! ### Rasters -/

namespace Raster

variable (s : Raster)

/-- The number of bands. -/
def count : Nat := s.bands.shape.getD 0 0

/-- The number of rows. -/
def height : Nat := s.bands.shape.getD 1 0

/-- The number of columns. -/
def width : Nat := s.bands.shape.getD 2 0

/-- The raster holds a grid: it is on longitudes and latitudes, not rotated, says when time zero is,
and has a pixel. -/
structure IsReadable (timeline : Timeline) (names : GridNames) : Prop where
  /-- The reference system is one of longitudes and latitudes, if there is one. -/
  geographic : ∀ system, s.system = some system → system.isGeographic = true
  /-- The columns are not sheared. -/
  columns_upright : s.transform.b.same 0 = true
  /-- The rows are not sheared. -/
  rows_upright : s.transform.d.same 0 = true
  /-- The tag says when time zero is. -/
  origin : ((s.tags.lookup names.originTag).bind (TimeOrigin.read? timeline)).isSome = true
  /-- There are bands by rows by columns. -/
  shape_eq : s.bands.shape = [s.count, s.height, s.width]
  /-- There is a band. -/
  count_pos : 0 < s.count
  /-- There is a row. -/
  height_pos : 0 < s.height
  /-- There is a column. -/
  width_pos : 0 < s.width

/-- The pixels have a place and a size. -/
structure IsPlaced : Prop where
  /-- The columns begin somewhere. -/
  column_edge : s.transform.c.isFinite = true
  /-- The columns have a width. -/
  column_size : s.transform.a.isFinite = true ∧ s.transform.a.value ≠ 0
  /-- The rows begin somewhere. -/
  row_edge : s.transform.f.isFinite = true
  /-- The rows have a height. -/
  row_size : s.transform.e.isFinite = true ∧ s.transform.e.value ≠ 0

/-- The latitudes of the rows, computed with a rounding. -/
def rows (r : Rounding) : List Number :=
  (List.range s.height).map (AirQualityFile.centre r s.transform.f s.transform.e)

/-- The longitudes of the columns, computed with a rounding. -/
def columns (r : Rounding) : List Number :=
  (List.range s.width).map (AirQualityFile.centre r s.transform.c s.transform.a)

/-- The row and the column of the pixel whose centre is nearest to a point. -/
def pixelNear (r : Rounding) (c : Coordinate) : Nat × Nat :=
  AirQualityPass.nearestOn r (s.rows r) (s.columns r) c

/-- The values of all bands in a pixel, in the order of the bands. -/
def valuesAt (pixel : Nat × Nat) : List Number :=
  (List.range s.count).map fun t => s.bands.get [t, pixel.1, pixel.2]

/-- The point lies strictly inside the rectangle of the pixel in a row and a column. -/
def Encloses (row column : Nat) (c : Coordinate) : Prop :=
  Axis.Between (s.transform.f.value + row * s.transform.e.value)
      (s.transform.f.value + (row + 1) * s.transform.e.value) c.y.value ∧
    Axis.Between (s.transform.c.value + column * s.transform.a.value)
      (s.transform.c.value + (column + 1) * s.transform.a.value) c.x.value

/-- The rounding changes neither the centres of the pixels nor the order of their distances from a
point. -/
structure IsExact (r : Rounding) (c : Coordinate) : Prop where
  /-- The rows are where they should be. -/
  rows_eq : s.rows r = Axis.centres s.height s.transform.f.value s.transform.e.value
  /-- So are the columns. -/
  columns_eq : s.columns r = Axis.centres s.width s.transform.c.value s.transform.a.value
  /-- The distances of the rows compare as they are. -/
  resolves_rows : Axis.Resolves r (s.rows r) c.y
  /-- So do those of the columns. -/
  resolves_columns : Axis.Resolves r (s.columns r) c.x

end Raster

namespace AirQualityFile

theorem centre_exact {edge size : Number} (hedge : edge.isFinite = true)
    (hsize : size.isFinite = true) (hne : size.value ≠ 0) (i : Nat) :
    centre .exact edge size i = .rational (edge.value + (i + 1 / 2) * size.value) := by
  have hhalf : (i : Rat) + 1 / 2 ≠ 0 := by positivity
  cases size with
  | nan => cases hsize
  | infinite negative => cases hsize
  | negativeZero => exact absurd rfl hne
  | rational q =>
    have hproduct : ((i : Rat) + 1 / 2) * q ≠ 0 := mul_ne_zero hhalf hne
    have hmul : ((Number.natural i).add .exact (.rational (1 / 2))).mul .exact (.rational q) =
        .rational ((i + 1 / 2) * q) := if_neg hproduct
    rw [centre, hmul]
    cases edge with
    | nan => cases hedge
    | infinite negative => cases hedge
    | negativeZero => rfl
    | rational p => rfl

end AirQualityFile

namespace Raster

variable {s : Raster} {r : Rounding} {c : Coordinate}

/-- **Without rounding** everything is exact. -/
theorem isExact_exact (hs : s.IsPlaced) (hx : c.x.isFinite = true) (hy : c.y.isFinite = true) :
    s.IsExact .exact c := by
  have hrows : s.rows .exact = Axis.centres s.height s.transform.f.value s.transform.e.value :=
    List.map_congr_left fun i _ =>
      AirQualityFile.centre_exact hs.row_edge hs.row_size.1 hs.row_size.2 i
  have hcolumns :
      s.columns .exact = Axis.centres s.width s.transform.c.value s.transform.a.value :=
    List.map_congr_left fun i _ =>
      AirQualityFile.centre_exact hs.column_edge hs.column_size.1 hs.column_size.2 i
  refine ⟨hrows, hcolumns, ?_, ?_⟩
  · rw [hrows]
    exact (Axis.isStrict_centres hs.row_size.2).resolves_exact hy
  · rw [hcolumns]
    exact (Axis.isStrict_centres hs.column_size.2).resolves_exact hx

theorem fallsInto_position {axis : List Number} {n : Nat} {e size : Rat} {v : Number}
    (haxis : axis = Axis.centres n e size) (hr : Axis.Resolves r axis v) (hsize : size ≠ 0)
    (hn : 0 < n) :
    Axis.FallsInto n e size v.value
      (AirQualityPass.position (Axis.closestIndex r axis v) axis.length) := by
  subst haxis
  have hne : Axis.centres n e size ≠ [] := by
    rw [← List.length_pos_iff, Axis.length_centres]
    exact hn
  obtain ⟨k, hk, hnearest⟩ := hr.closestIndex_isNearest (Axis.isStrict_centres hsize) hne
  rw [hk, AirQualityPass.position_natCast]
  exact hnearest.fallsInto hsize hn

/-- **The pixel with the nearest centre is the one in which the point falls.** -/
theorem IsExact.fallsInto (h : s.IsExact r c) (hs : s.IsPlaced) (hheight : 0 < s.height)
    (hwidth : 0 < s.width) :
    Axis.FallsInto s.height s.transform.f.value s.transform.e.value c.y.value
        (s.pixelNear r c).1 ∧
      Axis.FallsInto s.width s.transform.c.value s.transform.a.value c.x.value
        (s.pixelNear r c).2 :=
  ⟨fallsInto_position h.rows_eq h.resolves_rows hs.row_size.2 hheight,
    fallsInto_position h.columns_eq h.resolves_columns hs.column_size.2 hwidth⟩

end Raster

/-! ### The file of a raster -/

theorem DataArray.isAxis_ofList (type : CellType) (f : Nat → Number) {n : Nat} (hn : 0 < n) :
    (ofList type ((List.range n).map f)).IsAxis ∧
      (ofList type ((List.range n).map f)).size = n := by
  have hsize : (ofList type ((List.range n).map f)).size = n := by simp [size, ofList]
  exact ⟨⟨rfl, by rw [hsize]; exact hn.ne'⟩, hsize⟩

namespace AirQualityPass

theorem axis_ofList (type : CellType) (xs : List Number) :
    axis (.ofList type xs) = xs.map Rounding.binary64.store := by
  simp [axis, DataArray.toList, DataArray.ofList]

end AirQualityPass

namespace AirQualityFile

variable {timeline : Timeline} {names : GridNames} {path : FilePath} {s : Raster}

theorem axis_centres (n : Nat) (edge size : Number) :
    AirQualityPass.axis (centres n edge size) =
      (List.range n).map (centre .binary64 edge size) := by
  rw [centres, AirQualityPass.axis_ofList, List.map_map]
  refine List.map_congr_left fun i _ => ?_
  exact Number.store_add _ _

theorem isAxis_centres {n : Nat} (hn : 0 < n) (edge size : Number) :
    (centres n edge size).IsAxis ∧ (centres n edge size).size = n :=
  DataArray.isAxis_ofList .float64 (centre .binary64 edge size) hn

theorem partsOfRaster_of_isReadable (hs : s.IsReadable timeline names) :
    ∃ o : TimeOrigin, partsOfRaster timeline names s = .ok
      { time := some (.ofList .int64 ((List.range s.count).map Number.natural))
        latitude := some (centres s.height s.transform.f s.transform.e)
        longitude := some (centres s.width s.transform.c s.transform.a)
        aqi := some s.bands
        origin := some o.instant
        unit := o.unit } := by
  have hsystem : (s.system.filter fun t => !t.isGeographic) = none := by
    cases h : s.system with
    | none => rfl
    | some system =>
      rw [Option.filter_eq_none_iff]
      intro t ht
      cases ht
      rw [hs.geographic system h]
      exact Bool.false_ne_true
  obtain ⟨o, ho⟩ := Option.isSome_iff_exists.1 hs.origin
  refine ⟨o, ?_⟩
  rw [partsOfRaster, hsystem, ho]
  simp only [hs.columns_upright, hs.rows_upright]
  rfl

theorem not_variableSuffixes (h : rasterSuffixes.contains path.kind = true) :
    ¬ variableSuffixes.contains path.kind = true := by
  rw [List.contains_iff_mem] at h
  simp only [rasterSuffixes, List.mem_cons, List.not_mem_nil, or_false] at h
  rcases h with h | h
  · rw [h]
    decide
  · rw [h]
    decide

/-- **A raster that holds a grid is read as one**: the axes are the centres of its pixels, the block
is its bands, and there is a time step per band. -/
theorem read_raster (hkind : rasterSuffixes.contains path.kind = true)
    (hs : s.IsReadable timeline names) :
    ∃ grid, read timeline names path (some (.raster s)) = .ok (⟨path, .grid grid⟩, []) ∧
      grid.latitude = centres s.height s.transform.f s.transform.e ∧
      grid.longitude = centres s.width s.transform.c s.transform.a ∧
      grid.aqi = s.bands ∧ grid.timeSize = s.count := by
  obtain ⟨o, ho⟩ := partsOfRaster_of_isReadable hs
  obtain ⟨htime, hcount⟩ := DataArray.isAxis_ofList .int64 Number.natural hs.count_pos
  obtain ⟨hlatitude, hheight⟩ := isAxis_centres hs.height_pos s.transform.f s.transform.e
  obtain ⟨hlongitude, hwidth⟩ := isAxis_centres hs.width_pos s.transform.c s.transform.a
  have hshape := hs.shape_eq
  rw [← hcount, ← hheight, ← hwidth] at hshape
  let grid : AirQualityGrid :=
    ⟨_, _, _, s.bands, o.instant, o.unit, htime, hlatitude, hlongitude, hshape⟩
  refine ⟨grid, ?_, rfl, rfl, rfl, hcount⟩
  have hparts : partsOfRaster timeline names s = .ok grid.parts := ho
  have hvariables := not_variableSuffixes hkind
  unfold read
  rw [if_neg hvariables, if_pos hkind]
  simp only [hparts, settled_parts]

/-- **What a lookup in the file answers**: the values of the pixel with the nearest centre. -/
theorem sampleAt_raster {p : AirQualityPass}
    (hlatitude : p.grid.latitude = centres s.height s.transform.f s.transform.e)
    (hlongitude : p.grid.longitude = centres s.width s.transform.c s.transform.a)
    (haqi : p.grid.aqi = s.bands) (htime : p.grid.timeSize = s.count) (c : Coordinate) :
    p.sampleAt .binary64 c = s.valuesAt (s.pixelNear .binary64 c) := by
  rw [AirQualityPass.sampleAt, hlatitude, hlongitude, axis_centres, axis_centres,
    AirQualityPass.cellsAt, htime]
  simp only [AirQualityGrid.cell, haqi]
  rfl

/-- **A lookup finds the pixel in which the point lies.** A raster that holds a grid, with pixels of
any size other than zero, is loaded as a valid file without a notice.  A lookup in it answers with
the values of all bands, in their order, at the pixel with the nearest centre.  Wherever the
arithmetic is exact, that is the pixel whose rectangle has the point inside; on a side of two pixels
it is the first of them, and outside of the raster the pixel at the border, in each direction. -/
theorem read_raster_pixels (timeline : Timeline) (names : GridNames) (path : FilePath)
    (s : Raster) (hkind : rasterSuffixes.contains path.kind = true)
    (hs : s.IsReadable timeline names) (hplaced : s.IsPlaced) :
    ∃ file grid, read timeline names path (some (.raster s)) = .ok (file, []) ∧ file.path = path ∧
      file.grid? = some grid ∧
      (∀ p : AirQualityPass, p.grid = grid → ∀ c,
        p.sampleAt .binary64 c = s.valuesAt (s.pixelNear .binary64 c)) ∧
      (∀ c : Coordinate, c.x.isFinite = true → c.y.isFinite = true → s.IsExact .exact c) ∧
      ∀ (r : Rounding) (c : Coordinate), s.IsExact r c →
        Axis.FallsInto s.height s.transform.f.value s.transform.e.value c.y.value
            (s.pixelNear r c).1 ∧
          Axis.FallsInto s.width s.transform.c.value s.transform.a.value c.x.value
            (s.pixelNear r c).2 ∧
          ∀ row < s.height, ∀ column < s.width, s.Encloses row column c →
            s.valuesAt (s.pixelNear r c) = s.valuesAt (row, column) := by
  obtain ⟨grid, hread, hlatitude, hlongitude, haqi, htime⟩ := read_raster hkind hs
  refine ⟨⟨path, .grid grid⟩, grid, hread, rfl, rfl, ?_, fun c => Raster.isExact_exact hplaced,
    ?_⟩
  · rintro p rfl c
    exact sampleAt_raster hlatitude hlongitude haqi htime c
  · intro r c hexact
    obtain ⟨hrow, hcolumn⟩ := hexact.fallsInto hplaced hs.height_pos hs.width_pos
    refine ⟨hrow, hcolumn, fun row hrow' column hcolumn' hinside => ?_⟩
    have hpixel : s.pixelNear r c = (row, column) :=
      Prod.ext (hrow.inside row hrow' hinside.1) (hcolumn.inside column hcolumn' hinside.2)
    rw [hpixel]

end AirQualityFile

/-! ### A raster with the first row in the north -/

namespace Raster

/-- Two bands of two rows of three pixels. -/
def northUp : Raster where
  bands := .ofCells .uint8 [2, 2, 3] [1, 2, 3, 4, 5, 6, 7, 8, 9, 10, 11, 12]
  system := some ⟨"EPSG:4326", true⟩
  transform := { a := 10, b := 0, c := 95, d := 0, e := .rational (-10), f := 35 }
  tags := [("time_origin", "hours since 2024-01-01T00:00:00")]

theorem northUp_isReadable : northUp.IsReadable .standard {} where
  geographic := by
    intro system h
    cases h
    decide
  columns_upright := by decide +kernel
  rows_upright := by decide +kernel
  origin := by decide +kernel
  shape_eq := rfl
  count_pos := by decide
  height_pos := by decide
  width_pos := by decide

theorem northUp_isPlaced : northUp.IsPlaced := by
  constructor
  all_goals decide +kernel

theorem northUp_isExact : northUp.IsExact .binary64 ⟨118, 28⟩ where
  rows_eq := by decide +kernel
  columns_eq := by decide +kernel
  resolves_rows := ⟨by decide +kernel, by decide +kernel⟩
  resolves_columns := ⟨by decide +kernel, by decide +kernel⟩

theorem northUp_encloses : northUp.Encloses 0 2 ⟨118, 28⟩ :=
  ⟨.inr (by decide +kernel), .inl (by decide +kernel)⟩

end Raster

/-- The last pixel of the first row holds 3 in the first band and 9 in the second one. -/
theorem AirQualityFile.read_raster_pixels_northUp :
    ∃ file grid, read .standard {} (.ofText "aqi.tif") (some (.raster .northUp)) = .ok (file, []) ∧
      file.grid? = some grid ∧
      ∀ p : AirQualityPass, p.grid = grid → p.sampleAt .binary64 ⟨118, 28⟩ = [3, 9] := by
  obtain ⟨file, grid, hread, -, hgrid, hlookup, -, hexact⟩ :=
    read_raster_pixels .standard {} (.ofText "aqi.tif") .northUp (by decide +kernel)
      Raster.northUp_isReadable Raster.northUp_isPlaced
  refine ⟨file, grid, hread, hgrid, fun p hp => ?_⟩
  obtain ⟨-, -, hinside⟩ := hexact .binary64 ⟨118, 28⟩ Raster.northUp_isExact
  rw [hlookup p hp, hinside 0 (by decide) 2 (by decide) Raster.northUp_encloses]
  decide +kernel

end StreetEnv
