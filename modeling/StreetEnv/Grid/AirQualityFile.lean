import StreetEnv.Geometry.Envelope
import StreetEnv.Grid.DataArray
import StreetEnv.Storage.FilePath
import StreetEnv.Time.Timeline

/-!
# Air quality grids and files

An `AirQualityGrid` is a block of air quality indices over time, latitude and longitude, with its
axes and the instant of time zero.  Its shape facts are part of the type: the axes are
one-dimensional and not empty, and the block has one cell per entry of each axis.

* `GridParts.check` assembles a grid from parts, or says what is wrong with them;
* `AirQualityGrid.timestampAt` is the instant of a time index;
* `AirQualityGrid.boundingBox` spans the first and the last entries of the axes.

An `AirQualityFile` is a path with the grid found there, or with the reason why there is none.  A
rejected file may still know its axes, and then it has a bounding box.
-/

namespace StreetEnv

/-! ### Grids -/

/-- What a file offers towards a grid. -/
structure GridParts where
  /-- The time axis. -/
  time : Option DataArray := none
  /-- The latitude axis. -/
  latitude : Option DataArray := none
  /-- The longitude axis. -/
  longitude : Option DataArray := none
  /-- The air quality indices. -/
  aqi : Option DataArray := none
  /-- The instant of time zero. -/
  origin : Option Moment := none
  /-- The unit of the time axis. -/
  unit : TimeUnit := .hour
  deriving Inhabited

/-- A one-dimensional array that is not empty. -/
def DataArray.IsAxis (a : DataArray) : Prop := a.rank = 1 ∧ a.size ≠ 0

instance (a : DataArray) : Decidable a.IsAxis := inferInstanceAs (Decidable (_ ∧ _))

/-- A complete grid. -/
structure AirQualityGrid where
  /-- The time axis. -/
  time : DataArray
  /-- The latitude axis. -/
  latitude : DataArray
  /-- The longitude axis. -/
  longitude : DataArray
  /-- The air quality indices, by time, latitude and longitude. -/
  aqi : DataArray
  /-- The instant of time zero. -/
  origin : Moment
  /-- The unit of the time axis. -/
  unit : TimeUnit
  /-- The time axis is one. -/
  time_isAxis : time.IsAxis
  /-- The latitude axis is one. -/
  latitude_isAxis : latitude.IsAxis
  /-- The longitude axis is one. -/
  longitude_isAxis : longitude.IsAxis
  /-- The block has a cell per entry of each axis. -/
  shape_eq : aqi.shape = [time.size, latitude.size, longitude.size]

/-- Why a file holds no usable grid. -/
inductive Rejection where
  /-- Some array is missing. -/
  | incomplete
  /-- No instant is given for time zero. -/
  | noOrigin
  /-- An axis is empty or has several dimensions. -/
  | badAxis (axis : String)
  /-- The block does not fit the axes. -/
  | shapeMismatch (found expected : List Nat)
  /-- A variable is missing. -/
  | missingVariable (name : String)
  /-- The block has not three dimensions. -/
  | wrongRank (name : String) (rank : Nat)
  /-- The time variable does not say when time zero is. -/
  | noOriginInVariable (name : String)
  /-- The raster is not on longitudes and latitudes. -/
  | projected (system : String)
  /-- The raster is rotated. -/
  | rotated
  /-- The raster does not say when time zero is. -/
  | noOriginTag (tag : String)
  /-- The suffix is none of a known format. -/
  | unsupported
  /-- The file cannot be read as what its suffix says. -/
  | unreadable
  /-- A reason that was given from outside. -/
  | reported (text : String)
  deriving DecidableEq, Inhabited

namespace Rejection

/-- The lengths of dimensions between parentheses; a single one is followed by a comma. -/
def shapeText : List Nat → String
  | [n] => s!"({n},)"
  | ns => "(" ++ ", ".intercalate (ns.map toString) ++ ")"

/-- What is reported about the file at a path. -/
def text (path : String) : Rejection → String
  | incomplete => s!"Incomplete air quality data in {path} file"
  | noOrigin => s!"Missing time origin in {path} file"
  | badAxis axis => s!"Empty or multidimensional {axis} axis in {path} file"
  | shapeMismatch found expected =>
    s!"AQI grid shape {shapeText found} does not match axes {shapeText expected} in {path} file"
  | missingVariable name => s!"Missing {name} variable from {path} file"
  | wrongRank name rank => s!"{name} variable in {path} file must have 3 dimensions, got {rank}"
  | noOriginInVariable name => s!"Missing time origin in {name} variable of {path} file"
  | projected system => s!"Raster {path} must use geographic coordinates, found {system}"
  | rotated => s!"Rotated raster {path} is not supported"
  | noOriginTag tag => s!"Missing time origin tag {tag} in {path} file"
  | unsupported => s!"Unsupported air quality file format: {path}"
  | unreadable => s!"<unreadable {path}>"
  | reported text => text

end Rejection

namespace GridParts

/-- Assembles a grid.  The checks are made in the order of the reasons they give. -/
def check (p : GridParts) : Except Rejection AirQualityGrid :=
  match p.time, p.latitude, p.longitude, p.aqi with
  | some time, some latitude, some longitude, some aqi =>
    match p.origin with
    | none => .error .noOrigin
    | some origin =>
      if ht : time.IsAxis then
        if hy : latitude.IsAxis then
          if hx : longitude.IsAxis then
            if hs : aqi.shape = [time.size, latitude.size, longitude.size] then
              .ok ⟨time, latitude, longitude, aqi, origin, p.unit, ht, hy, hx, hs⟩
            else
              .error (.shapeMismatch aqi.shape [time.size, latitude.size, longitude.size])
          else .error (.badAxis "longitude")
        else .error (.badAxis "latitude")
      else .error (.badAxis "time")
  | _, _, _, _ => .error .incomplete

end GridParts

namespace AirQualityGrid

variable (g : AirQualityGrid) (timeline : Timeline)

/-- The number of time steps. -/
def timeSize : Nat := g.time.size

/-- The instant of a time index; a negative index counts from the end. -/
def timestampAt (i : Int) : Except Fault Moment := do
  let n := g.timeSize
  let k : Int := if i < 0 then i + n else i
  if k < 0 ∨ (n : Int) ≤ k then throw (.indexOutOfBounds i n)
  let x := Rounding.binary64.store (g.time.get [k.toNat])
  let offset ← (timeline.offset? g.unit x).elim (.error .offsetOutOfRange) .ok
  (timeline.add? g.origin offset).elim (.error .instantOutOfRange) .ok

/-- The epoch milliseconds of the first time step, rounded down. -/
def originMillis : Except Fault Int := do
  let instant ← g.timestampAt timeline 0
  let n ← (timeline.word? instant).elim (.error .epochOutOfRange) .ok
  return Int.fdiv n 1000000

/-- The envelope of the first and the last entries of the axes. -/
def boundingBox : Envelope :=
  let first (a : DataArray) := Rounding.binary64.store (a.get [0])
  let last (a : DataArray) := Rounding.binary64.store (a.get [a.size - 1])
  .ofCorners (first g.longitude) (last g.longitude) (first g.latitude) (last g.latitude)

/-- The cell of a time step, a row and a column. -/
def cell (t row column : Nat) : Number := g.aqi.get [t, row, column]

end AirQualityGrid

/-! ### Files -/

/-- What was found in a file. -/
inductive GridContent where
  /-- A complete grid. -/
  | grid (g : AirQualityGrid)
  /-- No grid: the reason, and the parts there are. -/
  | rejected (why : Rejection) (parts : GridParts)
  deriving Inhabited

/-- A file that was read for its air quality. -/
structure AirQualityFile where
  /-- Where it is. -/
  path : FilePath
  /-- What was found. -/
  content : GridContent
  deriving Inhabited

namespace AirQualityFile

/-- The file with parts, checked. -/
def ofParts (path : FilePath) (parts : GridParts) : AirQualityFile :=
  match parts.check with
  | .ok g => ⟨path, .grid g⟩
  | .error why => ⟨path, .rejected why parts⟩

/-- The file without data. -/
def failed (path : FilePath) (why : Rejection) : AirQualityFile := ⟨path, .rejected why {}⟩

/-- The grid, if the file is valid. -/
def grid? (f : AirQualityFile) : Option AirQualityGrid :=
  match f.content with
  | .grid g => some g
  | .rejected _ _ => none

/-- The reason, if the file is not valid. -/
def error? (f : AirQualityFile) : Option String :=
  match f.content with
  | .grid _ => none
  | .rejected why _ => some (why.text f.path.text)

/-- The file holds a grid. -/
def isValid (f : AirQualityFile) : Bool := f.error?.isNone

theorem exists_grid_of_isValid {f : AirQualityFile} (h : f.isValid = true) :
    ∃ grid, f.grid? = some grid := by
  obtain ⟨path, content⟩ := f
  cases content with
  | grid grid => exact ⟨grid, rfl⟩
  | rejected why parts => cases h

/-- The first and the last entry of what should be an axis. -/
def axisEnds (a : Option DataArray) : Except Fault (Number × Number) :=
  match a with
  | none => .error .noData
  | some a =>
    if a.rank ≠ 1 then .error .axisEntryNotScalar
    else if a.size = 0 then .error (.indexOutOfBounds 0 0)
    else .ok (a.get [0], a.get [a.size - 1])

/-- The envelope of the first and the last entries of the axes. -/
def boundingBox (f : AirQualityFile) : Except Fault Envelope :=
  match f.content with
  | .grid g => .ok g.boundingBox
  | .rejected _ parts => do
    let (west, east) ← axisEnds parts.longitude
    let (south, north) ← axisEnds parts.latitude
    return .ofCorners west east south north

end AirQualityFile

end StreetEnv
