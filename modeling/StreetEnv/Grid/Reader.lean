import StreetEnv.Grid.AirQualityFile
import StreetEnv.Notice
import StreetEnv.Storage.FileTree
import StreetEnv.Time.Timeline

/-!
# Reading air quality files

The suffix of a path decides how a dataset is read: variables for `.nc`, `.nc4` and `.cdf`, bands of
a raster for `.tif` and `.tiff`.  The result is a file that holds a grid or says why it does not.
An impossible value that a reader comes upon is such a reason, any other fault stops the reading.

* `GridVariables.block` puts a block in the order time, latitude, longitude;
* `AirQualityFile.partsOfVariables` finds the variables of a grid;
* `AirQualityFile.partsOfRaster` computes the centres of the pixels;
* `AirQualityFile.read` chooses between them and gives notice of a file without a grid.
-/

namespace StreetEnv

/-- The names under which a file keeps its parts. -/
structure GridNames where
  /-- The latitude axis. -/
  latitude : String := "latitude"
  /-- The longitude axis. -/
  longitude : String := "longitude"
  /-- The time axis. -/
  time : String := "time"
  /-- The block. -/
  aqi : String := "AQI"
  /-- The tag of a raster that says when time zero is. -/
  originTag : String := "time_origin"
  deriving DecidableEq, Inhabited

namespace Variable

/-- The name of the first dimension. -/
def firstDimension (v : Variable) : Except Fault String :=
  match v.dimensions with
  | d :: _ => .ok d
  | [] => .error .axisWithoutDimension

/-- Puts the dimensions of a variable in the wanted order, if they are the wanted ones.  With a
dimension twice, there is no order to put them in. -/
def arranged (v : Variable) (wanted : List String) : Except Fault DataArray :=
  if wanted.all v.dimensions.contains && v.dimensions.all wanted.contains then
    match v.dimensions.find? fun d => 1 < v.dimensions.count d with
    | none => .ok (v.array.transpose (wanted.map fun d => v.dimensions.idxOf d))
    | some d =>
      if v.dimensions = wanted then .ok v.array
      else .error (.repeatedDimension d v.dimensions)
  else .ok v.array

end Variable

/-- The time origin that units name.  A number other than zero cannot be searched for a word;
several texts can, but they cannot be cut there; an array of numbers does not tell whether it is
zero, unless it has a single entry. -/
def TimeOrigin.ofUnits? (timeline : Timeline) : Option Attribute → Except Fault (Option TimeOrigin)
  | none => .ok none
  | some (.text s) => .ok (TimeOrigin.read? timeline s)
  | some (.texts ss) => if TimeOrigin.separator ∈ ss then .error .listedUnits else .ok none
  | some (.number type x) => if x.value? = some 0 then .ok none else .error (.numericUnits type)
  | some (.numbers _ [_]) => .ok none
  | some (.numbers _ xs) => .error (.ambiguousUnits xs.length)

/-- A reading: the file, or the reason why the reader gave up. -/
abbrev GridReading := Except Fault (Except Rejection GridParts)

/-- The variables that make up a grid. -/
structure GridVariables where
  /-- The time axis. -/
  time : Variable
  /-- The latitude axis. -/
  latitude : Variable
  /-- The longitude axis. -/
  longitude : Variable
  /-- The block. -/
  aqi : Variable

namespace GridVariables

/-- The block in the order of the first dimensions of the axes. -/
def block (v : GridVariables) : Except Fault DataArray := do
  let t ← v.time.firstDimension
  let y ← v.latitude.firstDimension
  let x ← v.longitude.firstDimension
  v.aqi.arranged [t, y, x]

/-- The parts of the variables, once their time origin is known. -/
def partsFrom (v : GridVariables) (block : DataArray) (o : TimeOrigin) : GridParts where
  time := some v.time.array
  latitude := some v.latitude.array
  longitude := some v.longitude.array
  aqi := some block
  origin := some o.instant
  unit := o.unit

/-- The parts of the variables. -/
def parts (v : GridVariables) (timeline : Timeline) (names : GridNames) : GridReading :=
  if v.aqi.array.rank ≠ 3 then .ok (.error (.wrongRank names.aqi v.aqi.array.rank))
  else do
    let block ← v.block
    let origin ← TimeOrigin.ofUnits? timeline v.time.units
    return origin.elim (.error (.noOriginInVariable names.time)) fun o => .ok (v.partsFrom block o)

end GridVariables

namespace AirQualityFile

/-- The suffixes of files with variables. -/
def variableSuffixes : List String := [".nc", ".nc4", ".cdf"]

/-- The suffixes of rasters. -/
def rasterSuffixes : List String := [".tif", ".tiff"]

/-- The parts that variables offer. -/
def partsOfVariables (timeline : Timeline) (names : GridNames) (s : VariableSet) : GridReading :=
  let missing := [names.time, names.latitude, names.longitude, names.aqi].find? fun n =>
    (s.find? n).isNone
  match missing, s.find? names.time, s.find? names.latitude, s.find? names.longitude,
      s.find? names.aqi with
  | none, some time, some latitude, some longitude, some aqi =>
    GridVariables.parts ⟨time, latitude, longitude, aqi⟩ timeline names
  | some name, _, _, _, _ => .ok (.error (.missingVariable name))
  | _, _, _, _, _ => .ok (.error .incomplete)

/-- The centre of the pixel `i`, counted from an edge on. -/
def centre (r : Rounding) (edge size : Number) (i : Nat) : Number :=
  edge.add r (((Number.natural i).add r (.rational (1 / 2))).mul r size)

/-- The centres of `n` pixels of a size, from an edge on. -/
def centres (n : Nat) (edge size : Number) : DataArray :=
  .ofList .float64 ((List.range n).map (centre .binary64 edge size))

/-- The parts that a raster offers. -/
def partsOfRaster (timeline : Timeline) (names : GridNames) (r : Raster) :
    Except Rejection GridParts :=
  match r.system.filter fun s => !s.isGeographic with
  | some s => .error (.projected s.name)
  | none =>
    if !r.transform.b.same 0 || !r.transform.d.same 0 then .error .rotated
    else
      match (r.tags.lookup names.originTag).bind (TimeOrigin.read? timeline) with
      | none => .error (.noOriginTag names.originTag)
      | some o =>
        let count := r.bands.shape.getD 0 0
        .ok
          { time := some (.ofList .int64 ((List.range count).map Number.natural))
            latitude := some (centres (r.bands.shape.getD 1 0) r.transform.f r.transform.e)
            longitude := some (centres (r.bands.shape.getD 2 0) r.transform.c r.transform.a)
            aqi := some r.bands
            origin := some o.instant
            unit := o.unit }

/-- The file of a reading, and the notices about it: a reader that gives up says so, and so does the
check of the file. -/
def settled (path : FilePath) : Except Rejection GridParts → AirQualityFile × List Notice
  | .error why =>
    let text := why.text path.text
    (failed path why, [.rejected text, .rejected text])
  | .ok parts =>
    let f := ofParts path parts
    (f, f.error?.toList.map Notice.rejected)

/-- A file that cannot be read at all, and the notice about it. -/
def refused (path : FilePath) (why : Rejection) : AirQualityFile × List Notice :=
  (failed path why, [.rejected (why.text path.text)])

/-- The file of a reading; an impossible value is what a file without a grid reports. -/
def caught (path : FilePath) : GridReading → Except Fault (AirQualityFile × List Notice)
  | .ok found => .ok (settled path found)
  | .error f => if f.isInvalidValue then .ok (refused path (.reported f.text)) else .error f

/-- Reads what is stored at a path. -/
def read (timeline : Timeline) (names : GridNames) (path : FilePath) (stored : Option Dataset) :
    Except Fault (AirQualityFile × List Notice) :=
  if variableSuffixes.contains path.kind then
    match stored with
    | some (.variableSet s) => caught path (partsOfVariables timeline names s)
    | _ => .ok (refused path .unreadable)
  else if rasterSuffixes.contains path.kind then
    match stored with
    | some (.raster r) => .ok (settled path (partsOfRaster timeline names r))
    | _ => .ok (refused path .unreadable)
  else .ok (refused path .unsupported)

end AirQualityFile

end StreetEnv
