import StreetEnv.Grid.AirQualityFile
import StreetEnv.Grid.Reader
import StreetEnv.Sampling.Sampler
import StreetEnv.Street.Graph

/-!
# Attribution of grids to edges

An `AirQualityPass` walks along every edge, takes the nearest cell of the grid at each sample, and
gives the edge the average per time step.  An edge shorter than the spacing has no samples and stays
as it is.

* `AirQualityPass.average` is the series of a single edge;
* `AirQualityPass.write` writes series onto edges, one after the other, and stops at a fault;
* `AirQualityPass.run` averages as it writes, or with several workers averages batches first.

An `AirQualityUpdate` applies files to a graph, in order, so that a later file overwrites what an
earlier one wrote.

* `AirQualityUpdate.errors` joins the errors of the files that are not valid;
* `AirQualityUpdate.apply` refuses to start with such a file, and else applies all files;
* `AirQualityUpdate.applyFile` applies one file to the edges inside its bounding box.
-/

namespace StreetEnv

/-! ### Passes -/

/-- One pass of a grid over edges. -/
structure AirQualityPass where
  /-- The grid. -/
  grid : AirQualityGrid
  /-- Metres between samples. -/
  spacing : Number := Sampler.defaultSpacing
  /-- Every how many written edges the progress is reported; `none` for never. -/
  reportEvery : Option Int := some 10000
  /-- The number of workers that average. -/
  workers : Int := 1

/-- What happens in a pass. -/
inductive PassEvent where
  /-- An edge is written. -/
  | wrote
  /-- So many of so many edges are reported to be written. -/
  | reported (written total : Nat)
  deriving DecidableEq, Inhabited

/-- What is left of a pass over edges. -/
structure PassResult where
  /-- The edges, as far as they were written. -/
  edges : List Edge
  /-- How many were written. -/
  written : Nat
  /-- What happened, in order. -/
  events : List PassEvent
  /-- The fault that stopped the pass. -/
  fault : Option Fault

/-- The reports of a pass, in order. -/
def PassResult.reports (result : PassResult) : List (Nat × Nat) :=
  result.events.filterMap fun
    | .reported written total => some (written, total)
    | .wrote => none

namespace AirQualityPass

variable (p : AirQualityPass)

/-- An axis as doubles. -/
def axis (a : DataArray) : List Number := a.toList.map Rounding.binary64.store

/-- The position that an index means; a negative one counts from the end. -/
def position (i : Int) (n : Nat) : Nat := (if i < 0 then i + n else i).toNat

/-- The row and the column of the cell nearest to a point, given the latitudes and longitudes. -/
def nearestOn (r : Rounding) (rows columns : List Number) (c : Coordinate) : Nat × Nat :=
  (position (Axis.closestIndex r rows c.y) rows.length,
    position (Axis.closestIndex r columns c.x) columns.length)

/-- The cells of all time steps in a row and a column. -/
def cellsAt (place : Nat × Nat) : List Number :=
  (List.range p.grid.timeSize).map fun t => p.grid.cell t place.1 place.2

/-- The cells of all time steps at the cell nearest to a point. -/
def sampleAt (r : Rounding) (c : Coordinate) : List Number :=
  p.cellsAt (nearestOn r (axis p.grid.latitude) (axis p.grid.longitude) c)

/-- The cells of all time steps at each sample between two points. -/
def samplesBetween (r : Rounding) (earth : Earth) (a b : Coordinate) :
    Except Fault (List (List Number)) := do
  let sampler ← Sampler.between earth a b p.spacing
  let points ← sampler.points r earth
  let rows := axis p.grid.latitude
  let columns := axis p.grid.longitude
  return points.map fun c => p.cellsAt (nearestOn r rows columns c)

/-- Takes the cells of one sample, time step by time step. -/
def collect (r : Rounding) (acc : Accumulator) (sample : List Number) : Accumulator :=
  sample.zipIdx.foldl (fun acc (x, t) => acc.accept r t x) acc

/-- The averages along an edge; `none` for an edge without samples. -/
def average (r : Rounding) (earth : Earth) (e : Edge) : Except Fault (Option Series) := do
  let samples ← p.samplesBetween r earth e.origin e.destination
  if samples.isEmpty then return none
  let acc := samples.foldl (collect r) (.empty p.grid.aqi.type)
  return some (← acc.averages r p.grid.timeSize)

/-- An edge and how its average is found when its turn comes. -/
abbrev Task := Edge × (Unit → Except Fault (Option Series))

/-- The report that is due when `n` of `total` edges are written. -/
def report (total n : Nat) : Except Fault (List PassEvent) :=
  match p.reportEvery with
  | none => .ok []
  | some every =>
    if every = 0 then .error .zeroReportInterval
    else if (n : Int) % every = 0 then .ok [.reported n total]
    else .ok []

/-- Writes averages onto edges in turn, when `n` of `total` are written. -/
def write (earth : Earth) (total n : Nat) : List Task → PassResult
  | [] => ⟨[], n, [], none⟩
  | (e, average) :: tasks =>
    let stop (e : Edge) (n : Nat) (events : List PassEvent) (f : Fault) : PassResult :=
      ⟨e :: tasks.map (·.1), n, events, some f⟩
    match average () with
    | .error f => stop e n [] f
    | .ok none =>
      let rest := write earth total n tasks
      { rest with edges := e :: rest.edges }
    | .ok (some series) =>
      match p.grid.originMillis earth.timeline with
      | .error f => stop e n [] f
      | .ok time =>
        let e := e.withAirQuality series time
        match p.report total (n + 1) with
        | .error f => stop e (n + 1) [.wrote] f
        | .ok reports =>
          let rest := write earth total (n + 1) tasks
          { rest with edges := e :: rest.edges, events := .wrote :: reports ++ rest.events }

/-- Cuts a list into pieces of a length, `fuel` at most. -/
def piecesOf {α : Type} (length : Nat) : Nat → List α → List (List α)
  | 0, _ => []
  | fuel + 1, xs =>
    if xs.isEmpty then [] else xs.take length :: piecesOf length fuel (xs.drop length)

/-- The batches of edges that workers average. -/
def batches (edges : List Edge) : List (List Edge) :=
  let length := max 1 (edges.length / (p.workers.toNat * 4))
  piecesOf length edges.length edges

/-- Averages all edges batch by batch. -/
def averageAll (r : Rounding) (earth : Earth) (edges : List Edge) :
    Except Fault (List (Option Series)) := do
  let parts ← (p.batches edges).mapM fun batch => batch.mapM (p.average r earth)
  return parts.flatten

/-- The pass over edges. -/
def run (r : Rounding) (earth : Earth) (edges : List Edge) : PassResult :=
  if 1 < p.workers ∧ edges ≠ [] then
    match p.averageAll r earth edges with
    | .error f => ⟨edges, 0, [], some f⟩
    | .ok averages =>
      p.write earth edges.length 0 ((edges.zip averages).map fun (e, a) => (e, fun _ => .ok a))
  else p.write earth edges.length 0 (edges.map fun e => (e, fun _ => p.average r earth e))

end AirQualityPass

/-! ### Updates -/

/-- Files and how they are applied. -/
structure AirQualityUpdate where
  /-- The files, in order. -/
  files : List AirQualityFile
  /-- Metres between samples. -/
  spacing : Number := Sampler.defaultSpacing
  /-- Every how many written edges the progress is reported. -/
  reportEvery : Option Int := some 10000
  /-- The number of workers that average. -/
  workers : Int := 1

namespace AirQualityUpdate

variable (u : AirQualityUpdate)

/-- The errors of the files that are not valid. -/
def errors : String := ", ".intercalate (u.files.filterMap AirQualityFile.error?)

/-- Refuses files that are not valid. -/
def check : Except Fault Unit := if u.errors = "" then .ok () else .error (.invalidFiles u.errors)

/-- The pass of a grid. -/
def pass (g : AirQualityGrid) : AirQualityPass := ⟨g, u.spacing, u.reportEvery, u.workers⟩

/-- Applies a grid to the edges inside an envelope. -/
def applyGrid (r : Rounding) (earth : Earth) (grid : AirQualityGrid) (box : Envelope) (g : Graph) :
    Outcome Nat :=
  let result := (u.pass grid).run r earth (g.edgesIn box)
  { graph := g.replaceIn box result.edges
    notices := result.reports.map fun (n, total) => .progress n total
    result := match result.fault with
      | some f => .error f
      | none => .ok result.written }

/-- Applies one file to the edges inside its bounding box; the number of edges written. -/
def applyFile (r : Rounding) (earth : Earth) (file : AirQualityFile) (g : Graph) : Outcome Nat :=
  match file.boundingBox with
  | .error f => ⟨g, [], .error f⟩
  | .ok box =>
    match file.grid?, file.error? with
    | some grid, _ => u.applyGrid r earth grid box g
    | none, e => ⟨g, [], .error (.invalidFiles (e.getD ""))⟩

/-- Applies files in turn until one fails; `written` edges were written before. -/
def applyAll (r : Rounding) (earth : Earth) (written : Nat) :
    List AirQualityFile → Graph → Outcome Nat
  | [], g => ⟨g, [], .ok written⟩
  | file :: files, g =>
    let first := u.applyFile r earth file g
    match first.result with
    | .error f => ⟨first.graph, first.notices, .error f⟩
    | .ok n =>
      let rest := applyAll r earth (written + n) files first.graph
      { rest with notices := first.notices ++ rest.notices }

/-- Applies the files; the number of edges written. -/
def apply (r : Rounding) (earth : Earth) (g : Graph) : Outcome Nat :=
  match u.check with
  | .error f => ⟨g, [], .error f⟩
  | .ok _ => u.applyAll r earth 0 u.files g

end AirQualityUpdate

end StreetEnv
