import StreetEnv.Decimal.Text
import StreetEnv.Fault
import StreetEnv.Geodesy.Atlas
import StreetEnv.Notice
import StreetEnv.Street.Graph

/-!
# Feature tables

A `FeatureTable` is what a vector layer holds: features with a geometry, perhaps a column of
identifiers, and the attributes that an export adds.

* `FeatureTable.reproject` takes the geometries to another reference system;
* `FeatureTable.explode` keeps the lines and makes one row per part of a line;
* `Identifier.column` gives the cells of a column one type, as far as they are numbers;
* `FeatureTable.toGraph` makes an edge of every part of a line, from its first vertex to its last.
  A table without a column of identifiers numbers the edges from zero;
* `Graph.toTable` exports a graph as one row per edge.  The air quality is a text: the cells,
  between commas.
-/

namespace StreetEnv

/-! ### Tables -/

/-- A geometry. -/
inductive Geometry where
  /-- A line by its vertices. -/
  | line (vertices : List Vertex)
  /-- Several lines. -/
  | lines (parts : List (List Vertex))
  /-- Any other geometry: its kind, and whether it is empty. -/
  | other (kind : String) (isEmpty : Bool)
  deriving DecidableEq, Inhabited

namespace Geometry

/-- The name of the kind of a geometry. -/
def kind : Geometry → String
  | line _ => "LineString"
  | lines _ => "MultiLineString"
  | other kind _ => kind

/-- A geometry without any point. -/
def isEmpty : Geometry → Bool
  | line vs => vs.isEmpty
  | lines parts => parts.all List.isEmpty
  | other _ isEmpty => isEmpty

/-- The lines of a geometry, if it is made of lines. -/
def parts? : Geometry → Option (List (List Vertex))
  | line vs => some [vs]
  | lines parts => some parts
  | other _ _ => none

/-- The kinds of single geometries, each with the kind that collects them. -/
def collections : List (String × String) :=
  [("LineString", "MultiLineString"), ("Point", "MultiPoint"), ("Polygon", "MultiPolygon")]

/-- A single geometry as a collection of itself. -/
def collected : Geometry → Geometry
  | line vs => lines [vs]
  | other kind isEmpty => other ((collections.lookup kind).getD kind) isEmpty
  | g => g

/-- A collection of one line as that line. -/
def single : Geometry → Geometry
  | lines [vs] => line vs
  | g => g

/-- The geometry with every vertex of its lines moved. -/
def map (f : Vertex → Vertex) : Geometry → Geometry
  | line vs => line (vs.map f)
  | lines parts => lines (parts.map (List.map f))
  | g => g

end Geometry

namespace Identifier

/-- The cells of a column.  Where some cells are whole numbers and others are missing or have a
fraction, all numbers become doubles; in a column with other cells each keeps its type. -/
def column (cells : List Identifier) : List Identifier :=
  let isNumeric : Identifier → Bool
    | integer _ => true
    | real _ => true
    | missing => true
    | _ => false
  let isInteger : Identifier → Bool
    | integer _ => true
    | _ => false
  if cells.all isNumeric && !cells.all isInteger then
    cells.map fun
      | integer n => real (Rounding.binary64.round n)
      | c => c
  else cells

end Identifier

/-- A row of a feature table. -/
structure Feature where
  /-- The cell of the column of identifiers. -/
  id : Identifier := .missing
  /-- The geometry. -/
  geometry : Option Geometry
  /-- The air quality as text. -/
  airQuality : Option String := none
  /-- The time of the air quality, in milliseconds of the epoch. -/
  airQualityTime : Option Int := none
  /-- The noise level. -/
  noise : Option Number := none
  deriving DecidableEq, Inhabited

/-- A table of features. -/
structure FeatureTable where
  /-- The reference system of the geometries. -/
  system : Option ReferenceSystem
  /-- The name of the column of identifiers. -/
  idColumn : Option String
  /-- The rows. -/
  rows : List Feature
  deriving DecidableEq, Inhabited

namespace FeatureTable

/-- The table with the given rows, their identifiers as one column. -/
def ofRows (system : Option ReferenceSystem) (idColumn : Option String) (rows : List Feature) :
    FeatureTable :=
  let ids := Identifier.column (rows.map (·.id))
  ⟨system, idColumn, (rows.zip ids).map fun (f, id) => { f with id := id }⟩

/-- The table with every vertex of its lines moved. -/
def moved (t : FeatureTable) (f : Vertex → Vertex) : FeatureTable :=
  { t with rows := t.rows.map fun row => { row with geometry := row.geometry.map (.map f) } }

/-- The table in another reference system.  One that is in the same system is left as it is. -/
def reproject (atlas : Atlas) (t : FeatureTable) (target : ReferenceSystem) :
    Except Fault FeatureTable × List Notice :=
  match t.system with
  | none => (.error .noReferenceSystem, [])
  | some source =>
    if !atlas.knows target then (.error .unknownReferenceSystem, [])
    else if atlas.same source target then (.ok t, [])
    else
      match atlas.convert? source target with
      | none => (.error .noConversion, [.reprojectionFailed target.text])
      | some f => (.ok { t.moved f with system := some target }, [])

/-- Texts in order, each once. -/
def distinct (names : List String) : List String :=
  (names.mergeSort fun a b => a ≤ b).eraseReps

/-- The geometries are of two kinds: a single one, and the one that collects it. -/
def mixesCollections (t : FeatureTable) : Bool :=
  let kinds := distinct (t.rows.filterMap fun f => f.geometry.map Geometry.kind)
  Geometry.collections.any fun (single, collection) => kinds == distinct [single, collection]

/-- The row of each part of the lines of a feature. -/
def partsOf (f : Feature) : List Feature :=
  match f.geometry with
  | some (.lines parts) => parts.map fun p => { f with geometry := some (.line p) }
  | _ => [f]

/-- Keeps the rows with lines, one row per part; a notice tells of geometries of other kinds. -/
def explode (t : FeatureTable) : FeatureTable × List Notice :=
  let present := t.rows.filter fun f => (f.geometry.map fun g => !g.isEmpty).getD false
  let isLinear (f : Feature) : Bool := (f.geometry.bind Geometry.parts?).isSome
  let others := present.filter fun f => !isLinear f
  let notices :=
    if others.isEmpty then []
    else
      let kinds := distinct (others.filterMap fun f => f.geometry.map Geometry.kind)
      [.skippedFeatures others.length kinds]
  ({ t with rows := (present.filter isLinear).flatMap partsOf }, notices)

end FeatureTable

/-! ### Import -/

namespace FeatureTable

/-- The edge of a line, between the first two ordinates of its ends. -/
def edgeOf (id : Identifier) (vertices : List Vertex) : Except Fault Edge :=
  match vertices.head?, vertices.getLast? with
  | some first, some last =>
    .ok
      { id := id
        origin := first.toCoordinate
        destination := last.toCoordinate
        line := some vertices }
  | _, _ => .error .emptyPart

/-- The vertices of a row with a line. -/
def vertices (f : Feature) : List Vertex :=
  match f.geometry with
  | some (.line vs) => vs
  | _ => []

/-- The identifiers of the edges: the column, or the numbers of the rows. -/
def identifiers (t : FeatureTable) (field : String) : List Identifier × List Notice :=
  if t.idColumn = some field then (t.rows.map (·.id), [])
  else ((List.range t.rows.length).map fun (i : Nat) => .integer i, [.noIdentifiers field])

/-- The table in the reference system with a code, unless it is in one already. -/
def assuming (t : FeatureTable) (epsg : Int) : FeatureTable × List Notice :=
  match t.system with
  | none => ({ t with system := some (.epsg epsg) }, [.assumedSystem epsg])
  | some _ => (t, [])

/-- The graph of the lines of a table. -/
def graphOfLines (t : FeatureTable) (field : String) : Except Fault Graph × List Notice :=
  let (t, skipped) := t.explode
  let (ids, missing) := t.identifiers field
  let edges := (ids.zip t.rows).mapM fun (id, f) => edgeOf id (vertices f)
  (edges.map Graph.mk, skipped ++ missing)

/-- The graph of a table, in the reference system with a code. -/
def toGraph (atlas : Atlas) (t : FeatureTable) (field : String) (epsg : Int) :
    Except Fault Graph × List Notice :=
  let (t, assumed) := t.assuming epsg
  match t.reproject atlas (.epsg epsg) with
  | (.error f, failed) => (.error f, assumed ++ failed)
  | (.ok t, _) =>
    let (g, notices) := t.graphOfLines field
    (g, assumed ++ notices)

end FeatureTable

/-! ### Export -/

/-- The text of a cell. -/
def CellType.cellText (t : CellType) (x : Number) : String :=
  if t.isFloating then x.text else toString x.value.num

/-- The cells of a series, between commas. -/
def Series.text (s : Series) : String := ",".intercalate (s.values.map s.type.cellText)

namespace Edge

/-- The vertices of the line, and the two ends of an edge without one. -/
def vertices (e : Edge) : List Vertex := e.line.getD [{ e.origin with }, { e.destination with }]

/-- The row of an edge. -/
def toFeature (e : Edge) : Feature :=
  { id := e.id
    geometry := some (.line e.vertices)
    airQuality := e.airQuality.map Series.text
    airQualityTime := e.airQualityTime
    noise := e.noise.filter fun x => x ≠ .nan }

end Edge

namespace Graph

/-- The name of the column of identifiers in an export. -/
def idColumn : String := "id"

/-- The table of a graph. -/
def toTable (g : Graph) : FeatureTable :=
  .ofRows (some .wgs84) (some idColumn) (g.edges.map Edge.toFeature)

end Graph

end StreetEnv
