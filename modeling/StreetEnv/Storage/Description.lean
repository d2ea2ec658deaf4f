import StreetEnv.Json.Reader
import StreetEnv.Storage.VectorFile

/-!
# Descriptions

Datasets are described as structured data: this module reads the descriptions.  A number that has no
literal is written as a text, one of `nan`, `inf`, `-inf` and `-0.0`; whole numbers beyond the
doubles are written as texts of digits.

Feature tables are written as the structured data that `Description.table` reads, with the
attributes of the enriched edges beside the identifier of each feature.
-/

namespace StreetEnv

/-! ### Reading descriptions -/

namespace Description

/-- A double. -/
def float : Json → Number
  | .string "nan" => .nan
  | .string "inf" => .infinite false
  | .string "-inf" => .infinite true
  | .string "-0.0" => .negativeZero
  | j => j.number?.getD .nan

/-- Several doubles. -/
def floats (j : Json) : List Number := j.items.map float

/-- A whole number. -/
def integer : Json → Int
  | .string s => s.toInt?.getD 0
  | .number x => x.value.floor
  | j => j.int?.getD 0

/-- A natural number. -/
def natural (j : Json) : Nat := (integer j).toNat

/-- A point; further ordinates are dropped. -/
def coordinate (j : Json) : Coordinate :=
  match floats j with
  | x :: y :: _ => ⟨x, y⟩
  | _ => ⟨.nan, .nan⟩

/-- A point of a line, with the third ordinate if there is one. -/
def vertex (j : Json) : Vertex := { coordinate j with z := (floats j)[2]? }

/-- An envelope by its four bounds. -/
def envelope (j : Json) : Envelope :=
  match floats j with
  | [a, b, c, d] => ⟨a, b, c, d⟩
  | _ => ⟨.nan, .nan, .nan, .nan⟩

/-- The cell of a type. -/
def cell (type : CellType) (j : Json) : Number :=
  if type.isFloating then type.rounding.store (float j) else .ofInt (integer j)

/-- The cell type that a key names. -/
def cellType (j : Json) (default : CellType) : CellType :=
  ((j.get "dtype").text?.bind CellType.ofName?).getD default

/-- An array with a given shape. -/
def arrayOf (type : CellType) (shape : List Nat) (values : Json) : DataArray :=
  .ofCells type shape (values.items.map (cell type))

/-- An array that describes its own shape; without one it is one-dimensional. -/
def array (j : Json) : DataArray :=
  let values := j.get "values"
  let shape := match j.get? "shape" with
    | some s => s.items.map natural
    | none => [values.items.length]
  arrayOf (cellType j .float64) shape values

/-- The value of an attribute; several numbers are of one type. -/
def attribute? : Json → Option Attribute
  | .string s => some (.text s)
  | .int n => some (.number .int64 (.ofInt n))
  | .number x => some (.number .float64 x)
  | .array items =>
    match items.mapM Json.text? with
    | some [s] => some (.text s)
    | some (s :: ss) => some (.texts (s :: ss))
    | _ =>
      let type : CellType := if items.all (·.int?.isSome) then .int64 else .float64
      match items with
      | [j] => some (.number type (cell type j))
      | items => some (.numbers type (items.map (cell type)))
  | _ => none

/-- A variable, on dimensions with the given lengths. -/
def dataVariable (lengths : List (String × Nat)) (j : Json) : Variable :=
  let dims := (j.get "dims").items.filterMap Json.text?
  let shape := dims.map fun d => (lengths.lookup d).getD 0
  { name := (j.get "name").text?.getD ""
    dimensions := dims
    array := arrayOf (cellType j .float64) shape (j.get "values")
    units := attribute? ((j.get "attrs").get "units") }

/-- A set of variables. -/
def variableSet (j : Json) : VariableSet :=
  let lengths := (j.get "dims").items.map fun d =>
    ((d.items.getD 0 .null).text?.getD "", natural (d.items.getD 1 .null))
  ⟨(j.get "variables").items.map (dataVariable lengths)⟩

/-- A reference system: a text, or the number of its code. -/
def system? : Json → Option ReferenceSystem
  | .string s => some (.named s)
  | .int n => some (.epsg n)
  | _ => none

/-- The reference system of a raster. -/
def rasterSystem (s : ReferenceSystem) : RasterSystem where
  name := s.code?.elim s.text fun n => s!"EPSG:{n}"
  isGeographic := Atlas.projection? s = some .degrees

/-- A raster. -/
def raster (j : Json) : Raster :=
  let shape := [natural (j.get "count"), natural (j.get "height"), natural (j.get "width")]
  let tags := match j.get "tags" with
    | .object fields => fields.filterMap fun (k, v) => v.text?.map fun t => (k, t)
    | _ => []
  { bands := arrayOf (cellType j .uint8) shape (j.get "values")
    system := (system? (j.get "crs")).map rasterSystem
    transform := match floats (j.get "transform") with
      | [a, b, c, d, e, f] => ⟨a, b, c, d, e, f⟩
      | _ => .identity
    tags := tags }

/-- A dataset, by its kind; `none` for a file that is absent. -/
def dataset? (j : Json) : Option Dataset :=
  match (j.get "kind").text? with
  | some "netcdf" => some (.variableSet (variableSet j))
  | some "geotiff" => some (.raster (raster j))
  | some "absent" => none
  | _ => some .other

/-- A geometry has no ordinates anywhere in it; `n` bounds how deep they are looked for. -/
def hasNoOrdinates : Nat → Json → Bool
  | 0, _ => false
  | n + 1, j =>
    match j with
    | .array items => items.all (hasNoOrdinates n)
    | .object fields =>
      fields.all fun (k, v) =>
        (k != "coordinates" && k != "geometries") || hasNoOrdinates n v
    | _ => false

/-- A geometry; `null` for a missing one. -/
def geometry? (j : Json) : Option Geometry :=
  let coordinates := j.get "coordinates"
  match (j.get "type").text? with
  | some "LineString" => some (.line (coordinates.items.map vertex))
  | some "MultiLineString" =>
    some (.lines (coordinates.items.map fun p => p.items.map vertex))
  | some kind => some (.other kind (hasNoOrdinates 12 j))
  | none => none

/-- A cell of a column of identifiers. -/
def identifier : Json → Identifier
  | .bool b => .flag b
  | .int n => .integer n
  | .number x => .real x
  | .string s => .text s
  | _ => .missing

/-- A table of features. -/
def table (j : Json) : FeatureTable :=
  let rows : List Feature := (j.get "features").items.map fun f =>
    { id := identifier (f.get "id"), geometry := geometry? (f.get "geometry") }
  .ofRows ((system? (j.get "crs")).filter Atlas.standard.knows) (j.get "column").text? rows

/-- The table of a collection of features in degrees, whose identifiers are a property; other data
has none. -/
def collection? (j : Json) : Option FeatureTable :=
  if (j.get "type").text? = some "FeatureCollection" then
    let features := (j.get "features").items
    let hasId (f : Json) : Bool := ((f.get "properties").get? "id").isSome
    let rows : List Feature := features.map fun f =>
      { id := identifier ((f.get "properties").get "id"), geometry := geometry? (f.get "geometry") }
    some (.ofRows (some .wgs84) (if features.any hasId then some "id" else none) rows)
  else none

/-- The layer of a text at a path, if the text is a collection of features. -/
def layers? (path : FilePath) (j : Json) : Option (List (String × FeatureTable)) := do
  guard ((j.get "kind").text? = some "text")
  let data ← Json.read? ((j.get "content").text?.getD "")
  let table ← collection? data
  return [(VectorFormat.layerName path "GeoJSON" none, table)]

/-- Puts a described file into a tree; a file described as absent is removed. -/
def install (t : FileTree) (j : Json) : FileTree :=
  let path := FilePath.ofText ((j.get "name").text?.getD "")
  match layers? path j, dataset? j with
  | some ls, _ => t.install path (.layers ls)
  | none, some d => t.install path (.dataset d)
  | none, none => t.remove path

end Description

/-! ### Writing tables -/

namespace Description

/-- A number; one without a literal is written as a text. -/
def ofNumber : Number → Json
  | .rational q => .number (.rational q)
  | x => .string x.text

/-- A cell of a column of identifiers. -/
def ofIdentifier : Identifier → Json
  | .missing => .null
  | .flag b => .bool b
  | .integer n => .int n
  | .real x => ofNumber x
  | .text s => .string s

/-- The ordinates of a point of a line. -/
def ofVertex (v : Vertex) : Json := .array (([v.x, v.y] ++ v.z.toList).map ofNumber)

/-- The vertices of a line. -/
def ofLine (vs : List Vertex) : Json := .array (vs.map ofVertex)

/-- A reference system. -/
def ofSystem : ReferenceSystem → Json
  | .epsg code => .int code
  | .named definition => .string definition

/-- A geometry; of one that is not made of lines only the kind is kept. -/
def ofGeometry : Geometry → Json
  | .line vs => .object [("type", .string "LineString"), ("coordinates", ofLine vs)]
  | .lines parts =>
    .object [("type", .string "MultiLineString"), ("coordinates", .array (parts.map ofLine))]
  | .other kind _ => .object [("type", .string kind)]

/-- A feature with its attributes. -/
def ofFeature (f : Feature) : Json :=
  .object
    [("id", ofIdentifier f.id),
      ("geometry", Json.ofOption ofGeometry f.geometry),
      ("aqi", Json.ofOption .string f.airQuality),
      ("aqi_time", Json.ofOption .int f.airQualityTime),
      ("noise_level", Json.ofOption ofNumber f.noise)]

/-- A table. -/
def ofTable (t : FeatureTable) : Json :=
  .object
    [("crs", Json.ofOption ofSystem t.system),
      ("column", Json.ofOption .string t.idColumn),
      ("features", .array (t.rows.map ofFeature))]

end Description

end StreetEnv
