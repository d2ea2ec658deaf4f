import StreetEnv.Storage.FileTree

/-!
# Vector files

Feature tables are kept in files as named layers.  The suffix tells the format; where it does not,
one is chosen all the same and a notice says so.

* `FileTree.saveTable` makes the directories above a path and writes a layer;
* `FileTree.loadTable` reads a layer, the first one unless one is named.
-/

namespace StreetEnv

namespace VectorFormat

/-- The format that keeps several layers in one file. -/
def layered : String := "GPKG"

/-- The format that does not tell a line from a geometry of one line. -/
def plain : String := "ESRI Shapefile"

/-- The formats by the suffixes that tell them. -/
def bySuffix : List (String × String) :=
  [(".gpkg", layered), (".shp", plain), (".geojson", "GeoJSON")]

/-- Formats that further suffixes stand for; a file with any other suffix is plain. -/
def guesses : List (String × String) :=
  [(".json", "GeoJSON"), (".geojsonl", "GeoJSONSeq"), (".geojsons", "GeoJSONSeq"),
    (".fgb", "FlatGeobuf"), (".gml", "GML"), (".xml", "GML")]

/-- The formats that can be written. -/
def writable : List String :=
  [layered, plain, "GeoJSON", "GeoJSONSeq", "FlatGeobuf", "GML", "KML", "SQLite"]

/-- The formats whose layers hold either single geometries or collections of one kind, not both. -/
def uniform : List String := [layered, "FlatGeobuf"]

/-- The name of a layer that is not given one is that of the file without its suffix.  A plain file
has no other. -/
def layerName (p : FilePath) (format : String) (layer : Option String) : String :=
  let cs := p.name.toList
  let stem := String.ofList (cs.take (cs.length - p.suffix.length))
  if bySuffix.lookup p.kind = some plain ∧ format = plain then stem else layer.getD stem

/-- The geometries of a table as a format keeps them. -/
def stored (format : String) (t : FeatureTable) : FeatureTable :=
  let keep : Geometry → Geometry :=
    if format = plain then Geometry.single
    else if uniform.contains format && t.mixesCollections then Geometry.collected
    else id
  { t with rows := t.rows.map fun f => { f with geometry := f.geometry.map keep } }

/-- The layers of a file with one layer written anew: in its place, or as the last one. -/
def withLayer (format name : String) (table : FeatureTable) :
    List (String × FeatureTable) → List (String × FeatureTable)
  | layers =>
    if format = layered then (layers.filter fun l => l.1 ≠ name) ++ [(name, table)]
    else [(name, table)]

end VectorFormat

namespace FileTree

/-- The layers at a path, if a vector file stands there. -/
def layersAt (t : FileTree) (p : FilePath) : List (String × FeatureTable) :=
  match t.find? p with
  | some (.file (.layers ls)) => ls
  | _ => []

/-- What saving leaves: the tree, notices, and a fault if it failed. -/
structure Saved where
  /-- The tree. -/
  tree : FileTree
  /-- The notices, in order. -/
  notices : List Notice
  /-- The fault. -/
  fault : Option Fault

/-- Saves a table as a layer of the file at a path. -/
def saveTable (t : FileTree) (table : FeatureTable) (p : FilePath) (layer format : Option String) :
    Saved :=
  match t.makeDirectory p.parent with
  | .error f => ⟨t, [], some f⟩
  | .ok t =>
    let chosen := format.orElse fun _ => VectorFormat.bySuffix.lookup p.kind
    let notices := if chosen.isNone then [.unknownFormat p.text] else []
    let format := chosen.getD ((VectorFormat.guesses.lookup p.kind).getD VectorFormat.plain)
    let failed : Saved := ⟨t, notices ++ [.saveFailed p.text], some .vectorSource⟩
    if VectorFormat.writable.contains format then
      let name := VectorFormat.layerName p format layer
      let table := VectorFormat.stored format table
      match t.write p (.layers (VectorFormat.withLayer format name table (t.layersAt p))) with
      | some t => ⟨t, notices, none⟩
      | none => failed
    else failed

/-- Loads a table from a layer of the file at a path. -/
def loadTable (t : FileTree) (p : FilePath) (layer : Option String) :
    Except Fault FeatureTable × List Notice :=
  let failed (f : Fault) : Except Fault FeatureTable × List Notice :=
    (.error f, [.loadFailed p.text])
  match t.find? p with
  | none => (.error (.vectorFileNotFound p.text), [])
  | some (.file (.layers ls)) =>
    match layer with
    | none =>
      match ls with
      | (_, table) :: _ => (.ok table, [])
      | [] => failed .vectorSource
    | some name =>
      match ls.lookup name with
      | some table => (.ok table, [])
      | none => failed .noSuchLayer
  | some _ => failed .vectorSource

end FileTree

/-- What setting up an output directory leaves. -/
abbrev DirectorySetup := FileTree.Saved

/-- Makes a directory for outputs; on request an existing one is emptied first. -/
def FileTree.setUpOutput (t : FileTree) (p : FilePath) (clear : Bool) : DirectorySetup :=
  let clears := clear && t.hasDirectory p
  let notices := if clears then [.clearing p.text] else []
  let (t, removed) := if clears then t.clear p else (t, none)
  let failed (f : Fault) : DirectorySetup := ⟨t, notices ++ [.setupFailed p.text], some f⟩
  match removed with
  | some f => failed f
  | none =>
    match t.makeDirectory p with
    | .ok t => ⟨t, notices, none⟩
    | .error f => failed f

end StreetEnv
