import StreetEnv.Feature.Table
import StreetEnv.Grid.DataArray
import StreetEnv.Storage.FilePath

/-!
# Stored files

What a stored file holds, as far as the library reads it: layers of features, named variables on
named dimensions, or a raster of bands on a plane.  A `FileTree` holds the files and directories
below a working directory.  Each has a place: its path from there, free of `..`.

* `FileTree.resolve` follows a path, part by part, through existing directories;
* `FileTree.makeDirectory` makes a directory and the missing ones above it;
* `FileTree.write`, `FileTree.remove` and `FileTree.clear` change the tree.
-/

namespace StreetEnv

/-! ### Datasets -/

/-- The value of an attribute. -/
inductive Attribute where
  /-- A text. -/
  | text (s : String)
  /-- Several texts. -/
  | texts (ss : List String)
  /-- A number. -/
  | number (type : CellType) (x : Number)
  /-- An array of numbers. -/
  | numbers (type : CellType) (xs : List Number)
  deriving DecidableEq, Inhabited

/-- A variable of a dataset. -/
structure Variable where
  /-- Its name. -/
  name : String
  /-- The names of its dimensions. -/
  dimensions : List String
  /-- Its values. -/
  array : DataArray
  /-- Its units, if it says any. -/
  units : Option Attribute
  deriving DecidableEq, Inhabited

/-- Variables on shared dimensions. -/
structure VariableSet where
  /-- The variables. -/
  members : List Variable
  deriving DecidableEq, Inhabited

/-- The variable with a name. -/
def VariableSet.find? (s : VariableSet) (name : String) : Option Variable :=
  s.members.find? fun v => v.name == name

/-- From columns and rows to longitudes and latitudes: `x = a * column + b * row + c` and
`y = d * column + e * row + f`. -/
structure AffineMap where
  /-- The width of a pixel. -/
  a : Number
  /-- The shear of the columns. -/
  b : Number
  /-- The western edge. -/
  c : Number
  /-- The shear of the rows. -/
  d : Number
  /-- The height of a pixel, negative when rows run south. -/
  e : Number
  /-- The edge of the first row. -/
  f : Number
  deriving DecidableEq, Inhabited

/-- The map that takes columns and rows as they are. -/
def AffineMap.identity : AffineMap := ⟨1, 0, 0, 0, 1, 0⟩

/-- The reference system of a raster, as far as readers ask for it. -/
structure RasterSystem where
  /-- Its name. -/
  name : String
  /-- It is one of longitudes and latitudes. -/
  isGeographic : Bool
  deriving DecidableEq, Inhabited

/-- Bands of pixels on a plane. -/
structure Raster where
  /-- The bands, by row and column. -/
  bands : DataArray
  /-- The reference system. -/
  system : Option RasterSystem
  /-- Where the pixels lie. -/
  transform : AffineMap
  /-- Named texts. -/
  tags : List (String × String)
  deriving DecidableEq, Inhabited

/-- What a file that may hold air quality contains. -/
inductive Dataset where
  /-- Variables on dimensions. -/
  | variableSet (s : VariableSet)
  /-- A raster. -/
  | raster (r : Raster)
  /-- Anything else. -/
  | other
  deriving DecidableEq, Inhabited

/-! ### File trees -/

/-- What a file holds. -/
inductive FileContent where
  /-- A dataset, or something that is none. -/
  | dataset (d : Dataset)
  /-- Named layers of features, in order. -/
  | layers (ls : List (String × FeatureTable))
  deriving DecidableEq, Inhabited

/-- What stands at a place. -/
inductive TreeEntry where
  | directory
  | file (content : FileContent)
  deriving DecidableEq, Inhabited

/-- Files and directories, by their places. -/
structure FileTree where
  /-- Everything below the working directory. -/
  entries : List (List String × TreeEntry) := []
  deriving DecidableEq, Inhabited

namespace FileTree

variable (t : FileTree)

/-- What stands at a place; the working directory is a directory. -/
def at? (place : List String) : Option TreeEntry :=
  if place = [] ∨ place = ["/"] then some .directory else t.entries.lookup place

/-- Why a path leads nowhere. -/
inductive Obstacle where
  /-- Something on the way is missing. -/
  | missing
  /-- A file stands on the way. -/
  | notADirectory
  deriving DecidableEq, Inhabited

/-- One step from a place. -/
def step (place : List String) (part : String) : List String :=
  if part = ".." then place.dropLast else place ++ [part]

/-- The place that parts lead to from a place.  All but the last step start in a directory. -/
def follow (place : List String) : List String → Except Obstacle (List String)
  | [] => .ok place
  | part :: parts =>
    match t.at? place with
    | some .directory => follow (step place part) parts
    | some (.file _) => .error .notADirectory
    | none => .error .missing

/-- The place of a path. -/
def resolve (p : FilePath) : Except Obstacle (List String) :=
  t.follow (if p.root = "" then [] else ["/"]) p.parts

/-- What stands at a path. -/
def find? (p : FilePath) : Option TreeEntry :=
  match t.resolve p with
  | .ok place => t.at? place
  | .error _ => none

/-- Something stands at a path. -/
def has (p : FilePath) : Bool := (t.find? p).isSome

/-- A directory stands at a path. -/
def hasDirectory (p : FilePath) : Bool := t.find? p = some .directory

/-- The dataset at a path, where anything but one counts as something else. -/
def dataset? (p : FilePath) : Option Dataset :=
  (t.find? p).map fun
    | .file (.dataset d) => d
    | _ => .other

/-- The tree with an entry at a place, instead of what stood there. -/
def put (place : List String) (e : TreeEntry) : FileTree :=
  ⟨t.entries.filter (fun f => f.1 ≠ place) ++ [(place, e)]⟩

/-- The tree with a directory at a path whose parent is one. -/
def makeOne (p : FilePath) : Except Fault (Option FileTree) :=
  match t.resolve p with
  | .error .missing => .ok none
  | .error .notADirectory => .error .notADirectory
  | .ok place =>
    match t.at? place with
    | some .directory => .ok (some t)
    | some (.file _) => .error .fileExists
    | none => .ok (some (t.put place .directory))

/-- Makes a directory, and before it those above it that are missing; `n` bounds how many. -/
def makeWithin : Nat → FilePath → FileTree → Except Fault FileTree
  | 0, _, t => .ok t
  | n + 1, p, t => do
    match ← t.makeOne p with
    | some t => return t
    | none =>
      let t ← makeWithin n p.parent t
      match ← t.makeOne p with
      | some t => return t
      | none => throw .noSuchDirectory

/-- Makes a directory and those above it that are missing; an existing one is left as it is. -/
def makeDirectory (p : FilePath) : Except Fault FileTree := makeWithin (p.parts.length + 1) p t

/-- Puts a file at a path whose parent is a directory. -/
def write (p : FilePath) (c : FileContent) : Option FileTree :=
  match t.resolve p with
  | .error _ => none
  | .ok place =>
    match t.at? place with
    | some .directory => none
    | _ => some (t.put place (.file c))

/-- Removes whatever stands at a place and below it. -/
def removeAt (place : List String) : FileTree :=
  ⟨t.entries.filter fun f => !place.isPrefixOf f.1⟩

/-- Removes the file at a path. -/
def remove (p : FilePath) : FileTree :=
  match t.resolve p with
  | .ok place => if place = [] then t else t.removeAt place
  | .error _ => t

/-- Removes a directory and what is in it.  The working directory itself stays, emptied, with a
fault. -/
def clear (p : FilePath) : FileTree × Option Fault :=
  match t.resolve p with
  | .error _ => (t, some .noSuchDirectory)
  | .ok place =>
    let cleared := t.removeAt place
    if place ≠ [] then (cleared, none)
    else (cleared, some (if p.parts = [] then .workingDirectory else .noSuchDirectory))

/-- Puts a file in place, with the directories above it. -/
def install (p : FilePath) (c : FileContent) : FileTree :=
  match t.makeDirectory p.parent with
  | .ok made => (made.write p c).getD made
  | .error _ => t

/-- All paths in the tree, directories with a slash at their end, in the order of characters. -/
def listing : List String :=
  let text : List String × TreeEntry → String
    | (place, .directory) => "/".intercalate place ++ "/"
    | (place, .file _) => "/".intercalate place
  (t.entries.map text).mergeSort fun a b => a ≤ b

end FileTree

end StreetEnv
