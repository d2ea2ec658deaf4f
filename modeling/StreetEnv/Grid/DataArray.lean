import StreetEnv.Number.Basic
import StreetEnv.Number.Rounding

/-!
# Arrays of cells

A grid stores cells of one of ten types.  A `DataArray` is a block of cells of one type, stored row
by row.  It has as many cells as its shape asks for.

* `CellType.range?` bounds the integer types, and `CellType.Holds` says which numbers are values of
  a type;
* `DataArray.ofCells` takes cells row by row, `DataArray.ofList` in a single dimension;
* `DataArray.get` reads the cell at a multi-index;
* `DataArray.transpose` reorders the dimensions.
-/

namespace StreetEnv

/-! ### Types of cells -/

/-- The type of the cells of an array. -/
inductive CellType where
  | int8 | int16 | int32 | int64
  | uint8 | uint16 | uint32 | uint64
  | float32 | float64
  deriving DecidableEq, Inhabited

namespace CellType

/-- All cell types. -/
def all : List CellType :=
  [int8, int16, int32, int64, uint8, uint16, uint32, uint64, float32, float64]

/-- The written name of a cell type. -/
def name : CellType → String
  | int8 => "int8"
  | int16 => "int16"
  | int32 => "int32"
  | int64 => "int64"
  | uint8 => "uint8"
  | uint16 => "uint16"
  | uint32 => "uint32"
  | uint64 => "uint64"
  | float32 => "float32"
  | float64 => "float64"

/-- The cell type with the given name. -/
def ofName? (s : String) : Option CellType := all.find? fun t => t.name == s

/-- Bits and signedness of an integer type; `none` for a floating type. -/
def integerLayout? : CellType → Option (Nat × Bool)
  | int8 => some (8, true)
  | int16 => some (16, true)
  | int32 => some (32, true)
  | int64 => some (64, true)
  | uint8 => some (8, false)
  | uint16 => some (16, false)
  | uint32 => some (32, false)
  | uint64 => some (64, false)
  | float32 => none
  | float64 => none

/-- Cells of the type hold fractions, infinities and `nan`. -/
def isFloating (t : CellType) : Bool := t.integerLayout?.isNone

/-- The smallest and the largest value of an integer type. -/
def range? (t : CellType) : Option (Int × Int) :=
  t.integerLayout?.map fun
    | (bits, true) => (-(Power.ofTwo (bits - 1) : Int), Power.ofTwo (bits - 1) - 1)
    | (bits, false) => (0, Power.ofTwo bits - 1)

/-- How cells of a floating type store a rational. -/
def rounding : CellType → Rounding
  | float32 => .binary32
  | _ => .binary64

/-- The integer is a value of the integer type. -/
def HoldsInt (t : CellType) (n : Int) : Prop :=
  match t.range? with
  | some (lo, hi) => lo ≤ n ∧ n ≤ hi
  | none => False

instance (t : CellType) (n : Int) : Decidable (t.HoldsInt n) := by
  unfold HoldsInt
  split <;> infer_instance

/-- The number is a value of the cell type. -/
def Holds (t : CellType) (x : Number) : Prop :=
  match t.range?, x with
  | some _, .rational q => q.den = 1 ∧ t.HoldsInt q.num
  | some _, _ => False
  | none, x => t.rounding.store x = x

theorem ofName_name (t : CellType) : ofName? t.name = some t := by
  cases t <;> decide

end CellType

/-! ### Blocks of cells -/

/-- The number of cells a shape asks for. -/
def DataArray.volume (shape : List Nat) : Nat := shape.foldr (· * ·) 1

/-- A block of cells of one type. -/
structure DataArray where
  /-- The type of the cells. -/
  type : CellType
  /-- The lengths of the dimensions. -/
  shape : List Nat
  /-- The cells, row by row. -/
  cells : Array Number
  /-- There are as many as the shape asks for. -/
  size_cells : cells.size = DataArray.volume shape
  deriving DecidableEq

namespace DataArray

@[simp] theorem volume_nil : volume [] = 1 := rfl

@[simp] theorem volume_cons (n : Nat) (shape : List Nat) :
    volume (n :: shape) = n * volume shape := rfl

/-- A one-dimensional array. -/
def ofList (type : CellType) (xs : List Number) : DataArray :=
  ⟨type, [xs.length], xs.toArray, by simp⟩

/-- The array of a shape with the given cells, row by row.  Cells in excess are dropped, and missing
ones are `nan`. -/
def ofCells (type : CellType) (shape : List Nat) (xs : List Number) : DataArray :=
  let n := volume shape
  ⟨type, shape, (xs.take n ++ List.replicate (n - xs.length) Number.nan).toArray, by simp; omega⟩

instance : Inhabited DataArray := ⟨ofList .float64 []⟩

/-- The number of dimensions. -/
def rank (a : DataArray) : Nat := a.shape.length

/-- The number of cells. -/
def size (a : DataArray) : Nat := volume a.shape

/-- The cells in order. -/
def toList (a : DataArray) : List Number := a.cells.toList

@[simp] theorem length_toList (a : DataArray) : a.toList.length = a.size := by
  simp [toList, size, a.size_cells]

/-- The place of a multi-index among the cells of a shape. -/
def place (shape index : List Nat) : Nat :=
  (shape.zip index).foldl (fun acc (n, i) => acc * n + i) 0

/-- The cell at a multi-index. -/
def get (a : DataArray) (index : List Nat) : Number := a.cells.getD (place a.shape index) .nan

/-- All multi-indices of a shape, row by row. -/
def indices : List Nat → List (List Nat)
  | [] => [[]]
  | n :: shape => (List.range n).flatMap fun i => (indices shape).map (i :: ·)

@[simp] theorem length_indices (shape : List Nat) : (indices shape).length = volume shape := by
  induction shape with
  | nil => rfl
  | cons n shape ih => simp [indices, List.length_flatMap, ih, List.map_const']

/-- The array whose dimension `k` is the dimension `order[k]` of this one. -/
def transpose (a : DataArray) (order : List Nat) : DataArray :=
  let shape := order.map fun d => a.shape.getD d 0
  let source (index : List Nat) : List Nat :=
    (List.range a.rank).map fun d => ((order.zip index).lookup d).getD 0
  ⟨a.type, shape, ((indices shape).map fun index => a.get (source index)).toArray, by simp⟩

end DataArray

end StreetEnv
