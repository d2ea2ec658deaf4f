import StreetEnv.Proofs.Grid.Arrays
import StreetEnv.Proofs.Grid.Reading

/-!
# The order in which a block is stored

A variable stores its elements row by row, in the order of its own dimensions.  The reader puts them
in the order of the dimensions of the axes.  What it finds depends on the coordinates of the
elements alone, and not on the order in which the dimensions were.

* `Variable.element`: the element at a coordinate along each dimension;
* `Variable.Reorders`: two variables store the same elements, each in an order of its own;
* `Variable.storedIn` stores a variable in any other order;
* `Variable.arranged_eq_inOrder`: the block that the reader makes of a variable;
* `GridVariables.IsOnAxes.stops_iff`: on three dimensions, only the units can be in the way;
* `AirQualityFile.read_any_order`: the same whatever the order, and each element in its cell.
-/

namespace StreetEnv

/-! ### Coordinates by dimension -/

namespace DataArray

variable {dimensions : List String} {index : List Nat} {d : String}

/-- The coordinate along a dimension of a multi-index over named dimensions. -/
def coordinate (dimensions : List String) (index : List Nat) (d : String) : Nat :=
  ((dimensions.zip index).lookup d).getD 0

theorem coordinate_cons_self (dimensions : List String) (i : Nat) (index : List Nat) (d : String) :
    coordinate (d :: dimensions) (i :: index) d = i := by
  simp [coordinate]

theorem coordinate_cons_of_ne {d' : String} (h : d ≠ d') (i : Nat) :
    coordinate (d' :: dimensions) (i :: index) d = coordinate dimensions index d := by
  have hne : (d == d') = false := beq_eq_false_iff_ne.2 h
  simp [coordinate, List.lookup_cons, hne]

theorem coordinate_lt {size : String → Nat} (h : InRange (dimensions.map size) index)
    (hd : d ∈ dimensions) : coordinate dimensions index d < size d := by
  induction dimensions generalizing index with
  | nil => cases hd
  | cons d' dimensions ih =>
    cases h with
    | @cons i _ index _ hi hrest =>
      by_cases heq : d = d'
      · subst heq
        rw [coordinate_cons_self]
        exact hi
      · rw [coordinate_cons_of_ne heq]
        exact ih hrest ((List.mem_cons.1 hd).resolve_left heq)

theorem coordinate_map (position : String → Nat) (hd : d ∈ dimensions) :
    coordinate dimensions (dimensions.map position) d = position d := by
  induction dimensions with
  | nil => cases hd
  | cons d' dimensions ih =>
    rw [List.map_cons]
    by_cases heq : d = d'
    · subst heq
      exact coordinate_cons_self dimensions _ _ d
    · rw [coordinate_cons_of_ne heq]
      exact ih ((List.mem_cons.1 hd).resolve_left heq)

theorem inRange_map {size position : String → Nat} (h : ∀ d ∈ dimensions, position d < size d) :
    InRange (dimensions.map size) (dimensions.map position) := by
  induction dimensions with
  | nil => exact .nil
  | cons d dimensions ih =>
    exact .cons (h d List.mem_cons_self) (ih fun d' hd' => h d' (List.mem_cons_of_mem d hd'))

/-- The dimensions may be found under other keys, as long as no other one has the same key. -/
theorem lookup_zip_map {f : String → Nat} (h : ∀ d' ∈ dimensions, f d' = f d → d' = d)
    (index : List Nat) :
    ((dimensions.map f).zip index).lookup (f d) = (dimensions.zip index).lookup d := by
  induction dimensions generalizing index with
  | nil => rfl
  | cons d' dimensions ih =>
    cases index with
    | nil => rfl
    | cons i index =>
      simp only [List.map_cons, List.zip_cons_cons, List.lookup_cons]
      have hrest := ih (fun d'' hd'' => h d'' (List.mem_cons_of_mem d' hd'')) index
      by_cases heq : d = d'
      · subst heq
        simp
      · have hkey : f d ≠ f d' := fun hf => heq (h d' List.mem_cons_self hf.symm).symm
        simp only [beq_eq_false_iff_ne.2 heq, beq_eq_false_iff_ne.2 hkey]
        exact hrest

theorem map_lookup_idxOf (hnodup : dimensions.Nodup) (wanted : List String) (index : List Nat) :
    (List.range dimensions.length).map (fun k =>
      (((wanted.map fun d => dimensions.idxOf d).zip index).lookup k).getD 0) =
      dimensions.map (coordinate wanted index) := by
  refine List.ext_getElem (by simp) fun k hk hk' => ?_
  have hlength : k < dimensions.length := by simpa using hk'
  have hkey : dimensions.idxOf dimensions[k] = k := hnodup.idxOf_getElem k hlength
  have hinjective (d : String) (_ : d ∈ wanted)
      (heq : dimensions.idxOf d = dimensions.idxOf dimensions[k]) : d = dimensions[k] :=
    ((List.idxOf_inj (List.getElem_mem hlength)).1 heq.symm).symm
  have hlookup := lookup_zip_map hinjective index
  rw [hkey] at hlookup
  simp only [List.getElem_map, List.getElem_range, hlookup, coordinate]

end DataArray

/-! ### Variables by coordinates -/

namespace Variable

open DataArray

/-- The variable has the lengths of its dimensions for a shape. -/
def IsOn (v : Variable) (size : String → Nat) : Prop := v.array.shape = v.dimensions.map size

/-- The element at a coordinate along each dimension. -/
def element (v : Variable) (position : String → Nat) : Number :=
  v.array.get (v.dimensions.map position)

/-- The second variable stores the elements of the first one, with the dimensions in any order. -/
structure Reorders (v w : Variable) (size : String → Nat) : Prop where
  /-- The elements are of the same type. -/
  type_eq : w.array.type = v.array.type
  /-- The dimensions are the same. -/
  perm : w.dimensions.Perm v.dimensions
  /-- The first variable is on them. -/
  isOn : v.IsOn size
  /-- So is the second one. -/
  isOn' : w.IsOn size
  /-- The elements with the same coordinates are the same. -/
  element_eq : ∀ position : String → Nat, (∀ d ∈ v.dimensions, position d < size d) →
    w.element position = v.element position

/-- The variable with its elements stored in the order of other dimensions. -/
def storedIn (v : Variable) (size : String → Nat) (dimensions : List String) : Variable where
  name := v.name
  dimensions := dimensions
  array := tabulate v.array.type (dimensions.map size) fun index =>
    v.element (coordinate dimensions index)
  units := v.units

variable {v w : Variable} {size : String → Nat}

theorem IsOn.rank_eq (h : v.IsOn size) : v.array.rank = v.dimensions.length := by
  rw [rank, h, List.length_map]

theorem IsOn.getD_shape (h : v.IsOn size) {d : String} (hd : d ∈ v.dimensions) :
    v.array.shape.getD (v.dimensions.idxOf d) 0 = size d := by
  have hlt : v.dimensions.idxOf d < v.dimensions.length := List.idxOf_lt_length_iff.2 hd
  have hshape : v.array.shape = v.dimensions.map size := h
  simp [hshape, hlt]

theorem element_congr {p q : String → Nat} (h : ∀ d ∈ v.dimensions, p d = q d) :
    v.element p = v.element q := by
  rw [element, element, List.map_congr_left h]

/-- **Any order** of the dimensions stores the same elements. -/
theorem reorders_storedIn (h : v.IsOn size) {dimensions : List String}
    (hperm : dimensions.Perm v.dimensions) : v.Reorders (v.storedIn size dimensions) size where
  type_eq := rfl
  perm := hperm
  isOn := h
  isOn' := rfl
  element_eq := by
    intro position hposition
    have hrange : InRange (dimensions.map size) (dimensions.map position) :=
      inRange_map fun d hd => hposition d (hperm.mem_iff.1 hd)
    rw [element, storedIn, get_tabulate v.array.type _ hrange]
    exact element_congr fun d hd => coordinate_map position (hperm.mem_iff.2 hd)

end Variable

/-! ### The order of the axes -/

namespace Variable

open DataArray

variable {v w : Variable} {size : String → Nat} {wanted : List String}

/-- The elements of a variable, as the array that has its dimensions in the wanted order. -/
def inOrder (v : Variable) (size : String → Nat) (wanted : List String) : DataArray :=
  tabulate v.array.type (wanted.map size) fun index => v.element (coordinate wanted index)

/-- **The block in the wanted order**: each cell is the element with its coordinates. -/
theorem arranged_eq_inOrder (hon : v.IsOn size) (hperm : v.dimensions.Perm wanted)
    (hnodup : wanted.Nodup) : v.arranged wanted = .ok (v.inOrder size wanted) := by
  have hall : (wanted.all v.dimensions.contains && v.dimensions.all wanted.contains) = true := by
    simp only [Bool.and_eq_true, List.all_eq_true, List.contains_iff_mem]
    exact ⟨fun d hd => hperm.mem_iff.2 hd, fun d hd => hperm.mem_iff.1 hd⟩
  have honce : v.dimensions.find? (fun d => decide (1 < v.dimensions.count d)) = none := by
    refine List.find?_eq_none.2 fun d _ => ?_
    have hcount := List.nodup_iff_count.1 (hperm.nodup_iff.2 hnodup) d
    simpa using hcount
  have hshape : (wanted.map fun d => v.dimensions.idxOf d).map (fun k => v.array.shape.getD k 0) =
      wanted.map size := by
    rw [List.map_map]
    exact List.map_congr_left fun d hd => hon.getD_shape (hperm.mem_iff.2 hd)
  rw [arranged, if_pos hall, honce]
  simp only [transpose, hshape, hon.rank_eq, map_lookup_idxOf (hperm.nodup_iff.2 hnodup)]
  rfl

theorem inOrder_eq_of_reorders (h : v.Reorders w size) (hperm : v.dimensions.Perm wanted) :
    w.inOrder size wanted = v.inOrder size wanted := by
  rw [inOrder, inOrder, h.type_eq]
  refine tabulate_congr v.array.type fun index hindex => ?_
  exact h.element_eq _ fun d hd => coordinate_lt hindex (hperm.mem_iff.1 hd)

theorem get_inOrder (hperm : v.dimensions.Perm wanted) {position : String → Nat}
    (hposition : ∀ d ∈ wanted, position d < size d) :
    (v.inOrder size wanted).get (wanted.map position) = v.element position := by
  rw [inOrder, get_tabulate v.array.type _ (inRange_map hposition)]
  exact element_congr fun d hd => coordinate_map position (hperm.mem_iff.1 hd)

end Variable

/-! ### Reading -/

/-- The units are a number other than zero, or several texts with the separator among them. -/
inductive Attribute.StopsReading : Attribute → Prop
  /-- A number. -/
  | number {type : CellType} {x : Number} (h : x.value? ≠ some 0) : StopsReading (.number type x)
  /-- Several texts. -/
  | texts {ss : List String} (h : TimeOrigin.separator ∈ ss) : StopsReading (.texts ss)

namespace GridVariables

variable {v w : GridVariables} {names : GridNames} {s : VariableSet} {t y x : String}
  {size : String → Nat}

/-- The axes have one dimension each, and the block has all three of them. -/
structure IsOnAxes (v : GridVariables) (t y x : String) : Prop where
  /-- The time axis has one. -/
  time : v.time.dimensions = [t]
  /-- The latitude axis has one. -/
  latitude : v.latitude.dimensions = [y]
  /-- The longitude axis has one. -/
  longitude : v.longitude.dimensions = [x]
  /-- They are three. -/
  distinct : [t, y, x].Nodup
  /-- The block has them, in any order. -/
  aqi : v.aqi.dimensions.Perm [t, y, x]

theorem AreIn.eq (hv : v.AreIn names s) (hw : w.AreIn names s) : w = v := by
  obtain ⟨ht, hy, hx, ha⟩ := hv
  rw [hw.time] at ht
  rw [hw.latitude] at hy
  rw [hw.longitude] at hx
  rw [hw.aqi] at ha
  cases v
  cases w
  cases ht
  cases hy
  cases hx
  cases ha
  rfl

theorem IsOnAxes.block_eq (h : v.IsOnAxes t y x) (hon : v.aqi.IsOn size) :
    v.block = .ok (v.aqi.inOrder size [t, y, x]) := by
  rw [block, Variable.firstDimension, h.time, Variable.firstDimension, h.latitude,
    Variable.firstDimension, h.longitude]
  exact Variable.arranged_eq_inOrder hon h.aqi h.distinct

/-- On three dimensions, only the units can be in the way. -/
theorem IsOnAxes.stops_iff (h : v.IsOnAxes t y x) (hon : v.aqi.IsOn size) :
    (∃ f, v.Stops f) ↔ ∃ a, v.time.units = some a ∧ a.StopsReading := by
  have hblock : v.HasBlock := ⟨_, h.block_eq hon⟩
  constructor
  · rintro ⟨f, hf⟩
    cases hf with
    | axis hnot =>
      refine absurd ?_ hnot
      rw [HaveDimensions, h.time, h.latitude, h.longitude]
      exact ⟨nofun, nofun, nofun⟩
    | number _ hunits hx => exact ⟨_, hunits, .number hx⟩
    | texts _ hunits hss => exact ⟨_, hunits, .texts hss⟩
  · rintro ⟨a, hunits, ha⟩
    cases ha with
    | number hx => exact ⟨_, .number hblock hunits hx⟩
    | texts hss => exact ⟨_, .texts hblock hunits hss⟩

end GridVariables

namespace AirQualityFile

open DataArray Traversal

variable {timeline : Timeline} {names : GridNames} {path : FilePath} {s s' : VariableSet}
  {v v' : GridVariables} {t y x : String} {size : String → Nat}

theorem exists_read_iff_of_onAxes (hv : v.AreIn names s) (h : v.IsOnAxes t y x)
    (hon : v.aqi.IsOn size) :
    (∃ found, read timeline names path (some (.variableSet s)) = .ok found) ↔
      ¬ (variableSuffixes.contains path.kind = true ∧
        ∃ a, v.time.units = some a ∧ a.StopsReading) := by
  rw [← h.stops_iff hon]
  have hrank : v.aqi.array.rank = 3 := hon.rank_eq.trans h.aqi.length_eq
  constructor
  · rintro ⟨found, hfound⟩ ⟨hkind, f, hf⟩
    rw [read_eq_error_iff.2 ⟨hkind, s, v, rfl, hv, hrank, hf⟩] at hfound
    cases hfound
  · intro hnot
    cases hread : read timeline names path (some (.variableSet s)) with
    | ok found => exact ⟨found, rfl⟩
    | error f =>
      obtain ⟨hkind, s', w, hs, hw, -, hf⟩ := read_eq_error_iff.1 hread
      cases hs
      exact absurd ⟨hkind, f, hv.eq hw ▸ hf⟩ hnot

theorem parts_of_read (hv : v.AreIn names s) (h : v.IsOnAxes t y x) (hon : v.aqi.IsOn size)
    {found : AirQualityFile × List Notice} {grid : AirQualityGrid}
    (hread : read timeline names path (some (.variableSet s)) = .ok found)
    (hgrid : found.1.grid? = some grid) :
    TimeOrigin.ofUnits? timeline v.time.units = .ok (some ⟨grid.unit, grid.origin⟩) ∧
      grid.time = v.time.array ∧ grid.latitude = v.latitude.array ∧
      grid.longitude = v.longitude.array ∧ grid.aqi = v.aqi.inOrder size [t, y, x] := by
  have hparts := partsOfVariables_of_read hread hgrid
  rw [partsOfVariables_of_areIn hv] at hparts
  obtain ⟨block, o, hblock, horigin, hfrom⟩ := GridVariables.eq_partsFrom_of_parts hparts
  rw [h.block_eq hon] at hblock
  cases hblock
  simp only [GridVariables.partsFrom, AirQualityGrid.parts, GridParts.mk.injEq,
    Option.some.injEq] at hfrom
  obtain ⟨htime, hlatitude, hlongitude, haqi, hinstant, hunit⟩ := hfrom
  rw [hinstant, hunit]
  exact ⟨horigin, htime, hlatitude, hlongitude, haqi⟩

/-- **The order in which a block is stored does not matter.**  Take a time, a latitude and a
longitude axis on three different dimensions, and a block that is stored on the same dimensions in
any order.  Stored in any other order, it leads to the same outcome: the same file with the same
notices.  There is a file unless the units are such that reading stops, and in a file that holds a
grid, the cell of a time step, a row and a column is the element with these coordinates along the
dimensions of the axes. -/
theorem read_any_order (timeline : Timeline) (names : GridNames) (path : FilePath)
    (s s' : VariableSet) (v v' : GridVariables) (t y x : String) (size : String → Nat)
    (hv : v.AreIn names s) (hv' : v'.AreIn names s') (haxes : v.IsOnAxes t y x)
    (htime : v'.time = v.time) (hlatitude : v'.latitude = v.latitude)
    (hlongitude : v'.longitude = v.longitude) (haqi : v.aqi.Reorders v'.aqi size) :
    read timeline names path (some (.variableSet s')) =
        read timeline names path (some (.variableSet s)) ∧
      ((∃ found, read timeline names path (some (.variableSet s)) = .ok found) ↔
        ¬ (variableSuffixes.contains path.kind = true ∧
          ∃ a, v.time.units = some a ∧ a.StopsReading)) ∧
      ∀ file notices grid,
        read timeline names path (some (.variableSet s)) = .ok (file, notices) →
        file.grid? = some grid →
        TimeOrigin.ofUnits? timeline v.time.units = .ok (some ⟨grid.unit, grid.origin⟩) ∧
          grid.time = v.time.array ∧ grid.latitude = v.latitude.array ∧
          grid.longitude = v.longitude.array ∧ grid.aqi.type = v.aqi.array.type ∧
          grid.aqi.shape = [size t, size y, size x] ∧
          ∀ position : String → Nat, (∀ d ∈ [t, y, x], position d < size d) →
            grid.cell (position t) (position y) (position x) = v.aqi.element position := by
  have haxes' : v'.IsOnAxes t y x :=
    ⟨htime ▸ haxes.time, hlatitude ▸ haxes.latitude, hlongitude ▸ haxes.longitude,
      haxes.distinct, haqi.perm.trans haxes.aqi⟩
  have hrank : v.aqi.array.rank = 3 := haqi.isOn.rank_eq.trans haxes.aqi.length_eq
  have hrank' : v'.aqi.array.rank = 3 := haqi.isOn'.rank_eq.trans haxes'.aqi.length_eq
  have hparts : partsOfVariables timeline names s' = partsOfVariables timeline names s := by
    rw [partsOfVariables_of_areIn hv, partsOfVariables_of_areIn hv', GridVariables.parts,
      GridVariables.parts, if_neg (not_not.2 hrank), if_neg (not_not.2 hrank'),
      haxes.block_eq haqi.isOn, haxes'.block_eq haqi.isOn',
      Variable.inOrder_eq_of_reorders haqi haxes.aqi, htime]
    simp only [GridVariables.partsFrom, htime, hlatitude, hlongitude]
  refine ⟨?_, exists_read_iff_of_onAxes hv haxes haqi.isOn, ?_⟩
  · unfold read
    simp only [hparts]
  · intro file notices grid hread hgrid
    obtain ⟨horigin, htime, hlatitude, hlongitude, hblock⟩ :=
      parts_of_read hv haxes haqi.isOn hread hgrid
    refine ⟨horigin, htime, hlatitude, hlongitude, ?_, ?_, ?_⟩
    · rw [hblock]
      rfl
    · rw [hblock]
      rfl
    · intro position hposition
      have hcell : grid.cell (position t) (position y) (position x) =
          grid.aqi.get ([t, y, x].map position) := rfl
      rw [hcell, hblock]
      exact Variable.get_inOrder haxes.aqi hposition

end AirQualityFile

/-! ### A square of four cells -/

/-- The set of the variables. -/
def GridVariables.set (v : GridVariables) : VariableSet :=
  ⟨[v.time, v.latitude, v.longitude, v.aqi]⟩

namespace Square

/-- All dimensions have the length two, so no order of them shows in the shape of a block. -/
def size (_ : String) : Nat := 2

/-- Two time steps of the four cells. -/
def block : Variable :=
  ⟨"AQI", ["step", "row", "column"], .ofCells .int8 [2, 2, 2] [1, 2, 3, 4, 5, 6, 7, 8], none⟩

theorem block_isOn : block.IsOn size := rfl

/-- The axes of the square, with units of the time axis, and a block. -/
def grid (units : Attribute) (aqi : Variable) : GridVariables where
  time := ⟨"time", ["step"], .ofList .int64 [6, 7], some units⟩
  latitude := ⟨"latitude", ["row"], .ofList .float64 [10, 20], none⟩
  longitude := ⟨"longitude", ["column"], .ofList .float64 [100, 110], none⟩
  aqi := aqi

/-- What reading the square with a block leads to. -/
def read (units : Attribute) (aqi : Variable) : Except Fault (AirQualityFile × List Notice) :=
  AirQualityFile.read .standard {} (.ofText "aqi.nc") (some (.variableSet (grid units aqi).set))

theorem grid_areIn (units : Attribute) {aqi : Variable} (h : aqi.name = "AQI") :
    (grid units aqi).AreIn {} (grid units aqi).set where
  time := rfl
  latitude := rfl
  longitude := rfl
  aqi := by simp [VariableSet.find?, GridVariables.set, grid, h]

theorem grid_isOnAxes (units : Attribute) {aqi : Variable}
    (h : aqi.dimensions.Perm ["step", "row", "column"]) :
    (grid units aqi).IsOnAxes "step" "row" "column" :=
  ⟨rfl, rfl, rfl, by decide, h⟩

end Square

namespace AirQualityFile

/-- With the columns first and the steps last, the square is read as before.  The second step of the
first row and the second column is 6. -/
theorem read_any_order_square :
    Square.read (.text "hours since 1970-01-01")
        (Square.block.storedIn Square.size ["column", "row", "step"]) =
      Square.read (.text "hours since 1970-01-01") Square.block ∧
    ∃ file notices grid,
      Square.read (.text "hours since 1970-01-01") Square.block = .ok (file, notices) ∧
        file.grid? = some grid ∧ grid.cell 1 0 1 = 6 := by
  obtain ⟨hsame, -, hcells⟩ := read_any_order .standard {} (.ofText "aqi.nc")
    (Square.grid (.text "hours since 1970-01-01") Square.block).set
    (Square.grid (.text "hours since 1970-01-01")
      (Square.block.storedIn Square.size ["column", "row", "step"])).set
    _ _ "step" "row" "column" Square.size (Square.grid_areIn _ rfl)
    (Square.grid_areIn _ rfl) (Square.grid_isOnAxes _ (.refl _)) rfl rfl rfl
    (Variable.reorders_storedIn Square.block_isOn (by decide))
  refine ⟨hsame, ?_⟩
  have hvalid : ((Square.read (.text "hours since 1970-01-01") Square.block).toOption.bind
      fun found => found.1.grid?).isSome = true := by decide +kernel
  obtain ⟨grid, hgrid⟩ := Option.isSome_iff_exists.1 hvalid
  obtain ⟨⟨file, notices⟩, hread, hgrid⟩ := Option.bind_eq_some_iff.1 hgrid
  have hok := Traversal.eq_ok_of_toOption hread
  obtain ⟨-, -, -, -, -, -, hcell⟩ := hcells file notices grid hok hgrid
  refine ⟨file, notices, grid, hok, hgrid, ?_⟩
  have hposition := hcell (fun d => if d = "row" then 0 else 1) (by decide)
  refine hposition.trans ?_
  decide +kernel

end AirQualityFile

end StreetEnv
