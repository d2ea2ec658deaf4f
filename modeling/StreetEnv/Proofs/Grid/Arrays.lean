import Mathlib.Data.List.Forall2
import Mathlib.Tactic.Ring
import StreetEnv.Grid.Update

/-!
# Cells by their multi-index

Cells are stored row by row, and the multi-indices of a shape are listed in the same order.  So an
array that is filled by a function of the multi-index gives that function back.

* `DataArray.getElem?_indices`: a multi-index stands at its own place in the list;
* `DataArray.tabulate`: the array of a function, and `DataArray.get_tabulate` reads it;
* `DataArray.tabulate_congr`: only what the function does in range matters;
* `DataArray.flip` and `DataArray.flipIf`: the array with one dimension reversed;
* `AirQualityPass.axis_flip`: a flipped axis is the reversed one.
-/

namespace StreetEnv

namespace DataArray

variable {shape index : List Nat}

/-- The multi-index has an entry below the length of each dimension. -/
def InRange (shape index : List Nat) : Prop := List.Forall₂ (· < ·) index shape

theorem getElem?_flatMap_range {α : Type} {f : Nat → List α} {length n i k : Nat}
    (hlength : ∀ i, (f i).length = length) (hi : i < n) (hk : k < length) :
    ((List.range n).flatMap f)[i * length + k]? = (f i)[k]? := by
  induction n with
  | zero => omega
  | succ n ih =>
    have hbefore : ((List.range n).flatMap f).length = n * length := by
      simp [List.length_flatMap, hlength, List.map_const']
    rw [List.range_succ, List.flatMap_append, List.flatMap_singleton]
    rcases Nat.lt_or_ge i n with hlt | hge
    · have hroom : i * length + k < n * length :=
        calc i * length + k
          _ < (i + 1) * length := by rw [Nat.succ_mul]; omega
          _ ≤ n * length := Nat.mul_le_mul_right length hlt
      rw [List.getElem?_append_left (by rw [hbefore]; exact hroom), ih hlt]
    · obtain rfl : i = n := by omega
      rw [List.getElem?_append_right (by rw [hbefore]; omega), hbefore, Nat.add_sub_cancel_left]

theorem place_eq (shape index : List Nat) :
    place shape index = (shape.zip index).foldl (fun acc p => acc * p.1 + p.2) 0 :=
  rfl

theorem place_cons (n i : Nat) (h : index.length = shape.length) :
    place (n :: shape) (i :: index) = i * volume shape + place shape index := by
  -- what is in front counts for whole blocks
  have hfold (acc : Nat) (shape index : List Nat) (h : index.length = shape.length) :
      (shape.zip index).foldl (fun acc p => acc * p.1 + p.2) acc =
        acc * volume shape + place shape index := by
    induction shape generalizing acc index with
    | nil => simp [place_eq]
    | cons n shape ih =>
      cases index with
      | nil => simp at h
      | cons i index =>
        have h' : index.length = shape.length := by simpa using h
        simp only [place_eq, List.zip_cons_cons, List.foldl_cons, volume_cons]
        rw [ih _ _ h', ih _ _ h']
        ring
  rw [place_eq, List.zip_cons_cons, List.foldl_cons, hfold _ _ _ h, Nat.zero_mul, Nat.zero_add]

/-- **A multi-index stands at its own place** in the list of all. -/
theorem getElem?_indices (h : InRange shape index) :
    (indices shape)[place shape index]? = some index := by
  induction h with
  | nil => rfl
  | @cons i n index shape hi hrest ih =>
    have hroom : place shape index < volume shape := by
      rw [← length_indices]
      exact (List.getElem?_eq_some_iff.1 ih).1
    rw [place_cons n i hrest.length_eq, indices,
      getElem?_flatMap_range (by simp) hi hroom, List.getElem?_map, ih]
    rfl

theorem inRange_of_mem_indices (h : index ∈ indices shape) : InRange shape index := by
  induction shape generalizing index with
  | nil =>
    obtain rfl : index = [] := by simpa [indices] using h
    exact .nil
  | cons n shape ih =>
    obtain ⟨i, hi, hrest⟩ := List.mem_flatMap.1 h
    obtain ⟨rest, hmem, rfl⟩ := List.mem_map.1 hrest
    exact .cons (List.mem_range.1 hi) (ih hmem)

/-- The array of a function of the multi-index. -/
def tabulate (type : CellType) (shape : List Nat) (f : List Nat → Number) : DataArray :=
  ⟨type, shape, ((indices shape).map f).toArray, by simp⟩

theorem get_tabulate (type : CellType) (f : List Nat → Number) (h : InRange shape index) :
    (tabulate type shape f).get index = f index := by
  have hcell : ((indices shape).map f)[place shape index]? = some (f index) := by
    rw [List.getElem?_map, getElem?_indices h]
    rfl
  simp [get, tabulate, hcell]

theorem tabulate_congr (type : CellType) {f g : List Nat → Number}
    (h : ∀ index, InRange shape index → f index = g index) :
    tabulate type shape f = tabulate type shape g := by
  have hcells : (indices shape).map f = (indices shape).map g :=
    List.map_congr_left fun index hindex => h index (inRange_of_mem_indices hindex)
  simp only [tabulate, hcells]

/-- The array with the dimension `d` reversed. -/
def flip (a : DataArray) (d : Nat) : DataArray :=
  tabulate a.type a.shape fun index =>
    a.get (index.modify d fun i => a.shape.getD d 0 - 1 - i)

@[simp] theorem type_flip (a : DataArray) (d : Nat) : (a.flip d).type = a.type := rfl

@[simp] theorem shape_flip (a : DataArray) (d : Nat) : (a.flip d).shape = a.shape := rfl

@[simp] theorem size_flip (a : DataArray) (d : Nat) : (a.flip d).size = a.size := rfl

theorem get_flip (a : DataArray) (d : Nat) (h : InRange a.shape index) :
    (a.flip d).get index = a.get (index.modify d fun i => a.shape.getD d 0 - 1 - i) :=
  get_tabulate a.type _ h

theorem IsAxis.flip {a : DataArray} (ha : a.IsAxis) (d : Nat) : (a.flip d).IsAxis := ha

theorem IsAxis.shape_eq {a : DataArray} (ha : a.IsAxis) : a.shape = [a.size] := by
  obtain ⟨n, hshape⟩ := List.length_eq_one_iff.1 ha.1
  simp [size, hshape]

theorem IsAxis.get_flip {a : DataArray} (ha : a.IsAxis) {i : Nat} (hi : i < a.size) :
    (a.flip 0).get [i] = a.get [a.size - 1 - i] := by
  have hrange : InRange a.shape [i] := by
    rw [ha.shape_eq]
    exact .cons hi .nil
  rw [a.get_flip 0 hrange]
  simp [ha.shape_eq]

theorem IsAxis.get_eq {a : DataArray} (ha : a.IsAxis) {i : Nat} (hi : i < a.toList.length) :
    a.get [i] = a.toList[i] := by
  have hcells : i < a.cells.size := hi
  have hplace : place a.shape [i] = i := by simp [place, ha.shape_eq]
  simp [get, hplace, toList, hcells]

/-! ### Dimensions that are reversed if so wished -/

/-- The array with the dimension `d` reversed, if so wished. -/
def flipIf (a : DataArray) (b : Bool) (d : Nat) : DataArray := if b then a.flip d else a

variable (a : DataArray) (b : Bool) (d : Nat)

@[simp] theorem type_flipIf : (a.flipIf b d).type = a.type := by cases b <;> rfl

@[simp] theorem shape_flipIf : (a.flipIf b d).shape = a.shape := by cases b <;> rfl

@[simp] theorem size_flipIf : (a.flipIf b d).size = a.size := by cases b <;> rfl

variable {a b}

theorem IsAxis.flipIf (ha : a.IsAxis) : (a.flipIf b d).IsAxis := by cases b <;> exact ha

/-- The index of the same entry, in the other direction if so wished. -/
def mirror (b : Bool) (n i : Nat) : Nat := if b then n - 1 - i else i

theorem mirror_lt {n i : Nat} (hi : i < n) : mirror b n i < n := by
  unfold mirror
  split <;> omega

theorem mirror_mirror {n i : Nat} (hi : i < n) : mirror b n (mirror b n i) = i := by
  cases b
  · rfl
  · show n - 1 - (n - 1 - i) = i
    omega

theorem get_flipIf {index : List Nat} (h : InRange a.shape index) :
    (a.flipIf b d).get index = a.get (index.modify d (mirror b (a.shape.getD d 0))) := by
  cases b
  · have hsame : index.modify d (mirror false (a.shape.getD d 0)) = index :=
      List.modify_id d index
    rw [hsame]
    rfl
  · exact a.get_flip d h

end DataArray

namespace AirQualityPass

theorem position_natCast (k n : Nat) : position (k : Int) n = k := by
  have hsign : ¬ (k : Int) < 0 := by omega
  rw [position, if_neg hsign, Int.toNat_natCast]

variable {a : DataArray}

theorem getElem_axis (ha : a.IsAxis) {i : Nat} (hi : i < (axis a).length) :
    (axis a)[i] = Rounding.binary64.store (a.get [i]) := by
  rw [ha.get_eq (by simpa [axis] using hi)]
  simp [axis]

/-- **A flipped axis is the reversed one.** -/
theorem axis_flip (ha : a.IsAxis) : axis (a.flip 0) = (axis a).reverse := by
  refine List.ext_getElem (by simp [axis]) fun i hi hi' => ?_
  have hsize : i < a.size := by simpa [axis] using hi
  rw [List.getElem_reverse, getElem_axis ha, getElem_axis (ha.flip 0), ha.get_flip hsize]
  simp [axis]

end AirQualityPass

end StreetEnv
