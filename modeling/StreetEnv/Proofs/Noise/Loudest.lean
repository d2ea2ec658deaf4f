import Mathlib.Algebra.Ring.Nat
import StreetEnv.Noise.Attribution
import StreetEnv.Proofs.Number.Order
import StreetEnv.Proofs.Street.Edgewise

/-!
# The loudest near source

A pass raises an edge source by source.  What is left in the end is the largest of the floor and of
the near levels, in whatever order they come; how often the edge was raised does depend on the
order, and counts the records among the near levels.

* `IsLoudest` is the largest of a floor and of levels, some of which may be `nan`;
* `records` counts the levels that are above the floor and above all earlier levels;
* `NoisePass.raise_ofHeard`: one edge becomes as loud as its loudest near source;
* `NoisePass.apply_ofHeard`: all edges that the pass reaches do, and the records are counted.
-/

namespace StreetEnv

/-! ### The largest of a floor and of levels -/

/-- A number is the largest of a floor and of those levels that are not `nan`. -/
structure IsLoudest (floor : Number) (levels : List Number) (y : Number) : Prop where
  /-- It is the floor or a level. -/
  among : y = floor ∨ y ∈ levels
  /-- It is not below the floor. -/
  floor_le : floor ≤ y
  /-- It is not below any level. -/
  le : ∀ x ∈ levels, x ≠ .nan → x ≤ y

variable {floor : Number} {levels : List Number}

theorem IsLoudest.le_of_isLoudest {y z : Number} (hy : IsLoudest floor levels y)
    (hz : IsLoudest floor levels z) : y ≤ z := by
  rcases hy.among with rfl | hmem
  · exact hz.floor_le
  · refine hz.le y hmem ?_
    rintro rfl
    exact (Number.ne_nan_of_le hy.floor_le).2 rfl

theorem IsLoudest.same {y z : Number} (hy : IsLoudest floor levels y)
    (hz : IsLoudest floor levels z) : y.same z = true := by
  rw [Number.same, Bool.and_eq_true]
  exact ⟨hy.le_of_isLoudest hz, hz.le_of_isLoudest hy⟩

theorem IsLoudest.congr {levels' : List Number} {y : Number} (h : IsLoudest floor levels y)
    (hlevels : ∀ x, x ∈ levels' ↔ x ∈ levels) : IsLoudest floor levels' y where
  among := h.among.imp_right (hlevels y).2
  floor_le := h.floor_le
  le x hx := h.le x ((hlevels x).1 hx)

theorem isLoudest_foldl (hfloor : floor ≠ .nan) (levels : List Number) :
    IsLoudest floor levels (levels.foldl Number.greatest floor) := by
  obtain ⟨hmem, hle⟩ := Number.foldl_greatest hfloor levels
  exact ⟨List.mem_cons.1 hmem, hle floor List.mem_cons_self hfloor,
    fun x hx => hle x (List.mem_cons_of_mem floor hx)⟩

/-! ### Records -/

/-- A level, given with its place among levels, is above the floor and above all earlier levels, but
for `nan`. -/
def isRecord (floor : Number) (levels : List Number) (q : Number × Nat) : Bool :=
  floor < q.1 && (levels.take q.2).all fun y => y = .nan || y < q.1

/-- The number of records. -/
def records (floor : Number) (levels : List Number) : Nat :=
  levels.zipIdx.countP (isRecord floor levels)

theorem isRecord_cons_succ (floor x y : Number) (levels : List Number) (i : Nat) :
    isRecord floor (x :: levels) (y, i + 1) = isRecord (floor.greatest x) levels (y, i) := by
  rw [Bool.eq_iff_iff]
  simp [isRecord, Number.greatest_lt_iff, and_assoc]

theorem records_cons (floor x : Number) (levels : List Number) :
    records floor (x :: levels) =
      records (floor.greatest x) levels + if floor < x then 1 else 0 := by
  unfold records
  rw [List.zipIdx_cons, List.zipIdx_succ, List.countP_cons, List.countP_map]
  congr 1
  · -- the records after the first level, with their places moved by one
    refine List.countP_congr fun ⟨y, i⟩ _ => ?_
    rw [← isRecord_cons_succ]
    rfl
  · simp [isRecord]

/-! ### Raising one edge -/

/-- The source of a level that was heard at a place. -/
def NoiseSource.ofHeard (q : Coordinate × Number) : NoiseSource := ⟨q.1, .number q.2⟩

/-- The levels heard near one of the ends of an edge, in order. -/
def Edge.nearLevels (e : Edge) (threshold : Number) (heard : List (Coordinate × Number)) :
    List Number :=
  (heard.filter fun q => e.isNear q.1 threshold).map Prod.snd

namespace NoisePass

/-- **An edge becomes as loud as its loudest near source**, and is raised at each record. -/
theorem raise_ofHeard (threshold floor : Number) (heard : List (Coordinate × Number)) (e : Edge) :
    raise threshold (heard.map NoiseSource.ofHeard) (e.withNoise floor) =
      ⟨e.withNoise ((e.nearLevels threshold heard).foldl Number.greatest floor),
        records floor (e.nearLevels threshold heard), none⟩ := by
  induction heard generalizing floor with
  | nil => rfl
  | cons q heard ih =>
    obtain ⟨place, x⟩ := q
    have hraise : raise threshold (((place, x) :: heard).map NoiseSource.ofHeard)
          (e.withNoise floor) =
        if floor < x && e.isNear place threshold then
          let rest := raise threshold (heard.map NoiseSource.ofHeard) (e.withNoise x)
          { rest with count := rest.count + 1 }
        else raise threshold (heard.map NoiseSource.ofHeard) (e.withNoise floor) := rfl
    rw [hraise]
    -- only a near source is a near level, and only a louder one raises the edge
    by_cases hnear : e.isNear place threshold = true
    · have hlevels : e.nearLevels threshold ((place, x) :: heard) =
          x :: e.nearLevels threshold heard := by
        simp [Edge.nearLevels, hnear]
      rw [hlevels, List.foldl_cons, records_cons, Number.greatest]
      by_cases hx : floor < x
      · simp [hx, hnear, ih]
      · simp [hx, ih]
    · have hlevels : e.nearLevels threshold ((place, x) :: heard) =
          e.nearLevels threshold heard := by
        simp [Edge.nearLevels, hnear]
      rw [hlevels, if_neg (by simp [hnear]), ih]

/-! ### Whole passes -/

/-- The pass of levels that were heard at places. -/
def ofHeard (heard : List (Coordinate × Number)) (threshold floor margin : Number) : NoisePass :=
  ⟨heard.map NoiseSource.ofHeard, threshold, floor, margin⟩

variable (p : NoisePass) (r : Rounding)

/-- The expanded area of the sources contains the envelope of the edge. -/
def reaches (e : Edge) : Bool :=
  p.area?.any fun area => (area.expandedBy r p.margin).contains e.envelope

variable {p} in
theorem reaches_of_no_area (h : p.area? = none) : p.reaches r = fun _ => false := by
  funext e
  rw [reaches, h]
  rfl

variable {p} in
theorem reaches_of_area {area : Envelope} (h : p.area? = some area) :
    p.reaches r = fun e => (area.expandedBy r p.margin).contains e.envelope := by
  funext e
  rw [reaches, h]
  rfl

variable {p} {heard : List (Coordinate × Number)} (hp : p.sources = heard.map NoiseSource.ofHeard)
include hp

theorem run_ofHeard (es : List Edge) :
    p.run es =
      ⟨es.map fun e =>
          e.withNoise ((e.nearLevels p.threshold heard).foldl Number.greatest p.floor),
        (es.map fun e => records p.floor (e.nearLevels p.threshold heard)).sum, none⟩ := by
  induction es with
  | nil => rfl
  | cons e es ih =>
    simp only [run]
    rw [hp, raise_ofHeard, ih]
    simp

/-- **Every edge that a pass reaches becomes as loud as its loudest near source**, the other edges
stay as they are, and the records of the former are counted. -/
theorem apply_ofHeard (g : Graph) :
    (p.apply r g).graph.edges = g.edges.map (fun e =>
      if p.reaches r e = true then
        e.withNoise ((e.nearLevels p.threshold heard).foldl Number.greatest p.floor)
      else e) ∧
    (p.apply r g).result = .ok ((g.edges.filter (p.reaches r)).map fun e =>
      records p.floor (e.nearLevels p.threshold heard)).sum := by
  unfold apply
  cases harea : p.area? with
  | none =>
    have hnone : g.edges.filter (fun _ => false) = [] := List.filter_eq_nil_iff.2 fun e _ => by simp
    simp [reaches_of_no_area r harea, hnone]
  | some area =>
    rw [reaches_of_area r harea]
    simp only [run_ofHeard hp, Graph.edges_replaceIn_map]
    exact ⟨trivial, rfl⟩

end NoisePass

end StreetEnv
