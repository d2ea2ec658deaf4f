import Mathlib.Data.List.Nodup
import StreetEnv.Feature.Table
import StreetEnv.Proofs.Fault.Traversal

/-!
# The lines of a feature table

A graph is made of the lines of a table: row by row, and within a row part by part.  A row all of
whose lines are without vertices is dropped.  A line without vertices beside others is not, and as
an edge has no ends without vertices, it refuses the whole table.

* `Feature.lines` and `FeatureTable.lines` are the lines of a row and of a table;
* `Feature.IsPartlyEmpty`: a line without vertices stands beside one with vertices;
* `FeatureTable.IsIn`: the table is in its reference system already;
* `FeatureTable.rows_explode`: the rows that lines are taken from;
* `FeatureTable.graphOfLines_of_lines` and `FeatureTable.graphOfLines_of_isPartlyEmpty`: what
  becomes of them;
* `FeatureTable.toGraph_lines`: the import of a table that is in its reference system already.
-/

namespace StreetEnv

namespace Edge

/-- The edge along a line with vertices. -/
def along (id : Identifier) (vs : List Vertex) : Edge :=
  { id := id
    origin := (vs.head?.getD default).toCoordinate
    destination := (vs.getLast?.getD default).toCoordinate
    line := some vs }

variable {id : Identifier} {vs : List Vertex}

/-- The edge runs along a line, from the first two ordinates of its first vertex to those of its
last. -/
structure Follows (e : Edge) (vs : List Vertex) : Prop where
  line : e.line = some vs
  origin : vs.head?.map Vertex.toCoordinate = some e.origin
  destination : vs.getLast?.map Vertex.toCoordinate = some e.destination
  startPoint : e.startPoint = e.origin
  endPoint : e.endPoint = e.destination

theorem follows_along (h : vs ≠ []) : (along id vs).Follows vs where
  line := rfl
  origin := by simp [along, List.head?_eq_some_head h]
  destination := by simp [along, List.getLast?_eq_some_getLast h]
  startPoint := by simp [Edge.startPoint, along, List.head?_eq_some_head h]
  endPoint := by simp [Edge.endPoint, along, List.getLast?_eq_some_getLast h]

end Edge

namespace Feature

/-- The lines of a row, with or without vertices.  Rows of other geometries have none. -/
def lines (f : Feature) : List (List Vertex) := (f.geometry.bind Geometry.parts?).getD []

/-- A line without vertices stands beside one with vertices. -/
def IsPartlyEmpty (f : Feature) : Prop := [] ∈ f.lines ∧ ∃ vs ∈ f.lines, vs ≠ []

instance (f : Feature) : Decidable f.IsPartlyEmpty :=
  inferInstanceAs (Decidable ([] ∈ f.lines ∧ ∃ vs ∈ f.lines, vs ≠ []))

/-- The row with one line as its geometry. -/
def drawn (f : Feature) (vs : List Vertex) : Feature := { f with geometry := some (.line vs) }

/-- The lines that a row is exploded into. -/
def explodedLines (f : Feature) : List (List Vertex) :=
  if f.lines.all List.isEmpty then [] else f.lines

variable {f : Feature}

theorem mem_explodedLines {vs : List Vertex} (h : vs ∈ f.lines) (hne : vs ≠ []) :
    f.explodedLines = f.lines := by
  have hsome : ¬ f.lines.all List.isEmpty = true := by
    intro hall
    exact hne (List.isEmpty_iff.1 (List.all_eq_true.1 hall vs h))
  exact if_neg hsome

theorem nil_mem_explodedLines (h : f.IsPartlyEmpty) : [] ∈ f.explodedLines := by
  obtain ⟨hnil, vs, hvs, hne⟩ := h
  rw [mem_explodedLines hvs hne]
  exact hnil

theorem explodedLines_eq_filter (h : ¬ f.IsPartlyEmpty) :
    f.explodedLines = f.lines.filter fun vs => vs ≠ [] := by
  by_cases hsome : ∃ vs ∈ f.lines, vs ≠ []
  · obtain ⟨vs, hvs, hne⟩ := hsome
    rw [mem_explodedLines hvs hne, eq_comm, List.filter_eq_self]
    intro vs' hvs'
    by_contra hempty
    have hnil : vs' = [] := by simpa using hempty
    exact h ⟨hnil ▸ hvs', vs, hvs, hne⟩
  · have hnone : ∀ vs ∈ f.lines, vs = [] := by simpa using hsome
    have hall : f.lines.all List.isEmpty = true := by simpa using hnone
    rw [explodedLines, if_pos hall, eq_comm, List.filter_eq_nil_iff]
    simpa using hnone

end Feature

namespace FeatureTable

variable {t : FeatureTable} {epsg : Int}

/-! ### The reference system -/

/-- The table is in the reference system with a code already, or is taken to be in it. -/
def IsIn (t : FeatureTable) (atlas : Atlas) (epsg : Int) : Prop :=
  ∀ s, t.system = some s → atlas.same s (.epsg epsg) = true

theorem toGraph_fst (atlas : Atlas) (t : FeatureTable) (field : String) (epsg : Int) :
    (t.toGraph atlas field epsg).1 =
      ((t.assuming epsg).1.reproject atlas (.epsg epsg)).1.bind fun u =>
        (u.graphOfLines field).1 := by
  rw [toGraph]
  rcases t.assuming epsg with ⟨assumed, noticed⟩
  dsimp only
  rcases assumed.reproject atlas (.epsg epsg) with ⟨_ | u, notices⟩
  · rfl
  · rfl

theorem graphOfLines_withSystem (t : FeatureTable) (s : Option ReferenceSystem) (field : String) :
    { t with system := s }.graphOfLines field = t.graphOfLines field := rfl

theorem toGraph_of_isIn {atlas : Atlas} (hknown : atlas.knows (.epsg epsg) = true)
    (hself : atlas.same (.epsg epsg) (.epsg epsg) = true) (ht : t.IsIn atlas epsg)
    (field : String) : (t.toGraph atlas field epsg).1 = (t.graphOfLines field).1 := by
  obtain ⟨system, column, rows⟩ := t
  rw [toGraph_fst]
  cases system with
  | none =>
    simp only [assuming, reproject, hknown, hself]
    exact congrArg Prod.fst (graphOfLines_withSystem ⟨none, column, rows⟩ _ field)
  | some s =>
    simp only [assuming, reproject, hknown, ht s rfl]
    rfl

/-! ### Rows and lines -/

theorem partsOf_of_kept (f : Feature) :
    (if (f.geometry.map fun g => !g.isEmpty).getD false &&
        (f.geometry.bind Geometry.parts?).isSome then partsOf f else []) =
      f.explodedLines.map f.drawn := by
  obtain ⟨id, geometry, quality, time, noise⟩ := f
  cases geometry with
  | none => rfl
  | some g =>
    cases g with
    | other kind isEmpty => simp [Feature.explodedLines, Feature.lines, Geometry.parts?]
    | line vs =>
      cases vs <;> simp [Feature.explodedLines, Feature.lines, Feature.drawn, partsOf,
        Geometry.parts?, Geometry.isEmpty]
    | lines parts =>
      cases h : parts.all List.isEmpty <;> simp [Feature.explodedLines, Feature.lines,
        Feature.drawn, partsOf, Geometry.parts?, Geometry.isEmpty, h]

theorem rows_explode (t : FeatureTable) :
    t.explode.1.rows = t.rows.flatMap fun f => f.explodedLines.map f.drawn := by
  have hflat (p : Feature → Bool) (rows : List Feature) :
      (rows.filter p).flatMap partsOf = rows.flatMap fun f => if p f then partsOf f else [] := by
    induction rows with
    | nil => rfl
    | cons f rows ih => cases h : p f <;> simp [h, ih]
  simp only [explode, List.filter_filter, hflat]
  congr 1
  funext f
  rw [← partsOf_of_kept f, Bool.and_comm]

/-- The lines that a table is exploded into, each with the cell of its row. -/
def parts (t : FeatureTable) : List (Identifier × List Vertex) :=
  t.rows.flatMap fun f => f.explodedLines.map fun vs => (f.id, vs)

/-- The lines with vertices, row by row and part by part, each with the cell of its row. -/
def lines (t : FeatureTable) : List (Identifier × List Vertex) :=
  t.rows.flatMap fun f => (f.lines.filter fun vs => vs ≠ []).map fun vs => (f.id, vs)

/-- The name of the edge at a place: the cell of its row, or the number of the place. -/
def nameAt (t : FeatureTable) (field : String) (i : Nat) (cell : Identifier) : Identifier :=
  if t.idColumn = some field then cell else .integer i

/-- Lines, each with the name of its edge. -/
def named (t : FeatureTable) (field : String) (ps : List (Identifier × List Vertex)) :
    List (Identifier × List Vertex) :=
  ps.mapIdx fun i p => (t.nameAt field i p.1, p.2)

theorem parts_eq_lines (h : ∀ f ∈ t.rows, ¬ f.IsPartlyEmpty) : t.parts = t.lines := by
  rw [parts, lines, List.flatMap_def, List.flatMap_def]
  congr 1
  apply List.map_congr_left
  intro f hf
  rw [Feature.explodedLines_eq_filter (h f hf)]

theorem ne_nil_of_mem_lines {p : Identifier × List Vertex} (h : p ∈ t.lines) : p.2 ≠ [] := by
  obtain ⟨f, -, hp⟩ := List.mem_flatMap.1 h
  obtain ⟨vs, hvs, rfl⟩ := List.mem_map.1 hp
  simpa using (List.mem_filter.1 hvs).2

theorem map_rows_explode (t : FeatureTable) :
    t.explode.1.rows.map (fun f => (f.id, vertices f)) = t.parts := by
  rw [rows_explode, List.map_flatMap, parts]
  simp only [List.map_map]
  rfl

theorem zip_identifiers (t : FeatureTable) (field : String) :
    ((t.explode.1.identifiers field).1.zip t.explode.1.rows).map (fun p => (p.1, vertices p.2)) =
      t.named field t.parts := by
  have hparts := map_rows_explode t
  have hcolumn : t.explode.1.idColumn = t.idColumn := rfl
  generalize t.explode.1 = u at hparts hcolumn
  simp only [named, ← hparts, nameAt, ← hcolumn, identifiers]
  split
  · apply List.ext_getElem
    · simp
    · simp
  · apply List.ext_getElem
    · simp
    · simp

theorem graphOfLines_eq (t : FeatureTable) (field : String) :
    (t.graphOfLines field).1 =
      ((t.named field t.parts).mapM fun p => edgeOf p.1 p.2).map Graph.mk := by
  rw [← zip_identifiers, List.mapM_map]
  rfl

theorem edgeOf_nil (id : Identifier) : edgeOf id [] = .error .emptyPart := rfl

theorem edgeOf_along {id : Identifier} {vs : List Vertex} (h : vs ≠ []) :
    edgeOf id vs = .ok (.along id vs) := by
  simp only [edgeOf, List.head?_eq_some_head h, List.getLast?_eq_some_getLast h, Edge.along]
  rfl

theorem graphOfLines_of_lines (field : String) (h : ∀ f ∈ t.rows, ¬ f.IsPartlyEmpty) :
    (t.graphOfLines field).1 = .ok ⟨(t.named field t.lines).map fun p => .along p.1 p.2⟩ := by
  have hedges : ∀ p ∈ t.named field t.lines, edgeOf p.1 p.2 = .ok (.along p.1 p.2) := by
    intro p hp
    obtain ⟨i, hi, rfl⟩ := List.mem_mapIdx.1 hp
    exact edgeOf_along (ne_nil_of_mem_lines (p := t.lines[i]) (List.getElem_mem hi))
  rw [graphOfLines_eq, parts_eq_lines h, Traversal.mapM_eq_ok_map hedges]
  rfl

theorem graphOfLines_of_isPartlyEmpty (field : String) (h : ∃ f ∈ t.rows, f.IsPartlyEmpty) :
    (t.graphOfLines field).1 = .error .emptyPart := by
  rw [graphOfLines_eq]
  have hstops : Traversal.StopsOnly (· = Fault.emptyPart)
      ((t.named field t.parts).mapM fun p => edgeOf p.1 p.2) := by
    apply Traversal.StopsOnly.mapM
    intro p _
    by_cases hp : p.2 = []
    · rw [hp, edgeOf_nil]
      exact .error rfl
    · rw [edgeOf_along hp]
      exact .ok _
  cases hedges : (t.named field t.parts).mapM fun p => edgeOf p.1 p.2 with
  | error e => rw [hstops e hedges]; rfl
  | ok edges =>
    obtain ⟨f, hf, hpartly⟩ := h
    have hpart : (f.id, []) ∈ t.parts :=
      List.mem_flatMap.2 ⟨f, hf, List.mem_map.2 ⟨[], Feature.nil_mem_explodedLines hpartly, rfl⟩⟩
    obtain ⟨i, hi, heq⟩ := List.getElem_of_mem hpart
    have hnamed : (t.nameAt field i f.id, []) ∈ t.named field t.parts :=
      List.mem_mapIdx.2 ⟨i, hi, by rw [heq]⟩
    obtain ⟨e, he⟩ := Traversal.exists_eq_ok_of_mapM hedges _ hnamed
    rw [edgeOf_nil] at he
    cases he

/-- **Importing features loses and invents nothing.**  From a table in its reference system, every
line with vertices becomes one edge, row by row and part by part, named by its row or by its place;
unless a row has a line without vertices beside others, which refuses the table. -/
theorem toGraph_lines (atlas : Atlas) (field : String)
    (hknown : atlas.knows (.epsg epsg) = true)
    (hself : atlas.same (.epsg epsg) (.epsg epsg) = true) (ht : t.IsIn atlas epsg) :
    ((∀ f ∈ t.rows, ¬ f.IsPartlyEmpty) →
      ∃ g, (t.toGraph atlas field epsg).1 = .ok g ∧ g.edges.length = t.lines.length ∧
        (∀ i (h : i < g.edges.length) (h' : i < t.lines.length),
          g.edges[i].Follows t.lines[i].2 ∧
          g.edges[i].id = if t.idColumn = some field then t.lines[i].1 else .integer i) ∧
        (t.idColumn ≠ some field → (g.edges.map Edge.id).Nodup)) ∧
    ((∃ f ∈ t.rows, f.IsPartlyEmpty) → (t.toGraph atlas field epsg).1 = .error .emptyPart) := by
  rw [toGraph_of_isIn hknown hself ht]
  refine ⟨?_, graphOfLines_of_isPartlyEmpty field⟩
  intro hrows
  refine ⟨_, graphOfLines_of_lines field hrows, by simp [named], ?_, ?_⟩
  · intro i h h'
    have hne : t.lines[i].2 ≠ [] := ne_nil_of_mem_lines (List.getElem_mem h')
    refine ⟨?_, by simp [named, nameAt, Edge.along]⟩
    simpa [named] using Edge.follows_along hne
  · intro hcolumn
    rw [List.Nodup, List.pairwise_iff_getElem]
    intro i j _ _ hij heq
    simp only [named, List.getElem_map, List.getElem_mapIdx, nameAt, if_neg hcolumn, Edge.along,
      Identifier.integer.injEq] at heq
    omega

/-- A vertex without a height. -/
def flat (x y : Number) : Vertex := { x := x, y := y }

/-- A table with a row of every sort: without geometry, without vertices, of a point, of one line
with heights and of two without. -/
def assorted : FeatureTable :=
  { system := some (.named "EPSG:25835")
    idColumn := some "name"
    rows := [
      { id := .text "absent", geometry := none },
      { id := .text "blank", geometry := some (.line []) },
      { id := .text "hollow", geometry := some (.lines [[], []]) },
      { id := .text "stop", geometry := some (.other "Point" false) },
      { id := .text "lane", geometry := some (.line [⟨⟨0, 0⟩, some 9⟩, ⟨⟨1, 1⟩, some 8⟩]) },
      { id := .text "fork"
        geometry := some (.lines [[flat 1 1, flat 2 1], [flat 1 1, flat 1 2]]) }] }

theorem toGraph_lines_assorted :
    Atlas.standard.knows (.epsg 25835) = true ∧ assorted.IsIn .standard 25835 ∧
      (∀ f ∈ assorted.rows, ¬ f.IsPartlyEmpty) ∧
      assorted.lines.map Prod.fst = [.text "lane", .text "fork", .text "fork"] ∧
      ∃ g, (assorted.toGraph .standard "id" 25835).1 = .ok g ∧ g.edges.length = 3 ∧
        (g.edges.map Edge.id).Nodup := by
  have hrows : ∀ f ∈ assorted.rows, ¬ f.IsPartlyEmpty := by decide
  have hknown : Atlas.standard.knows (.epsg 25835) = true := by decide +kernel
  have hself : Atlas.standard.same (.epsg 25835) (.epsg 25835) = true := by decide +kernel
  have hsystem : assorted.IsIn .standard 25835 := by
    intro s hs
    cases hs
    decide +kernel
  obtain ⟨g, hg, hlength, -, hnodup⟩ :=
    (toGraph_lines .standard "id" hknown hself hsystem).1 hrows
  exact ⟨hknown, hsystem, hrows, by decide, g, hg, hlength, hnodup (by decide)⟩

/-- One line without vertices refuses the table, although the row has another line. -/
theorem exists_refused_import :
    ∃ t : FeatureTable, t.system = some .wgs84 ∧
      t.lines = [(.integer 1, [flat 0 0, flat 1 0])] ∧
      (t.toGraph .standard "id" 4326).1 = .error .emptyPart := by
  refine ⟨⟨some .wgs84, some "id",
    [{ id := .integer 1, geometry := some (.lines [[], [flat 0 0, flat 1 0]]) }]⟩, rfl, ?_, ?_⟩
  · decide
  · decide +kernel

end FeatureTable

end StreetEnv
