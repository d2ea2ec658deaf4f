import StreetEnv.Feature.Table
import StreetEnv.Proofs.Feature.Lines

/-!
# Where edges lie

The course of an edge is what an export keeps of where it lies: its ends and its line.  An import
gives every edge the course of a line, so an export and an import keep the courses, as far as the
reference systems of the two agree.

* `Edge.course` and `Edge.movedCourse`: where an edge lies, and where it lies when it is moved;
* `Graph.FollowsLines`: every edge runs along its line, as those of an import do;
* `FeatureTable.Draws`: every row is one line;
* `Graph.toTable_draws` and `FeatureTable.Draws.graphOfLines`: the lines of an export, and the
  courses of an import;
* `Graph.graphOfLines_toTable`: an export that is moved and imported has the courses, moved.
-/

namespace StreetEnv

namespace Edge

/-- The ends and the line of an edge.  Its start and end point are found from them. -/
def course (e : Edge) : Coordinate × Coordinate × Option (List Vertex) :=
  (e.origin, e.destination, e.line)

/-- The course along a line with vertices. -/
def courseAlong (vs : List Vertex) : Coordinate × Coordinate × Option (List Vertex) :=
  ((vs.head?.getD default).toCoordinate, (vs.getLast?.getD default).toCoordinate, some vs)

/-- The course of the edge with all its vertices moved. -/
def movedCourse (e : Edge) (f : Vertex → Vertex) : Coordinate × Coordinate × Option (List Vertex) :=
  courseAlong (e.vertices.map f)

namespace Follows

variable {e : Edge} {vs : List Vertex} (h : e.Follows vs)

include h

theorem ne_nil : vs ≠ [] := by
  intro hnil
  have horigin := h.origin
  rw [hnil] at horigin
  cases horigin

theorem vertices_eq : e.vertices = vs := by
  rw [vertices, h.line]
  rfl

theorem course_eq : e.course = courseAlong e.vertices := by
  obtain ⟨first, hfirst, horigin⟩ := Option.map_eq_some_iff.1 h.origin
  obtain ⟨last, hlast, hdestination⟩ := Option.map_eq_some_iff.1 h.destination
  rw [h.vertices_eq, course, courseAlong, h.line, hfirst, hlast, ← horigin, ← hdestination]
  rfl

/-- Moving the vertices keeps the course only if it keeps every vertex. -/
theorem movedCourse_eq_iff (f : Vertex → Vertex) :
    e.movedCourse f = e.course ↔ ∀ c ∈ e.vertices, f c = c := by
  have hline : e.vertices.map f = e.vertices ↔ ∀ c ∈ e.vertices, f c = c := by
    have hmap := List.map_inj_left (l := e.vertices) (f := f) (g := fun c => c)
    rwa [List.map_id'] at hmap
  rw [h.course_eq, movedCourse, ← hline]
  constructor
  · intro heq
    exact Option.some.inj (congrArg (fun p => p.2.2) heq)
  · intro hvs
    rw [hvs]

end Follows

end Edge

/-- Every edge runs along its line. -/
def Graph.FollowsLines (g : Graph) : Prop := ∀ e ∈ g.edges, ∃ vs, e.Follows vs

namespace FeatureTable

variable {t : FeatureTable} {field : String} {vss : List (List Vertex)}

theorem graphOfLines_followsLines {g : Graph} (h : (t.graphOfLines field).1 = .ok g) :
    g.FollowsLines := by
  rw [graphOfLines_eq] at h
  cases hedges : (t.named field t.parts).mapM fun p => edgeOf p.1 p.2 with
  | error e =>
    rw [hedges] at h
    cases h
  | ok edges =>
    rw [hedges] at h
    obtain rfl : (⟨edges⟩ : Graph) = g := Except.ok.inj h
    intro e he
    obtain ⟨p, -, hedge⟩ := Traversal.exists_of_mem_mapM hedges e he
    by_cases hp : p.2 = []
    · rw [hp, edgeOf_nil] at hedge
      cases hedge
    · rw [edgeOf_along hp] at hedge
      exact ⟨p.2, Except.ok.inj hedge ▸ Edge.follows_along hp⟩

/-- Every row is one line: these, in order. -/
def Draws (t : FeatureTable) (vss : List (List Vertex)) : Prop :=
  t.rows.map Feature.geometry = vss.map fun vs => some (.line vs)

namespace Draws

theorem moved (h : t.Draws vss) (f : Vertex → Vertex) :
    (t.moved f).Draws (vss.map (List.map f)) := by
  have hgeometry := congrArg (List.map (Option.map (Geometry.map f))) h
  simpa [Draws, FeatureTable.moved, Function.comp_def, Geometry.map] using hgeometry

theorem not_isPartlyEmpty (h : t.Draws vss) : ∀ f ∈ t.rows, ¬ f.IsPartlyEmpty := by
  intro f hf
  have hmem : f.geometry ∈ vss.map fun vs => some (Geometry.line vs) :=
    h ▸ List.mem_map_of_mem hf
  obtain ⟨vs, -, hvs⟩ := List.mem_map.1 hmem
  rintro ⟨hnil, vs', hvs', hne⟩
  simp only [Feature.lines, ← hvs, Option.bind_some, Geometry.parts?, Option.getD_some,
    List.mem_singleton] at hnil hvs'
  exact hne (hvs'.trans hnil.symm)

theorem lines (h : t.Draws vss) (hne : ∀ vs ∈ vss, vs ≠ []) : t.lines.map Prod.snd = vss := by
  have hlines : t.lines.map Prod.snd =
      (t.rows.map Feature.geometry).flatMap fun g =>
        ((g.bind Geometry.parts?).getD []).filter fun vs => vs ≠ [] := by
    simp only [FeatureTable.lines, Feature.lines, List.map_flatMap, List.flatMap_map, List.map_map,
      Function.comp_def, List.map_id']
  rw [hlines, h]
  clear hlines h
  induction vss with
  | nil => rfl
  | cons vs vss ih =>
    have hvs : vs ≠ [] := hne vs List.mem_cons_self
    have hrest := ih fun vs' h' => hne vs' (List.mem_cons_of_mem vs h')
    rw [List.map_cons, List.flatMap_cons, hrest]
    simp [hvs, Geometry.parts?]

theorem graphOfLines (h : t.Draws vss) (hne : ∀ vs ∈ vss, vs ≠ []) (field : String) :
    ∃ g, (t.graphOfLines field).1 = .ok g ∧ g.edges.map Edge.course = vss.map Edge.courseAlong := by
  refine ⟨_, graphOfLines_of_lines field h.not_isPartlyEmpty, ?_⟩
  rw [← h.lines hne]
  apply List.ext_getElem
  · simp [named]
  · intro i hi hi'
    simp [named, Edge.course, Edge.along, Edge.courseAlong]

end Draws

end FeatureTable

theorem Identifier.length_column (cells : List Identifier) :
    (Identifier.column cells).length = cells.length := by
  simp only [column]
  split
  · simp
  · rfl

namespace Graph

theorem toTable_draws (g : Graph) : g.toTable.Draws (g.edges.map Edge.vertices) := by
  apply List.ext_getElem
  · simp [toTable, FeatureTable.ofRows, Identifier.length_column]
  · intro i hi hi'
    simp [toTable, FeatureTable.ofRows, Edge.toFeature]

theorem graphOfLines_toTable {g : Graph} (hg : g.FollowsLines) (f : Vertex → Vertex)
    (field : String) :
    ∃ h, ((g.toTable.moved f).graphOfLines field).1 = .ok h ∧
      h.edges.map Edge.course = g.edges.map fun e => e.movedCourse f := by
  have hne : ∀ vs ∈ (g.edges.map Edge.vertices).map (List.map f), vs ≠ [] := by
    simp only [List.map_map, List.mem_map]
    rintro _ ⟨e, he, rfl⟩
    obtain ⟨vs, hvs⟩ := hg e he
    simpa [hvs.vertices_eq] using hvs.ne_nil
  obtain ⟨h, hh, hcourses⟩ := (g.toTable_draws.moved f).graphOfLines hne field
  refine ⟨h, hh, ?_⟩
  rw [hcourses, List.map_map, List.map_map]
  rfl

end Graph

end StreetEnv
