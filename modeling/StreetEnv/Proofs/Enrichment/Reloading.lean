import StreetEnv.Enrichment
import StreetEnv.Proofs.Storage.Layers

/-!
# Saved graphs loaded again

Settings name the reference system that street edges are loaded in.  Saving does not ask for it: an
export always says that it is in degrees.  So a graph that is saved and loaded again has the same
edges in the same order, each displaced as if its coordinates had been degrees.

This holds in every atlas, whatever systems it knows and wherever the way from one to another leads.

* `Atlas.way?`: how the points of one system lie in another, if they do;
* `Settings.reloading`: the settings that load what settings have saved;
* `Settings.loadGraph_followsLines`: the edges of a loaded graph run along their lines;
* `Settings.loadGraph_reloading`: what is loaded of a graph that was saved;
* `Settings.loadGraph_saveGraph`: a loaded graph that is saved and loaded again.
-/

namespace StreetEnv

/-- The way from one system to another: points stay where they are between systems that are the
same. -/
def Atlas.way? (atlas : Atlas) (source target : ReferenceSystem) : Option (Vertex → Vertex) :=
  if atlas.same source target then some id else atlas.convert? source target

theorem FeatureTable.moved_id (t : FeatureTable) : t.moved id = t := by
  have hgeometry (g : Geometry) : g.map id = g := by
    cases g with
    | line vs => simp [Geometry.map]
    | lines parts => simp [Geometry.map]
    | other kind isEmpty => rfl
  have hrow (row : Feature) :
      { row with geometry := row.geometry.map (Geometry.map id) } = row := by
    cases hrow : row.geometry with
    | none => rw [Option.map_none, ← hrow]
    | some g => rw [Option.map_some, hgeometry, ← hrow]
  rw [moved, List.map_congr_left fun row _ => hrow row, List.map_id']

namespace Settings

variable {atlas : Atlas} {s : Settings} {tree later : FileTree} {g : Graph}

/-- The settings that load what these settings have saved. -/
def reloading (s : Settings) : Settings :=
  { s with
    paths := { s.paths with streetEdges := s.enrichedEdges }
    input := { s.input with layer := some s.output.layer } }

/-- The reference system of the settings. -/
def system (s : Settings) : ReferenceSystem := .epsg s.pass.epsg

theorem knows_of_reproject {t u : FeatureTable} {target : ReferenceSystem}
    (h : (t.reproject atlas target).1 = .ok u) : atlas.knows target = true := by
  unfold FeatureTable.reproject at h
  split at h
  · cases h
  · split at h
    · cases h
    · next hknown => simpa using hknown

theorem exists_table_of_loadGraph (h : (s.loadGraph atlas tree).1 = .ok g) :
    atlas.knows s.system = true ∧
      ∃ t : FeatureTable, (t.graphOfLines s.input.idField).1 = .ok g := by
  rw [loadGraph] at h
  rcases hload : tree.loadTable s.paths.streetEdges s.input.layer with ⟨_ | t, notices⟩
  · simp [hload] at h
  · simp only [hload, FeatureTable.toGraph_fst] at h
    cases hu : ((t.assuming s.pass.epsg).1.reproject atlas (.epsg s.pass.epsg)).1 with
    | error f =>
      rw [hu] at h
      cases h
    | ok u =>
      rw [hu] at h
      exact ⟨knows_of_reproject hu, u, h⟩

theorem loadGraph_followsLines (h : (s.loadGraph atlas tree).1 = .ok g) : g.FollowsLines := by
  obtain ⟨-, t, hgraph⟩ := exists_table_of_loadGraph h
  exact FeatureTable.graphOfLines_followsLines hgraph

theorem loadGraph_reloading (hknown : atlas.knows s.system = true)
    (hsave : (s.saveGraph g later).fault = none) :
    (s.reloading.loadGraph atlas (s.saveGraph g later).tree).1 =
      (atlas.way? .wgs84 s.system).elim (.error .noConversion) fun f =>
        ((g.toTable.moved f).graphOfLines s.input.idField).1 := by
  have hloaded := FileTree.loadTable_saveTable hsave
  rw [g.toTable_draws.stored] at hloaded
  rw [loadGraph]
  simp only [reloading, saveGraph] at hloaded ⊢
  rw [hloaded]
  -- an export names its system, so none is assumed
  have hassuming : g.toTable.assuming s.pass.epsg = (g.toTable, []) := rfl
  have hsystem : g.toTable.system = some .wgs84 := rfl
  simp only [FeatureTable.toGraph_fst, hassuming, FeatureTable.reproject, hsystem, Atlas.way?]
  rw [system] at hknown
  simp only [hknown]
  cases hsame : atlas.same .wgs84 s.system with
  | true =>
    rw [system] at hsame
    simp only [system, hsame, if_true, Option.elim_some, FeatureTable.moved_id]
    rfl
  | false =>
    rw [system] at hsame
    simp only [system, hsame]
    cases atlas.convert? .wgs84 (.epsg s.pass.epsg) with
    | none => rfl
    | some f => rfl

/-- **Saving and loading agree on where edges are** if and only if no vertex moves when it is taken
for degrees; so they do in every system that is the same as the one in degrees. -/
theorem loadGraph_saveGraph (atlas : Atlas) (s : Settings) (tree later : FileTree) (g : Graph)
    (hload : (s.loadGraph atlas tree).1 = .ok g) (hsave : (s.saveGraph g later).fault = none) :
    let reloaded := (s.reloading.loadGraph atlas (s.saveGraph g later).tree).1
    (atlas.way? .wgs84 s.system = none → reloaded = .error .noConversion) ∧
      (∀ f, atlas.way? .wgs84 s.system = some f → ∃ h, reloaded = .ok h ∧
        h.edges.length = g.edges.length ∧
        h.edges.map Edge.course = g.edges.map (fun e => e.movedCourse f) ∧
        (h.edges.map Edge.course = g.edges.map Edge.course ↔
          ∀ e ∈ g.edges, ∀ v ∈ e.vertices, f v = v)) ∧
      (atlas.same .wgs84 s.system = true → ∃ h, reloaded = .ok h ∧
        h.edges.map Edge.course = g.edges.map Edge.course) := by
  have hreloaded := loadGraph_reloading (exists_table_of_loadGraph hload).1 hsave
  have hg := loadGraph_followsLines hload
  have hagree (f : Vertex → Vertex) :
      g.edges.map (fun e => e.movedCourse f) = g.edges.map Edge.course ↔
        ∀ e ∈ g.edges, ∀ v ∈ e.vertices, f v = v := by
    rw [List.map_inj_left]
    apply forall₂_congr
    intro e he
    obtain ⟨vs, hvs⟩ := hg e he
    exact hvs.movedCourse_eq_iff f
  have hway (f : Vertex → Vertex) (hf : atlas.way? .wgs84 s.system = some f) :
      ∃ h, (s.reloading.loadGraph atlas (s.saveGraph g later).tree).1 = .ok h ∧
        h.edges.map Edge.course = g.edges.map fun e => e.movedCourse f := by
    rw [hreloaded, hf]
    exact Graph.graphOfLines_toTable hg f s.input.idField
  refine ⟨fun hnone => ?_, fun f hf => ?_, fun hsame => ?_⟩
  · rw [hreloaded, hnone]
    rfl
  · obtain ⟨h, hh, hcourses⟩ := hway f hf
    refine ⟨h, hh, by simpa using congrArg List.length hcourses, hcourses, ?_⟩
    rw [hcourses]
    exact hagree f
  · obtain ⟨h, hh, hcourses⟩ := hway id (if_pos hsame)
    exact ⟨h, hh, hcourses.trans ((hagree id).2 fun _ _ _ _ => rfl)⟩

/-- Settings for a file of edges in the working directory, in the reference system with a code. -/
def inSystem (epsg : Int) : Settings :=
  let s := standard ⟨"", []⟩ none
  { s with paths.streetEdges := ⟨"", ["edges.gpkg"]⟩, pass.epsg := epsg }

/-- The file of edges: one row of two lines that part at a point. -/
def forkedFile (epsg : Int) (start left right : Vertex) : FileTree :=
  let fork : Feature :=
    { id := .integer 7, geometry := some (.lines [[start, left], [start, right]]) }
  let table : FeatureTable := ⟨some (.epsg epsg), some "id", [fork]⟩
  ⟨[(["edges.gpkg"], .file (.layers [("edges", table)]))]⟩

/-- The edges of the file. -/
def forked (start left right : Vertex) : Graph :=
  ⟨[.along (.integer 7) [start, left], .along (.integer 7) [start, right]]⟩

/-- The systems with the codes 4326 and 4258 are different, but both are in degrees. -/
theorem loadGraph_saveGraph_forked :
    let s := inSystem 4258
    let tree := forkedFile 4258 ⟨⟨24, 60⟩, none⟩ ⟨⟨25, 60⟩, some 7⟩ ⟨⟨24, 61⟩, none⟩
    let g := forked ⟨⟨24, 60⟩, none⟩ ⟨⟨25, 60⟩, some 7⟩ ⟨⟨24, 61⟩, none⟩
    (s.loadGraph .standard tree).1 = .ok g ∧ (s.saveGraph g tree).fault = none ∧
      ∃ h, (s.reloading.loadGraph .standard (s.saveGraph g tree).tree).1 = .ok h ∧
        h.edges.length = 2 ∧ h.edges.map Edge.course = g.edges.map Edge.course := by
  intro s tree g
  have hload : (s.loadGraph .standard tree).1 = .ok g := by decide +kernel
  have hsave : (s.saveGraph g tree).fault = none := by decide +kernel
  obtain ⟨-, hway, -⟩ := loadGraph_saveGraph .standard s tree tree g hload hsave
  obtain ⟨f, hf⟩ : ∃ f, Atlas.standard.way? .wgs84 s.system = some f := ⟨_, rfl⟩
  obtain ⟨h, hh, hlength, -, hagree⟩ := hway f hf
  refine ⟨hload, hsave, h, hh, hlength, hagree.2 ?_⟩
  cases hf
  decide +kernel

/-- Metres that are taken for degrees lie elsewhere when they are loaded again. -/
theorem exists_displaced_reload :
    ∃ (s : Settings) (tree : FileTree) (g h : Graph), (s.loadGraph .standard tree).1 = .ok g ∧
      (s.saveGraph g tree).fault = none ∧
      (s.reloading.loadGraph .standard (s.saveGraph g tree).tree).1 = .ok h ∧
      h.edges.map Edge.course ≠ g.edges.map Edge.course := by
  let start : Vertex := ⟨⟨2000000, 8000000⟩, none⟩
  let left : Vertex := ⟨⟨2000100, 8000000⟩, none⟩
  let right : Vertex := ⟨⟨2000000, 8000100⟩, none⟩
  let s := inSystem 3857
  let tree := forkedFile 3857 start left right
  let g := forked start left right
  have hload : (s.loadGraph .standard tree).1 = .ok g := by decide +kernel
  have hsave : (s.saveGraph g tree).fault = none := by decide +kernel
  obtain ⟨f, hf⟩ : ∃ f, Atlas.standard.way? .wgs84 s.system = some f := ⟨_, rfl⟩
  obtain ⟨h, hh, hcourses⟩ := Graph.graphOfLines_toTable (loadGraph_followsLines hload) f
    s.input.idField
  have hreloaded := loadGraph_reloading (exists_table_of_loadGraph hload).1 hsave
  rw [hf] at hreloaded
  refine ⟨s, tree, g, h, hload, hsave, hreloaded.trans hh, ?_⟩
  rw [hcourses]
  cases hf
  decide +kernel

end Settings

end StreetEnv
