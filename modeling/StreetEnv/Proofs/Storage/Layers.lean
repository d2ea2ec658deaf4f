import StreetEnv.Proofs.Feature.Courses
import StreetEnv.Storage.VectorFile

/-!
# Layers that are read back

What is written at a path stands there afterwards, because writing changes no directory on the way.
So a layer of lines that is saved is loaded as it was.

* `FileTree.follow_put`: a path leads to the same place in a tree with one more file;
* `FileTree.find?_write`: a written file stands at its path;
* `FeatureTable.Draws.stored`: a layer of single lines is kept as it is;
* `FileTree.loadTable_saveTable`: what is saved in a layer is loaded from it.
-/

namespace StreetEnv

theorem lookup_replaced {α β : Type} [BEq α] [LawfulBEq α] [DecidableEq α] (k : α) (v : β)
    (l : List (α × β)) : (l.filter (fun f => f.1 ≠ k) ++ [(k, v)]).lookup k = some v := by
  have hnone : (l.filter fun f => f.1 ≠ k).lookup k = none := by
    rw [List.lookup_eq_none_iff]
    intro f hf
    have hne : f.1 ≠ k := by simpa using (List.mem_filter.1 hf).2
    simpa using hne.symm
  rw [List.lookup_append, hnone]
  simp

theorem lookup_replaced_of_ne {α β : Type} [BEq α] [LawfulBEq α] [DecidableEq α] {k k' : α}
    (h : k' ≠ k) (v : β) (l : List (α × β)) :
    (l.filter (fun f => f.1 ≠ k) ++ [(k, v)]).lookup k' = l.lookup k' := by
  have hlast : [(k, v)].lookup k' = none := by simpa using h
  rw [List.lookup_append, hlast, Option.or_none]
  induction l with
  | nil => rfl
  | cons f l ih =>
    obtain ⟨k'', w⟩ := f
    by_cases hk : k'' = k
    · have hother : (k' == k'') = false := by simpa [hk] using h
      rw [List.filter_cons_of_neg (by simpa using hk), List.lookup_cons, hother]
      exact ih
    · rw [List.filter_cons_of_pos (by simpa using hk), List.lookup_cons, List.lookup_cons, ih]

namespace FileTree

variable {t t' : FileTree} {place : List String} {p : FilePath} {c : FileContent}

theorem at?_put_of_ne {q : List String} (h : q ≠ place) (e : TreeEntry) :
    (t.put place e).at? q = t.at? q := by
  simp only [at?, put, lookup_replaced_of_ne h]

theorem at?_put_self (h : t.at? place ≠ some .directory) (e : TreeEntry) :
    (t.put place e).at? place = some e := by
  have hroot : ¬ (place = [] ∨ place = ["/"]) := by
    intro hroot
    exact h (if_pos hroot)
  rw [at?, if_neg hroot]
  exact lookup_replaced place e t.entries

theorem follow_put (h : t.at? place ≠ some .directory) (e : TreeEntry) {parts : List String}
    {q r : List String} (hr : t.follow q parts = .ok r) :
    (t.put place e).follow q parts = .ok r := by
  induction parts generalizing q with
  | nil => exact hr
  | cons part parts ih =>
    cases hq : t.at? q with
    | none => simp [follow, hq] at hr
    | some entry =>
      cases entry with
      | file content => simp [follow, hq] at hr
      | directory =>
        have hne : q ≠ place := by
          rintro rfl
          exact h hq
        simp only [follow, hq] at hr
        simp only [follow, at?_put_of_ne hne, hq]
        exact ih hr

theorem find?_write (h : t.write p c = some t') : t'.find? p = some (.file c) := by
  rw [write] at h
  cases hp : t.resolve p with
  | error o => simp [hp] at h
  | ok place =>
    have hplace : t.at? place ≠ some .directory := by
      intro hdirectory
      simp [hp, hdirectory] at h
    have hput : t' = t.put place (.file c) := by
      simp only [hp] at h
      exact (Option.some.inj h).symm
    have hresolve : t'.resolve p = .ok place := by
      rw [hput]
      exact follow_put hplace _ hp
    rw [find?, hresolve, hput]
    exact at?_put_self hplace _

end FileTree

namespace FeatureTable

theorem mem_distinct {name : String} {names : List String} :
    name ∈ distinct names ↔ name ∈ names := by
  have hloop (l : List String) : ∀ a acc,
      name ∈ List.eraseRepsBy.loop (· == ·) a l acc ↔ name ∈ a :: l ∨ name ∈ acc := by
    induction l with
    | nil =>
      intro a acc
      simp [List.eraseRepsBy.loop, or_comm]
    | cons b l ih =>
      intro a acc
      cases hab : a == b with
      | true =>
        have heq : a = b := by simpa using hab
        simp [List.eraseRepsBy.loop, ih, heq]
      | false =>
        simp [List.eraseRepsBy.loop, hab, ih]
        tauto
  have hreps (l : List String) : name ∈ l.eraseReps ↔ name ∈ l := by
    cases l with
    | nil => rfl
    | cons a l => simpa [List.eraseReps, List.eraseRepsBy] using hloop l a []
  rw [distinct, hreps, List.mem_mergeSort]

namespace Draws

variable {t : FeatureTable} {vss : List (List Vertex)}

theorem mixesCollections (h : t.Draws vss) : t.mixesCollections = false := by
  have hkinds : ∀ kind ∈ t.rows.filterMap fun f => f.geometry.map Geometry.kind,
      kind = "LineString" := by
    intro kind hkind
    obtain ⟨f, hf, hkind⟩ := List.mem_filterMap.1 hkind
    have hmem : f.geometry ∈ vss.map fun vs => some (Geometry.line vs) :=
      h ▸ List.mem_map_of_mem hf
    obtain ⟨vs, -, hvs⟩ := List.mem_map.1 hmem
    rw [← hvs] at hkind
    exact (Option.some.inj hkind).symm
  have hdistinct : ∀ c ∈ Geometry.collections, c.1 ≠ c.2 := by decide
  rw [FeatureTable.mixesCollections, List.any_eq_false]
  intro c hc heq
  have hlists := eq_of_beq heq
  have hboth : ∀ kind ∈ [c.1, c.2], kind = "LineString" := by
    intro kind hkind
    rw [← mem_distinct, ← hlists, mem_distinct] at hkind
    exact hkinds kind hkind
  have hsingle := hboth c.1 (by simp)
  have hcollection := hboth c.2 (by simp)
  exact hdistinct c hc (hsingle.trans hcollection.symm)

theorem stored (h : t.Draws vss) :
    VectorFormat.stored VectorFormat.layered t = t := by
  have hplain : VectorFormat.layered ≠ VectorFormat.plain := by decide
  simp [VectorFormat.stored, hplain, h.mixesCollections]

end Draws

end FeatureTable

namespace FileTree

theorem loadTable_saveTable {t : FileTree} {table : FeatureTable} {p : FilePath} {layer : String}
    (h : (t.saveTable table p (some layer) (some VectorFormat.layered)).fault = none) :
    (t.saveTable table p (some layer) (some VectorFormat.layered)).tree.loadTable p (some layer) =
      (.ok (VectorFormat.stored VectorFormat.layered table), []) := by
  have hwritable : VectorFormat.writable.contains VectorFormat.layered = true := by decide
  have hname : VectorFormat.layerName p VectorFormat.layered (some layer) = layer := by
    have hplain : VectorFormat.layered ≠ VectorFormat.plain := by decide
    simp [VectorFormat.layerName, hplain]
  rw [saveTable] at h ⊢
  cases hmake : t.makeDirectory p.parent with
  | error f => simp [hmake] at h
  | ok made =>
    simp only [hmake, Option.orElse, Option.getD_some, hwritable, if_true, hname] at h ⊢
    cases hwrite : made.write p (.layers (VectorFormat.withLayer VectorFormat.layered layer
        (VectorFormat.stored VectorFormat.layered table) (made.layersAt p))) with
    | none => simp [hwrite] at h
    | some written =>
      simp only [loadTable, find?_write hwrite, VectorFormat.withLayer, if_true, lookup_replaced]

end FileTree

end StreetEnv
