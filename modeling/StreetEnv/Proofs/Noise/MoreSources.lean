import StreetEnv.Proofs.Geometry.Bounds
import StreetEnv.Proofs.Noise.LastCycle

/-!
# More sources

A pass of more sources has a wider area and more near levels.  So it reaches every edge that a pass
of fewer sources reaches, and leaves it at least as loud, in whatever order the sources come.

* `IsLoudest.le_of_subset`: the largest of more levels is not smaller;
* `NoisePass.reaches_of_subset`: what fewer sources reach, more sources reach;
* `NoisePass.apply_le_of_subset`: the levels that both passes leave.
-/

namespace StreetEnv

theorem IsLoudest.le_of_subset {floor : Number} {levels levels' : List Number} {y y' : Number}
    (h : IsLoudest floor levels y) (h' : IsLoudest floor levels' y') (hsub : levels ⊆ levels') :
    y ≤ y' := by
  rcases h.among with rfl | hmem
  · exact h'.floor_le
  · refine h'.le y (hsub hmem) ?_
    exact (Number.ne_nan_of_le h.floor_le).2

theorem Edge.nearLevels_subset {heard heard' : List (Coordinate × Number)} (hsub : heard ⊆ heard')
    (e : Edge) (threshold : Number) :
    e.nearLevels threshold heard ⊆ e.nearLevels threshold heard' :=
  List.map_subset _ (List.filter_subset _ hsub)

namespace NoisePass

variable {r : Rounding} {heard heard' : List (Coordinate × Number)}
  {threshold floor margin : Number} {e : Edge}

/-- Wherever a source was heard, both ordinates are numbers. -/
def HeardAtNumbers (heard : List (Coordinate × Number)) : Prop :=
  ∀ q ∈ heard, q.1.x ≠ .nan ∧ q.1.y ≠ .nan

theorem area?_ofHeard (heard : List (Coordinate × Number)) (threshold floor margin : Number) :
    (ofHeard heard threshold floor margin).area? =
      Envelope.ofCoordinates? (heard.map Prod.fst) := by
  simp [area?, ofHeard, NoiseSource.ofHeard, Function.comp_def]

theorem isLeastAround_of_area? (hplaces : HeardAtNumbers heard) {area : Envelope}
    (h : (ofHeard heard threshold floor margin).area? = some area) :
    area.IsLeastAround (heard.map Prod.fst) :=
  Envelope.ofCoordinates?_isLeastAround (area?_ofHeard heard threshold floor margin ▸ h)
    (List.forall_mem_map.2 hplaces)

/-- **What fewer sources reach, more sources reach**, whatever the margin is. -/
theorem reaches_of_subset (hr : r.IsMonotone) (hsub : heard ⊆ heard')
    (hplaces : HeardAtNumbers heard')
    (h : (ofHeard heard threshold floor margin).reaches r e = true) :
    (ofHeard heard' threshold floor margin).reaches r e = true := by
  cases harea : (ofHeard heard threshold floor margin).area? with
  | none =>
    rw [reaches_of_no_area r harea] at h
    cases h
  | some area =>
    rw [reaches_of_area r harea] at h
    have hleast := isLeastAround_of_area? (fun q hq => hplaces q (hsub hq)) harea
    cases harea' : (ofHeard heard' threshold floor margin).area? with
    | none =>
      -- there is a source, so there are some among more
      obtain ⟨c, hc, -⟩ := hleast.west
      rw [area?_ofHeard, Envelope.ofCoordinates?_eq_none_iff] at harea'
      have hc' := List.map_subset Prod.fst hsub hc
      rw [harea'] at hc'
      cases hc'
    | some area' =>
      rw [reaches_of_area r harea']
      have hwider : area'.contains area = true :=
        (isLeastAround_of_area? hplaces harea').contains_of_subset hleast (List.map_subset _ hsub)
      -- the origin of an edge that is reached lies in the narrower area
      have horigin := (Edge.contains_envelope_iff.1 h).1
      exact Envelope.contains_trans (Envelope.contains_expandedBy hr hwider margin horigin) h

/-- **More sources never lower an edge.**  If every source of a pass is also one of another pass,
in any order, with the same threshold, margin and floor, which is a number, and all of them were
heard at places whose ordinates are numbers, then neither pass fails, and every edge that the one
reaches, the other reaches too and leaves at least as loud. -/
theorem apply_le_of_subset (hr : r.IsMonotone) (threshold margin : Number) (hfloor : floor ≠ .nan)
    (hsub : heard ⊆ heard') (hplaces : HeardAtNumbers heard') (g : Graph) :
    let fewer := ofHeard heard threshold floor margin
    let more := ofHeard heard' threshold floor margin
    (∃ n, (fewer.apply r g).result = .ok n) ∧ (∃ n, (more.apply r g).result = .ok n) ∧
    ∀ (i : Nat) e, g.edges[i]? = some e → fewer.reaches r e = true →
      more.reaches r e = true ∧
      ∃ x y : Number, (fewer.apply r g).graph.edges[i]? = some (e.withNoise x) ∧
        (more.apply r g).graph.edges[i]? = some (e.withNoise y) ∧ x ≤ y := by
  intro fewer more
  obtain ⟨hedges, hresult⟩ := apply_ofHeard r (p := fewer) rfl g
  obtain ⟨hedges', hresult'⟩ := apply_ofHeard r (p := more) rfl g
  refine ⟨⟨_, hresult⟩, ⟨_, hresult'⟩, fun i e hi hreach => ?_⟩
  have hreach' : more.reaches r e = true := reaches_of_subset hr hsub hplaces hreach
  have hlevels := e.nearLevels_subset hsub threshold
  refine ⟨hreach', _, _, ?_, ?_,
    (isLoudest_foldl hfloor _).le_of_subset (isLoudest_foldl hfloor _) hlevels⟩
  · rw [hedges, List.getElem?_map, hi, Option.map_some, if_pos hreach]
    rfl
  · rw [hedges', List.getElem?_map, hi, Option.map_some, if_pos hreach']
    rfl

end NoisePass

namespace Crossing

/-- One source, at the crossing. -/
def oneSource : List (Coordinate × Number) := [(point 0 0, 50)]

/-- The same source after a louder one beside it and one at some distance. -/
def threeSources : List (Coordinate × Number) := [(point 7 7, 30), (point 1 0, 60), (point 0 0, 50)]

end Crossing

/-- The louder source is heard at the crossing, and the distant one widens the area. -/
theorem NoisePass.apply_le_of_subset_crossing :
    let margin : Number := .rational (1 / 512)
    let fewer := ofHeard Crossing.oneSource (.rational (1 / 200)) 40 margin
    let more := ofHeard Crossing.threeSources (.rational (1 / 200)) 40 margin
    Rounding.binary64.IsMonotone ∧ Crossing.oneSource ⊆ Crossing.threeSources ∧
    HeardAtNumbers Crossing.threeSources ∧
    (fewer.apply .binary64 Crossing.streets).graph.edges.map (·.noise) =
      [some 50, none, some 33] ∧
    (more.apply .binary64 Crossing.streets).graph.edges.map (·.noise) =
      [some 60, some 40, some 33] ∧
    ∀ (i : Nat) e, Crossing.streets.edges[i]? = some e → fewer.reaches .binary64 e = true →
      more.reaches .binary64 e = true ∧
      ∃ x y : Number, (fewer.apply .binary64 Crossing.streets).graph.edges[i]? =
          some (e.withNoise x) ∧
        (more.apply .binary64 Crossing.streets).graph.edges[i]? = some (e.withNoise y) ∧
        x ≤ y := by
  intro margin fewer more
  have hsub : Crossing.oneSource ⊆ Crossing.threeSources := by decide
  have hplaces : HeardAtNumbers Crossing.threeSources := by
    unfold HeardAtNumbers
    decide
  have hfloor : (40 : Number) ≠ .nan := by decide
  obtain ⟨-, -, hraised⟩ := apply_le_of_subset Rounding.isMonotone_binary64 (.rational (1 / 200))
    margin hfloor hsub hplaces Crossing.streets
  exact ⟨Rounding.isMonotone_binary64, hsub, hplaces, by decide +kernel, by decide +kernel, hraised⟩

end StreetEnv
