import StreetEnv.Proofs.Geometry.Bounds
import StreetEnv.Proofs.Noise.Kinds

/-!
# Observations in another order

The levels of the edges depend on the order of the observations only through the first one that
counts.  If it has an ordinate `nan`, then so has the area, and no edge is reached; otherwise the
area does not see the order, and the loudest near source does not either.

* `NoisePass.reaches_of_perm`: a pass of the same sources in another order reaches the same edges;
* `Settings.startsAtNan`: the first observation that counts has an ordinate `nan`;
* `Settings.applyNoise_of_perm`: what a cycle of the same observations in another order leaves.
-/

namespace StreetEnv

open Observation

/-- The edge, with its noise up to the sign of a zero. -/
def Edge.unsigned (e : Edge) : Edge := { e with noise := e.noise.map Number.unsigned }

namespace NoisePass

variable {p p' : NoisePass} {r : Rounding}

/-! ### The reach of a pass -/

/-- The first source has an ordinate `nan`. -/
def startsAtNan (p : NoisePass) : Bool := p.sources.head?.any fun source => source.place.hasNan

theorem reaches_of_startsAtNan (h : p.startsAtNan = true) (e : Edge) :
    p.reaches r e = false := by
  unfold startsAtNan at h
  cases hsources : p.sources with
  | nil =>
    rw [hsources] at h
    cases h
  | cons source sources =>
    rw [hsources] at h
    have hnan : source.place.hasNan = true := h
    have harea : p.area? = some ((sources.map (·.place)).foldl Envelope.grow
        (.ofPoint source.place)) := by
      rw [area?, hsources]
      rfl
    rw [reaches_of_area r harea]
    exact Envelope.contains_of_nan_head _ hnan p.margin e.envelope

theorem apply_of_not_reaches (h : ∀ e, p.reaches r e = false) (g : Graph) :
    (p.apply r g).graph = g := by
  cases harea : p.area? with
  | none => rw [p.apply_eq_of_no_area harea]
  | some area =>
    have hnone : g.edgesIn (area.expandedBy r p.margin) = [] := by
      rw [Graph.edgesIn, List.filter_eq_nil_iff]
      intro e _
      have hreaches := h e
      rw [reaches_of_area r harea] at hreaches
      exact Bool.eq_false_iff.1 hreaches
    rw [p.apply_eq_inside harea]
    show g.replaceIn _ (p.run (g.edgesIn _)).edges = g
    have hback := g.replaceIn_edgesIn (area.expandedBy r p.margin)
    rw [hnone] at hback ⊢
    exact hback

/-- **A pass of the same sources in another order reaches the same edges**, if both orders begin
with `nan` or neither does. -/
theorem reaches_of_perm (hr : r.round 0 = .rational 0) (hperm : p.sources.Perm p'.sources)
    (hmargin : p.margin = p'.margin) (hnan : p.startsAtNan = p'.startsAtNan) :
    p.reaches r = p'.reaches r := by
  funext e
  by_cases hstart : p.startsAtNan = true
  · rw [reaches_of_startsAtNan hstart, reaches_of_startsAtNan (hnan ▸ hstart)]
  · have hstart' : ¬ p'.startsAtNan = true := hnan ▸ hstart
    unfold reaches area?
    unfold startsAtNan at hstart hstart'
    cases hsources : p.sources with
    | nil =>
      rw [hsources] at hperm
      rw [hmargin, hperm.nil_eq]
    | cons source sources =>
      cases hsources' : p'.sources with
      | nil =>
        rw [hsources, hsources'] at hperm
        exact absurd hperm.eq_nil (List.cons_ne_nil _ _)
      | cons source' sources' =>
        rw [hsources] at hperm hstart
        rw [hsources'] at hperm hstart'
        -- both envelopes begin at a point, and grow by the same points in two orders
        have hplace : source.place.hasNan = false := by simpa using hstart
        have hplace' : source'.place.hasNan = false := by simpa using hstart'
        have hplaces := hperm.map NoiseSource.place
        rw [List.map_cons, List.map_cons] at hplaces
        have hsame := (Envelope.isSame_of_perm hplaces hplace hplace').expandedBy hr p.margin
        rw [hmargin] at hsame
        rw [hmargin]
        exact hsame.contains_eq e.envelope

end NoisePass

namespace Settings

variable (s : Settings) (r : Rounding)

/-! ### The levels -/

/-- The first observation with a place and a measurement has an ordinate `nan`. -/
def startsAtNan (os : List (Option Observation)) : Bool := (s.keptPass os).startsAtNan

variable {s r} {os os' : List (Option Observation)}

theorem unsigned_apply_of_levels (hlevel : s.input.measurement ∈ levelNames)
    (hperm : os.Perm os') (hreaches : (s.keptPass os).reaches r = (s.keptPass os').reaches r)
    (g : Graph) :
    ((s.keptPass os).apply r g).graph.edges.map Edge.unsigned =
      ((s.keptPass os').apply r g).graph.edges.map Edge.unsigned := by
  have hheard : (s.heard os).Perm (s.heard os') := hperm.filterMap _
  have hsources (os : List (Option Observation)) :
      (s.keptPass os).sources = (s.heard os).map NoiseSource.ofHeard :=
    NoiseSource.kept_of_mem_levelNames hlevel os
  obtain ⟨hedges, -⟩ := NoisePass.apply_ofHeard r (hsources os) g
  obtain ⟨hedges', -⟩ := NoisePass.apply_ofHeard r (hsources os') g
  rw [hedges, hedges', List.map_map, List.map_map, hreaches]
  refine List.map_congr_left fun e _ => ?_
  have hnear : (e.nearLevels s.pass.threshold (s.heard os)).Perm
      (e.nearLevels s.pass.threshold (s.heard os')) :=
    (hheard.filter _).map _
  have hloudest := Number.foldl_greatest_perm s.pass.floor hnear
  simp only [Function.comp_apply]
  split
  · -- the near levels are the same, so the largest of them is
    simp only [Edge.unsigned, Edge.withNoise, Option.map_some]
    exact congrArg (fun x => { e with noise := some x }) hloudest
  · rfl

theorem apply_of_times (htime : s.input.measurement ∈ timeNames)
    (hreaches : (s.keptPass os).reaches r = (s.keptPass os').reaches r) (g : Graph) :
    ((s.keptPass os).apply r g).graph.edges = ((s.keptPass os').apply r g).graph.edges := by
  have htexts (os : List (Option Observation)) :
      ∀ source ∈ (s.keptPass os).sources, ∃ t, source.level = .text t :=
    NoiseSource.text_of_mem_kept htime
  obtain ⟨hedges, -⟩ := NoisePass.apply_of_texts (htexts os) r g
  obtain ⟨hedges', -⟩ := NoisePass.apply_of_texts (htexts os') r g
  rw [hedges, hedges', hreaches]
  rfl

/-- **Only the first observation that counts can make the order matter.**  If it has an ordinate
`nan`, a cycle leaves the graph as it is.  Two cycles of the same observations in different orders,
both of which begin with such an observation or neither of which does, leave the same edges, with
numerically the same levels. -/
theorem applyNoise_of_perm (s : Settings) (r : Rounding) (os os' : List (Option Observation))
    (g : Graph) (hr : r.round 0 = .rational 0) (hperm : os.Perm os') :
    (s.startsAtNan os = true → (s.applyNoise r os g).graph = g) ∧
    (s.startsAtNan os = s.startsAtNan os' →
      (s.applyNoise r os g).graph.edges.map Edge.unsigned =
        (s.applyNoise r os' g).graph.edges.map Edge.unsigned) := by
  by_cases hknown : IsKnown s.input.measurement
  · rw [(applyNoise_of_isKnown r hknown os g).1, (applyNoise_of_isKnown r hknown os' g).1]
    refine ⟨fun hnan => ?_, fun hnan => ?_⟩
    · exact NoisePass.apply_of_not_reaches (NoisePass.reaches_of_startsAtNan hnan) g
    · have hkept : (s.keptPass os).sources.Perm (s.keptPass os').sources := hperm.filterMap _
      have hreaches := NoisePass.reaches_of_perm hr hkept rfl hnan
      rcases hknown with hlevel | htime
      · exact unsigned_apply_of_levels hlevel hperm hreaches g
      · rw [apply_of_times htime hreaches g]
  · have hsame (os : List (Option Observation)) : (s.applyNoise r os g).graph = g :=
      (applyNoise_of_not_isKnown r hknown os g).1
    refine ⟨fun _ => hsame os, fun _ => ?_⟩
    rw [hsame, hsame]

end Settings

namespace Crossing

/-- A report of a level from a point whose longitude is not a number. -/
def lost (level : Number) : Option Observation :=
  some (report (some ⟨none, some ⟨none, some [some .nan, some 0]⟩⟩) (some level))

end Crossing

/-- A lost report between two others, and the others in both orders. -/
theorem Settings.applyNoise_of_perm_crossing :
    let cycle (os : List (Option Observation)) :=
      (Crossing.settings.applyNoise .binary64 os Crossing.streets).graph.edges
    let os := [Crossing.reportAt 1 0 (some 60), Crossing.lost 70, Crossing.reportAt 0 0 (some 50)]
    Crossing.settings.startsAtNan os = false ∧
    (cycle os).map (·.noise) = [some 60, none, some 33] ∧
    (cycle os.reverse).map Edge.unsigned = (cycle os).map Edge.unsigned := by
  intro cycle os
  have hnan : Crossing.settings.startsAtNan os.reverse = Crossing.settings.startsAtNan os := by
    decide +kernel
  obtain ⟨-, hsame⟩ := applyNoise_of_perm Crossing.settings .binary64 os.reverse os
    Crossing.streets rfl (List.reverse_perm os)
  exact ⟨by decide +kernel, by decide +kernel, hsame hnan⟩

/-- A lost report that comes first hides the other ones. -/
theorem Settings.exists_order_that_matters :
    ∃ (s : Settings) (os os' : List (Option Observation)) (g : Graph), os.Perm os' ∧
      (s.applyNoise .binary64 os g).graph.edges.map Edge.unsigned ≠
        (s.applyNoise .binary64 os' g).graph.edges.map Edge.unsigned := by
  have hperm : ([Crossing.lost 70] ++ [Crossing.reportAt 0 0 (some 50),
      Crossing.reportAt 1 0 (some 60)]).Perm _ :=
    List.perm_append_comm
  refine ⟨Crossing.settings, _, _, Crossing.streets, hperm, ?_⟩
  decide +kernel

end StreetEnv
