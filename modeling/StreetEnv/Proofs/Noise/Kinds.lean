import StreetEnv.Proofs.Noise.Footprint
import StreetEnv.Proofs.Noise.LastCycle

/-!
# Levels and times among the measurements

Under some names the observations keep levels and under others times, and any other name is unknown.
A pass of times stops at the first edge that it reaches, which it has reset by then.

* `Observation.timeNames` are the names of the times, besides `Observation.levelNames`;
* `NoiseSource.kept` are the sources among observations, whatever the name is;
* `NoisePass.resetFirst` resets the first edge with a property;
* `NoisePass.apply_of_texts`: what a pass of times does;
* `Settings.applyNoise_of_known` and `Settings.applyNoise_of_unknown`: what a cycle does under a
  known and under an unknown name.
-/

namespace StreetEnv

/-! ### Names -/

namespace Observation

variable {name : String}

/-- The names of the measurements that are times. -/
def timeNames : List String := ["dateObservedFrom", "dateObservedTo"]

/-- The name is that of a level or of a time. -/
def IsKnown (name : String) : Prop := name ∈ levelNames ∨ name ∈ timeNames

instance (name : String) : Decidable (IsKnown name) := inferInstanceAs (Decidable (_ ∨ _))

theorem measurement_of_mem_timeNames (h : name ∈ timeNames) (o : Observation) :
    ∃ t : Option String, o.measurement name = .ok (t.map .text) := by
  simp only [timeNames, List.mem_cons, List.not_mem_nil, or_false] at h
  rcases h with rfl | rfl
  · exact ⟨_, rfl⟩
  · exact ⟨_, rfl⟩

theorem measurement_of_isKnown (h : IsKnown name) (o : Observation) :
    ∃ level, o.measurement name = .ok level := by
  rcases h with h | h
  · exact ⟨_, measurement_of_mem_levelNames h o⟩
  · obtain ⟨t, ht⟩ := measurement_of_mem_timeNames h o
    exact ⟨_, ht⟩

theorem measurement_of_not_isKnown (h : ¬ IsKnown name) (o : Observation) :
    o.measurement name = .error (.unknownMeasurement name) := by
  unfold measurement
  split
  case h_7 => rfl
  all_goals exact absurd (by decide) h

end Observation

open Observation

/-! ### Sources -/

namespace NoiseSource

variable {name : String}

/-- The source of an observation, as far as there is one. -/
def kept? (name : String) (o : Observation) : Option NoiseSource :=
  match ofObservation? name o with
  | .ok source => source
  | .error _ => none

/-- The sources among observations, in order; there are none under an unknown name. -/
def kept (name : String) (os : List (Option Observation)) : List NoiseSource :=
  os.filterMap fun o => o.bind (kept? name)

theorem ofObservations_of_isKnown (h : IsKnown name) (os : List (Option Observation)) :
    ofObservations name os = .ok (kept name os) := by
  have hfound (o : Observation) : ofObservation? name o = .ok (kept? name o) := by
    obtain ⟨level, hlevel⟩ := measurement_of_isKnown h o
    unfold kept? ofObservation?
    rw [hlevel]
    rfl
  unfold ofObservations
  rw [Traversal.mapM_eq_ok_map fun o _ => hfound o]
  show Except.ok _ = Except.ok _
  rw [List.filterMap_map, List.filterMap_filterMap, kept]
  congr 1

theorem ofObservations_of_not_isKnown (h : ¬ IsKnown name) (os : List (Option Observation)) :
    ofObservations name os = .ok [] ∨
      ofObservations name os = .error (.unknownMeasurement name) := by
  have hrefused (o : Observation) :
      ofObservation? name o = .error (.unknownMeasurement name) := by
    rw [ofObservation?, measurement_of_not_isKnown h]
    rfl
  unfold ofObservations
  generalize os.filterMap _ = found
  cases found with
  | nil => exact .inl rfl
  | cons o found =>
    right
    rw [List.mapM_cons, hrefused]
    rfl

theorem kept_of_mem_levelNames (h : name ∈ levelNames) (os : List (Option Observation)) :
    kept name os = (os.filterMap fun o => o.bind (heard? name)).map ofHeard :=
  Except.ok.inj ((ofObservations_of_isKnown (.inl h) os).symm.trans (ofObservations_of_mem h os))

theorem text_of_mem_kept (h : name ∈ timeNames) {os : List (Option Observation)} :
    ∀ source ∈ kept name os, ∃ t, source.level = .text t := by
  intro source hsource
  obtain ⟨found, -, hfound⟩ := List.mem_filterMap.1 hsource
  obtain ⟨o, -, hkept⟩ := Option.bind_eq_some_iff.1 hfound
  obtain ⟨t, ht⟩ := measurement_of_mem_timeNames h o
  unfold kept? ofObservation? at hkept
  rw [ht] at hkept
  cases hplace : o.coordinate? with
  | none => simp [hplace, bind, Except.bind, pure, Except.pure] at hkept
  | some place =>
    cases t with
    | none => simp [hplace, bind, Except.bind, pure, Except.pure] at hkept
    | some t =>
      simp only [hplace, bind, Except.bind, pure, Except.pure, Option.bind, Option.map,
        Option.some.injEq] at hkept
      exact ⟨t, by rw [← hkept]⟩

end NoiseSource

/-! ### Passes of times -/

namespace NoisePass

/-- The edges, of which the first one with a property is reset to a floor. -/
def resetFirst (q : Edge → Bool) (floor : Number) : List Edge → List Edge
  | [] => []
  | e :: es => if q e then e.withNoise floor :: es else e :: resetFirst q floor es

variable {q : Edge → Bool} {floor : Number}

theorem resetFirst_cases (q : Edge → Bool) (floor : Number) (es : List Edge) :
    (∀ e ∈ es, q e = false) ∧ resetFirst q floor es = es ∨
    ∃ before e after, es = before ++ e :: after ∧ (∀ e' ∈ before, q e' = false) ∧ q e = true ∧
      resetFirst q floor es = before ++ e.withNoise floor :: after := by
  induction es with
  | nil => exact .inl ⟨by simp, rfl⟩
  | cons e es ih =>
    by_cases he : q e = true
    · exact .inr ⟨[], e, es, rfl, by simp, he, if_pos he⟩
    · have hskip : resetFirst q floor (e :: es) = e :: resetFirst q floor es := if_neg he
      have hfalse : q e = false := by simpa using he
      rw [hskip]
      rcases ih with ⟨hnone, hsame⟩ | ⟨before, e', after, rfl, hbefore, he', hreset⟩
      · exact .inl ⟨List.forall_mem_cons.2 ⟨hfalse, hnone⟩, by rw [hsame]⟩
      · exact .inr ⟨e :: before, e', after, rfl, List.forall_mem_cons.2 ⟨hfalse, hbefore⟩, he',
          by rw [hreset, List.cons_append]⟩

/-- To reset the first selected edge and to put the selected edges back is to reset the first edge
with the property. -/
theorem merge_resetFirst {es rest : List Edge} {e : Edge} (h : es.filter q = e :: rest) :
    Graph.merge q es (e.withNoise floor :: rest) = resetFirst q floor es := by
  induction es with
  | nil => cases h
  | cons e' es ih =>
    by_cases he : q e' = true
    · rw [List.filter_cons_of_pos he] at h
      obtain ⟨rfl, rfl⟩ := List.cons.inj h
      simp [Graph.merge, resetFirst, he, Graph.merge_filter]
    · rw [List.filter_cons_of_neg he] at h
      simp [Graph.merge, resetFirst, he, ih h]

theorem raise_of_texts {sources : List NoiseSource} (hne : sources ≠ [])
    (htexts : ∀ source ∈ sources, ∃ t, source.level = .text t) (threshold : Number) (e : Edge) :
    raise threshold sources e = ⟨e, 0, some .levelNotComparable⟩ := by
  cases sources with
  | nil => exact absurd rfl hne
  | cons source sources =>
    obtain ⟨t, ht⟩ := htexts source List.mem_cons_self
    simp only [raise, ht]

variable {p : NoisePass}

/-- **A pass of times stops at the first edge that it reaches**, once it has reset it. -/
theorem apply_of_texts (htexts : ∀ source ∈ p.sources, ∃ t, source.level = .text t)
    (r : Rounding) (g : Graph) :
    (p.apply r g).graph.edges = resetFirst (p.reaches r) p.floor g.edges ∧
    (p.apply r g).result =
      if g.edges.any (p.reaches r) then .error .levelNotComparable else .ok 0 := by
  cases harea : p.area? with
  | none =>
    rw [p.apply_eq_of_no_area harea, reaches_of_no_area r harea]
    rcases resetFirst_cases (fun _ => false) p.floor g.edges with
      ⟨-, hsame⟩ | ⟨_, e, _, -, -, he, -⟩
    · simp [hsame]
    · cases he
  | some area =>
    have hne : p.sources ≠ [] := by
      intro hnil
      simp [area?, hnil, Envelope.ofCoordinates?] at harea
    unfold apply
    simp only [harea, Graph.replaceIn, Graph.edgesIn, ← reaches_of_area r harea]
    cases hfilter : g.edges.filter (p.reaches r) with
    | nil =>
      -- nothing is reached, and nothing is put back
      have hnone : g.edges.any (p.reaches r) = false := by
        rw [List.filter_eq_nil_iff] at hfilter
        simpa using hfilter
      have hsame := Graph.merge_filter (p.reaches r) g.edges
      rw [hfilter] at hsame
      rcases resetFirst_cases (p.reaches r) p.floor g.edges with
        ⟨-, hreset⟩ | ⟨before, e, after, hedges, -, he, -⟩
      · simp [run, hsame, hreset, hnone]
      · exact absurd he (List.filter_eq_nil_iff.1 hfilter e (by simp [hedges]))
    | cons e rest =>
      have hsome : g.edges.any (p.reaches r) = true := by
        have hmem := List.mem_filter.1 (hfilter ▸ List.mem_cons_self : e ∈ g.edges.filter _)
        exact List.any_eq_true.2 ⟨e, hmem⟩
      simp [run, raise_of_texts hne htexts, merge_resetFirst hfilter, hsome]

end NoisePass

/-! ### Cycles -/

namespace Settings

variable (s : Settings) (r : Rounding)

/-- The pass of the sources among observations. -/
def keptPass (os : List (Option Observation)) : NoisePass :=
  ⟨NoiseSource.kept s.input.measurement os, s.pass.threshold, s.pass.floor, s.pass.margin⟩

variable {s}

theorem noisePass_of_isKnown (h : IsKnown s.input.measurement) (os : List (Option Observation)) :
    ∃ notices, s.noisePass os = .ok (s.keptPass os, notices) := by
  unfold noisePass NoisePass.ofObservations
  rw [NoiseSource.ofObservations_of_isKnown h]
  exact ⟨_, rfl⟩

theorem applyNoise_of_isKnown (h : IsKnown s.input.measurement) (os : List (Option Observation))
    (g : Graph) :
    (s.applyNoise r os g).graph = ((s.keptPass os).apply r g).graph ∧
      (s.applyNoise r os g).result = ((s.keptPass os).apply r g).result := by
  obtain ⟨notices, hpass⟩ := noisePass_of_isKnown h os
  unfold applyNoise
  rw [hpass]
  exact ⟨rfl, rfl⟩

theorem applyNoise_of_not_isKnown (h : ¬ IsKnown s.input.measurement)
    (os : List (Option Observation)) (g : Graph) :
    (s.applyNoise r os g).graph = g ∧
      ((s.applyNoise r os g).result = .ok 0 ∨
        (s.applyNoise r os g).result = .error (.unknownMeasurement s.input.measurement)) := by
  unfold applyNoise noisePass NoisePass.ofObservations
  rcases NoiseSource.ofObservations_of_not_isKnown h os with hnone | hrefused
  · rw [hnone]
    exact ⟨rfl, .inl rfl⟩
  · rw [hrefused]
    exact ⟨rfl, .inr rfl⟩

end Settings

end StreetEnv
