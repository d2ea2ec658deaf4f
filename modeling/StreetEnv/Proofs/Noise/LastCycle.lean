import StreetEnv.Enrichment
import StreetEnv.Proofs.Fault.Traversal
import StreetEnv.Proofs.Geometry.Bounds
import StreetEnv.Proofs.Noise.Loudest
import StreetEnv.Proofs.Street.Edgewise

/-!
# The last cycle that reaches an edge

Every cycle of observations resets and raises the edges that it reaches and leaves the others as
they are.  So an edge is as loud as the last cycle that reached it says, and not louder because of
an earlier one.

* `Settings.heard` are the places and levels of the valid observations of a cycle;
* `Settings.applyNoise_of_mem`: what one cycle does;
* `Settings.noiseOverwrite` are the cycles as jobs that overwrite the noise of edges;
* `Settings.last_cycle_stays`: the edges and the answers after any sequence of cycles.
-/

namespace StreetEnv

/-! ### Valid observations -/

namespace Observation

/-- The names of the measurements that are levels; the other ones are times. -/
def levelNames : List String := ["LAeq", "LAmax", "LAS", "LAeq_d"]

/-- The level under the name of a measurement. -/
def level? (name : String) (o : Observation) : Option Number :=
  match o.measurement name with
  | .ok (some (.number x)) => some x
  | _ => none

/-- Place and level of an observation that has both. -/
def heard? (name : String) (o : Observation) : Option (Coordinate × Number) := do
  let place ← o.coordinate?
  let x ← o.level? name
  return (place, x)

theorem measurement_of_mem_levelNames {name : String} (h : name ∈ levelNames) (o : Observation) :
    o.measurement name = .ok ((o.level? name).map NoiseLevel.number) := by
  obtain ⟨m, hm⟩ : ∃ m : Option Number, o.measurement name = .ok (m.map .number) := by
    simp only [levelNames, List.mem_cons, List.not_mem_nil, or_false] at h
    rcases h with rfl | rfl | rfl | rfl <;> exact ⟨_, rfl⟩
  rw [level?, hm]
  cases m <;> rfl

end Observation

open Observation

theorem NoiseSource.ofObservation?_of_mem {name : String} (h : name ∈ levelNames)
    (o : Observation) : ofObservation? name o = .ok ((o.heard? name).map ofHeard) := by
  unfold ofObservation? heard?
  rw [measurement_of_mem_levelNames h]
  cases o.coordinate? with
  | none => rfl
  | some place => cases o.level? name <;> rfl

theorem NoiseSource.ofObservations_of_mem {name : String} (h : name ∈ levelNames)
    (os : List (Option Observation)) :
    ofObservations name os = .ok ((os.filterMap fun o => o.bind (heard? name)).map ofHeard) := by
  unfold ofObservations
  rw [Traversal.mapM_eq_ok_map fun o _ => ofObservation?_of_mem h o]
  -- both sides keep the places and levels of the observations that are there and have both
  show Except.ok _ = Except.ok _
  rw [List.filterMap_map, List.filterMap_filterMap, List.map_filterMap]
  congr 2
  funext o
  cases o <;> rfl

/-! ### Cycles -/

namespace Settings

variable (s : Settings) (r : Rounding)

/-- Places and levels of the valid observations, in order. -/
def heard (os : List (Option Observation)) : List (Coordinate × Number) :=
  os.filterMap fun o => o.bind (heard? s.input.measurement)

/-- The envelope of the valid observations, if there are any. -/
def heardArea? (os : List (Option Observation)) : Option Envelope :=
  Envelope.ofCoordinates? ((s.heard os).map Prod.fst)

/-- The envelope of the valid observations, expanded by the margin, contains that of the edge. -/
def reaches (os : List (Option Observation)) (e : Edge) : Bool :=
  (s.heardArea? os).any fun area => (area.expandedBy r s.pass.margin).contains e.envelope

/-- The levels of the valid observations nearer to an end of the edge than the threshold. -/
def nearLevels (os : List (Option Observation)) (e : Edge) : List Number :=
  e.nearLevels s.pass.threshold (s.heard os)

/-- Cycles of observations, as jobs that overwrite the noise of edges. -/
def noiseOverwrite : Overwrite Edge (List (Option Observation)) Number where
  offer os e :=
    if s.reaches r os e = true then
      some ((s.nearLevels os e).foldl Number.greatest s.pass.floor)
    else none
  put := Edge.withNoise
  offer_put _ _ _ := rfl
  put_put _ _ _ := rfl

/-- The records among the near levels of the edges that a cycle reaches. -/
def recordCount (os : List (Option Observation)) (edges : List Edge) : Nat :=
  ((edges.filter (s.reaches r os)).map fun e => records s.pass.floor (s.nearLevels os e)).sum

/-- The pass of the valid observations. -/
def heardPass (os : List (Option Observation)) : NoisePass :=
  .ofHeard (s.heard os) s.pass.threshold s.pass.floor s.pass.margin

theorem reaches_heardPass (os : List (Option Observation)) :
    (s.heardPass os).reaches r = s.reaches r os := by
  have harea : (s.heardPass os).area? = s.heardArea? os := by
    simp only [NoisePass.area?, heardPass, NoisePass.ofHeard, List.map_map]
    rfl
  funext e
  rw [NoisePass.reaches, harea]
  rfl

variable {s}

theorem noisePass_of_mem (h : s.input.measurement ∈ levelNames)
    (os : List (Option Observation)) :
    ∃ notices, s.noisePass os = .ok (s.heardPass os, notices) := by
  unfold noisePass NoisePass.ofObservations
  rw [NoiseSource.ofObservations_of_mem h]
  exact ⟨_, rfl⟩

theorem applyNoise_of_mem (h : s.input.measurement ∈ levelNames) (os : List (Option Observation))
    (g : Graph) :
    (s.applyNoise r os g).graph.edges = g.edges.map ((s.noiseOverwrite r).run [os]) ∧
    (s.applyNoise r os g).result = .ok (s.recordCount r os g.edges) := by
  obtain ⟨notices, hpass⟩ := noisePass_of_mem h os
  have hsources : (s.heardPass os).sources = (s.heard os).map NoiseSource.ofHeard := rfl
  obtain ⟨hedges, hresult⟩ := NoisePass.apply_ofHeard r hsources g
  rw [reaches_heardPass] at hedges hresult
  unfold applyNoise
  rw [hpass]
  refine ⟨hedges.trans (List.map_congr_left fun e _ => ?_), hresult⟩
  by_cases hreach : s.reaches r os e = true
  · rw [if_pos hreach]
    exact (Overwrite.step_of_offer (W := s.noiseOverwrite r) (if_pos hreach)).symm
  · rw [if_neg hreach]
    exact (Overwrite.step_of_no_offer (W := s.noiseOverwrite r) (if_neg hreach)).symm

theorem reaches_run (cycles : List (List (Option Observation))) (os : List (Option Observation))
    (e : Edge) : s.reaches r os ((s.noiseOverwrite r).run cycles e) = s.reaches r os e :=
  (s.noiseOverwrite r).apply_run (s.reaches r os) (fun _ _ => rfl) cycles e

theorem nearLevels_run (cycles : List (List (Option Observation)))
    (os : List (Option Observation)) (e : Edge) :
    s.nearLevels os ((s.noiseOverwrite r).run cycles e) = s.nearLevels os e :=
  (s.noiseOverwrite r).apply_run (s.nearLevels os) (fun _ _ => rfl) cycles e

theorem recordCount_map_run (cycles : List (List (Option Observation)))
    (os : List (Option Observation)) (edges : List Edge) :
    s.recordCount r os (edges.map ((s.noiseOverwrite r).run cycles)) =
      s.recordCount r os edges := by
  have hreaches : s.reaches r os ∘ (s.noiseOverwrite r).run cycles = s.reaches r os :=
    funext fun e => reaches_run r cycles os e
  unfold recordCount
  rw [List.filter_map, hreaches, List.map_map]
  congr 1
  refine List.map_congr_left fun e _ => ?_
  rw [Function.comp_apply, nearLevels_run]

/-- What cycles, one after the other, make of an edge. -/
structure LastCycleStays (s : Settings) (r : Rounding) (cycles : List (List (Option Observation)))
    (e e' : Edge) : Prop where
  /-- All but the noise is the same. -/
  frame : e' = { e with noise := e'.noise }
  /-- The last cycle that reaches the edge leaves the largest of the floor and of its near
  levels. -/
  last : ∀ before os after, cycles = before ++ os :: after → s.reaches r os e = true →
    (∀ os' ∈ after, s.reaches r os' e = false) →
    ∃ y, e'.noise = some y ∧ IsLoudest s.pass.floor (s.nearLevels os e) y
  /-- An edge that no cycle reaches keeps its noise. -/
  untouched : (∀ os ∈ cycles, s.reaches r os e = false) → e'.noise = e.noise

theorem lastCycleStays_run (hfloor : s.pass.floor ≠ .nan)
    (cycles : List (List (Option Observation))) (e : Edge) :
    LastCycleStays s r cycles e ((s.noiseOverwrite r).run cycles e) where
  frame := by
    rcases (s.noiseOverwrite r).run_eq_or_put cycles e with h | ⟨y, h⟩
    · rw [h]
    · rw [h]
      rfl
  last := by
    rintro before os after rfl hreach hafter
    rw [Overwrite.run_of_last_offer (if_pos hreach)
      fun os' hos' => if_neg (by simp [hafter os' hos'])]
    exact ⟨_, rfl, isLoudest_foldl hfloor _⟩
  untouched := by
    intro h
    rw [Overwrite.run_of_no_offer fun os hos => if_neg (by simp [h os hos])]

/-- **The last cycle that reaches an edge stays.**  With the name of a level and a floor that is a
number, any sequence of cycles runs without a fault and leaves the same edges in the same order.
Each is as loud as the loudest among the floor and the near levels of the last cycle that reaches
it, and as it was if no cycle does.  Each cycle answers with the number of records among the near
levels, summed over the edges that it reaches.  It reaches what lies in its expanded area, which is
the least envelope of its valid observations. -/
theorem last_cycle_stays (s : Settings) (r : Rounding)
    (cycles : List (List (Option Observation))) (g : Graph)
    (hlevel : s.input.measurement ∈ levelNames) (hfloor : s.pass.floor ≠ .nan) :
    (Outcome.inTurn (cycles.map fun os g => s.applyNoise r os g) g).result =
      .ok (cycles.map fun os => ((g.edges.filter (s.reaches r os)).map fun e =>
        records s.pass.floor (s.nearLevels os e)).sum) ∧
    (∃ f : Edge → Edge,
      (Outcome.inTurn (cycles.map fun os g => s.applyNoise r os g) g).graph.edges =
        g.edges.map f ∧ ∀ e ∈ g.edges, LastCycleStays s r cycles e (f e)) ∧
    ∀ os ∈ cycles, (s.heardArea? os = none ↔ s.heard os = []) ∧
      ∀ area, s.heardArea? os = some area → (∀ q ∈ s.heard os, q.1.x ≠ .nan ∧ q.1.y ≠ .nan) →
        area.IsLeastAround ((s.heard os).map Prod.fst) := by
  have hok : ∀ op ∈ cycles.map fun os g => s.applyNoise r os g,
      ∀ g, ∃ n, (op g).result = .ok n := by
    intro op hop g
    obtain ⟨os, -, rfl⟩ := List.mem_map.1 hop
    exact ⟨_, (applyNoise_of_mem r hlevel os g).2⟩
  have hcycle : ∀ os ∈ cycles, ∀ g n, (s.applyNoise r os g).result = .ok n →
      (s.applyNoise r os g).graph.edges = g.edges.map ((s.noiseOverwrite r).run [os]) ∧
        n = s.recordCount r os g.edges ∧ True := by
    intro os _ g n hn
    obtain ⟨hedges, hresult⟩ := applyNoise_of_mem r hlevel os g
    exact ⟨hedges, Except.ok.inj (hn.symm.trans hresult), trivial⟩
  obtain ⟨counts, hcounts⟩ := Outcome.inTurn_isOk hok g
  obtain ⟨hedges, hanswers, -⟩ := Outcome.inTurn_of_edgewise
    (fun os => (s.noiseOverwrite r).run [os]) (s.recordCount r) (fun _ _ => True) hcycle
    (fun os os' => recordCount_map_run r [os] os') (fun _ _ _ h => h) hcounts
  refine ⟨?_, ⟨(s.noiseOverwrite r).run cycles, hedges, fun e _ =>
    lastCycleStays_run r hfloor cycles e⟩, fun os _ => ⟨?_, fun area harea hnan => ?_⟩⟩
  · rw [hcounts, hanswers]
    rfl
  · rw [heardArea?, Envelope.ofCoordinates?_eq_none_iff, List.map_eq_nil_iff]
  · exact Envelope.ofCoordinates?_isLeastAround harea (List.forall_mem_map.2 hnan)

end Settings

/-! ### Sensors around a crossing -/

namespace Crossing

/-- The point some parts of a 512th of a degree east and north of the crossing. -/
def point (east north : Int) : Coordinate :=
  ⟨.rational (mkRat east 512), .rational (mkRat north 512)⟩

/-- What a sensor reports as the greatest level. -/
def report (location : Option Location) (level : Option Number) : Observation where
  id := none
  type := none
  location := location
  observedFrom := none
  observedTo := none
  equivalent := none
  greatest := some ⟨none, level⟩
  slow := none
  equivalentDay := none

/-- A report from a point. -/
def reportAt (east north : Int) (level : Option Number) : Option Observation :=
  some (report (some ⟨none, some ⟨none, some [(point east north).x, (point east north).y]⟩⟩) level)

/-- Reports of which some are incomplete, then reports about the crossing alone, then none. -/
def cycles : List (List (Option Observation)) :=
  [[none, reportAt (-8) (-8) (some 90), reportAt 0 0 (some 50), reportAt 0 1 (some .nan),
      reportAt 0 1 none, reportAt 1 0 (some 60), some (report none (some 80)),
      reportAt 1 1 (some 55), reportAt 8 8 (some 30)],
    [reportAt 0 0 (some 45), reportAt 1 0 (some 43)],
    [none]]

/-- A street at the crossing, one at some distance and one outside, which has a noise level. -/
def streets : Graph :=
  ⟨[{ id := .integer 1, origin := point 0 0, destination := point 1 0 },
    { id := .integer 2, origin := point 4 4, destination := point 5 4 },
    { id := .integer 3, origin := point 0 0, destination := point 9 0, noise := some 33 }]⟩

/-- Edges are given at least forty decibels. -/
def settings : Settings :=
  { Settings.standard (.ofText ".") none with pass := { floor := 40 } }

end Crossing

open Settings in
/-- The second cycle reaches the crossing alone, where it lowers the noise again. -/
theorem Settings.last_cycle_stays_crossing :
    let run := Outcome.inTurn
      (Crossing.cycles.map fun os g => Crossing.settings.applyNoise .binary64 os g) Crossing.streets
    Crossing.settings.input.measurement ∈ levelNames ∧ Crossing.settings.pass.floor ≠ .nan ∧
    run.result.toOption = some [2, 1, 0] ∧
    run.graph.edges.map (·.noise) = [some 45, some 40, some 33] ∧
    ∃ f : Edge → Edge, run.graph.edges = Crossing.streets.edges.map f ∧
      ∀ e ∈ Crossing.streets.edges,
        LastCycleStays Crossing.settings .binary64 Crossing.cycles e (f e) := by
  dsimp only
  have hlevel : Crossing.settings.input.measurement ∈ levelNames := by decide
  have hfloor : Crossing.settings.pass.floor ≠ .nan := by decide
  obtain ⟨-, hstays, -⟩ :=
    last_cycle_stays Crossing.settings .binary64 Crossing.cycles Crossing.streets hlevel hfloor
  exact ⟨hlevel, hfloor, by decide +kernel, by decide +kernel, hstays⟩

end StreetEnv
