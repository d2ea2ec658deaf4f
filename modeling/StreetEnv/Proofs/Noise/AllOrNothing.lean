import StreetEnv.Proofs.Noise.Kinds
import StreetEnv.Proofs.Polling.Findings

/-!
# Cycles of noise that fail

A cycle of noise looks up its observations before it reaches the graph, and a level can be compared
with any other.  Only a time cannot: a cycle that is told to take a time for the level stops once it
has reset an edge.

* `Settings.endsEarly_or_hears`: a cycle ends early or hears observations;
* `Settings.LeavesNoise`: a cycle ends early or hears no observation that counts;
* `Settings.StopsAtTime`: a cycle stops at the first edge that it reaches;
* `Settings.noiseCycle_all_or_nothing`: a cycle that fails, or leaves the noise, changes nothing or
  stops at a time.
-/

namespace StreetEnv

open Observation

namespace Settings

variable {s : Settings} {r : Rounding} {src : Sources} {g : Graph}

/-! ### What a cycle hears -/

/-- The broker answers a cycle with observations. -/
def Hears (s : Settings) (src : Sources) (os : List Observation) : Prop :=
  ∃ url body, s.broker? = some url ∧ s.reply url src = .answer 200 body ∧
    Broker.decode? body = some os

/-- **A cycle ends early or hears observations.** -/
theorem endsEarly_or_hears (s : Settings) (src : Sources) :
    s.BrokerEndsEarly src ∨ ∃ os, s.Hears src os := by
  cases hurl : s.broker? with
  | none => exact .inl (.noBroker hurl)
  | some url =>
    cases hreply : s.reply url src with
    | failure text => exact .inl (.noAnswer hurl hreply)
    | answer status body =>
      by_cases hstatus : status = 200
      · subst hstatus
        cases hbody : Broker.decode? body with
        | none => exact .inl (.undecodable hurl hreply hbody)
        | some os => exact .inr ⟨os, url, body, hurl, hreply, hbody⟩
      · exact .inl (.refused hurl hreply hstatus)

theorem BrokerEndsEarly.graph_noiseCycle (h : s.BrokerEndsEarly src) (g : Graph) :
    (s.noiseCycle r src.since src.broker g).2.graph = g := by
  rw [noiseCycle_eq]
  exact Finding.graph_carriedOut (h.change_ne r) g

theorem Hears.noiseCycle {os : List Observation} (h : s.Hears src os) (r : Rounding) (g : Graph) :
    (s.noiseCycle r src.since src.broker g).2.graph = (s.applyNoise r (os.map some) g).graph ∧
      (s.noiseCycle r src.since src.broker g).2.result =
        (s.applyNoise r (os.map some) g).result.map fun _ => () := by
  obtain ⟨url, body, hurl, hreply, hbody⟩ := h
  have hunderstood : Broker.understand url (s.reply url src) = (.ok (some os), []) := by
    rw [hreply]
    simp [Broker.understand, hbody]
  have hcycle : (s.noiseCycle r src.since src.broker g).2 =
      s.noiseAfter r url (s.reply url src) g := by
    unfold Settings.noiseCycle
    rw [hurl]
    rfl
  rw [hcycle, noiseAfter, hunderstood]
  exact ⟨rfl, rfl⟩

/-! ### Cycles that leave the noise -/

/-- A cycle ends early, or none of the observations that it hears has a place and a measurement. -/
inductive LeavesNoise (s : Settings) (src : Sources) : Prop
  /-- It ends early. -/
  | early (h : s.BrokerEndsEarly src)
  /-- No observation counts. -/
  | noneCounts {os : List Observation} (hears : s.Hears src os)
      (h : ∀ o ∈ os, o.coordinate? = none ∨ o.measurement s.input.measurement = .ok none)

/-- A cycle takes a time for the level, and stops at the first edge that it reaches: that edge is
reset to the floor, and nothing else is changed. -/
structure StopsAtTime (s : Settings) (r : Rounding) (src : Sources) (g : Graph)
    (o : Outcome Unit) : Prop where
  /-- The measurement is a time. -/
  measurement_mem : s.input.measurement ∈ timeNames
  /-- It cannot be compared with a level. -/
  result_eq : o.result = .error .levelNotComparable
  /-- The first edge that is reached is reset. -/
  graph_eq : ∃ os before e after, s.Hears src os ∧ g.edges = before ++ e :: after ∧
    (∀ e' ∈ before, (s.keptPass (os.map some)).reaches r e' = false) ∧
    (s.keptPass (os.map some)).reaches r e = true ∧
    o.graph.edges = before ++ e.withNoise s.pass.floor :: after

theorem sources_of_noneCounts {os : List Observation}
    (h : ∀ o ∈ os, o.coordinate? = none ∨ o.measurement s.input.measurement = .ok none) :
    (s.keptPass (os.map some)).sources = [] := by
  show (os.map some).filterMap _ = []
  rw [List.filterMap_map, List.filterMap_eq_nil_iff]
  intro o ho
  show NoiseSource.kept? s.input.measurement o = none
  unfold NoiseSource.kept? NoiseSource.ofObservation?
  rcases h o ho with hplace | hlevel
  · rw [hplace]
    cases o.measurement s.input.measurement <;> rfl
  · rw [hlevel]
    cases o.coordinate? <;> rfl

theorem graph_of_levels (hlevel : s.input.measurement ∈ levelNames) {os : List Observation}
    (hears : s.Hears src os)
    (h : (∃ f, (s.noiseCycle r src.since src.broker g).2.result = .error f) ∨
      (s.keptPass (os.map some)).sources = []) :
    (s.noiseCycle r src.since src.broker g).2.graph = g := by
  obtain ⟨hgraph, hresult⟩ := hears.noiseCycle r g
  rcases h with ⟨f, hf⟩ | hnil
  · rw [hresult, (applyNoise_of_mem r hlevel _ g).2] at hf
    cases hf
  · have harea : (s.keptPass (os.map some)).area? = none := by
      rw [NoisePass.area?, hnil]
      rfl
    rw [hgraph, (applyNoise_of_isKnown r (.inl hlevel) _ g).1,
      NoisePass.apply_eq_of_no_area _ harea]

theorem graph_of_times (htime : s.input.measurement ∈ timeNames) {os : List Observation}
    (hears : s.Hears src os) :
    (s.noiseCycle r src.since src.broker g).2.graph = g ∨
      s.StopsAtTime r src g (s.noiseCycle r src.since src.broker g).2 := by
  obtain ⟨hgraph, hresult⟩ := hears.noiseCycle r g
  obtain ⟨hgraph', hresult'⟩ := applyNoise_of_isKnown r (.inr htime) (os.map some) g
  obtain ⟨hedges, hstopped⟩ := NoisePass.apply_of_texts
    (p := s.keptPass (os.map some)) (NoiseSource.text_of_mem_kept htime) r g
  rw [hgraph, hgraph']
  rcases NoisePass.resetFirst_cases ((s.keptPass (os.map some)).reaches r) s.pass.floor g.edges with
    ⟨-, hsame⟩ | ⟨before, e, after, hg, hbefore, he, hreset⟩
  · exact .inl (congrArg Graph.mk (hedges.trans hsame))
  · have hany : g.edges.any ((s.keptPass (os.map some)).reaches r) = true :=
      List.any_eq_true.2 ⟨e, by simp [hg], he⟩
    refine .inr ⟨htime, ?_, os, before, e, after, hears, hg, hbefore, he, ?_⟩
    · rw [hresult, hresult', hstopped, if_pos hany]
      rfl
    · rw [hgraph, hgraph', hedges]
      exact hreset

/-- **A cycle that fails, or leaves the noise, changes nothing, unless it stops at a time.**  For
every graph, reply and settings: if a cycle of noise ends with a fault, ends early or hears no
observation that counts, then the graph is as before.  The only exception is a setting that names a
time for the level.  Such a cycle stops at the first edge that it reaches, whose level is then the
floor. -/
theorem noiseCycle_all_or_nothing (s : Settings) (r : Rounding) (src : Sources) (g : Graph)
    (h : (∃ f, (s.noiseCycle r src.since src.broker g).2.result = .error f) ∨ s.LeavesNoise src) :
    (s.noiseCycle r src.since src.broker g).2.graph = g ∨
      s.StopsAtTime r src g (s.noiseCycle r src.since src.broker g).2 := by
  rcases s.endsEarly_or_hears src with hearly | ⟨os, hears⟩
  · exact .inl (hearly.graph_noiseCycle g)
  · by_cases hknown : IsKnown s.input.measurement
    · rcases hknown with hlevel | htime
      · rcases h with hfault | hearly | ⟨hears', hnone⟩
        · exact .inl (graph_of_levels hlevel hears (.inl hfault))
        · exact .inl (hearly.graph_noiseCycle g)
        · exact .inl (graph_of_levels hlevel hears' (.inr (sources_of_noneCounts hnone)))
      · exact graph_of_times htime hears
    · rw [(hears.noiseCycle r g).1]
      exact .inl (applyNoise_of_not_isKnown r hknown _ g).1

end Settings

namespace Crossing

/-- A broker, and the name of the measurement that is taken for the level. -/
def asking (measurement : String) : Settings :=
  { Settings.standard (.ofText ".") (some "http://sensors") with
    input := { measurement := measurement }
    pass := { margin := 1 } }

/-- A sensor at the crossing reports fifty decibels, and since when. -/
def reported : Observation :=
  { report (some ⟨none, some ⟨none, some [some 0, some 0]⟩⟩) (some 50) with
    observedFrom := some ⟨none, some "noon"⟩ }

/-- The broker replies with this report. -/
def replied : Sources :=
  { broker := ⟨[.answer 200
      ("[\x7b\"location\": \x7b\"value\": \x7b\"coordinates\": [0.0, 0.0]\x7d\x7d, " ++
        "\"dateObservedFrom\": \x7b\"value\": \"noon\"\x7d, " ++
        "\"LAmax\": \x7b\"value\": 50\x7d\x7d]")], []⟩ }

theorem hears (measurement : String) : (asking measurement).Hears replied [reported] :=
  ⟨"http://sensors", _, rfl, rfl, by decide +kernel⟩

/-- Two streets at the crossing that have noise levels. -/
def noisy : Graph :=
  ⟨[{ id := .integer 1, origin := point 0 0, destination := point 1 0, noise := some 55 },
    { id := .integer 2, origin := point 0 0, destination := point 9 0, noise := some 33 }]⟩

/-- A cycle of noise over these streets. -/
def cycle (measurement : String) : Outcome Unit :=
  ((asking measurement).noiseCycle .binary64 replied.since replied.broker noisy).2

theorem result_cycle_unknown :
    (cycle "LAmin").result = .error (.unknownMeasurement "LAmin") := by
  rw [cycle, ((hears "LAmin").noiseCycle .binary64 noisy).2]
  decide +kernel

theorem result_cycle_time : (cycle "dateObservedFrom").result = .error .levelNotComparable := by
  rw [cycle, ((hears "dateObservedFrom").noiseCycle .binary64 noisy).2]
  decide +kernel

theorem noise_cycle_time :
    (cycle "dateObservedFrom").graph.edges.map (·.noise) = [some 0, some 33] := by
  rw [cycle, ((hears "dateObservedFrom").noiseCycle .binary64 noisy).1]
  decide +kernel

end Crossing

/-- Under an unknown name a cycle fails and changes nothing, and under the name of a time it resets
the first street. -/
theorem Settings.noiseCycle_all_or_nothing_crossing :
    (Crossing.cycle "LAmin").result = .error (.unknownMeasurement "LAmin") ∧
    (Crossing.cycle "LAmin").graph = Crossing.noisy ∧
    (Crossing.cycle "dateObservedFrom").result = .error .levelNotComparable ∧
    (Crossing.cycle "dateObservedFrom").graph.edges.map (·.noise) = [some 0, some 33] ∧
    (Crossing.asking "dateObservedFrom").StopsAtTime .binary64 Crossing.replied Crossing.noisy
      (Crossing.cycle "dateObservedFrom") := by
  have hchanged : (Crossing.cycle "dateObservedFrom").graph ≠ Crossing.noisy := by
    intro h
    have hlevels := Crossing.noise_cycle_time
    rw [h] at hlevels
    exact absurd hlevels (by decide +kernel)
  refine ⟨Crossing.result_cycle_unknown, ?_, Crossing.result_cycle_time,
    Crossing.noise_cycle_time, ?_⟩
  · refine (noiseCycle_all_or_nothing (Crossing.asking "LAmin") .binary64 Crossing.replied
      Crossing.noisy (.inl ⟨_, Crossing.result_cycle_unknown⟩)).resolve_right fun h => ?_
    exact absurd h.measurement_mem (by decide +kernel)
  · exact (noiseCycle_all_or_nothing (Crossing.asking "dateObservedFrom") .binary64
      Crossing.replied Crossing.noisy (.inl ⟨_, Crossing.result_cycle_time⟩)).resolve_left hchanged

/-- A cycle that fails may have changed a level. -/
theorem Settings.exists_failed_cycle_with_change :
    ¬ ∀ (s : Settings) (src : Sources) (g : Graph) (f : Fault),
      (s.noiseCycle .binary64 src.since src.broker g).2.result = .error f →
      (s.noiseCycle .binary64 src.since src.broker g).2.graph.edges.map (·.noise) =
        g.edges.map (·.noise) := by
  intro h
  have hsame := h (Crossing.asking "dateObservedFrom") Crossing.replied Crossing.noisy _
    Crossing.result_cycle_time
  rw [show (Settings.noiseCycle _ _ _ _ _).2 = Crossing.cycle "dateObservedFrom" from rfl,
    Crossing.noise_cycle_time] at hsame
  exact absurd hsame (by decide +kernel)

end StreetEnv
