import StreetEnv.Enrichment
import StreetEnv.Proofs.Grid.Footprint
import StreetEnv.Proofs.Noise.Footprint
import StreetEnv.Proofs.Polling.Interleaving

/-!
# Enrichment carried out again

The part of the air quality does not see the noise, the part of the noise writes nothing else, and
each of them can be carried out again.  So an enrichment that succeeds can be carried out again with
the same files and the same reply, and changes nothing.

* `Settings.isRepeatable_airQualityPass` and `Settings.isRepeatable_noiseFinding`: both parts are
  repeatable;
* `Settings.noisePart` is the part of the noise as an operation on the graph;
* `Settings.enrich_again`: so is the enrichment.
-/

namespace StreetEnv

open Outcome

namespace Settings

variable (s : Settings) (r : Rounding) (earth : Earth)

/-! ### The part of the air quality -/

theorem keepsTo_airQualityPass (tree : FileTree) :
    KeepsTo Edge.muted Edge.unaired (s.airQualityPass r earth tree) := by
  unfold airQualityPass
  split
  · exact .const [.noFilesForPass] (.ok 0)
  · split
    · next f notices _ => exact .const notices (.error f)
    · next u notices _ => exact (u.keepsTo_apply r earth).noting notices

theorem isRepeatable_airQualityPass {tree : FileTree} {g : Graph} {n : Nat}
    (h : (s.airQualityPass r earth tree g).result = .ok n) :
    IsRepeatable (s.airQualityPass r earth tree) g := by
  unfold airQualityPass at h ⊢
  split
  · exact isRepeatable_const [.noFilesForPass] (.ok 0)
  · next hpaths =>
    rw [if_neg hpaths] at h
    split
    · next f notices _ => exact isRepeatable_const notices (.error f)
    · next u notices hload =>
      rw [hload] at h
      exact (AirQualityUpdate.isRepeatable_apply h).noting notices

/-! ### The part of the noise -/

theorem isRepeatable_noiseFinding {since : Option String} {b : Broker} {g : Graph}
    (h : ((s.noiseFinding r since b).carriedOut g).result = .ok ()) :
    IsRepeatable (s.noiseFinding r since b).carriedOut g := by
  unfold noiseFinding at h ⊢
  split
  · exact isRepeatable_const [.noBroker] (.ok ())
  · next url hurl =>
    simp only [hurl] at h
    unfold noiseFindingAfter at h ⊢
    split
    · exact isRepeatable_const _ (.ok ())
    · exact isRepeatable_const _ (.ok ())
    · next os notices hos =>
      simp only [hos] at h
      split
      · next f _ => exact isRepeatable_const notices (.error f)
      · next p more hp =>
        simp only [hp] at h
        -- the pass of the observations is what has to succeed
        obtain ⟨n, hn, -⟩ := result_map_eq_ok_iff.1 h
        exact ((NoisePass.isRepeatable_apply hn).map fun _ => ()).noting _

theorem noiseFinding_congr {src src' : Sources}
    (hreply : ∀ url, s.broker? = some url → s.reply url src' = s.reply url src) :
    s.noiseFinding r src'.since src'.broker = s.noiseFinding r src.since src.broker := by
  unfold noiseFinding
  split
  · rfl
  · next url hurl => exact congrArg (s.noiseFindingAfter r url) (hreply url hurl)

/-- The part of the noise: without a broker nothing is done, and else the edges with a noise level
are counted in the end. -/
def noisePart (src : Sources) (g : Graph) : Outcome (Option Nat) :=
  if s.broker? = none then .untouched g [] none
  else
    let o := (s.noiseFinding r src.since src.broker).carriedOut g
    o.map fun _ => some o.graph.noiseCount

theorem muted_noisePart (src : Sources) (g : Graph) :
    (s.noisePart r src g).graph.map Edge.muted = g.map Edge.muted := by
  unfold noisePart
  split
  · rfl
  · exact (s.isOf_noiseFinding r src.since src.broker).keepsTo.rest_eq g

theorem isRepeatable_noisePart {src : Sources} {g : Graph} {n : Option Nat}
    (h : (s.noisePart r src g).result = .ok n) : IsRepeatable (s.noisePart r src) g := by
  by_cases hbroker : s.broker? = none
  · have hnothing : s.noisePart r src = fun g => .untouched g [] none := by
      funext g
      rw [noisePart, if_pos hbroker]
    rw [hnothing]
    exact isRepeatable_const [] (.ok none)
  · have hpart (g : Graph) : s.noisePart r src g =
        ((s.noiseFinding r src.since src.broker).carriedOut g).map fun _ =>
          some ((s.noiseFinding r src.since src.broker).carriedOut g).graph.noiseCount := by
      rw [noisePart, if_neg hbroker]
    -- what the poll found is carried out again, and so the edges are counted on the same graph
    rw [hpart] at h
    obtain ⟨_, hok, -⟩ := result_map_eq_ok_iff.1 h
    have hagain : (s.noiseFinding r src.since src.broker).carriedOut
          ((s.noiseFinding r src.since src.broker).carriedOut g).graph =
        (s.noiseFinding r src.since src.broker).carriedOut g :=
      s.isRepeatable_noiseFinding r hok
    have hgraph : (s.noisePart r src g).graph =
        ((s.noiseFinding r src.since src.broker).carriedOut g).graph := by
      rw [hpart]
      rfl
    show s.noisePart r src (s.noisePart r src g).graph = s.noisePart r src g
    rw [hgraph, hpart, hagain, ← hpart]

theorem noisePart_congr {src src' : Sources}
    (hreply : ∀ url, s.broker? = some url → s.reply url src' = s.reply url src) :
    s.noisePart r src' = s.noisePart r src := by
  funext g
  rw [noisePart, noisePart, s.noiseFinding_congr r hreply]

/-! ### Both parts -/

theorem enrichNoise_eq (written : Nat) (src : Sources) (g : Graph) :
    (s.enrichNoise r written src g).2 = (s.noisePart r src g).map fun n => ⟨written, n⟩ := by
  unfold enrichNoise noisePart
  rw [← s.noiseCycle_eq]
  cases hbroker : s.broker? with
  | none => rfl
  | some url =>
    rw [if_neg (by simp)]
    cases hcycle : (s.noiseCycle r src.since src.broker g).2 with
    | mk g' notices result => cases result <;> simp [hcycle, Outcome.map, Except.map]

theorem enrich_of_ok {src : Sources} {g : Graph} {counts : EnrichmentCounts}
    (h : (s.enrich r earth src g).2.result = .ok counts) :
    ∃ written n, (s.airQualityPass r earth src.files g).result = .ok written ∧
      (s.noisePart r src (s.airQualityPass r earth src.files g).graph).result = .ok n := by
  unfold enrich at h
  cases hfirst : (s.airQualityPass r earth src.files g).result with
  | error f =>
    simp only [hfirst] at h
    cases h
  | ok written =>
    simp only [hfirst] at h
    change (s.enrichNoise r written src _).2.result = _ at h
    rw [enrichNoise_eq] at h
    obtain ⟨n, hsecond, -⟩ := result_map_eq_ok_iff.1 h
    exact ⟨written, n, rfl, hsecond⟩

theorem enrich_eq {src : Sources} {g : Graph} {written : Nat}
    (h : (s.airQualityPass r earth src.files g).result = .ok written) :
    (s.enrich r earth src g).2 =
      ((s.noisePart r src (s.airQualityPass r earth src.files g).graph).map
        fun n => ⟨written, n⟩).noting (s.airQualityPass r earth src.files g).notices := by
  unfold enrich
  simp only [h]
  rw [← enrichNoise_eq]

/-- **An enrichment that succeeds can be carried out again.**  With the same files and the same
reply of the broker, the enrichment of the graph that is left answers with the same counts, gives
the same notices and leaves every edge as it is, whatever the edges were before. -/
theorem enrich_again (s : Settings) (r : Rounding) (earth : Earth) (src src' : Sources) (g : Graph)
    (counts : EnrichmentCounts) (hfiles : src'.files = src.files)
    (hreply : ∀ url, s.broker? = some url → s.reply url src' = s.reply url src)
    (h : (s.enrich r earth src g).2.result = .ok counts) :
    (s.enrich r earth src' (s.enrich r earth src g).2.graph).2 = (s.enrich r earth src g).2 := by
  obtain ⟨written, n, hfirst, hsecond⟩ := s.enrich_of_ok r earth h
  have henriched := s.enrich_eq r earth hfirst
  have hleft : (s.enrich r earth src g).2.graph =
      (s.noisePart r src (s.airQualityPass r earth src.files g).graph).graph := by
    rw [henriched]
    rfl
  -- the first part leaves what both parts left, and so the second part does too
  have hair : s.airQualityPass r earth src'.files (s.enrich r earth src g).2.graph =
      { s.airQualityPass r earth src.files g with graph := (s.enrich r earth src g).2.graph } := by
    rw [hfiles, hleft]
    exact again_after (s.keepsTo_airQualityPass r earth src.files) (s.muted_noisePart r src)
      (s.isRepeatable_airQualityPass r earth hfirst)
  have hnoise : s.noisePart r src' (s.enrich r earth src g).2.graph =
      s.noisePart r src (s.airQualityPass r earth src.files g).graph := by
    rw [s.noisePart_congr r hreply, hleft]
    exact s.isRepeatable_noisePart r hsecond
  have hfirst' : (s.airQualityPass r earth src'.files (s.enrich r earth src g).2.graph).result =
      .ok written := by
    rw [hair]
    exact hfirst
  calc (s.enrich r earth src' (s.enrich r earth src g).2.graph).2
    _ = ((s.noisePart r src' (s.airQualityPass r earth src'.files
            (s.enrich r earth src g).2.graph).graph).map fun n => ⟨written, n⟩).noting
          (s.airQualityPass r earth src'.files (s.enrich r earth src g).2.graph).notices :=
      s.enrich_eq r earth hfirst'
    _ = ((s.noisePart r src (s.airQualityPass r earth src.files g).graph).map
          fun n => ⟨written, n⟩).noting (s.airQualityPass r earth src.files g).notices := by
      rw [hair, hnoise]
    _ = (s.enrich r earth src g).2 := henriched.symm

end Settings

namespace Strip

/-- The sources with the file and a reply, after some requests. -/
def full (requests : List Request) : Sources := { stored with broker := ⟨[fifty], requests⟩ }

/-- A request for all observations. -/
def request : Request := ⟨"http://sensors", Broker.parameters none, 30⟩

/-- Streets with other values from before, one of them beyond the strip. -/
def marked : Graph :=
  ⟨[{ street 0 1 with airQuality := some ⟨.int8, [9]⟩, airQualityTime := some 5, noise := some 90 },
    { street 1 4 with airQuality := some ⟨.int8, [7]⟩, noise := some 80 }]⟩

end Strip

/-- The first street gets what the file and the sensor say, the second one keeps what it had. -/
theorem Settings.enrich_again_strip :
    let once := Strip.settings.enrich .binary64 Strip.earth (Strip.full []) Strip.marked
    once.1 = Strip.full [Strip.request] ∧ once.2.result.toOption = some ⟨1, some 2⟩ ∧
    once.2.graph.edges.map (fun e => (e.airQuality, e.airQualityTime, e.noise)) =
      [(some ⟨.int16, [1, 3]⟩, some 21600000, some 50), (some ⟨.int8, [7]⟩, none, some 80)] ∧
    (Strip.settings.enrich .binary64 Strip.earth once.1 once.2.graph).2 = once.2 := by
  dsimp only
  have hleft : (Strip.settings.enrich .binary64 Strip.earth (Strip.full []) Strip.marked).1 =
      Strip.full [Strip.request] := by
    decide +kernel
  have h : (Strip.settings.enrich .binary64 Strip.earth (Strip.full []) Strip.marked).2.result =
      .ok ⟨1, some 2⟩ :=
    Traversal.eq_ok_of_toOption (by decide +kernel)
  refine ⟨hleft, by decide +kernel, by decide +kernel, ?_⟩
  rw [hleft]
  exact enrich_again Strip.settings .binary64 Strip.earth (Strip.full [])
    (Strip.full [Strip.request]) Strip.marked _ rfl (fun _ _ => rfl) h

end StreetEnv
