import Mathlib.Algebra.Ring.Nat
import StreetEnv.Grid.Update
import StreetEnv.Proofs.Grid.Batches
import StreetEnv.Proofs.Street.Edgewise

/-!
# The last covering file

An update applies files in turn, and each overwrites the air quality of the edges that it covers and
can sample.  Over any sequence of updates the last such file is the one that stays.

* `AirQualityPass.Writes` says which edges a pass writes, and with which series;
* `AirQualityPass.overwrite` are the passes of grids as jobs that overwrite edges;
* `AirQualityUpdate.applyGrid_of_ok`, `applyAll_of_ok` and `apply_of_ok`: what succeeds maps the
  edges and counts the writes;
* `AirQualityUpdate.last_covering_file_stays`: the edges after any sequence of updates.
-/

namespace StreetEnv

namespace AirQualityPass

variable (p : AirQualityPass) (r : Rounding) (earth : Earth)

/-- The bounding box of the grid contains the envelope of the edge. -/
def Covers (e : Edge) : Prop := p.grid.boundingBox.contains e.envelope = true

instance (e : Edge) : Decidable (p.Covers e) := inferInstanceAs (Decidable (_ = true))

/-- The pass covers the edge and has a series for it. -/
def Writes (e : Edge) (s : Series) : Prop := p.Covers e ∧ p.average r earth e = .ok (some s)

/-- The pass covers the edge and has some series for it. -/
def writesOn (e : Edge) : Bool :=
  p.grid.boundingBox.contains e.envelope && (p.series? r earth e).isSome

/-- What the pass writes on the edges that it covers. -/
def offerInside? (e : Edge) : Option (Series × Int) :=
  if p.Covers e then p.offer? r earth e else none

/-- The passes of grids, as jobs that overwrite the air quality of edges. -/
def overwrite : Overwrite Edge AirQualityPass (Series × Int) where
  offer p := p.offerInside? r earth
  put := Edge.withOffer
  offer_put _ _ _ := rfl
  put_put _ _ _ := rfl

/-- Every edge that the pass writes gets a time as well. -/
def Dated (edges : List Edge) : Prop :=
  ∀ e ∈ edges, ∀ s, p.Writes r earth e s → ∃ time, p.grid.originMillis earth.timeline = .ok time

variable {p r earth}

theorem offerInside?_eq_some_iff {e : Edge} {s : Series} {time : Int} :
    p.offerInside? r earth e = some (s, time) ↔
      p.Writes r earth e s ∧ p.grid.originMillis earth.timeline = .ok time := by
  unfold offerInside? Writes offer? offerOf
  by_cases hc : p.Covers e
  · cases ha : p.average r earth e with
    | error f => simp [hc]
    | ok out =>
      cases out with
      | none => simp [hc]
      | some s' => cases ht : p.grid.originMillis earth.timeline <;> simp [hc]
  · simp [hc]

theorem offerInside?_eq_none {e : Edge} (h : ∀ s, ¬ p.Writes r earth e s) :
    p.offerInside? r earth e = none := by
  cases ho : p.offerInside? r earth e with
  | none => rfl
  | some v => exact absurd (offerInside?_eq_some_iff.1 ho).1 (h v.1)

theorem run_overwrite_singleton (e : Edge) :
    (overwrite r earth).run [p] e =
      if p.grid.boundingBox.contains e.envelope = true then (p.offer? r earth e).elim e e.withOffer
      else e := by
  show (p.offerInside? r earth e).elim e e.withOffer = _
  by_cases hc : p.grid.boundingBox.contains e.envelope = true
  · simp [offerInside?, Covers, hc]
  · simp [offerInside?, Covers, hc]

theorem writes_run (ps : List AirQualityPass) (e : Edge) (s : Series) :
    p.Writes r earth ((overwrite r earth).run ps e) s ↔ p.Writes r earth e s :=
  Iff.of_eq ((overwrite r earth).apply_run (p.Writes r earth · s) (fun _ _ => rfl) ps e)

theorem writesOn_run (ps : List AirQualityPass) (e : Edge) :
    p.writesOn r earth ((overwrite r earth).run ps e) = p.writesOn r earth e :=
  (overwrite r earth).apply_run (p.writesOn r earth) (fun _ _ => rfl) ps e

theorem dated_of_map_run {ps : List AirQualityPass} {edges : List Edge}
    (h : p.Dated r earth (edges.map ((overwrite r earth).run ps))) : p.Dated r earth edges :=
  fun e he s hs => h _ (List.mem_map.2 ⟨e, he, rfl⟩) s ((writes_run ps e s).2 hs)

theorem run_of_fault_eq_none {edges : List Edge} (h : (p.run r earth edges).fault = none) :
    (p.run r earth edges).edges = edges.map (fun e => (p.offer? r earth e).elim e e.withOffer) ∧
    (p.run r earth edges).written = edges.countP (fun e => (p.series? r earth e).isSome) ∧
    ∀ e ∈ edges, ∀ s, p.average r earth e = .ok (some s) →
      ∃ time, p.grid.originMillis earth.timeline = .ok time := by
  -- without a fault every edge has its average, so the number of workers does not matter
  have hrun := run_eq_write (average_eq_ok_of_fault_eq_none h)
  rw [hrun] at h ⊢
  obtain ⟨hok, hedges, hwritten⟩ := write_of_fault_eq_none h
  have hfound : ∀ e ∈ edges, p.average r earth e = .ok none ∨
      ∃ s time, p.average r earth e = .ok (some s) ∧
        p.grid.originMillis earth.timeline = .ok time :=
    fun e he => hok _ (List.mem_map.2 ⟨e, he, rfl⟩)
  refine ⟨?_, ?_, fun e he s hs => ?_⟩
  · rw [hedges, List.map_map]
    rfl
  · rw [hwritten, List.countP_map, Nat.zero_add]
    refine List.countP_congr fun e he => ?_
    rcases hfound e he with ha | ⟨s, time, ha, ht⟩
    · simp [offerOf, series?, ha]
    · simp [offerOf, series?, ha, ht]
  · rcases hfound e he with ha | ⟨_, time, -, ht⟩
    · rw [ha] at hs
      cases hs
    · exact ⟨time, ht⟩

end AirQualityPass

namespace AirQualityUpdate

open AirQualityPass

variable (u : AirQualityUpdate) {r : Rounding} {earth : Earth}

/-- The passes that an update makes with files, in order; a file without a grid makes none. -/
def passesOf (files : List AirQualityFile) : List AirQualityPass :=
  files.filterMap fun f => f.grid?.map u.pass

/-- The passes that an update makes, in order. -/
def passes : List AirQualityPass := u.passesOf u.files

/-- The number of pairs of a pass and an edge that it writes. -/
def writeCount (r : Rounding) (earth : Earth) (ps : List AirQualityPass)
    (edges : List Edge) : Nat :=
  (ps.map fun p => edges.countP (p.writesOn r earth)).sum

variable {u}

theorem applyGrid_of_ok {grid : AirQualityGrid} {g : Graph} {n : Nat}
    (h : (u.applyGrid r earth grid grid.boundingBox g).result = .ok n) :
    (u.applyGrid r earth grid grid.boundingBox g).graph.edges =
      g.edges.map ((overwrite r earth).run [u.pass grid]) ∧
    n = g.edges.countP ((u.pass grid).writesOn r earth) ∧
    (u.pass grid).Dated r earth g.edges := by
  unfold applyGrid at h ⊢
  cases hfault : ((u.pass grid).run r earth (g.edgesIn grid.boundingBox)).fault with
  | some f => simp [hfault] at h
  | none =>
    obtain ⟨hedges, hwritten, hdated⟩ := run_of_fault_eq_none hfault
    simp only [hfault] at h
    refine ⟨?_, ?_, fun e he s hs => ?_⟩
    · simp only [hedges, Graph.edges_replaceIn_map]
      refine List.map_congr_left fun e _ => ?_
      rw [run_overwrite_singleton]
      rfl
    · rw [← Except.ok.inj h, hwritten, Graph.edgesIn, List.countP_filter]
      refine List.countP_congr fun e _ => ?_
      simp only [writesOn, Bool.and_eq_true]
      exact And.comm
    · exact hdated e (List.mem_filter.2 ⟨he, hs.1⟩) s hs.2

/-- A file that is applied without a fault holds a grid, and that grid is applied inside its own
bounding box. -/
theorem applyFile_of_ok {file : AirQualityFile} {g : Graph} {n : Nat}
    (h : (u.applyFile r earth file g).result = .ok n) :
    ∃ grid, file.grid? = some grid ∧
      u.applyFile r earth file g = u.applyGrid r earth grid grid.boundingBox g := by
  obtain ⟨path, content⟩ := file
  cases content with
  | grid grid => exact ⟨grid, rfl, rfl⟩
  | rejected why parts =>
    -- it either has no bounding box or is refused for its reason
    exfalso
    unfold applyFile at h
    cases hbox : AirQualityFile.boundingBox ⟨path, .rejected why parts⟩ with
    | error f => simp [hbox] at h
    | ok box => simp [hbox, AirQualityFile.grid?] at h

theorem passesOf_cons {file : AirQualityFile} {grid : AirQualityGrid}
    (h : file.grid? = some grid) (files : List AirQualityFile) :
    u.passesOf (file :: files) = u.pass grid :: u.passesOf files := by
  simp [passesOf, h]

theorem writeCount_map_run (ps qs : List AirQualityPass) (edges : List Edge) :
    writeCount r earth ps (edges.map ((overwrite r earth).run qs)) =
      writeCount r earth ps edges := by
  unfold writeCount
  congr 1
  refine List.map_congr_left fun p _ => ?_
  rw [List.countP_map]
  exact List.countP_congr fun e _ => by simp [writesOn_run]

theorem applyAll_of_ok {written n : Nat} {files : List AirQualityFile} {g : Graph}
    (h : (u.applyAll r earth written files g).result = .ok n) :
    (u.applyAll r earth written files g).graph.edges =
      g.edges.map ((overwrite r earth).run (u.passesOf files)) ∧
    n = written + writeCount r earth (u.passesOf files) g.edges ∧
    ∀ p ∈ u.passesOf files, p.Dated r earth g.edges := by
  induction files generalizing written g with
  | nil =>
    refine ⟨?_, (Except.ok.inj h).symm, by simp [passesOf]⟩
    exact (List.map_id _).symm
  | cons file files ih =>
    simp only [applyAll] at h ⊢
    cases hfirst : (u.applyFile r earth file g).result with
    | error f => simp [hfirst] at h
    | ok k =>
      simp only [hfirst] at h ⊢
      obtain ⟨grid, hgrid, hfile⟩ := applyFile_of_ok hfirst
      rw [hfile] at hfirst h ⊢
      obtain ⟨hedges, rfl, hdated⟩ := applyGrid_of_ok hfirst
      -- the other files meet edges that the first one wrote, and find on them what was there before
      obtain ⟨ihEdges, rfl, ihDated⟩ := ih h
      rw [hedges] at ihEdges ihDated ⊢
      rw [passesOf_cons hgrid]
      refine ⟨?_, ?_, ?_⟩
      · rw [ihEdges, List.map_map]
        rfl
      · rw [writeCount_map_run]
        simp only [writeCount, List.map_cons, List.sum_cons]
        omega
      · exact List.forall_mem_cons.2 ⟨hdated, fun p hp => dated_of_map_run (ihDated p hp)⟩

theorem apply_of_ok {g : Graph} {n : Nat} (h : (u.apply r earth g).result = .ok n) :
    (u.apply r earth g).graph.edges = g.edges.map ((overwrite r earth).run u.passes) ∧
    n = writeCount r earth u.passes g.edges ∧
    ∀ p ∈ u.passes, p.Dated r earth g.edges := by
  unfold apply at h ⊢
  cases hcheck : u.check with
  | error f => simp [hcheck] at h
  | ok _ =>
    simp only [hcheck] at h ⊢
    obtain ⟨hedges, hn, hdated⟩ := applyAll_of_ok h
    exact ⟨hedges, by rw [hn, Nat.zero_add]; rfl, hdated⟩

/-- What passes, one after the other, make of an edge. -/
structure LastStays (r : Rounding) (earth : Earth) (ps : List AirQualityPass) (e e' : Edge) :
    Prop where
  /-- Name, ends, line and noise are the same. -/
  frame : e'.id = e.id ∧ e'.origin = e.origin ∧ e'.destination = e.destination ∧
    e'.line = e.line ∧ e'.noise = e.noise
  /-- The last pass that writes the edge leaves its series and its time. -/
  last : ∀ before p after s, ps = before ++ p :: after → p.Writes r earth e s →
    (∀ q ∈ after, ∀ s', ¬ q.Writes r earth e s') →
    e'.airQuality = some s ∧
      ∃ time, p.grid.originMillis earth.timeline = .ok time ∧ e'.airQualityTime = some time
  /-- An edge that no pass writes keeps both. -/
  untouched : (∀ q ∈ ps, ∀ s, ¬ q.Writes r earth e s) →
    e'.airQuality = e.airQuality ∧ e'.airQualityTime = e.airQualityTime

theorem lastStays_run {ps : List AirQualityPass} {e : Edge}
    (hdated : ∀ p ∈ ps, p.Dated r earth [e]) :
    LastStays r earth ps e ((overwrite r earth).run ps e) where
  frame := by
    rcases (overwrite r earth).run_eq_or_put ps e with h | ⟨v, h⟩
    · rw [h]
      exact ⟨rfl, rfl, rfl, rfl, rfl⟩
    · rw [h]
      exact ⟨rfl, rfl, rfl, rfl, rfl⟩
  last := by
    rintro before p after s rfl hp hafter
    obtain ⟨time, htime⟩ := hdated p (by simp) e (by simp) s hp
    have hoffer : (overwrite r earth).offer p e = some (s, time) :=
      offerInside?_eq_some_iff.2 ⟨hp, htime⟩
    rw [Overwrite.run_of_last_offer hoffer fun q hq => offerInside?_eq_none (hafter q hq)]
    exact ⟨rfl, time, htime, rfl⟩
  untouched := by
    intro h
    rw [Overwrite.run_of_no_offer fun q hq => offerInside?_eq_none (h q hq)]
    exact ⟨rfl, rfl⟩

/-- **The last covering file stays, and nothing else changes.**  After any sequence of updates that
runs without a fault, the graph has the same edges in the same order.  Each has the series and the
time of the last pass, among those of all files in the order of their application, that covers it
and has samples on it; without such a pass it keeps what it had.  Each update answers with the
number of pairs of a file and an edge that the file covers and has samples on. -/
theorem last_covering_file_stays (r : Rounding) (earth : Earth) (us : List AirQualityUpdate)
    (g : Graph) (counts : List Nat)
    (h : (Outcome.inTurn (us.map fun u => u.apply r earth) g).result = .ok counts) :
    (∃ f : Edge → Edge,
      (Outcome.inTurn (us.map fun u => u.apply r earth) g).graph.edges = g.edges.map f ∧
      ∀ e ∈ g.edges, LastStays r earth (us.flatMap passes) e (f e)) ∧
    counts = us.map fun u => (u.passes.map fun p => g.edges.countP (p.writesOn r earth)).sum := by
  obtain ⟨hedges, hcounts, hdated⟩ := Outcome.inTurn_of_edgewise
    (fun u => (overwrite r earth).run u.passes) (fun u => writeCount r earth u.passes)
    (fun u edges => ∀ p ∈ u.passes, p.Dated r earth edges)
    (fun _ _ _ _ => apply_of_ok) (fun v u => writeCount_map_run u.passes v.passes)
    (fun _ _ _ hall p hp => dated_of_map_run (hall p hp)) h
  refine ⟨⟨(overwrite r earth).run (us.flatMap passes), ?_, fun e he => lastStays_run ?_⟩, hcounts⟩
  · rw [hedges]
    exact List.map_congr_left fun e _ => ((overwrite r earth).run_flatMap passes us e).symm
  · intro p hp e' he'
    obtain rfl : e' = e := by simpa using he'
    obtain ⟨u, hu, hp⟩ := List.mem_flatMap.1 hp
    exact hdated u hu p hp e' he

end AirQualityUpdate

namespace Strip

/-- Two files over the strip, the second with fewer columns, and then one that is sampled at wider
distances. -/
def updates : List AirQualityUpdate :=
  [{ files :=
      [⟨.ofText "first.nc", .grid (grid 3 .float32 [1, .nan, 4, 9, .nan, .nan, .nan, 7] 6)⟩,
        ⟨.ofText "second.nc", .grid (grid 2 .int16 [5, 6, 7, 8, 9, 10] 7)⟩] },
    { files := [⟨.ofText "third.nc", .grid (grid 2 .float64 [1, 2, 3, 4, 5, 6] 8)⟩]
      spacing := 20
      workers := 2 }]

/-- Streets of one, two and three columns, and one that leaves the strip. -/
def streets : Graph := ⟨[street 0 1, street 0 2, street 0 3, street 1 4]⟩

end Strip

open AirQualityUpdate in
/-- The first street is too short for the third file, the third one leaves the second and the third
file, and the last one leaves all of them. -/
theorem AirQualityUpdate.last_covering_file_stays_strip :
    let run := Outcome.inTurn (Strip.updates.map fun u => u.apply .binary64 Strip.earth)
      Strip.streets
    run.result = .ok [5, 1] ∧
    run.graph.edges.map (fun e => (e.airQuality, e.airQualityTime)) =
      [(some ⟨.int16, [5, 8]⟩, some 25200000), (some ⟨.float64, [1, 4]⟩, some 28800000),
        (some ⟨.float32, [3, 0]⟩, some 21600000), (none, none)] ∧
    ∃ f : Edge → Edge, run.graph.edges = Strip.streets.edges.map f ∧
      ∀ e ∈ Strip.streets.edges,
        LastStays .binary64 Strip.earth (Strip.updates.flatMap passes) e (f e) := by
  dsimp only
  have h : (Outcome.inTurn (Strip.updates.map fun u => u.apply .binary64 Strip.earth)
      Strip.streets).result = .ok [5, 1] :=
    Traversal.eq_ok_of_toOption (by decide +kernel)
  obtain ⟨hstays, -⟩ :=
    last_covering_file_stays .binary64 Strip.earth Strip.updates Strip.streets [5, 1] h
  exact ⟨h, by decide +kernel, hstays⟩

end StreetEnv
