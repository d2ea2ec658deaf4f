import StreetEnv.Proofs.Grid.LastFile

/-!
# Updates that are cut short

A pass writes one edge after the other and takes nothing back.  So a fault in the middle of an
update cuts it short: the files before one were applied to all edges, that file to the edges before
some place, and nothing else was done.

* `AirQualityPass.Stops` and `AirQualityPass.CutShort` are the places at which writing and a pass
  can stop, with the fault;
* `AirQualityPass.write_of_fault`: what writing leaves when it stops;
* `AirQualityPass.write_inside`: a pass over the edges inside a box writes all edges, of which the
  others have no samples;
* `AirQualityUpdate.cut_short`: what is left of an update of valid files that stops.
-/

namespace StreetEnv

namespace AirQualityPass

/-! ### Writing that stops -/

section Writing

variable (p : AirQualityPass) (earth : Earth)

/-- What a task leaves of its edge. -/
def afterTask (t : Task) : Edge := (p.offerOf earth (t.2 ())).elim t.1 t.1.withOffer

/-- Where writing can stop, between the tasks that are done and the rest. -/
inductive Stops : List Task → List Task → Fault → Prop
  /-- The next edge has no average. -/
  | average {done t rest f} (h : t.2 () = .error f) : Stops done (t :: rest) f
  /-- The next edge is the first that needs a time, and there is none. -/
  | time {done t rest s f} (hdone : ∀ t' ∈ done, t'.2 () = .ok none) (ht : t.2 () = .ok (some s))
      (h : p.grid.originMillis earth.timeline = .error f) : Stops done (t :: rest) f
  /-- The last edge is the first that was written, and cannot be reported. -/
  | report {done t rest s time} (hdone : ∀ t' ∈ done, t'.2 () = .ok none)
      (ht : t.2 () = .ok (some s)) (htime : p.grid.originMillis earth.timeline = .ok time)
      (h : p.reportEvery = some 0) : Stops (done ++ [t]) rest .zeroReportInterval

variable {p earth}

/-- A report fails only at every zero edges. -/
theorem report_eq_error_iff {total n : Nat} {f : Fault} :
    p.report total n = .error f ↔ p.reportEvery = some 0 ∧ f = .zeroReportInterval := by
  unfold report
  cases p.reportEvery with
  | none => simp
  | some every =>
    by_cases h : every = 0
    · simp [h, eq_comm]
    · by_cases hdue : (n : Int) % every = 0 <;> simp [h, hdue]

theorem afterTask_of_ok_none {t : Task} (h : t.2 () = .ok none) : p.afterTask earth t = t.1 := by
  simp [afterTask, offerOf, h]

theorem afterTask_of_ok_some {t : Task} {s : Series} {time : Int} (h : t.2 () = .ok (some s))
    (htime : p.grid.originMillis earth.timeline = .ok time) :
    p.afterTask earth t = t.1.withAirQuality s time := by
  simp [afterTask, offerOf, h, htime, Edge.withOffer]

theorem Stops.cons {t : Task} {done rest : List Task} {f : Fault} (h : p.Stops earth done rest f)
    (ht : t.2 () = .ok none) : p.Stops earth (t :: done) rest f := by
  cases h with
  | average h => exact .average h
  | time hdone ht' h => exact .time (List.forall_mem_cons.2 ⟨ht, hdone⟩) ht' h
  | report hdone ht' htime h =>
    rw [← List.cons_append]
    exact .report (List.forall_mem_cons.2 ⟨ht, hdone⟩) ht' htime h

/-- Once an edge is written and reported, only averages can stop the writing. -/
theorem Stops.cons_of_written {t : Task} {done rest : List Task} {f : Fault}
    (h : p.Stops earth done rest f) {time : Int}
    (htime : p.grid.originMillis earth.timeline = .ok time) (hreport : p.reportEvery ≠ some 0) :
    p.Stops earth (t :: done) rest f := by
  cases h with
  | average h => exact .average h
  | time _ _ h =>
    rw [htime] at h
    cases h
  | report _ _ _ h => exact absurd h hreport

/-- **What writing leaves when it stops**: the tasks before some place are done, and the edges of
the others are as they were. -/
theorem write_of_fault {total n : Nat} {tasks : List Task} {f : Fault}
    (h : (p.write earth total n tasks).fault = some f) :
    ∃ done rest, tasks = done ++ rest ∧ p.Stops earth done rest f ∧
      (p.write earth total n tasks).edges = done.map (p.afterTask earth) ++ rest.map (·.1) ∧
      ∀ t ∈ done, ∀ s, t.2 () = .ok (some s) →
        ∃ time, p.grid.originMillis earth.timeline = .ok time := by
  induction tasks generalizing n with
  | nil => cases h
  | cons t tasks ih =>
    obtain ⟨e, average⟩ := t
    rcases write_cons p earth total n e average tasks with ⟨f', ha, hw⟩ |
      ⟨ha, hw⟩ | ⟨s, f', ha, ht, hw⟩ | ⟨s, time, f', ha, ht, hr, hw⟩ |
      ⟨s, time, reports, ha, ht, hr, hw⟩
    · -- the average fails, and nothing is done
      rw [hw] at h ⊢
      cases h
      exact ⟨[], (e, average) :: tasks, rfl, .average ha, rfl, by simp⟩
    · -- no samples
      rw [hw] at h ⊢
      obtain ⟨done, rest, rfl, hstops, hedges, htimes⟩ := ih h
      refine ⟨(e, average) :: done, rest, rfl, hstops.cons ha, ?_, ?_⟩
      · rw [List.map_cons, afterTask_of_ok_none ha]
        exact congrArg (e :: ·) hedges
      · refine List.forall_mem_cons.2 ⟨fun s (hs : average () = .ok (some s)) => ?_, htimes⟩
        rw [ha] at hs
        cases hs
    · -- the time of the grid fails, and nothing is done
      rw [hw] at h ⊢
      cases h
      exact ⟨[], (e, average) :: tasks, rfl, .time (by simp) ha ht, rfl, by simp⟩
    · -- the edge is written, and its report fails
      rw [hw] at h ⊢
      cases h
      obtain ⟨hevery, rfl⟩ := report_eq_error_iff.1 hr
      have hstops : p.Stops earth ([] ++ [(e, average)]) tasks .zeroReportInterval :=
        .report (by simp) ha ht hevery
      refine ⟨[(e, average)], tasks, rfl, hstops, ?_, fun _ _ _ _ => ⟨time, ht⟩⟩
      rw [List.map_singleton, afterTask_of_ok_some ha ht]
      rfl
    · -- the edge is written
      rw [hw] at h ⊢
      obtain ⟨done, rest, rfl, hstops, hedges, htimes⟩ := ih h
      have hevery : p.reportEvery ≠ some 0 := by
        intro hevery
        rw [report_eq_error_iff.2 ⟨hevery, rfl⟩] at hr
        cases hr
      refine ⟨(e, average) :: done, rest, rfl, hstops.cons_of_written ht hevery, ?_,
        fun _ _ _ _ => ⟨time, ht⟩⟩
      rw [List.map_cons, afterTask_of_ok_some ha ht]
      exact congrArg (e.withAirQuality s time :: ·) hedges

/-- Writing the edges that a predicate selects, and putting them back, writes all edges, of which
the others have no samples. -/
theorem write_inside (p : AirQualityPass) (earth : Earth) (q : Edge → Bool)
    (average : Edge → Except Fault (Option Series)) (total n : Nat) (es : List Edge) :
    p.write earth total n
        (es.map fun e => (e, fun _ => if q e = true then average e else .ok none)) =
      let inside := p.write earth total n ((es.filter q).map fun e => (e, fun _ => average e))
      { inside with edges := Graph.merge q es inside.edges } := by
  induction es generalizing n with
  | nil => rfl
  | cons e es ih =>
    by_cases hq : q e = true
    · -- the edges behind the next one are put back as they were if it stops the pass
      simp only [List.map_cons, List.filter_cons_of_pos hq, write, if_pos hq, List.map_map]
      cases average e with
      | error f => simp [Graph.merge, hq, Function.comp_def, Graph.merge_filter]
      | ok out =>
        cases out with
        | none => simp [Graph.merge, hq, ih]
        | some s =>
          cases p.grid.originMillis earth.timeline with
          | error f => simp [Graph.merge, hq, Function.comp_def, Graph.merge_filter]
          | ok time =>
            cases p.report total (n + 1) with
            | error f => simp [Graph.merge, hq, Function.comp_def, Graph.merge_filter]
            | ok reports => simp [Graph.merge, hq, ih]
    · simp only [List.map_cons, List.filter_cons_of_neg hq, write, if_neg hq, ih]
      simp [Graph.merge, hq]

end Writing

/-! ### Passes that stop -/

variable (p : AirQualityPass) (r : Rounding) (earth : Earth)

/-- What a pass over all edges does with one of them: only those that it covers are averaged. -/
def task (e : Edge) : Task := (e, fun _ => if p.Covers e then p.average r earth e else .ok none)

/-- Where a pass over edges can stop, between the edges that are done and the rest. -/
inductive CutShort : List Edge → List Edge → Fault → Prop
  /-- Several workers average first, so nothing is done if an average fails. -/
  | averageAhead {e rest f} (hworkers : 1 < p.workers) (he : e ∈ rest) (hcovers : p.Covers e)
      (h : p.average r earth e = .error f) : CutShort [] rest f
  /-- One worker comes to an edge whose average fails. -/
  | average {done e rest f} (hworkers : p.workers ≤ 1) (hcovers : p.Covers e)
      (h : p.average r earth e = .error f) : CutShort done (e :: rest) f
  /-- There is no time for the first edge that would be written. -/
  | time {done e rest s f} (hdone : ∀ e' ∈ done, ∀ s, ¬ p.Writes r earth e' s)
      (he : p.Writes r earth e s) (h : p.grid.originMillis earth.timeline = .error f) :
      CutShort done (e :: rest) f
  /-- The first edge that was written cannot be reported. -/
  | report {done e rest s} (hdone : ∀ e' ∈ done, ∀ s, ¬ p.Writes r earth e' s)
      (he : p.Writes r earth e s) (h : p.reportEvery = some 0) :
      CutShort (done ++ [e]) rest .zeroReportInterval

variable {p r earth}

theorem task_eq_error_iff {e : Edge} {f : Fault} :
    (p.task r earth e).2 () = .error f ↔ p.Covers e ∧ p.average r earth e = .error f := by
  by_cases h : p.Covers e <;> simp [task, h]

theorem task_eq_ok_some_iff {e : Edge} {s : Series} :
    (p.task r earth e).2 () = .ok (some s) ↔ p.Writes r earth e s := by
  by_cases h : p.Covers e <;> simp [task, Writes, h]

theorem not_writes_of_task {e : Edge} (h : (p.task r earth e).2 () = .ok none) (s : Series) :
    ¬ p.Writes r earth e s := by
  intro hs
  rw [task_eq_ok_some_iff.2 hs] at h
  cases h

theorem afterTask_task (e : Edge) :
    p.afterTask earth (p.task r earth e) = (overwrite r earth).run [p] e := by
  show _ = (p.offerInside? r earth e).elim e e.withOffer
  by_cases h : p.Covers e <;> simp [afterTask, task, offerInside?, offer?, offerOf, h]

theorem Stops.cutShort {done rest : List Edge} {f : Fault}
    (h : p.Stops earth (done.map (p.task r earth)) (rest.map (p.task r earth)) f)
    (hahead : 1 < p.workers → ∀ e ∈ rest, p.Covers e → ∃ out, p.average r earth e = .ok out) :
    p.CutShort r earth done rest f := by
  generalize hts : done.map (p.task r earth) = ts at h
  generalize hts' : rest.map (p.task r earth) = ts' at h
  cases h with
  | average h =>
    obtain ⟨e, rest, rfl, rfl, -⟩ := List.map_eq_cons_iff.1 hts'
    obtain ⟨hcovers, ha⟩ := task_eq_error_iff.1 h
    refine .average (Int.not_lt.1 fun hworkers => ?_) hcovers ha
    obtain ⟨out, hout⟩ := hahead hworkers e List.mem_cons_self hcovers
    rw [ha] at hout
    cases hout
  | time hdone ht h =>
    obtain ⟨e, rest, rfl, rfl, -⟩ := List.map_eq_cons_iff.1 hts'
    subst hts
    exact .time (fun e' he' => not_writes_of_task (hdone _ (List.mem_map.2 ⟨e', he', rfl⟩)))
      (task_eq_ok_some_iff.1 ht) h
  | report hdone ht htime h =>
    obtain ⟨done, last, rfl, rfl, hlast⟩ := List.map_eq_append_iff.1 hts
    obtain ⟨e, rfl, rfl⟩ := List.map_eq_singleton_iff.1 hlast
    exact .report (fun e' he' => not_writes_of_task (hdone _ (List.mem_map.2 ⟨e', he', rfl⟩)))
      (task_eq_ok_some_iff.1 ht) h

theorem average_run (ps : List AirQualityPass) (e : Edge) :
    p.average r earth ((overwrite r earth).run ps e) = p.average r earth e :=
  (overwrite r earth).apply_run (p.average r earth) (fun _ _ => rfl) ps e

theorem covers_run (ps : List AirQualityPass) (e : Edge) :
    p.Covers ((overwrite r earth).run ps e) ↔ p.Covers e :=
  Iff.of_eq ((overwrite r earth).apply_run p.Covers (fun _ _ => rfl) ps e)

theorem not_writes_of_map_run {ps : List AirQualityPass} {es : List Edge}
    (h : ∀ e' ∈ es.map ((overwrite r earth).run ps), ∀ s, ¬ p.Writes r earth e' s) :
    ∀ e ∈ es, ∀ s, ¬ p.Writes r earth e s :=
  fun e he s hs => h _ (List.mem_map.2 ⟨e, he, rfl⟩) s ((writes_run ps e s).2 hs)

theorem CutShort.of_map_run {ps : List AirQualityPass} {done rest : List Edge} {f : Fault}
    (h : p.CutShort r earth (done.map ((overwrite r earth).run ps))
      (rest.map ((overwrite r earth).run ps)) f) : p.CutShort r earth done rest f := by
  generalize hes : done.map ((overwrite r earth).run ps) = es at h
  generalize hes' : rest.map ((overwrite r earth).run ps) = es' at h
  cases h with
  | averageAhead hworkers he hcovers h =>
    obtain rfl := List.map_eq_nil_iff.1 hes
    subst hes'
    obtain ⟨e, hmem, rfl⟩ := List.mem_map.1 he
    rw [average_run] at h
    exact .averageAhead hworkers hmem ((covers_run ps e).1 hcovers) h
  | average hworkers hcovers h =>
    obtain ⟨e, rest, rfl, rfl, -⟩ := List.map_eq_cons_iff.1 hes'
    rw [average_run] at h
    exact .average hworkers ((covers_run ps e).1 hcovers) h
  | time hdone he h =>
    obtain ⟨e, rest, rfl, rfl, -⟩ := List.map_eq_cons_iff.1 hes'
    subst hes
    exact .time (not_writes_of_map_run hdone) ((writes_run ps e _).1 he) h
  | report hdone he h =>
    obtain ⟨done, last, rfl, rfl, hlast⟩ := List.map_eq_append_iff.1 hes
    obtain ⟨e, rfl, rfl⟩ := List.map_eq_singleton_iff.1 hlast
    exact .report (not_writes_of_map_run hdone) ((writes_run ps e _).1 he) h

end AirQualityPass

/-! ### Updates that stop -/

namespace AirQualityUpdate

open AirQualityPass

variable {u : AirQualityUpdate} {r : Rounding} {earth : Earth}

theorem applyGrid_of_error {grid : AirQualityGrid} {g : Graph} {f : Fault}
    (h : (u.applyGrid r earth grid grid.boundingBox g).result = .error f) :
    ∃ done rest, g.edges = done ++ rest ∧ (u.pass grid).CutShort r earth done rest f ∧
      (u.applyGrid r earth grid grid.boundingBox g).graph.edges =
        done.map ((overwrite r earth).run [u.pass grid]) ++ rest ∧
      (u.pass grid).Dated r earth done := by
  unfold applyGrid at h ⊢
  have hfault : ((u.pass grid).run r earth (g.edgesIn grid.boundingBox)).fault = some f := by
    cases hf : ((u.pass grid).run r earth (g.edgesIn grid.boundingBox)).fault with
    | none => simp [hf] at h
    | some f' => simpa [hf] using h
  dsimp only
  rcases run_eq_or (u.pass grid) r earth (g.edgesIn grid.boundingBox) with
    ⟨f', hworkers, ⟨e, he, ha⟩, hrun⟩ | ⟨hahead, hrun⟩
  · rw [hrun] at hfault ⊢
    cases hfault
    obtain ⟨he, hcovers⟩ := List.mem_filter.1 he
    exact ⟨[], g.edges, rfl, .averageAhead hworkers he hcovers ha,
      by simp [Graph.replaceIn_edgesIn], fun e he => by cases he⟩
  · -- the pass inside the box is a pass over all edges, and stops at one of them
    have hwrite := write_inside (u.pass grid) earth (fun e => grid.boundingBox.contains e.envelope)
      ((u.pass grid).average r earth) (g.edgesIn grid.boundingBox).length 0 g.edges
    rw [hrun] at hfault ⊢
    have hfault' : ((u.pass grid).write earth (g.edgesIn grid.boundingBox).length 0
        (g.edges.map ((u.pass grid).task r earth))).fault = some f := by
      have hsame := congrArg PassResult.fault hwrite
      exact hsame.trans hfault
    obtain ⟨tasks, tasks', htasks, hstops, hedges, htimes⟩ := write_of_fault hfault'
    obtain ⟨done, rest, hsplit, rfl, rfl⟩ := List.map_eq_append_iff.1 htasks
    refine ⟨done, rest, hsplit, hstops.cutShort fun hworkers e he hcovers => ?_, ?_, ?_⟩
    · exact hahead hworkers e (List.mem_filter.2 ⟨by simp [hsplit, he], hcovers⟩)
    · refine (congrArg PassResult.edges hwrite).symm.trans (hedges.trans ?_)
      rw [List.map_map, List.map_map]
      congr 1
      · exact List.map_congr_left fun e _ => afterTask_task e
      · exact List.map_id rest
    · intro e he s hs
      exact htimes _ (List.mem_map.2 ⟨e, he, rfl⟩) s (task_eq_ok_some_iff.2 hs)

theorem applyFile_of_grid {file : AirQualityFile} {grid : AirQualityGrid}
    (h : file.grid? = some grid) (g : Graph) :
    u.applyFile r earth file g = u.applyGrid r earth grid grid.boundingBox g := by
  obtain ⟨path, content⟩ := file
  cases content with
  | grid grid' =>
    cases h
    rfl
  | rejected why parts => cases h

theorem applyAll_of_error {written : Nat} {files : List AirQualityFile} {g : Graph} {f : Fault}
    (hvalid : ∀ file ∈ files, file.isValid = true)
    (h : (u.applyAll r earth written files g).result = .error f) :
    ∃ before file after grid done rest, files = before ++ file :: after ∧
      file.grid? = some grid ∧ g.edges = done ++ rest ∧
      (u.pass grid).CutShort r earth done rest f ∧
      (u.applyAll r earth written files g).graph.edges =
        done.map ((overwrite r earth).run (u.passesOf (before ++ [file]))) ++
          rest.map ((overwrite r earth).run (u.passesOf before)) ∧
      (∀ p ∈ u.passesOf before, p.Dated r earth g.edges) ∧ (u.pass grid).Dated r earth done := by
  induction files generalizing written g with
  | nil => cases h
  | cons file files ih =>
    obtain ⟨grid, hgrid⟩ :=
      AirQualityFile.exists_grid_of_isValid (hvalid file List.mem_cons_self)
    simp only [applyAll, applyFile_of_grid hgrid] at h ⊢
    cases hfirst : (u.applyGrid r earth grid grid.boundingBox g).result with
    | error f' =>
      simp only [hfirst] at h ⊢
      cases h
      obtain ⟨done, rest, hsplit, hcut, hedges, hdated⟩ := applyGrid_of_error hfirst
      refine ⟨[], file, files, grid, done, rest, rfl, hgrid, hsplit, hcut, ?_, by simp [passesOf],
        hdated⟩
      rw [hedges, List.nil_append, passesOf_cons hgrid]
      exact congrArg (_ ++ ·) (List.map_id rest).symm
    | ok n =>
      simp only [hfirst] at h ⊢
      obtain ⟨hedges, -, hdated⟩ := applyGrid_of_ok hfirst
      -- the other files meet edges that the first one wrote, and stop where they would without it
      obtain ⟨before, file', after, grid', done, rest, rfl, hgrid', hsplit, hcut, hrest, hdated',
        hdone⟩ := ih (fun file' hfile' => hvalid file' (List.mem_cons_of_mem _ hfile')) h
      rw [hedges] at hsplit hdated'
      obtain ⟨done, rest, hedges', rfl, rfl⟩ := List.map_eq_append_iff.1 hsplit
      refine ⟨file :: before, file', after, grid', done, rest, rfl, hgrid', hedges',
        hcut.of_map_run, ?_, ?_, dated_of_map_run hdone⟩
      · rw [hrest, List.map_map, List.map_map, List.cons_append, passesOf_cons hgrid,
          passesOf_cons hgrid]
        rfl
      · rw [passesOf_cons hgrid]
        exact List.forall_mem_cons.2 ⟨hdated, fun p hp => dated_of_map_run (hdated' p hp)⟩

theorem check_eq_ok_of_isValid (hvalid : ∀ file ∈ u.files, file.isValid = true) :
    u.check = .ok () := by
  have hnone : u.files.filterMap AirQualityFile.error? = [] := by
    rw [List.filterMap_eq_nil_iff]
    exact fun file hfile => Option.isNone_iff_eq_none.1 (hvalid file hfile)
  rw [check, errors, hnone]
  rfl

/-- **An update that stops is cut short at one edge of one file.**  If an update of valid files
stops, then the edges before some place are as the files up to one of them make them, and the edges
behind that place are as the files before that one make them.  The pass of that file stops there
for a reason of its own: an average or the time for the next edge, or the report of the last one.
Series and time of an edge are always written together, and nothing is taken back. -/
theorem cut_short (u : AirQualityUpdate) (r : Rounding) (earth : Earth) (g : Graph) (f : Fault)
    (hvalid : ∀ file ∈ u.files, file.isValid = true) (h : (u.apply r earth g).result = .error f) :
    ∃ before file after grid done rest, u.files = before ++ file :: after ∧
      file.grid? = some grid ∧ g.edges = done ++ rest ∧
      (u.pass grid).CutShort r earth done rest f ∧
      ∃ F F' : Edge → Edge, (u.apply r earth g).graph.edges = done.map F ++ rest.map F' ∧
        (∀ e ∈ done, LastStays r earth (u.passesOf (before ++ [file])) e (F e)) ∧
        ∀ e ∈ rest, LastStays r earth (u.passesOf before) e (F' e) := by
  unfold apply at h ⊢
  simp only [check_eq_ok_of_isValid hvalid] at h ⊢
  obtain ⟨before, file, after, grid, done, rest, hfiles, hgrid, hsplit, hcut, hedges, hdated,
    hdone⟩ := applyAll_of_error hvalid h
  have hbefore : ∀ e ∈ g.edges, ∀ p ∈ u.passesOf before, p.Dated r earth [e] := by
    intro e he p hp e' he'
    obtain rfl := List.mem_singleton.1 he'
    exact hdated p hp e' he
  refine ⟨before, file, after, grid, done, rest, hfiles, hgrid, hsplit, hcut, _, _, hedges,
    fun e he => lastStays_run ?_, fun e he => lastStays_run (hbefore e (by simp [hsplit, he]))⟩
  intro p hp
  have hpasses : u.passesOf (before ++ [file]) = u.passesOf before ++ [u.pass grid] := by
    simp [passesOf, hgrid]
  rw [hpasses] at hp
  rcases List.mem_append.1 hp with hp | hp
  · exact hbefore e (by simp [hsplit, he]) p hp
  · obtain rfl := List.mem_singleton.1 hp
    intro e' he'
    obtain rfl := List.mem_singleton.1 he'
    exact hdone e' he

end AirQualityUpdate

namespace Strip

/-- A file over the strip, and one with two neighbouring cells whose sum is no double. -/
def overflowing : AirQualityUpdate :=
  { files :=
      [⟨.ofText "small.nc", .grid (grid 5 .int16 [1, 1, 1, 1, 1, 1, 2, 2, 2, 2, 2, 2] 6)⟩,
        ⟨.ofText "large.nc", .grid
          (grid 5 .float64 [5, 5, 5, .natural (2 ^ 1023), .natural (2 ^ 1023), 5,
            7, 7, 7, 7, 7, 7] 7)⟩] }

/-- Streets of two columns, two columns and one. -/
def row : Graph := ⟨[street 0 2, street 3 5, street 1 2]⟩

theorem overflowing_isValid : ∀ file ∈ overflowing.files, file.isValid = true := by
  simp only [overflowing, List.forall_mem_cons]
  exact ⟨rfl, rfl, List.forall_mem_nil _⟩

end Strip

open AirQualityUpdate in
/-- The second file reaches the first street, and stops at the second one. -/
theorem AirQualityUpdate.cut_short_strip :
    let left := Strip.overflowing.apply .binary64 Strip.earth Strip.row
    (∀ file ∈ Strip.overflowing.files, file.isValid = true) ∧ left.result = .error .sumOverflow ∧
    left.graph.edges.map (fun e => (e.airQuality, e.airQualityTime)) =
      [(some ⟨.float64, [5, 7]⟩, some 25200000), (some ⟨.int16, [1, 2]⟩, some 21600000),
        (some ⟨.int16, [1, 2]⟩, some 21600000)] ∧
    ∃ before file after grid done rest, Strip.overflowing.files = before ++ file :: after ∧
      file.grid? = some grid ∧ Strip.row.edges = done ++ rest ∧
      (Strip.overflowing.pass grid).CutShort .binary64 Strip.earth done rest .sumOverflow ∧
      ∃ F F' : Edge → Edge, left.graph.edges = done.map F ++ rest.map F' ∧
        (∀ e ∈ done, LastStays .binary64 Strip.earth
          (Strip.overflowing.passesOf (before ++ [file])) e (F e)) ∧
        ∀ e ∈ rest,
          LastStays .binary64 Strip.earth (Strip.overflowing.passesOf before) e (F' e) := by
  dsimp only
  have h : (Strip.overflowing.apply .binary64 Strip.earth Strip.row).result =
      .error .sumOverflow := by decide +kernel
  exact ⟨Strip.overflowing_isValid, h, by decide +kernel,
    cut_short Strip.overflowing .binary64 Strip.earth Strip.row .sumOverflow
      Strip.overflowing_isValid h⟩

/-- An update of valid files that stops may leave a partial result. -/
theorem AirQualityUpdate.exists_partial_result :
    ¬ ∀ (u : AirQualityUpdate) (earth : Earth) (g : Graph) (f : Fault),
      (∀ file ∈ u.files, file.isValid = true) → (u.apply .binary64 earth g).result = .error f →
      (u.apply .binary64 earth g).graph.edges.map (fun e => (e.airQuality, e.airQualityTime)) =
        g.edges.map fun e => (e.airQuality, e.airQualityTime) := by
  intro h
  have hsame := h Strip.overflowing Strip.earth Strip.row .sumOverflow Strip.overflowing_isValid
    (by decide +kernel)
  exact absurd hsame (by decide +kernel)

end StreetEnv
