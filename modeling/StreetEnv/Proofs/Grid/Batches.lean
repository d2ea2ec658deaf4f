import StreetEnv.Grid.Update
import StreetEnv.Proofs.Fault.Traversal
import StreetEnv.Proofs.Grid.StepMeans

/-!
# Writing averages onto edges, by one worker or several

`AirQualityPass.write` takes edge after edge, asks for its average and writes it.  What one edge can
do to the pass is said once, in `AirQualityPass.write_cons`; the rest follows by induction.

* `AirQualityPass.series?` is the average of an edge, as far as there is one;
* `AirQualityPass.offer?` is what the pass writes on an edge: the average and the time of its first
  step;
* `AirQualityPass.write_of_fault_eq_none`: a pass without a fault maps the edges and counts the
  offers.

With several workers a pass first averages batches of edges and then writes; with one it averages
each edge when its turn comes.

* `AirQualityPass.flatten_piecesOf`: pieces of a list, one after the other, are the list;
* `AirQualityPass.getElem?_piecesOf`: piece `i` begins `i` lengths after the start;
* `AirQualityPass.averageAll_eq_ok`: the averages of all batches are those of all edges, in order;
* `AirQualityPass.run_congr`: passes with the same averages and times are the same;
* `AirQualityPass.run_eq_write`: if no average fails, any number of workers writes edge after edge;
* `AirQualityPass.run_eq_or`: otherwise several workers write nothing at all;
* `AirQualityPass.workers_refine_one_worker` puts the two together.
-/

namespace StreetEnv

/-! ### Writing -/

/-- The edge with an air quality and the time of its first step. -/
def Edge.withOffer (e : Edge) (v : Series × Int) : Edge := e.withAirQuality v.1 v.2

namespace AirQualityPass

variable (p : AirQualityPass)

/-- What an average, if it was found, puts on an edge together with the time of the grid. -/
def offerOf (earth : Earth) (average : Except Fault (Option Series)) : Option (Series × Int) :=
  match average, p.grid.originMillis earth.timeline with
  | .ok (some s), .ok time => some (s, time)
  | _, _ => none

/-- The series of an edge, if it has one. -/
def series? (r : Rounding) (earth : Earth) (e : Edge) : Option Series :=
  match p.average r earth e with
  | .ok s => s
  | .error _ => none

/-- What the pass writes on an edge. -/
def offer? (r : Rounding) (earth : Earth) (e : Edge) : Option (Series × Int) :=
  p.offerOf earth (p.average r earth e)

variable (earth : Earth)

/-- **What one edge does to a pass**: its average, the time of the grid or the report may stop it;
an edge without samples is left alone; otherwise the edge is written, and perhaps reported. -/
theorem write_cons (total n : Nat) (e : Edge) (average : Unit → Except Fault (Option Series))
    (tasks : List Task) :
    (∃ f, average () = .error f ∧
      p.write earth total n ((e, average) :: tasks) = ⟨e :: tasks.map (·.1), n, [], some f⟩) ∨
    (average () = .ok none ∧
      p.write earth total n ((e, average) :: tasks) =
        { p.write earth total n tasks with edges := e :: (p.write earth total n tasks).edges }) ∨
    (∃ s f, average () = .ok (some s) ∧ p.grid.originMillis earth.timeline = .error f ∧
      p.write earth total n ((e, average) :: tasks) = ⟨e :: tasks.map (·.1), n, [], some f⟩) ∨
    (∃ s time f, average () = .ok (some s) ∧
      p.grid.originMillis earth.timeline = .ok time ∧ p.report total (n + 1) = .error f ∧
      p.write earth total n ((e, average) :: tasks) =
        ⟨e.withAirQuality s time :: tasks.map (·.1), n + 1, [.wrote], some f⟩) ∨
    (∃ s time reports, average () = .ok (some s) ∧
      p.grid.originMillis earth.timeline = .ok time ∧ p.report total (n + 1) = .ok reports ∧
      p.write earth total n ((e, average) :: tasks) =
        { p.write earth total (n + 1) tasks with
          edges := e.withAirQuality s time :: (p.write earth total (n + 1) tasks).edges
          events := .wrote :: reports ++ (p.write earth total (n + 1) tasks).events }) := by
  cases ha : average () with
  | error f => exact .inl ⟨f, rfl, by simp only [write, ha]⟩
  | ok out =>
    cases out with
    | none => exact .inr (.inl ⟨rfl, by simp only [write, ha]⟩)
    | some s =>
      cases ht : p.grid.originMillis earth.timeline with
      | error f => exact .inr (.inr (.inl ⟨s, f, rfl, rfl, by simp only [write, ha, ht]⟩))
      | ok time =>
        cases hr : p.report total (n + 1) with
        | error f =>
          exact .inr (.inr (.inr (.inl ⟨s, time, f, rfl, rfl, rfl,
            by simp only [write, ha, ht, hr]⟩)))
        | ok reports =>
          exact .inr (.inr (.inr (.inr ⟨s, time, reports, rfl, rfl, rfl,
            by simp only [write, ha, ht, hr]⟩)))

variable {p earth}

/-- Writing without a fault found every edge to have no samples, or a series and a time to write
with it.  It maps the edges and counts the offers. -/
theorem write_of_fault_eq_none {total n : Nat} {tasks : List Task}
    (h : (p.write earth total n tasks).fault = none) :
    (∀ t ∈ tasks, t.2 () = .ok none ∨
      ∃ s time, t.2 () = .ok (some s) ∧ p.grid.originMillis earth.timeline = .ok time) ∧
    (p.write earth total n tasks).edges =
      tasks.map (fun t => (p.offerOf earth (t.2 ())).elim t.1 t.1.withOffer) ∧
    (p.write earth total n tasks).written =
      n + tasks.countP fun t => (p.offerOf earth (t.2 ())).isSome := by
  induction tasks generalizing n with
  | nil => simp [write]
  | cons t tasks ih =>
    obtain ⟨e, average⟩ := t
    -- of the five ways only two leave no fault
    rcases write_cons p earth total n e average tasks with ⟨f, -, hw⟩ |
      ⟨ha, hw⟩ | ⟨s, f, -, -, hw⟩ | ⟨s, time, f, -, -, -, hw⟩ | ⟨s, time, reports, ha, ht, -, hw⟩
    · simp [hw] at h
    · rw [hw] at h ⊢
      obtain ⟨hok, hedges, hwritten⟩ := ih h
      have hoffer : p.offerOf earth (average ()) = none := by simp [offerOf, ha]
      refine ⟨List.forall_mem_cons.2 ⟨.inl ha, hok⟩, ?_, ?_⟩
      · simp [hedges, hoffer]
      · simp [hwritten, hoffer]
    · simp [hw] at h
    · simp [hw] at h
    · rw [hw] at h ⊢
      obtain ⟨hok, hedges, hwritten⟩ := ih h
      have hoffer : p.offerOf earth (average ()) = some (s, time) := by simp [offerOf, ha, ht]
      refine ⟨List.forall_mem_cons.2 ⟨.inr ⟨s, time, ha, ht⟩, hok⟩, ?_, ?_⟩
      · simp [hedges, hoffer, Edge.withOffer]
      · simp [hwritten, hoffer]; omega

end AirQualityPass

/-! ### Batches of edges -/

namespace AirQualityPass

/-! ### Pieces -/

section Pieces

variable {α : Type} {length : Nat}

theorem piecesOf_nil (fuel : Nat) : piecesOf length fuel ([] : List α) = [] := by
  cases fuel <;> rfl

theorem piecesOf_succ {fuel : Nat} {xs : List α} (h : xs ≠ []) :
    piecesOf length (fuel + 1) xs = xs.take length :: piecesOf length fuel (xs.drop length) := by
  simp [piecesOf, h]

theorem flatten_piecesOf (hlength : 0 < length) {fuel : Nat} {xs : List α}
    (hfuel : xs.length ≤ fuel) : (piecesOf length fuel xs).flatten = xs := by
  induction fuel generalizing xs with
  | zero => simp [List.length_eq_zero_iff.1 (Nat.le_zero.1 hfuel), piecesOf_nil]
  | succ fuel ih =>
    by_cases h : xs = []
    · simp [h, piecesOf_nil]
    · have hpos := List.length_pos_iff.2 h
      rw [piecesOf_succ h, List.flatten_cons, ih (by rw [List.length_drop]; omega),
        List.take_append_drop]

theorem getElem?_piecesOf (hlength : 0 < length) {fuel : Nat} {xs : List α}
    (hfuel : xs.length ≤ fuel) (i : Nat) :
    (piecesOf length fuel xs)[i]? =
      if i * length < xs.length then some ((xs.drop (i * length)).take length) else none := by
  induction fuel generalizing xs i with
  | zero => simp [List.length_eq_zero_iff.1 (Nat.le_zero.1 hfuel), piecesOf_nil]
  | succ fuel ih =>
    by_cases h : xs = []
    · simp [h, piecesOf_nil]
    · have hpos := List.length_pos_iff.2 h
      rw [piecesOf_succ h]
      cases i with
      | zero => simp [hpos]
      | succ i =>
        -- piece `i + 1` is piece `i` of what is left after the first one
        rw [List.getElem?_cons_succ, ih (by rw [List.length_drop]; omega), List.drop_drop,
          List.length_drop, Nat.succ_mul, Nat.add_comm length]
        by_cases hi : i * length + length < xs.length
        · rw [if_pos hi, if_pos (by omega)]
        · rw [if_neg hi, if_neg (by omega)]

end Pieces

/-! ### Batches -/

variable {p : AirQualityPass} {r : Rounding} {earth : Earth}

/-- The length of the batches of `n` edges. -/
def batchLength (p : AirQualityPass) (n : Nat) : Nat := max 1 (n / (p.workers.toNat * 4))

theorem batchLength_pos (n : Nat) : 0 < p.batchLength n := by
  unfold batchLength
  omega

theorem flatten_batches (edges : List Edge) : (p.batches edges).flatten = edges :=
  flatten_piecesOf (batchLength_pos _) (Nat.le_refl _)

theorem getElem?_batches (edges : List Edge) (i : Nat) :
    (p.batches edges)[i]? =
      if i * p.batchLength edges.length < edges.length then
        some ((edges.drop (i * p.batchLength edges.length)).take (p.batchLength edges.length))
      else none :=
  getElem?_piecesOf (batchLength_pos _) (Nat.le_refl _) i

theorem average_eq_ok_series {e : Edge} (h : ∃ out, p.average r earth e = .ok out) :
    p.average r earth e = .ok (p.series? r earth e) := by
  obtain ⟨out, hout⟩ := h
  simp [series?, hout]

theorem averageAll_eq_ok {edges : List Edge}
    (h : ∀ e ∈ edges, ∃ out, p.average r earth e = .ok out) :
    p.averageAll r earth edges = .ok (edges.map (p.series? r earth)) := by
  have hbatch : ∀ batch ∈ p.batches edges,
      batch.mapM (p.average r earth) = .ok (batch.map (p.series? r earth)) := by
    intro batch hbatch
    refine Traversal.mapM_eq_ok_map fun e he => average_eq_ok_series (h e ?_)
    rw [← flatten_batches (p := p) edges]
    exact List.mem_flatten.2 ⟨batch, hbatch, he⟩
  unfold averageAll
  -- averaging batch by batch and joining is joining and averaging edge by edge
  rw [Traversal.mapM_eq_ok_map hbatch]
  show Except.ok ((p.batches edges).map _).flatten = _
  rw [← List.map_flatten, flatten_batches]

theorem average_eq_ok_of_averageAll {edges : List Edge} {averages : List (Option Series)}
    (h : p.averageAll r earth edges = .ok averages) :
    ∀ e ∈ edges, ∃ out, p.average r earth e = .ok out := by
  obtain ⟨parts, hparts, -⟩ := Traversal.bind_eq_ok_iff.1 h
  intro e he
  rw [← flatten_batches (p := p) edges] at he
  obtain ⟨batch, hbatch, he⟩ := List.mem_flatten.1 he
  obtain ⟨answers, hanswers⟩ := Traversal.exists_eq_ok_of_mapM hparts batch hbatch
  exact Traversal.exists_eq_ok_of_mapM hanswers e he

/-- Writing looks at a pass for the time of its grid and for its reports only. -/
theorem write_congr {q : AirQualityPass}
    (htime : q.grid.originMillis earth.timeline = p.grid.originMillis earth.timeline)
    (hreport : q.reportEvery = p.reportEvery) (total n : Nat) (tasks : List Task) :
    q.write earth total n tasks = p.write earth total n tasks := by
  have hreports : q.report = p.report := by
    funext total n
    rw [report, report, hreport]
  induction tasks generalizing n with
  | nil => rfl
  | cons t tasks ih => simp only [write, htime, hreports, ih]

theorem run_congr {q : AirQualityPass}
    (htime : q.grid.originMillis earth.timeline = p.grid.originMillis earth.timeline)
    (hreport : q.reportEvery = p.reportEvery) (hworkers : q.workers = p.workers)
    {edges : List Edge} (h : ∀ e ∈ edges, q.average r earth e = p.average r earth e) :
    q.run r earth edges = p.run r earth edges := by
  have hbatches : q.batches edges = p.batches edges := by rw [batches, batches, hworkers]
  have hall : q.averageAll r earth edges = p.averageAll r earth edges := by
    have hbatch : ∀ batch ∈ p.batches edges,
        batch.mapM (q.average r earth) = batch.mapM (p.average r earth) := by
      intro batch hbatch
      refine Traversal.mapM_congr fun e he => h e ?_
      rw [← flatten_batches (p := p) edges]
      exact List.mem_flatten.2 ⟨batch, hbatch, he⟩
    rw [averageAll, averageAll, hbatches, Traversal.mapM_congr hbatch]
  have htasks : edges.map (fun e => ((e, fun _ => q.average r earth e) : Task)) =
      edges.map fun e => ((e, fun _ => p.average r earth e) : Task) :=
    List.map_congr_left fun e he => by rw [h e he]
  unfold run
  simp only [hworkers, hall, htasks, write_congr htime hreport]

theorem write_workers (w : Int) (total n : Nat) (tasks : List Task) :
    ({ p with workers := w } : AirQualityPass).write earth total n tasks =
      p.write earth total n tasks :=
  write_congr (p := p) (q := { p with workers := w }) rfl rfl total n tasks

theorem run_one_worker (edges : List Edge) :
    ({ p with workers := 1 } : AirQualityPass).run r earth edges =
      p.write earth edges.length 0 (edges.map fun e => (e, fun _ => p.average r earth e)) := by
  have h : ¬ ((1 : Int) < 1 ∧ edges ≠ []) := fun h => absurd h.1 (by omega)
  unfold run
  rw [if_neg h, write_workers]
  rfl

theorem map_zip_series_eq {edges : List Edge}
    (h : ∀ e ∈ edges, ∃ out, p.average r earth e = .ok out) :
    (edges.zip (edges.map (p.series? r earth))).map (fun (e, a) => ((e, fun _ => .ok a) : Task)) =
      edges.map fun e => ((e, fun _ => p.average r earth e) : Task) := by
  have hzip : edges.zip (edges.map (p.series? r earth)) =
      edges.map fun e => (e, p.series? r earth e) := by
    simpa using List.zip_map' (l := edges) (f := id) (g := p.series? r earth)
  rw [hzip, List.map_map]
  refine List.map_congr_left fun e he => ?_
  rw [average_eq_ok_series (h e he)]
  rfl

theorem run_eq_write {edges : List Edge} (h : ∀ e ∈ edges, ∃ out, p.average r earth e = .ok out) :
    p.run r earth edges =
      p.write earth edges.length 0 (edges.map fun e => (e, fun _ => p.average r earth e)) := by
  unfold run
  split
  · rw [averageAll_eq_ok h]
    simp only [map_zip_series_eq h]
  · rfl

theorem run_eq_run_one_worker {edges : List Edge}
    (h : ∀ e ∈ edges, ∃ out, p.average r earth e = .ok out) :
    p.run r earth edges = ({ p with workers := 1 } : AirQualityPass).run r earth edges :=
  (run_eq_write h).trans (run_one_worker edges).symm

/-- A pass without a fault found an average, if only a missing one, for every edge. -/
theorem average_eq_ok_of_fault_eq_none {edges : List Edge}
    (h : (p.run r earth edges).fault = none) :
    ∀ e ∈ edges, ∃ out, p.average r earth e = .ok out := by
  unfold run at h
  split at h
  · cases ha : p.averageAll r earth edges with
    | error f => simp [ha] at h
    | ok averages => exact average_eq_ok_of_averageAll ha
  · intro e he
    obtain ⟨hok, -⟩ := write_of_fault_eq_none h
    rcases hok _ (List.mem_map.2 ⟨e, he, rfl⟩) with ha | ⟨s, _, ha, -⟩
    · exact ⟨none, ha⟩
    · exact ⟨some s, ha⟩

theorem stopsOnly_averageAll_of_mem (edges : List Edge) :
    Traversal.StopsOnly (fun f => ∃ e ∈ edges, p.average r earth e = .error f)
      (p.averageAll r earth edges) := by
  refine (Traversal.StopsOnly.mapM fun batch hbatch => ?_).bind fun _ => .ok _
  refine Traversal.StopsOnly.mapM fun e he f hf => ⟨e, ?_, hf⟩
  rw [← flatten_batches (p := p) edges]
  exact List.mem_flatten.2 ⟨batch, hbatch, he⟩

variable (p r earth) in
/-- Either several workers meet a failing average before anything is written, or the pass writes
edge after edge. -/
theorem run_eq_or (edges : List Edge) :
    (∃ f, 1 < p.workers ∧ (∃ e ∈ edges, p.average r earth e = .error f) ∧
      p.run r earth edges = ⟨edges, 0, [], some f⟩) ∨
    ((1 < p.workers → ∀ e ∈ edges, ∃ out, p.average r earth e = .ok out) ∧
      p.run r earth edges =
        p.write earth edges.length 0 (edges.map fun e => (e, fun _ => p.average r earth e))) := by
  by_cases hahead : 1 < p.workers ∧ edges ≠ []
  · cases hall : p.averageAll r earth edges with
    | error f =>
      refine .inl ⟨f, hahead.1, stopsOnly_averageAll_of_mem edges f hall, ?_⟩
      rw [run, if_pos hahead, hall]
    | ok averages =>
      have hok := average_eq_ok_of_averageAll hall
      exact .inr ⟨fun _ => hok, run_eq_write hok⟩
  · refine .inr ⟨fun hworkers e he => ?_, by rw [run, if_neg hahead]⟩
    exact absurd ⟨hworkers, List.ne_nil_of_mem he⟩ hahead

/-- **Several workers do what one does.**  The batches cover all edges, each once and in order, and
batch `i` begins `i` batch lengths after the start, for every number of edges and of workers.  If no
average fails, then edges, count, events (with the reports among the writes) and fault of the pass
are those of the pass with one worker. -/
theorem workers_refine_one_worker (p : AirQualityPass) (r : Rounding) (earth : Earth)
    (edges : List Edge) :
    (p.batches edges).flatten = edges ∧
    (∀ i, (p.batches edges)[i]? =
      let length := max 1 (edges.length / (p.workers.toNat * 4))
      if i * length < edges.length then some ((edges.drop (i * length)).take length) else none) ∧
    ((∀ e ∈ edges, ∃ out, p.average r earth e = .ok out) →
      p.run r earth edges = ({ p with workers := 1 } : AirQualityPass).run r earth edges) :=
  ⟨flatten_batches edges, getElem?_batches edges, run_eq_run_one_worker⟩

/-- Three workers on a street with samples, a short one and another with samples. -/
theorem workers_refine_one_worker_strip :
    let edges := [Strip.street 0 3, Strip.street 2 2, Strip.street 0 3]
    (∀ e ∈ edges, ∃ out, Strip.pass.average .binary64 Strip.earth e = .ok out) ∧
    (Strip.pass.run .binary64 Strip.earth edges).written = 2 ∧
    Strip.pass.run .binary64 Strip.earth edges =
      ({ Strip.pass with workers := 1 } : AirQualityPass).run .binary64 Strip.earth edges := by
  intro edges
  have h : ∀ e ∈ edges, ∃ out, Strip.pass.average .binary64 Strip.earth e = .ok out := by
    intro e he
    simp only [edges, List.mem_cons, List.not_mem_nil, or_false] at he
    rcases he with rfl | rfl | rfl
    · exact ⟨_, Strip.average_street⟩
    · exact ⟨_, Strip.average_street_short⟩
    · exact ⟨_, Strip.average_street⟩
  exact ⟨h, by decide +kernel,
    (workers_refine_one_worker Strip.pass .binary64 Strip.earth edges).2.2 h⟩

end AirQualityPass

end StreetEnv
