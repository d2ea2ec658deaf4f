import StreetEnv.Proofs.Fault.Traversal
import StreetEnv.Proofs.Grid.Footprint

/-!
# Passes in step

Two passes over the same edges, each with its own averages.  As long as the averages of every edge
are in step, the passes write on the same edges, report the same and stop at the same fault; the
series on an edge are related as its averages are.

* `Edge.InStep` and `Edge.AllInStep`: what two passes leave of an edge, and of edges in order;
* `AirQualityPass.write_inStep` and `AirQualityPass.run_inStep`: two passes;
* `Outcome.InStep` and `AirQualityUpdate.applyGrid_inStep`: two updates of a graph.
-/

namespace StreetEnv

open Traversal

variable {R : Series → Series → Prop}

/-! ### Edges -/

namespace Edge

/-- What two passes leave of an edge: both leave it alone, or both write related series with the
same time. -/
inductive InStep (R : Series → Series → Prop) (e : Edge) : Edge → Edge → Prop
  /-- Neither pass writes. -/
  | kept : InStep R e e e
  /-- Both passes write. -/
  | written {s s' : Series} (time : Int) (h : R s s') :
    InStep R e (e.withAirQuality s time) (e.withAirQuality s' time)

/-- What two passes leave of edges, one by one. -/
inductive AllInStep (R : Series → Series → Prop) : List Edge → List Edge → List Edge → Prop
  /-- No edges. -/
  | nil : AllInStep R [] [] []
  /-- One edge and the others. -/
  | cons {e l l' : Edge} {es ls ls' : List Edge} (head : e.InStep R l l')
    (tail : AllInStep R es ls ls') : AllInStep R (e :: es) (l :: ls) (l' :: ls')

namespace AllInStep

theorem kept (es : List Edge) : AllInStep R es es es := by
  induction es with
  | nil => exact .nil
  | cons e es ih => exact .cons .kept ih

theorem getElem? {es ls ls' : List Edge} (h : AllInStep R es ls ls') {i : Nat} {e : Edge}
    (hi : es[i]? = some e) :
    ∃ l l', ls[i]? = some l ∧ ls'[i]? = some l' ∧ e.InStep R l l' := by
  induction h generalizing i with
  | nil => cases hi
  | cons head tail ih =>
    cases i with
    | zero =>
      obtain rfl := Option.some.inj hi
      exact ⟨_, _, rfl, rfl, head⟩
    | succ i => exact ih hi

theorem merge {p : Edge → Bool} {es ls ls' : List Edge} (h : AllInStep R (es.filter p) ls ls') :
    AllInStep R es (Graph.merge p es ls) (Graph.merge p es ls') := by
  induction es generalizing ls ls' with
  | nil => exact .nil
  | cons e es ih =>
    by_cases he : p e = true
    · rw [List.filter_cons_of_pos he] at h
      cases h with
      | cons head tail => simpa only [Graph.merge, he, if_true] using .cons head (ih tail)
    · rw [List.filter_cons_of_neg he] at h
      simpa only [Graph.merge, he, if_false] using .cons .kept (ih h)

end AllInStep

end Edge

/-! ### Passes -/

namespace AirQualityPass

variable {p q : AirQualityPass} {r : Rounding} {earth : Earth}

/-- Two tasks for the same edge, with averages in step. -/
def TasksInStep (R : Series → Series → Prop) (t t' : Task) : Prop :=
  t'.1 = t.1 ∧ InStep (Option.Rel R) (t.2 ()) (t'.2 ())

/-- **Writing in step**: the passes tell the same, and their edges are in step. -/
theorem write_inStep
    (htime : q.grid.originMillis earth.timeline = p.grid.originMillis earth.timeline)
    (hreport : q.reportEvery = p.reportEvery) {tasks tasks' : List Task}
    (h : List.Forall₂ (TasksInStep R) tasks tasks') (total n : Nat) :
    (q.write earth total n tasks').account = (p.write earth total n tasks).account ∧
      Edge.AllInStep R (tasks.map (·.1)) (p.write earth total n tasks).edges
        (q.write earth total n tasks').edges := by
  have hreports : q.report = p.report := by
    funext total n
    rw [report, report, hreport]
  have hedges {ts ts' : List Task} (h : List.Forall₂ (TasksInStep R) ts ts') :
      ts'.map (·.1) = ts.map (·.1) := by
    induction h with
    | nil => rfl
    | cons h _ ih => rw [List.map_cons, List.map_cons, h.1, ih]
  induction h generalizing n with
  | nil => exact ⟨rfl, .nil⟩
  | @cons t t' ts ts' ht hts ih =>
    obtain ⟨e, average⟩ := t
    obtain ⟨_, average'⟩ := t'
    obtain ⟨rfl, haverage⟩ := ht
    simp only [write, htime, hreports, List.map_cons, hedges hts]
    dsimp only at haverage
    generalize average () = out at haverage
    generalize average' () = out' at haverage
    cases haverage with
    | error f => exact ⟨rfl, .cons .kept (.kept _)⟩
    | ok hout =>
      cases hout with
      | none =>
        obtain ⟨haccount, hall⟩ := ih n
        exact ⟨haccount, .cons .kept hall⟩
      | some hseries =>
        cases p.grid.originMillis earth.timeline with
        | error f => exact ⟨rfl, .cons .kept (.kept _)⟩
        | ok time =>
          cases p.report total (n + 1) with
          | error f => exact ⟨rfl, .cons (.written time hseries) (.kept _)⟩
          | ok reports =>
            obtain ⟨haccount, hall⟩ := ih (n + 1)
            obtain ⟨hwritten, htold⟩ := Prod.mk.inj haccount
            obtain ⟨hevents, hfault⟩ := Prod.mk.inj htold
            refine ⟨?_, .cons (.written time hseries) hall⟩
            simp only [PassResult.account, hwritten, hevents, hfault]

theorem averageAll_inStep (hworkers : q.workers = p.workers) {edges : List Edge}
    (h : ∀ e ∈ edges, InStep (Option.Rel R) (p.average r earth e) (q.average r earth e)) :
    InStep (List.Forall₂ (Option.Rel R)) (p.averageAll r earth edges)
      (q.averageAll r earth edges) := by
  have hbatches : q.batches edges = p.batches edges := by rw [batches, batches, hworkers]
  rw [averageAll, averageAll, hbatches]
  refine (InStep.mapM fun batch hbatch => InStep.mapM fun e he => h e ?_).bind
    fun parts parts' hparts => .ok (List.rel_flatten hparts)
  rw [← flatten_batches (p := p) edges]
  exact List.mem_flatten.2 ⟨batch, hbatch, he⟩

/-- **Two passes in step.** -/
theorem run_inStep
    (htime : q.grid.originMillis earth.timeline = p.grid.originMillis earth.timeline)
    (hreport : q.reportEvery = p.reportEvery) (hworkers : q.workers = p.workers)
    {edges : List Edge}
    (h : ∀ e ∈ edges, InStep (Option.Rel R) (p.average r earth e) (q.average r earth e)) :
    (q.run r earth edges).account = (p.run r earth edges).account ∧
      Edge.AllInStep R edges (p.run r earth edges).edges (q.run r earth edges).edges := by
  have htasks : List.Forall₂ (TasksInStep R)
      (edges.map fun e => ((e, fun _ => p.average r earth e) : Task))
      (edges.map fun e => ((e, fun _ => q.average r earth e) : Task)) := by
    rw [List.forall₂_map_left_iff, List.forall₂_map_right_iff, List.forall₂_same]
    exact fun e he => ⟨rfl, h e he⟩
  have hwrite := write_inStep htime hreport htasks edges.length 0
  rw [List.map_map, show Prod.fst ∘ (fun e => ((e, fun _ => p.average r earth e) : Task)) = id from
    rfl, List.map_id] at hwrite
  by_cases hahead : 1 < p.workers ∧ edges ≠ []
  · have hall := averageAll_inStep hworkers h
    generalize hp : p.averageAll r earth edges = averages at hall
    generalize hq : q.averageAll r earth edges = averages' at hall
    cases hall with
    | error f =>
      -- both find the fault before anything is written
      rw [run, run, hworkers, if_pos hahead, if_pos hahead, hp, hq]
      exact ⟨rfl, .kept edges⟩
    | ok _ =>
      rw [run_eq_write (average_eq_ok_of_averageAll hp),
        run_eq_write (average_eq_ok_of_averageAll hq)]
      exact hwrite
  · rw [run, run, hworkers, if_neg hahead, if_neg hahead]
    exact hwrite

end AirQualityPass

/-! ### Updates -/

/-- Two outcomes of work on a graph: the answers, faults and notices are the same, and of every edge
both leave the same or have written related series with the same time. -/
structure Outcome.InStep {α : Type} (R : Series → Series → Prop) (g : Graph) (o o' : Outcome α) :
    Prop where
  /-- The answers are the same, and so are the faults. -/
  result_eq : o'.result = o.result
  /-- The notices are the same. -/
  notices_eq : o'.notices = o.notices
  /-- No edge is added. -/
  size_eq : o.graph.size = g.size ∧ o'.graph.size = g.size
  /-- The edges are in step. -/
  edges_inStep : ∀ (i : Nat) e, g.edges[i]? = some e →
    ∃ l l', o.graph.edges[i]? = some l ∧ o'.graph.edges[i]? = some l' ∧ e.InStep R l l'

namespace AirQualityUpdate

variable {u : AirQualityUpdate} {r : Rounding} {earth : Earth}

/-- **Two updates in step**: updates by grids with the same time, where the averages of all selected
edges are in step. -/
theorem applyGrid_inStep {grid grid' : AirQualityGrid}
    (htime : grid'.originMillis earth.timeline = grid.originMillis earth.timeline)
    (box : Envelope) (g : Graph)
    (h : ∀ e ∈ g.edgesIn box, InStep (Option.Rel R) ((u.pass grid).average r earth e)
      ((u.pass grid').average r earth e)) :
    Outcome.InStep R g (u.applyGrid r earth grid box g) (u.applyGrid r earth grid' box g) := by
  obtain ⟨haccount, hall⟩ := AirQualityPass.run_inStep (p := u.pass grid) (q := u.pass grid') htime
    rfl rfl h
  obtain ⟨hwritten, htold⟩ := Prod.mk.inj haccount
  obtain ⟨hevents, hfault⟩ := Prod.mk.inj htold
  refine ⟨?_, ?_, ⟨Graph.size_replaceIn .., Graph.size_replaceIn ..⟩, fun i e hi => ?_⟩
  · simp only [applyGrid, hwritten, hfault]
  · simp only [applyGrid, PassResult.reports, hevents]
  · exact hall.merge.getElem? hi

end AirQualityUpdate

end StreetEnv
