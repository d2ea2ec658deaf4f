import Mathlib.Data.Nat.Basic
import StreetEnv.Proofs.Grid.Footprint

/-!
# The progress of a pass

A pass counts the edges that it writes, and tells of every so-many-th one as soon as it is written.
The count begins anew with every pass and does not see edges without samples.

* `AirQualityPass.told`: what is told while some edges are written, one after the other;
* `AirQualityPass.write_append`: writing one list of edges after another;
* `AirQualityPass.events_write`: what writing tells, by the number of edges that it writes;
* `AirQualityPass.reports_told`: the reports among it;
* `AirQualityPass.reports_run`: the reports of a pass, where they come, and those of the next pass.
-/

namespace StreetEnv

namespace AirQualityPass

/-! ### What is told -/

/-- The report that follows the write of edge `n` of `total`, if it is due. -/
def due (every total n : Nat) : List PassEvent := if every ∣ n then [.reported n total] else []

/-- What is told while the edges `n + 1, …, n + m` of `total` are written. -/
def told (every total n m : Nat) : List PassEvent :=
  (List.range' (n + 1) m).flatMap fun k => .wrote :: due every total k

section Told

variable (every total n m : Nat)

theorem told_succ : told every total n (m + 1) =
    .wrote :: due every total (n + 1) ++ told every total (n + 1) m := by
  rw [told, List.range'_succ, List.flatMap_cons]
  rfl

theorem told_succ_last : told every total n (m + 1) =
    told every total n m ++ .wrote :: due every total (n + m + 1) := by
  have hlast : n + 1 + 1 * m = n + m + 1 := by omega
  rw [told, List.range'_concat, List.flatMap_append, hlast]
  simp [told]

theorem reports_told (edges : List Edge) (fault : Option Fault) :
    PassResult.reports ⟨edges, m, told every total 0 m, fault⟩ =
      (List.range (m / every)).map fun k => ((k + 1) * every, total) := by
  show (told every total 0 m).filterMap _ = _
  induction m with
  | zero => simp [told]
  | succ m ih =>
    rw [told_succ_last, List.filterMap_append, ih, Nat.succ_div, Nat.zero_add]
    by_cases hdue : every ∣ m + 1
    · -- the write is one more multiple of the interval
      have hquotient : (m / every + 1) * every = m + 1 := by
        have hexact := Nat.div_mul_cancel hdue
        rwa [Nat.succ_div, if_pos hdue] at hexact
      simp [due, hdue, List.range_succ, hquotient]
    · simp [due, hdue]

end Told

/-! ### What writing tells -/

variable {p : AirQualityPass} {r : Rounding} {earth : Earth} {every total n : Nat}

theorem report_eq_due (hevery : 1 ≤ every) (hreport : p.reportEvery = some (every : Int))
    (total n : Nat) : p.report total n = .ok (due every total n) := by
  have hne : (every : Int) ≠ 0 := by omega
  have hdvd : (n : Int) % every = 0 ↔ every ∣ n := by
    rw [← Int.dvd_iff_emod_eq_zero, Int.natCast_dvd_natCast]
  simp only [report, hreport, if_neg hne, hdvd, due]
  split <;> rfl

/-- **Writing one list of edges after another** begins with the first one, and goes on with the
second one unless it was stopped. -/
theorem write_append (total n : Nat) (front back : List Task) :
    p.write earth total n (front ++ back) =
      let first := p.write earth total n front
      match first.fault with
      | some f => ⟨first.edges ++ back.map (·.1), first.written, first.events, some f⟩
      | none =>
        let rest := p.write earth total first.written back
        ⟨first.edges ++ rest.edges, rest.written, first.events ++ rest.events, rest.fault⟩ := by
  induction front generalizing n with
  | nil => rfl
  | cons t front ih =>
    obtain ⟨e, average⟩ := t
    simp only [List.cons_append, write, List.map_append]
    cases average () with
    | error f => rfl
    | ok out =>
      cases out with
      | none =>
        simp only [ih]
        cases (p.write earth total n front).fault <;> rfl
      | some s =>
        cases p.grid.originMillis earth.timeline with
        | error f => rfl
        | ok time =>
          cases p.report total (n + 1) with
          | error f => rfl
          | ok reports =>
            simp only [ih]
            cases (p.write earth total (n + 1) front).fault <;> simp

/-- **What writing tells**, by the number of edges that it writes. -/
theorem events_write (hevery : 1 ≤ every) (hreport : p.reportEvery = some (every : Int))
    {tasks : List Task} (h : (p.write earth total n tasks).fault = none) :
    (p.write earth total n tasks).events =
      told every total n (tasks.countP fun t => (p.offerOf earth (t.2 ())).isSome) := by
  induction tasks generalizing n with
  | nil => rfl
  | cons t tasks ih =>
    obtain ⟨e, average⟩ := t
    rcases write_cons p earth total n e average tasks with ⟨f, -, hw⟩ |
      ⟨ha, hw⟩ | ⟨s, f, -, -, hw⟩ | ⟨s, time, f, -, -, -, hw⟩ | ⟨s, time, reports, ha, ht, hr, hw⟩
    · simp [hw] at h
    · -- the edge has no samples, and is not told of
      rw [hw] at h ⊢
      have hoffer : p.offerOf earth (average ()) = none := by simp [offerOf, ha]
      simp [hoffer, ih h]
    · simp [hw] at h
    · simp [hw] at h
    · rw [hw] at h ⊢
      have hoffer : p.offerOf earth (average ()) = some (s, time) := by simp [offerOf, ha, ht]
      rw [report_eq_due hevery hreport] at hr
      obtain rfl := Except.ok.inj hr
      rw [List.countP_cons_of_pos (by simp [hoffer]), told_succ, ih h]

/-! ### What a pass tells -/

theorem exists_split_of_lt_countP {α : Type} {q : α → Bool} {l : List α} {j : Nat}
    (h : j < l.countP q) :
    ∃ front x back, l = front ++ x :: back ∧ q x = true ∧ front.countP q = j := by
  induction l generalizing j with
  | nil => cases h
  | cons y l ih =>
    by_cases hy : q y = true
    · rw [List.countP_cons_of_pos hy] at h
      cases j with
      | zero => exact ⟨[], y, l, rfl, hy, rfl⟩
      | succ j =>
        obtain ⟨front, x, back, rfl, hx, hj⟩ := ih (Nat.lt_of_succ_lt_succ h)
        exact ⟨y :: front, x, back, rfl, hx, by rw [List.countP_cons_of_pos hy, hj]⟩
    · rw [List.countP_cons_of_neg hy] at h
      obtain ⟨front, x, back, rfl, hx, hj⟩ := ih h
      exact ⟨y :: front, x, back, rfl, hx, by rw [List.countP_cons_of_neg hy, hj]⟩

theorem offer?_isSome_iff {e : Edge} : (p.offer? r earth e).isSome = true ↔
    ∃ s time, p.average r earth e = .ok (some s) ∧
      p.grid.originMillis earth.timeline = .ok time := by
  unfold offer? offerOf
  cases p.average r earth e with
  | error f => simp
  | ok out =>
    cases out with
    | none => simp
    | some s => cases p.grid.originMillis earth.timeline <;> simp

/-- How the pass goes through edges, after `n` of `total` were written. -/
def through (p : AirQualityPass) (r : Rounding) (earth : Earth) (total n : Nat)
    (edges : List Edge) : PassResult :=
  p.write earth total n (edges.map fun e => (e, fun _ => p.average r earth e))

theorem through_append {front back : List Edge}
    (h : (p.through r earth total n (front ++ back)).fault = none) :
    (p.through r earth total n front).fault = none ∧
    (p.through r earth total n (front ++ back)).edges =
      (p.through r earth total n front).edges ++
        (p.through r earth total (p.through r earth total n front).written back).edges ∧
    (p.through r earth total n (front ++ back)).events =
      (p.through r earth total n front).events ++
        (p.through r earth total (p.through r earth total n front).written back).events := by
  unfold through at h ⊢
  rw [List.map_append, write_append] at h ⊢
  generalize front.map (fun e => ((e, fun _ => p.average r earth e) : Task)) = tasks at h ⊢
  cases hfault : (p.write earth total n tasks).fault with
  | some f =>
    simp only [hfault] at h
    cases h
  | none => exact ⟨rfl, by simp only [hfault], by simp only [hfault]⟩

theorem through_cons_of_offer (hevery : 1 ≤ every) (hreport : p.reportEvery = some (every : Int))
    {e : Edge} {s : Series} {time : Int} (ha : p.average r earth e = .ok (some s))
    (ht : p.grid.originMillis earth.timeline = .ok time) (total n : Nat) (back : List Edge) :
    p.through r earth total n (e :: back) =
      { p.through r earth total (n + 1) back with
        edges := e.withAirQuality s time :: (p.through r earth total (n + 1) back).edges
        events := .wrote :: due every total (n + 1) ++
          (p.through r earth total (n + 1) back).events } := by
  unfold through
  simp only [List.map_cons, write, ha, ht, report_eq_due hevery hreport]

theorem through_of_fault_eq_none (hevery : 1 ≤ every)
    (hreport : p.reportEvery = some (every : Int)) {edges : List Edge}
    (h : (p.through r earth total 0 edges).fault = none) :
    (p.through r earth total 0 edges).written =
      edges.countP (fun e => (p.offer? r earth e).isSome) ∧
    (p.through r earth total 0 edges).reports =
      (List.range ((p.through r earth total 0 edges).written / every)).map
        fun k => ((k + 1) * every, total) := by
  obtain ⟨-, -, hwritten⟩ := write_of_fault_eq_none h
  have hevents := events_write hevery hreport h
  rw [List.countP_map, Nat.zero_add] at hwritten
  rw [List.countP_map] at hevents
  refine ⟨hwritten, ?_⟩
  rw [← reports_told every total _ [] none]
  unfold PassResult.reports through
  rw [hevents, hwritten]

/-- **Where a report comes**: right after the write of an edge, the one that makes the count a
multiple of the interval. -/
theorem exists_reported_place (hevery : 1 ≤ every) (hreport : p.reportEvery = some (every : Int))
    {edges : List Edge} (h : (p.through r earth total 0 edges).fault = none) {k : Nat}
    (hk : k < (p.through r earth total 0 edges).written / every) :
    ∃ front e back s time, edges = front ++ e :: back ∧ p.average r earth e = .ok (some s) ∧
      p.grid.originMillis earth.timeline = .ok time ∧
      (p.through r earth total 0 front).fault = none ∧
      (p.through r earth total 0 front).written + 1 = (k + 1) * every ∧
      (p.through r earth total 0 front).reports.length = k ∧
      (p.through r earth total 0 edges).edges =
        (p.through r earth total 0 front).edges ++ e.withAirQuality s time ::
          (p.through r earth total ((k + 1) * every) back).edges ∧
      (p.through r earth total 0 edges).events =
        (p.through r earth total 0 front).events ++ .wrote :: .reported ((k + 1) * every) total ::
          (p.through r earth total ((k + 1) * every) back).events := by
  have hmultiple : (k + 1) * every ≤ (p.through r earth total 0 edges).written :=
    (Nat.le_div_iff_mul_le hevery).1 hk
  have hpos : 1 ≤ (k + 1) * every := Nat.mul_pos (Nat.succ_pos k) hevery
  rw [(through_of_fault_eq_none hevery hreport h).1] at hmultiple
  have hbefore : (k + 1) * every - 1 < edges.countP fun e => (p.offer? r earth e).isSome := by omega
  obtain ⟨front, e, back, rfl, he, hfront⟩ := exists_split_of_lt_countP hbefore
  obtain ⟨hfault, hedges, hevents⟩ := through_append h
  obtain ⟨hwritten, hreports⟩ := through_of_fault_eq_none hevery hreport hfault
  have hcount : (p.through r earth total 0 front).written + 1 = (k + 1) * every := by omega
  have hquotient : (p.through r earth total 0 front).written / every = k := by
    rw [Nat.succ_mul] at hcount
    exact Nat.div_eq_of_lt_le (by omega) (by rw [Nat.succ_mul]; omega)
  obtain ⟨s, time, haverage, htime⟩ := offer?_isSome_iff.1 he
  have hdue : due every total ((k + 1) * every) = [.reported ((k + 1) * every) total] :=
    if_pos (Nat.dvd_mul_left every (k + 1))
  rw [through_cons_of_offer hevery hreport haverage htime] at hedges hevents
  rw [hcount] at hedges hevents
  refine ⟨front, e, back, s, time, rfl, haverage, htime, hfault, hcount, ?_, hedges, ?_⟩
  · rw [hreports, List.length_map, List.length_range, hquotient]
  · rw [hevents, hdue]
    rfl

/-- **The progress of a pass.** A pass over `total` edges that reports every `every`-th write and is
not stopped has reported the multiples of `every` up to the number of edges with a series, which it
wrote, in order and each once.  Every report comes right after the write that it is due after: the
pass has gone through the edges in front, has put the series and the time on the next one, and goes
through the others afterwards.  A second pass over the edges that the first one leaves tells the
same and writes as many. -/
theorem reports_run (hevery : 1 ≤ every) (hreport : p.reportEvery = some (every : Int))
    {edges : List Edge} (hfault : (p.run r earth edges).fault = none) :
    let total := edges.length
    let first := p.run r earth edges
    let again := p.run r earth first.edges
    first.edges = edges.map (fun e => (p.offer? r earth e).elim e e.withOffer) ∧
    first.written = edges.countP (fun e => (p.series? r earth e).isSome) ∧
    first.reports = (List.range (first.written / every)).map (fun k => ((k + 1) * every, total)) ∧
    (∀ k < first.written / every, ∃ front e back s time, edges = front ++ e :: back ∧
      p.average r earth e = .ok (some s) ∧ p.grid.originMillis earth.timeline = .ok time ∧
      (p.through r earth total 0 front).fault = none ∧
      (p.through r earth total 0 front).written + 1 = (k + 1) * every ∧
      (p.through r earth total 0 front).reports.length = k ∧
      first.edges =
        (p.through r earth total 0 front).edges ++ e.withAirQuality s time ::
          (p.through r earth total ((k + 1) * every) back).edges ∧
      first.events =
        (p.through r earth total 0 front).events ++ .wrote :: .reported ((k + 1) * every) total ::
          (p.through r earth total ((k + 1) * every) back).events) ∧
    again.events = first.events ∧ again.reports = first.reports ∧
    again.written = first.written ∧ again.fault = none := by
  intro total first again
  obtain ⟨hedges, hwritten, -⟩ := run_of_fault_eq_none hfault
  have hrun : first = p.through r earth total 0 edges :=
    run_eq_write (average_eq_ok_of_fault_eq_none hfault)
  have hthrough : (p.through r earth total 0 edges).fault = none := hrun ▸ hfault
  -- the second pass meets edges that differ in what no average sees
  have haverage (e : Edge) :
      p.average r earth ((p.offer? r earth e).elim e e.withOffer) = p.average r earth e := by
    cases p.offer? r earth e <;> rfl
  have haccount : again.account = first.account := by
    show (p.run r earth first.edges).account = _
    rw [hedges]
    exact account_run haverage edges
  obtain ⟨hwritten', htold⟩ := Prod.mk.inj haccount
  obtain ⟨hevents', hfault'⟩ := Prod.mk.inj htold
  refine ⟨hedges, hwritten, ?_, ?_, hevents', ?_, hwritten', hfault'.trans hfault⟩
  · rw [hrun]
    exact (through_of_fault_eq_none hevery hreport hthrough).2
  · intro k hk
    rw [hrun] at hk ⊢
    exact exists_reported_place hevery hreport hthrough hk
  · simp only [PassResult.reports, hevents']

/-- On four streets, of which the second has no samples, the only report of every other write comes
after the third street, which then has its series. -/
theorem reports_run_strip :
    let p : AirQualityPass := { Strip.pass with reportEvery := some 2 }
    let edges := [Strip.street 0 3, Strip.street 2 2, Strip.street 0 3, Strip.street 0 3]
    let first := p.run .binary64 Strip.earth edges
    let again := p.run .binary64 Strip.earth first.edges
    p.reportEvery = some 2 ∧ first.fault = none ∧ first.written = 3 ∧ first.reports = [(2, 4)] ∧
      first.edges.map (fun e => e.airQuality.isSome) = [true, false, true, true] ∧
      (∃ front e back s time, edges = front ++ e :: back ∧
        (p.through .binary64 Strip.earth 4 0 front).written = 1 ∧
        first.edges = (p.through .binary64 Strip.earth 4 0 front).edges ++
          e.withAirQuality s time :: (p.through .binary64 Strip.earth 4 2 back).edges ∧
        first.events = (p.through .binary64 Strip.earth 4 0 front).events ++ .wrote ::
          .reported 2 4 :: (p.through .binary64 Strip.earth 4 2 back).events) ∧
      again.reports = [(2, 4)] ∧ again.written = 3 := by
  intro p edges first again
  have hevery : p.reportEvery = some ((2 : Nat) : Int) := rfl
  have hfault : first.fault = none := by decide +kernel
  have hwritten : first.written = 3 := by decide +kernel
  obtain ⟨hedges, -, hreports, hplaces, -, hreports', hwritten', -⟩ :=
    reports_run (by decide) hevery hfault
  have hfirst : first.reports = [(2, 4)] := by
    rw [hreports, hwritten]
    rfl
  refine ⟨rfl, hfault, hwritten, hfirst, ?_, ?_, hreports'.trans hfirst,
    hwritten'.trans hwritten⟩
  · rw [hedges]
    decide +kernel
  · have hdue : 0 < first.written / 2 := by rw [hwritten]; decide
    obtain ⟨front, e, back, s, time, hsplit, -, -, -, hcount, -, hwrote, hevents⟩ := hplaces 0 hdue
    exact ⟨front, e, back, s, time, hsplit, Nat.succ.inj hcount, hwrote, hevents⟩

end AirQualityPass

end StreetEnv
