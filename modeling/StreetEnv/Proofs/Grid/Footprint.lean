import StreetEnv.Grid.Update
import StreetEnv.Proofs.Grid.Batches
import StreetEnv.Proofs.Grid.LastFile
import StreetEnv.Proofs.Street.Footprint

/-!
# The footprint of an update

Updates from air quality files do not see the noise of an edge, and write nothing but its air
quality.

* `AirQualityPass.write_muted` and `AirQualityPass.unaired_write`: writing keeps to this footprint;
* `AirQualityPass.run_map`: a change of the edges that no average sees leaves the same tasks;
* `AirQualityPass.run_muted` and `AirQualityPass.unaired_run`: so does a pass, with any number of
  workers;
* `AirQualityUpdate.keepsTo_apply`: so does an update.

What an update answers and reports does not depend on the air quality that the edges have either,
and what it writes on an edge is settled by the last file with an offer.  So an update that succeeds
can be carried out again, and changes nothing.

* `PassResult.account` is what a pass tells besides the edges;
* `AirQualityPass.account_run`: a pass tells the same after changes that no average sees;
* `AirQualityUpdate.answersBy_apply`: an update answers by the edges without their air quality;
* `AirQualityUpdate.isRepeatable_apply`: an update that succeeds is repeatable.
-/

namespace StreetEnv

open Outcome

/-! ### Footprints -/

namespace AirQualityPass

variable {p : AirQualityPass} {r : Rounding} {earth : Earth}

/-- The task without the noise of its edge. -/
def mutedTask (t : Task) : Task := (t.1.muted, t.2)

theorem write_muted (total n : Nat) (tasks : List Task) :
    p.write earth total n (tasks.map mutedTask) =
      { p.write earth total n tasks with
        edges := (p.write earth total n tasks).edges.map Edge.muted } := by
  induction tasks generalizing n with
  | nil => rfl
  | cons t tasks ih =>
    obtain ⟨e, average⟩ := t
    have hedges : (tasks.map mutedTask).map (·.1) = (tasks.map (·.1)).map Edge.muted := by
      rw [List.map_map, List.map_map]
      rfl
    simp only [List.map_cons, mutedTask, write]
    -- the same of the five ways is taken, and what is left of the edges is the same
    cases average () with
    | error f => simp only [hedges]; rfl
    | ok out =>
      cases out with
      | none => simp only [ih]; rfl
      | some s =>
        cases p.grid.originMillis earth.timeline with
        | error f => simp only [hedges]; rfl
        | ok time =>
          cases p.report total (n + 1) with
          | error f => simp only [hedges]; rfl
          | ok reports => simp only [ih]; rfl

/-- Writing changes only the air quality. -/
theorem unaired_write (total n : Nat) (tasks : List Task) :
    (p.write earth total n tasks).edges.map Edge.unaired = tasks.map fun t => t.1.unaired := by
  induction tasks generalizing n with
  | nil => rfl
  | cons t tasks ih =>
    obtain ⟨e, average⟩ := t
    simp only [List.map_cons, write]
    cases average () with
    | error f => simp
    | ok out =>
      cases out with
      | none => simp [ih]
      | some s =>
        cases p.grid.originMillis earth.timeline with
        | error f => simp
        | ok time =>
          cases p.report total (n + 1) with
          | error f => simp
          | ok reports => simp [ih]

theorem piecesOf_map {α β : Type} (f : α → β) (length fuel : Nat) (xs : List α) :
    piecesOf length fuel (xs.map f) = (piecesOf length fuel xs).map (List.map f) := by
  induction fuel generalizing xs with
  | zero => rfl
  | succ fuel ih =>
    cases xs with
    | nil => rfl
    | cons x xs => simp [piecesOf, ← ih, List.map_take, List.map_drop]

theorem averageAll_map {f : Edge → Edge} (hf : ∀ e, p.average r earth (f e) = p.average r earth e)
    (edges : List Edge) : p.averageAll r earth (edges.map f) = p.averageAll r earth edges := by
  unfold averageAll batches
  rw [List.length_map, piecesOf_map, List.mapM_map]
  simp only [Function.comp_def, List.mapM_map, hf]

/-- A task with its edge changed. -/
def changedTask (f : Edge → Edge) (t : Task) : Task := (f t.1, t.2)

/-- Before and after a change that no average sees, a pass stops before anything is written, or the
same tasks are carried out on other edges. -/
theorem run_map {f : Edge → Edge} (hf : ∀ e, p.average r earth (f e) = p.average r earth e)
    (edges : List Edge) :
    (∃ fault, p.run r earth edges = ⟨edges, 0, [], some fault⟩ ∧
      p.run r earth (edges.map f) = ⟨edges.map f, 0, [], some fault⟩) ∨
    ∃ tasks, p.run r earth edges = p.write earth edges.length 0 tasks ∧
      p.run r earth (edges.map f) = p.write earth edges.length 0 (tasks.map (changedTask f)) := by
  have hnil : edges.map f ≠ [] ↔ edges ≠ [] := not_congr List.map_eq_nil_iff
  unfold run
  simp only [hnil, averageAll_map hf, List.length_map]
  split
  · cases p.averageAll r earth edges with
    | error fault => exact .inl ⟨fault, rfl, rfl⟩
    | ok averages =>
      refine .inr ⟨_, rfl, congrArg (p.write earth _ _) ?_⟩
      rw [List.zip_map_left, List.map_map, List.map_map]
      rfl
  · refine .inr ⟨_, rfl, congrArg (p.write earth _ _) ?_⟩
    simp only [List.map_map, Function.comp_def, changedTask, hf]

theorem run_muted (edges : List Edge) :
    p.run r earth (edges.map Edge.muted) =
      { p.run r earth edges with edges := (p.run r earth edges).edges.map Edge.muted } := by
  have haverage (e : Edge) : p.average r earth e.muted = p.average r earth e := rfl
  rcases run_map haverage edges with ⟨f, hrun, hmuted⟩ | ⟨tasks, hrun, hmuted⟩
  · rw [hmuted, hrun]
  · rw [hmuted, hrun]
    exact write_muted _ _ tasks

/-- A pass changes only the air quality. -/
theorem unaired_run (edges : List Edge) :
    (p.run r earth edges).edges.map Edge.unaired = edges.map Edge.unaired := by
  rcases run_eq_or p r earth edges with ⟨f, -, -, hrun⟩ | ⟨-, hrun⟩
  · rw [hrun]
  · rw [hrun, unaired_write, List.map_map]
    rfl

end AirQualityPass

namespace AirQualityUpdate

variable (u : AirQualityUpdate) (r : Rounding) (earth : Earth)

/-- What the pass of a grid does to the edges that it is given. -/
def work (grid : AirQualityGrid) (edges : List Edge) :
    List Edge × List Notice × Except Fault Nat :=
  let result := (u.pass grid).run r earth edges
  (result.edges, result.reports.map fun (n, total) => .progress n total,
    match result.fault with
    | some f => .error f
    | none => .ok result.written)

theorem applyGrid_eq_inside (grid : AirQualityGrid) (box : Envelope) :
    u.applyGrid r earth grid box = inside box (u.work r earth grid) :=
  rfl

theorem keepsTo_applyGrid (grid : AirQualityGrid) (box : Envelope) :
    KeepsTo Edge.muted Edge.unaired (u.applyGrid r earth grid box) := by
  rw [applyGrid_eq_inside]
  refine keepsTo_inside Edge.envelope_muted box (fun edges => ?_) fun edges => ?_
  · simp only [work, AirQualityPass.run_muted, PassResult.reports]
  · exact AirQualityPass.unaired_run edges

theorem keepsTo_applyFile (file : AirQualityFile) :
    KeepsTo Edge.muted Edge.unaired (u.applyFile r earth file) := by
  unfold applyFile
  cases file.boundingBox with
  | error f => exact .const [] (.error f)
  | ok box =>
    cases file.grid? with
    | none => exact .const [] (.error (.invalidFiles (file.error?.getD "")))
    | some grid => exact u.keepsTo_applyGrid r earth grid box

theorem keepsTo_applyAll (files : List AirQualityFile) (written : Nat) :
    KeepsTo Edge.muted Edge.unaired (u.applyAll r earth written files) := by
  induction files generalizing written with
  | nil => exact .const [] (.ok written)
  | cons file files ih =>
    have hfirst := u.keepsTo_applyFile r earth file
    refine ⟨fun g => ?_, fun g => ?_⟩
    · simp only [applyAll, hfirst.own_eq g]
      cases (u.applyFile r earth file g).result with
      | error f => rfl
      | ok n => simp only [(ih (written + n)).own_eq]
    · simp only [applyAll]
      cases (u.applyFile r earth file g).result with
      | error f => exact hfirst.rest_eq g
      | ok n => exact ((ih (written + n)).rest_eq _).trans (hfirst.rest_eq g)

/-- **An update sees no noise and writes air quality alone**, whether or not it stops. -/
theorem keepsTo_apply : KeepsTo Edge.muted Edge.unaired (u.apply r earth) := by
  unfold apply
  cases u.check with
  | error f => exact .const [] (.error f)
  | ok _ => exact u.keepsTo_applyAll r earth u.files 0

end AirQualityUpdate

/-! ### Updates carried out again -/

/-- What a pass tells besides the edges: the number of writes, the events and the fault. -/
def PassResult.account (result : PassResult) : Nat × List PassEvent × Option Fault :=
  (result.written, result.events, result.fault)

namespace AirQualityPass

variable {p : AirQualityPass} {r : Rounding} {earth : Earth}

/-- Writing tells the same, whatever the edges are. -/
theorem account_write (f : Edge → Edge) (total n : Nat) (tasks : List Task) :
    (p.write earth total n (tasks.map (changedTask f))).account =
      (p.write earth total n tasks).account := by
  induction tasks generalizing n with
  | nil => rfl
  | cons t tasks ih =>
    obtain ⟨e, average⟩ := t
    have hrest (n : Nat) := Prod.mk.inj (ih n)
    simp only [List.map_cons, changedTask, write]
    cases average () with
    | error fault => rfl
    | ok out =>
      cases out with
      | none => exact ih n
      | some s =>
        cases p.grid.originMillis earth.timeline with
        | error fault => rfl
        | ok time =>
          cases p.report total (n + 1) with
          | error fault => rfl
          | ok reports =>
            obtain ⟨hwritten, htold⟩ := hrest (n + 1)
            obtain ⟨hevents, hfault⟩ := Prod.mk.inj htold
            simp only [PassResult.account, hwritten, hevents, hfault]

theorem account_run {f : Edge → Edge} (hf : ∀ e, p.average r earth (f e) = p.average r earth e)
    (edges : List Edge) :
    (p.run r earth (edges.map f)).account = (p.run r earth edges).account := by
  rcases run_map hf edges with ⟨fault, hrun, hchanged⟩ | ⟨tasks, hrun, hchanged⟩
  · rw [hchanged, hrun]
    rfl
  · rw [hchanged, hrun]
    exact account_write f _ _ tasks

end AirQualityPass

namespace AirQualityUpdate

open AirQualityPass

variable (u : AirQualityUpdate) (r : Rounding) (earth : Earth)

theorem answersBy_applyGrid (grid : AirQualityGrid) (box : Envelope) :
    AnswersBy Edge.unaired (u.applyGrid r earth grid box) := by
  rw [applyGrid_eq_inside]
  refine AnswersBy.inside Edge.envelope_unaired box fun edges => ?_
  have haverage (e : Edge) :
      (u.pass grid).average r earth e.unaired = (u.pass grid).average r earth e :=
    rfl
  obtain ⟨hwritten, htold⟩ := Prod.mk.inj (account_run haverage edges)
  obtain ⟨hevents, hfault⟩ := Prod.mk.inj htold
  simp only [work, PassResult.reports, hwritten, hevents, hfault]

theorem answersBy_applyFile (file : AirQualityFile) :
    AnswersBy Edge.unaired (u.applyFile r earth file) := by
  unfold applyFile
  cases file.boundingBox with
  | error f => exact .const [] (.error f)
  | ok box =>
    cases file.grid? with
    | none => exact .const [] (.error (.invalidFiles (file.error?.getD "")))
    | some grid => exact u.answersBy_applyGrid r earth grid box

theorem answersBy_applyAll (files : List AirQualityFile) (written : Nat) :
    AnswersBy Edge.unaired (u.applyAll r earth written files) := by
  induction files generalizing written with
  | nil => exact .const [] (.ok written)
  | cons file files ih =>
    intro g g' hg
    obtain ⟨hnotices, hresult⟩ := u.answersBy_applyFile r earth file g g' hg
    -- the other files meet graphs that still look the same
    have hleft : (u.applyFile r earth file g).graph.map Edge.unaired =
        (u.applyFile r earth file g').graph.map Edge.unaired := by
      rw [(u.keepsTo_applyFile r earth file).rest_eq,
        (u.keepsTo_applyFile r earth file).rest_eq, hg]
    simp only [applyAll, hresult]
    cases (u.applyFile r earth file g').result with
    | error f => exact ⟨hnotices, rfl⟩
    | ok n =>
      obtain ⟨hmore, hresult'⟩ := ih (written + n) _ _ hleft
      dsimp only
      rw [hnotices, hmore]
      exact ⟨rfl, hresult'⟩

/-- **An update answers by the edges without their air quality.** -/
theorem answersBy_apply : AnswersBy Edge.unaired (u.apply r earth) := by
  unfold apply
  cases u.check with
  | error f => exact .const [] (.error f)
  | ok _ => exact u.answersBy_applyAll r earth u.files 0

variable {u r earth}

/-- **An update that succeeds is repeatable.** -/
theorem isRepeatable_apply {g : Graph} {n : Nat} (h : (u.apply r earth g).result = .ok n) :
    IsRepeatable (u.apply r earth) g := by
  have hview := (u.keepsTo_apply r earth).rest_eq g
  refine (u.answersBy_apply r earth).isRepeatable hview ?_
  -- it succeeds again, and then writes on every edge what is there
  have hagain : (u.apply r earth (u.apply r earth g).graph).result = .ok n :=
    (u.answersBy_apply r earth _ _ hview).2.trans h
  have htwice : (overwrite r earth).run u.passes ∘ (overwrite r earth).run u.passes =
      (overwrite r earth).run u.passes :=
    funext fun e => Overwrite.run_run u.passes e
  obtain ⟨hedges, -⟩ := apply_of_ok h
  obtain ⟨hedges', -⟩ := apply_of_ok hagain
  rw [hedges, List.map_map, htwice, ← hedges] at hedges'
  exact congrArg Graph.mk hedges'

end AirQualityUpdate

end StreetEnv
