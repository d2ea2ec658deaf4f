import StreetEnv.Grid.Update
import StreetEnv.Polling.Updater
import StreetEnv.Proofs.Grid.Batches

/-!
# The faults of a pass

A grid that was checked can still stop a pass: its numbers, its times or the settings of the pass
may be impossible.  `Fault.isOfPass` lists these faults.  None of them refuses files, and none of
them ends the process.

* `AirQualityPass.stopsOnly_average`, `AirQualityGrid.stopsOnly_originMillis` and
  `AirQualityPass.stopsOnly_report`: what an edge needs from its pass stops only at such a fault;
* `AirQualityPass.isOfPass_of_run`: so does a pass;
* `AirQualityUpdate.stopsOnly_applyFile_of_isValid`: so does the update from a valid file;
* `AirQualityUpdate.stopsOnly_apply`: no update at all ends the process.
-/

namespace StreetEnv

open Traversal

namespace Fault

/-- The fault of a pass over edges: of its numbers, its cells, its times or its settings. -/
def isOfPass : Fault → Bool
  | nanToInteger => true
  | infinityToInteger => true
  | sumOverflow => true
  | cellOutOfRange _ _ => true
  | integerTooLarge => true
  | zeroReportInterval => true
  | spacingNotPositive _ => true
  | negativeCount => true
  | countTooLarge => true
  | indexOutOfBounds _ _ => true
  | offsetOutOfRange => true
  | instantOutOfRange => true
  | epochOutOfRange => true
  | _ => false

/-- The fault belongs to a pass. -/
def IsOfPass (f : Fault) : Prop := f.isOfPass = true

theorem IsOfPass.ne_invalidFiles {f : Fault} (h : f.IsOfPass) (errors : String) :
    f ≠ .invalidFiles errors := by
  rintro rfl
  cases h

theorem IsOfPass.endsProcess_eq_false {f : Fault} (h : f.IsOfPass) : f.endsProcess = false := by
  cases f with
  | exit status => cases h
  | usage text => cases h
  | _ => rfl

end Fault

open Fault

/-! ### Numbers and times -/

theorem Number.stopsOnly_floor (x : Number) : StopsOnly IsOfPass x.floor := by
  cases x with
  | nan => exact .error rfl
  | infinite negative => exact .error rfl
  | negativeZero => exact .ok _
  | rational q => exact .ok _

theorem Number.stopsOnly_roundHalfAway (r : Rounding) (x : Number) :
    StopsOnly IsOfPass (x.roundHalfAway r) :=
  (stopsOnly_floor _).bind fun _ => .ok _

theorem Number.stopsOnly_sum (r : Rounding) (xs : List Number) :
    StopsOnly IsOfPass (Number.sum r xs) := by
  unfold Number.sum
  exact .ite (.ok _) (.error rfl)

theorem CellType.stopsOnly_narrow (t : CellType) (n : Int) : StopsOnly IsOfPass (t.narrow n) := by
  unfold narrow
  split
  · exact .ok _
  · exact .ite (.ok _) (.ite (.error rfl) (.error rfl))

theorem stopsOnly_elim {α : Type} {f : Fault} (hf : IsOfPass f) (found : Option α) :
    StopsOnly IsOfPass (found.elim (.error f) .ok) := by
  cases found with
  | none => exact .error hf
  | some a => exact .ok a

theorem AirQualityGrid.stopsOnly_timestampAt (timeline : Timeline) (g : AirQualityGrid) (i : Int) :
    StopsOnly IsOfPass (g.timestampAt timeline i) := by
  have hoffset : IsOfPass .offsetOutOfRange := rfl
  have hinstant : IsOfPass .instantOutOfRange := rfl
  unfold timestampAt
  exact .ite (.error rfl) ((stopsOnly_elim hoffset _).bind fun _ => stopsOnly_elim hinstant _)

theorem AirQualityGrid.stopsOnly_originMillis (timeline : Timeline) (g : AirQualityGrid) :
    StopsOnly IsOfPass (g.originMillis timeline) := by
  have hepoch : IsOfPass .epochOutOfRange := rfl
  exact (g.stopsOnly_timestampAt timeline 0).bind fun _ =>
    (stopsOnly_elim hepoch _).bind fun _ => .ok _

/-! ### One edge -/

theorem Accumulator.stopsOnly_average (r : Rounding) (a : Accumulator) (time : Int) :
    StopsOnly IsOfPass (a.average r time) := by
  unfold average averageOf
  refine .ite (.ok _) (.ite (.ok _) ?_)
  exact (Number.stopsOnly_sum r _).bind fun _ =>
    (Number.stopsOnly_roundHalfAway r _).bind fun _ => CellType.stopsOnly_narrow _ _

theorem Accumulator.stopsOnly_averages (r : Rounding) (a : Accumulator) (n : Int) :
    StopsOnly IsOfPass (a.averages r n) :=
  (StopsOnly.mapM fun _ _ => stopsOnly_average r a _).bind fun _ => .ok _

theorem Sampler.stopsOnly_between (earth : Earth) (a b : Coordinate) (spacing : Number) :
    StopsOnly IsOfPass (Sampler.between earth a b spacing) := by
  unfold Sampler.between
  exact .ite (.error rfl) (.ok _)

theorem Sampler.stopsOnly_count (r : Rounding) (s : Sampler) : StopsOnly IsOfPass (s.count r) :=
  (Number.stopsOnly_floor _).bind fun _ => .ite (.error rfl) (.ite (.error rfl) (.ok _))

namespace AirQualityPass

variable {p : AirQualityPass} {r : Rounding} {earth : Earth}

theorem stopsOnly_samplesBetween (a b : Coordinate) :
    StopsOnly IsOfPass (p.samplesBetween r earth a b) :=
  (Sampler.stopsOnly_between earth a b _).bind fun s =>
    StopsOnly.bind ((s.stopsOnly_count r).bind fun _ => .ok _) fun _ => .ok _

theorem stopsOnly_average (e : Edge) : StopsOnly IsOfPass (p.average r earth e) := by
  refine (stopsOnly_samplesBetween _ _).bind fun samples => ?_
  exact .ite (.ok _) ((Accumulator.stopsOnly_averages r _ _).bind fun _ => .ok _)

theorem stopsOnly_report (total n : Nat) : StopsOnly IsOfPass (p.report total n) := by
  unfold report
  split
  · exact .ok _
  · exact .ite (.error rfl) (.ite (.ok _) (.ok _))

/-! ### Passes -/

/-- Writing stops only at a fault of an average, of the time of the grid or of a report. -/
theorem isOfPass_of_write {total n : Nat} {tasks : List Task}
    (htasks : ∀ t ∈ tasks, StopsOnly IsOfPass (t.2 ())) {f : Fault}
    (h : (p.write earth total n tasks).fault = some f) : f.IsOfPass := by
  induction tasks generalizing n with
  | nil => cases h
  | cons t tasks ih =>
    obtain ⟨e, average⟩ := t
    have hrest : ∀ t ∈ tasks, StopsOnly IsOfPass (t.2 ()) :=
      fun t ht => htasks t (List.mem_cons_of_mem _ ht)
    rcases write_cons p earth total n e average tasks with ⟨f', ha, hw⟩ |
      ⟨-, hw⟩ | ⟨s, f', -, ht, hw⟩ | ⟨s, time, f', -, -, hr, hw⟩ | ⟨s, time, reports, -, -, -, hw⟩
    · rw [hw] at h
      cases h
      exact htasks (e, average) List.mem_cons_self f ha
    · rw [hw] at h
      exact ih hrest h
    · rw [hw] at h
      cases h
      exact p.grid.stopsOnly_originMillis earth.timeline f ht
    · rw [hw] at h
      cases h
      exact stopsOnly_report _ _ f hr
    · rw [hw] at h
      exact ih hrest h

theorem stopsOnly_averageAll (edges : List Edge) :
    StopsOnly IsOfPass (p.averageAll r earth edges) :=
  (StopsOnly.mapM fun _ _ => StopsOnly.mapM fun e _ => stopsOnly_average e).bind fun _ => .ok _

/-- A pass stops only at a fault of a pass. -/
theorem isOfPass_of_run {edges : List Edge} {f : Fault}
    (h : (p.run r earth edges).fault = some f) : f.IsOfPass := by
  unfold run at h
  split at h
  · cases hall : p.averageAll r earth edges with
    | error f' =>
      rw [hall] at h
      cases h
      exact stopsOnly_averageAll edges f hall
    | ok averages =>
      rw [hall] at h
      refine isOfPass_of_write (List.forall_mem_map.2 fun _ _ => ?_) h
      exact .ok _
  · exact isOfPass_of_write (List.forall_mem_map.2 fun e _ => stopsOnly_average e) h

end AirQualityPass

namespace AirQualityUpdate

variable {u : AirQualityUpdate} {r : Rounding} {earth : Earth}

theorem stopsOnly_applyGrid (grid : AirQualityGrid) (box : Envelope) (g : Graph) :
    StopsOnly IsOfPass (u.applyGrid r earth grid box g).result := by
  intro f h
  unfold applyGrid at h
  dsimp only at h
  split at h
  · next f' hf =>
    cases h
    exact AirQualityPass.isOfPass_of_run hf
  · cases h

/-- A valid file stops its update only at a fault of a pass. -/
theorem stopsOnly_applyFile_of_isValid {file : AirQualityFile} (hvalid : file.isValid = true)
    (g : Graph) : StopsOnly IsOfPass (u.applyFile r earth file g).result := by
  obtain ⟨path, content⟩ := file
  cases content with
  | grid grid => exact stopsOnly_applyGrid grid _ g
  | rejected why parts => cases hvalid

theorem stopsOnly_axisEnds (a : Option DataArray) :
    StopsOnly (·.endsProcess = false) (AirQualityFile.axisEnds a) := by
  cases a with
  | none => exact .error rfl
  | some a => exact .ite (.error rfl) (.ite (.error rfl) (.ok _))

theorem stopsOnly_applyFile (file : AirQualityFile) (g : Graph) :
    StopsOnly (·.endsProcess = false) (u.applyFile r earth file g).result := by
  obtain ⟨path, content⟩ := file
  cases content with
  | grid grid => exact (stopsOnly_applyGrid grid _ g).mono fun _ => IsOfPass.endsProcess_eq_false
  | rejected why parts =>
    have hbox : StopsOnly (·.endsProcess = false)
        (AirQualityFile.boundingBox ⟨path, .rejected why parts⟩) :=
      (stopsOnly_axisEnds _).bind fun _ => (stopsOnly_axisEnds _).bind fun _ => .ok _
    unfold applyFile
    split
    · next f hf => exact .error (hbox f hf)
    · exact .error rfl

theorem stopsOnly_applyAll {P : Fault → Prop} {files : List AirQualityFile}
    (hfile : ∀ file ∈ files, ∀ g, StopsOnly P (u.applyFile r earth file g).result) (written : Nat)
    (g : Graph) : StopsOnly P (u.applyAll r earth written files g).result := by
  induction files generalizing written g with
  | nil => exact .ok _
  | cons file files ih =>
    have hfirst := hfile file List.mem_cons_self g
    simp only [applyAll]
    split
    · next f hf => exact .error (hfirst f hf)
    · next n hn =>
      exact ih (fun file' hfile' => hfile file' (List.mem_cons_of_mem _ hfile')) _ _

theorem stopsOnly_apply (g : Graph) :
    StopsOnly (·.endsProcess = false) (u.apply r earth g).result := by
  unfold apply check
  split
  · next f hf =>
    have herror : StopsOnly (·.endsProcess = false)
        (if u.errors = "" then .ok () else .error (.invalidFiles u.errors) : Except Fault Unit) :=
      .ite (.ok _) (.error rfl)
    exact .error (herror f hf)
  · exact stopsOnly_applyAll (fun file _ => stopsOnly_applyFile file) 0 g

end AirQualityUpdate

end StreetEnv
