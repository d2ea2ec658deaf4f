import StreetEnv.Proofs.Grid.CutShort
import StreetEnv.Proofs.Grid.Faults

/-!
# Updates that are refused

An update looks at the joined reasons of its invalid files before it touches the graph.  The joined
text is empty for valid files alone, and also for one invalid file with an empty reason.  With that
one exception the update is refused exactly if some file is invalid; in the exception it starts, and
stops at that file.

* `AirQualityUpdate.reasons` lists the reasons of the invalid files;
* `AirQualityUpdate.errors_eq_empty_iff`: when the joined text is empty;
* `AirQualityUpdate.apply_of_reasons`: the update that is refused;
* `AirQualityUpdate.applyAll_append_of_not_isValid`: files in turn, one of which is invalid;
* `AirQualityUpdate.refused_unless_silent` puts these together.
-/

namespace StreetEnv

theorem intercalate_eq_empty_iff {separator : String} (h : separator ≠ "") (texts : List String) :
    separator.intercalate texts = "" ↔ texts = [] ∨ texts = [""] := by
  cases texts with
  | nil => simp
  | cons text texts =>
    cases texts with
    | nil => simp
    | cons text' texts => simp [String.append_eq_empty_iff, h]

namespace AirQualityFile

theorem isValid_eq_false_iff {file : AirQualityFile} :
    file.isValid = false ↔ ∃ reason, file.error? = some reason := by
  rw [isValid, Option.isNone_eq_false_iff, Option.isSome_iff_exists]

end AirQualityFile

namespace AirQualityUpdate

open AirQualityPass Traversal

variable {u : AirQualityUpdate} {r : Rounding} {earth : Earth}

/-- The reasons of the invalid files, in order. -/
def reasons (u : AirQualityUpdate) : List String := u.files.filterMap AirQualityFile.error?

theorem reasons_ne_nil_iff : u.reasons ≠ [] ↔ ∃ file ∈ u.files, file.isValid = false := by
  rw [reasons, ne_eq, List.filterMap_eq_nil_iff]
  simp only [AirQualityFile.isValid_eq_false_iff, ← Option.isSome_iff_exists,
    ← Option.ne_none_iff_isSome]
  simp

theorem errors_eq_empty_iff : u.errors = "" ↔ u.reasons = [] ∨ u.reasons = [""] :=
  intercalate_eq_empty_iff (by decide) u.reasons

theorem exists_of_reasons_eq_singleton {reason : String} (h : u.reasons = [reason]) :
    ∃ before file after, u.files = before ++ file :: after ∧ file.error? = some reason ∧
      ∀ other ∈ before ++ after, other.isValid = true := by
  obtain ⟨before, file, after, hfiles, hbefore, hfile, hafter⟩ := List.filterMap_eq_cons_iff.1 h
  refine ⟨before, file, after, hfiles, hfile, fun other hother => ?_⟩
  rw [AirQualityFile.isValid, Option.isNone_iff_eq_none]
  rcases List.mem_append.1 hother with hother | hother
  · exact hbefore other hother
  · exact List.filterMap_eq_nil_iff.1 hafter other hother

theorem check_of_reasons (hnil : u.reasons ≠ []) (hsilent : u.reasons ≠ [""]) :
    u.check = .error (.invalidFiles (", ".intercalate u.reasons)) :=
  if_neg fun h => (errors_eq_empty_iff.1 h).elim hnil hsilent

theorem check_of_errors_eq_empty (h : u.reasons = [] ∨ u.reasons = [""]) : u.check = .ok () :=
  if_pos (errors_eq_empty_iff.2 h)

theorem apply_of_reasons (hnil : u.reasons ≠ []) (hsilent : u.reasons ≠ [""]) (g : Graph) :
    u.apply r earth g = .failed g [] (.invalidFiles (", ".intercalate u.reasons)) := by
  simp only [apply, check_of_reasons hnil hsilent]
  rfl

/-- Valid files are not refused, whatever else may stop their update. -/
theorem apply_ne_invalidFiles (hvalid : ∀ file ∈ u.files, file.isValid = true) (g : Graph)
    (errors : String) : (u.apply r earth g).result ≠ .error (.invalidFiles errors) := by
  intro h
  simp only [apply, check_eq_ok_of_isValid hvalid] at h
  have hpass : StopsOnly Fault.IsOfPass (u.applyAll r earth 0 u.files g).result :=
    stopsOnly_applyAll (fun file hfile => stopsOnly_applyFile_of_isValid (hvalid file hfile)) 0 g
  exact (hpass _ h).ne_invalidFiles errors rfl

/-! ### The exception -/

variable (u r earth) in
theorem applyFile_of_not_isValid {file : AirQualityFile} (h : file.isValid = false) (g : Graph) :
    ∃ f, u.applyFile r earth file g = .failed g [] f := by
  obtain ⟨path, content⟩ := file
  cases content with
  | grid grid => cases h
  | rejected why parts =>
    unfold applyFile
    split
    · next f _ => exact ⟨f, rfl⟩
    · exact ⟨_, rfl⟩

variable (u r earth) in
/-- Files in turn, one of which is invalid, stop at that file at the latest.  What the files before
it wrote stays. -/
theorem applyAll_append_of_not_isValid {file : AirQualityFile} (h : file.isValid = false)
    (before after : List AirQualityFile) (written : Nat) (g : Graph) :
    (∀ n, (u.applyAll r earth written (before ++ file :: after) g).result ≠ .ok n) ∧
    (u.applyAll r earth written (before ++ file :: after) g).graph =
      (u.applyAll r earth written before g).graph := by
  induction before generalizing written g with
  | nil =>
    obtain ⟨f, hf⟩ := applyFile_of_not_isValid u r earth h g
    simp only [List.nil_append, applyAll, hf, Outcome.failed]
    exact ⟨fun n => by simp, trivial⟩
  | cons first before ih =>
    simp only [List.cons_append, applyAll]
    cases (u.applyFile r earth first g).result with
    | error f => exact ⟨fun n => by simp, rfl⟩
    | ok n => exact ih (written + n) (u.applyFile r earth first g).graph

/-- **An update is refused exactly if some file is invalid, unless the only reason is empty.**  The
refusal says the reasons of all invalid files in order, joined by `, `, and leaves the graph as it
is.  If the only reason is empty, the update starts: it never succeeds, but what the files before
the invalid one wrote stays. -/
theorem refused_unless_silent (u : AirQualityUpdate) (r : Rounding) (earth : Earth) (g : Graph) :
    (u.reasons ≠ [""] →
      ((∃ errors, u.check = .error (.invalidFiles errors)) ↔
        ∃ file ∈ u.files, file.isValid = false) ∧
      ((∃ errors, (u.apply r earth g).result = .error (.invalidFiles errors)) ↔
        ∃ file ∈ u.files, file.isValid = false) ∧
      ((∃ file ∈ u.files, file.isValid = false) →
        u.check = .error (.invalidFiles (", ".intercalate u.reasons)) ∧
        u.apply r earth g = .failed g [] (.invalidFiles (", ".intercalate u.reasons)))) ∧
    (u.reasons = [""] →
      u.check = .ok () ∧ (∀ n, (u.apply r earth g).result ≠ .ok n) ∧
      ∃ before file after, u.files = before ++ file :: after ∧ file.isValid = false ∧
        (∀ other ∈ before ++ after, other.isValid = true) ∧
        (u.apply r earth g).graph = (u.applyAll r earth 0 before g).graph) := by
  refine ⟨fun hsilent => ?_, fun hsilent => ?_⟩
  · let text := ", ".intercalate u.reasons
    have hrefused (h : ∃ file ∈ u.files, file.isValid = false) :
        u.check = .error (.invalidFiles text) ∧
        u.apply r earth g = .failed g [] (.invalidFiles text) :=
      ⟨check_of_reasons (reasons_ne_nil_iff.2 h) hsilent,
        apply_of_reasons (reasons_ne_nil_iff.2 h) hsilent g⟩
    refine ⟨⟨?_, fun h => ⟨text, (hrefused h).1⟩⟩, ⟨?_, fun h => ⟨text, ?_⟩⟩, hrefused⟩
    · rintro ⟨errors, herrors⟩
      refine reasons_ne_nil_iff.1 fun hnil => ?_
      rw [check_of_errors_eq_empty (.inl hnil)] at herrors
      cases herrors
    · rintro ⟨errors, herrors⟩
      by_cases h : ∃ file ∈ u.files, file.isValid = false
      · exact h
      · refine absurd herrors (apply_ne_invalidFiles (fun file hfile => ?_) g errors)
        exact eq_true_of_ne_false fun hfalse => h ⟨file, hfile, hfalse⟩
    · rw [(hrefused h).2]
      rfl
  · have hcheck : u.check = .ok () := check_of_errors_eq_empty (.inr hsilent)
    obtain ⟨before, file, after, hfiles, hreason, hothers⟩ := exists_of_reasons_eq_singleton hsilent
    have hinvalid := AirQualityFile.isValid_eq_false_iff.2 ⟨"", hreason⟩
    obtain ⟨hresult, hgraph⟩ := applyAll_append_of_not_isValid u r earth hinvalid before after 0 g
    have happly : u.apply r earth g = u.applyAll r earth 0 (before ++ file :: after) g := by
      simp only [apply, hcheck, hfiles]
    rw [happly]
    exact ⟨hcheck, hresult, before, file, after, hfiles, hinvalid, hothers, hgraph⟩

end AirQualityUpdate

namespace Strip

/-- A valid file over the strip. -/
def validFile : AirQualityFile := ⟨.ofText "strip.nc", .grid (grid 2 .int16 [1, 2, 3, 4, 5, 6] 6)⟩

/-- A file that is invalid for a reason. -/
def invalidFile (reason : String) : AirQualityFile :=
  .failed (.ofText "broken.nc") (.reported reason)

/-- A valid file among invalid ones, one of which has an empty reason. -/
def broken : AirQualityUpdate :=
  { files := [invalidFile "", validFile, invalidFile "no grid", invalidFile "no time"] }

/-- A valid file and an invalid one with an empty reason. -/
def silent : AirQualityUpdate := { files := [validFile, invalidFile ""] }

/-- One street of two columns. -/
def lane : Graph := ⟨[street 0 2]⟩

end Strip

namespace AirQualityUpdate

/-- Three reasons are joined and the graph is left alone; a single empty one lets the update
start. -/
theorem refused_unless_silent_strip :
    Strip.broken.reasons = ["", "no grid", "no time"] ∧
    Strip.broken.apply .binary64 Strip.earth Strip.lane =
      .failed Strip.lane [] (.invalidFiles ", no grid, no time") ∧
    Strip.silent.reasons = [""] ∧
    ∀ n, (Strip.silent.apply .binary64 Strip.earth Strip.lane).result ≠ .ok n := by
  have hbroken : Strip.broken.reasons = ["", "no grid", "no time"] := rfl
  have hsilent : Strip.silent.reasons = [""] := rfl
  have hinvalid : ∃ file ∈ Strip.broken.files, file.isValid = false :=
    ⟨Strip.invalidFile "", by simp [Strip.broken], rfl⟩
  refine ⟨hbroken, ?_, hsilent, ?_⟩
  · have hrefused := (refused_unless_silent Strip.broken .binary64 Strip.earth Strip.lane).1
      (by simp [hbroken])
    exact (hrefused.2.2 hinvalid).2
  · exact ((refused_unless_silent Strip.silent .binary64 Strip.earth Strip.lane).2 hsilent).2.1

/-- An invalid file does not always keep an update from starting, nor the graph as it is. -/
theorem exists_started_with_invalid_file :
    ¬ ∀ (u : AirQualityUpdate) (earth : Earth) (g : Graph),
      (∃ file ∈ u.files, file.isValid = false) →
        (∃ errors, u.check = .error (.invalidFiles errors)) ∧
        (u.apply .binary64 earth g).graph = g := by
  intro h
  obtain ⟨-, hgraph⟩ := h Strip.silent Strip.earth Strip.lane
    ⟨Strip.invalidFile "", by simp [Strip.silent], rfl⟩
  exact absurd hgraph (by decide +kernel)

end AirQualityUpdate

end StreetEnv
