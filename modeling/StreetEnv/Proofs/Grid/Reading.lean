import StreetEnv.Grid.Reader
import StreetEnv.Proofs.Grid.StepMeans

/-!
# What reading a file leads to

Whatever is stored at a path, reading it gives a file that holds a grid or says in words why it does
not.  There are exceptions, all of them variables of the right number of dimensions: an axis
without a dimension, and units of the time axis that are a number other than zero or several texts
with the separator among them.

* `Rejection.text_ne_empty`: the reasons that readers give are not empty;
* `GridVariables.Stops` are the exceptions;
* `GridVariables.stops_of_parts`: any other fault of variables is reported by the file;
* `AirQualityFile.read_eq_error_iff` and `AirQualityFile.isSettled_of_read`: reading a file stops at
  the exceptions, and any other file is read;
* `AirQualityFile.read_stops_iff` puts the two together.
-/

namespace StreetEnv

/-! ### Reasons in words -/

/-- The reason is one of the library, with a text of its own. -/
def Rejection.IsOwn (why : Rejection) : Prop := ∀ text, why ≠ .reported text

theorem Rejection.text_ne_empty {why : Rejection} (h : why.IsOwn) (path : String) :
    why.text path ≠ "" := by
  have hword (s : String) : toString s = s := rfl
  intro hempty
  cases why with
  | reported text => exact h text rfl
  | _ =>
    -- the text has a word in it that is not empty
    unfold Rejection.text at hempty
    simp [String.append_eq_empty_iff, hword] at hempty

theorem GridParts.isOwn_of_check {parts : GridParts} {why : Rejection}
    (h : parts.check = .error why) : why.IsOwn := by
  intro text htext
  subst htext
  unfold check at h
  split at h
  · split at h
    · cases h
    · -- the checks of the axes and of the shape, one inside the other
      repeat' split at h
      all_goals cases h
  · cases h

/-- The parts of a grid. -/
def AirQualityGrid.parts (g : AirQualityGrid) : GridParts where
  time := some g.time
  latitude := some g.latitude
  longitude := some g.longitude
  aqi := some g.aqi
  origin := some g.origin
  unit := g.unit

theorem AirQualityGrid.check_parts (g : AirQualityGrid) : g.parts.check = .ok g := by
  simp only [AirQualityGrid.parts, GridParts.check]
  rw [dif_pos g.time_isAxis, dif_pos g.latitude_isAxis, dif_pos g.longitude_isAxis,
    dif_pos g.shape_eq]

/-- A grid is only assembled from its own parts. -/
theorem GridParts.eq_parts_of_check {parts : GridParts} {g : AirQualityGrid}
    (h : parts.check = .ok g) : parts = g.parts := by
  obtain ⟨time, latitude, longitude, aqi, origin, unit⟩ := parts
  unfold check at h
  split at h
  · next htime hlatitude hlongitude haqi =>
    dsimp only at htime hlatitude hlongitude haqi
    split at h
    · cases h
    · next horigin =>
      dsimp only at horigin
      repeat' split at h
      all_goals cases h
      rw [htime, hlatitude, hlongitude, haqi, horigin]
      rfl
  · cases h

namespace AirQualityFile

/-- The file holds a grid, or says in words why it does not. -/
def IsSettled (file : AirQualityFile) : Prop :=
  file.isValid = true ∨ ∃ text, file.error? = some text ∧ text ≠ ""

theorem isSettled_failed {why : Rejection} (h : why.IsOwn) (path : FilePath) :
    (failed path why).IsSettled :=
  .inr ⟨why.text path.text, rfl, Rejection.text_ne_empty h path.text⟩

theorem isSettled_ofParts (path : FilePath) (parts : GridParts) :
    (ofParts path parts).IsSettled := by
  unfold ofParts
  split
  · exact .inl rfl
  · next why hwhy =>
    exact .inr ⟨why.text path.text, rfl,
      Rejection.text_ne_empty (GridParts.isOwn_of_check hwhy) path.text⟩

theorem isSettled_settled (path : FilePath) {found : Except Rejection GridParts}
    (h : ∀ why, found = .error why → why.IsOwn) :
    (settled path found).1.path = path ∧ (settled path found).1.IsSettled := by
  cases found with
  | error why => exact ⟨rfl, isSettled_failed (h why rfl) path⟩
  | ok parts =>
    refine ⟨?_, isSettled_ofParts path parts⟩
    show (ofParts path parts).path = path
    unfold ofParts
    split
    · rfl
    · rfl

theorem ofParts_parts (path : FilePath) (g : AirQualityGrid) :
    ofParts path g.parts = ⟨path, .grid g⟩ := by
  simp only [ofParts, g.check_parts]

/-- A grid is only settled from its own parts. -/
theorem eq_parts_of_settled {path : FilePath} {found : Except Rejection GridParts}
    {g : AirQualityGrid} (h : (settled path found).1.grid? = some g) : found = .ok g.parts := by
  cases found with
  | error why => cases h
  | ok parts =>
    have hgrid : (ofParts path parts).grid? = some g := h
    unfold ofParts at hgrid
    split at hgrid
    · next g' hcheck =>
      cases hgrid
      rw [GridParts.eq_parts_of_check hcheck]
    · cases hgrid

theorem settled_parts (path : FilePath) (g : AirQualityGrid) :
    settled path (.ok g.parts) = (⟨path, .grid g⟩, []) := by
  simp only [settled, ofParts_parts]
  rfl

end AirQualityFile

/-! ### Variables -/

/-- The fault is one that a file can report: an impossible value, with a text. -/
def Fault.IsReportable (f : Fault) : Prop := f.isInvalidValue = true ∧ f.text ≠ ""

theorem Fault.isReportable_ambiguousUnits (size : Nat) : (ambiguousUnits size).IsReportable := by
  refine ⟨rfl, ?_⟩
  cases size with
  | zero => decide
  | succ n =>
    have htext : (ambiguousUnits (n + 1)).text = (ambiguousUnits 1).text := rfl
    rw [htext]
    decide

theorem Fault.isReportable_repeatedDimension (name : String) (dimensions : List String) :
    (repeatedDimension name dimensions).IsReportable := by
  obtain ⟨start, htext⟩ : ∃ start, (repeatedDimension name dimensions).text = start ++ ")" :=
    ⟨_, rfl⟩
  refine ⟨rfl, fun h => ?_⟩
  rw [htext, String.append_eq_empty_iff] at h
  exact absurd h.2 (by decide)

open Traversal

namespace GridVariables

variable {v : GridVariables} {timeline : Timeline} {names : GridNames} {s : VariableSet} {f : Fault}

/-- The variables are those that a set keeps under the names of a grid. -/
structure AreIn (v : GridVariables) (names : GridNames) (s : VariableSet) : Prop where
  /-- The time axis is there. -/
  time : s.find? names.time = some v.time
  /-- The latitude axis is there. -/
  latitude : s.find? names.latitude = some v.latitude
  /-- The longitude axis is there. -/
  longitude : s.find? names.longitude = some v.longitude
  /-- The block is there. -/
  aqi : s.find? names.aqi = some v.aqi

/-- Every axis has a dimension. -/
def HaveDimensions (v : GridVariables) : Prop :=
  v.time.dimensions ≠ [] ∧ v.latitude.dimensions ≠ [] ∧ v.longitude.dimensions ≠ []

/-- The block can be put in the order of the axes, or be left as it is. -/
def HasBlock (v : GridVariables) : Prop := ∃ block, v.block = .ok block

/-- The faults at which reading variables stops. -/
inductive Stops (v : GridVariables) : Fault → Prop
  /-- An axis has no dimension. -/
  | axis (h : ¬ v.HaveDimensions) : Stops v .axisWithoutDimension
  /-- The units of the time axis are a number other than zero. -/
  | number {type : CellType} {x : Number} (h : v.HasBlock)
      (hunits : v.time.units = some (.number type x)) (hx : x.value? ≠ some 0) :
      Stops v (.numericUnits type)
  /-- The units of the time axis are several texts, one of them the separator alone. -/
  | texts {ss : List String} (h : v.HasBlock) (hunits : v.time.units = some (.texts ss))
      (hss : TimeOrigin.separator ∈ ss) : Stops v .listedUnits

theorem Stops.isInvalidValue (h : v.Stops f) : f.isInvalidValue = false := by
  cases h with
  | axis => rfl
  | number => rfl
  | texts => rfl

theorem firstDimension_of_ne_nil {a : Variable} (h : a.dimensions ≠ []) :
    ∃ d, a.firstDimension = .ok d := by
  unfold Variable.firstDimension
  cases ha : a.dimensions with
  | nil => exact absurd ha h
  | cons d ds => exact ⟨d, rfl⟩

theorem firstDimension_of_eq_nil {a : Variable} (h : a.dimensions = []) :
    a.firstDimension = .error .axisWithoutDimension := by
  simp [Variable.firstDimension, h]

theorem block_of_not_haveDimensions (h : ¬ v.HaveDimensions) :
    v.block = .error .axisWithoutDimension := by
  unfold block
  by_cases ht : v.time.dimensions = []
  · rw [firstDimension_of_eq_nil ht]
    rfl
  · obtain ⟨t, ht'⟩ := firstDimension_of_ne_nil ht
    rw [ht']
    by_cases hy : v.latitude.dimensions = []
    · rw [firstDimension_of_eq_nil hy]
      rfl
    · obtain ⟨y, hy'⟩ := firstDimension_of_ne_nil hy
      have hx : v.longitude.dimensions = [] :=
        Decidable.byContradiction fun hx => h ⟨ht, hy, hx⟩
      rw [hy', firstDimension_of_eq_nil hx]
      rfl

theorem stopsOnly_arranged (a : Variable) (wanted : List String) :
    StopsOnly Fault.IsReportable (a.arranged wanted) := by
  unfold Variable.arranged
  refine StopsOnly.ite ?_ (.ok _)
  split
  · exact .ok _
  · exact StopsOnly.ite (.ok _) (.error (Fault.isReportable_repeatedDimension _ _))

/-- With their dimensions, the axes leave only the block to be refused. -/
theorem stopsOnly_block (h : v.HaveDimensions) : StopsOnly Fault.IsReportable v.block := by
  obtain ⟨t, ht⟩ := firstDimension_of_ne_nil h.1
  obtain ⟨y, hy⟩ := firstDimension_of_ne_nil h.2.1
  obtain ⟨x, hx⟩ := firstDimension_of_ne_nil h.2.2
  unfold block
  rw [ht, hy, hx]
  exact stopsOnly_arranged v.aqi [t, y, x]

theorem stops_of_ofUnits? (hblock : v.HasBlock)
    (h : TimeOrigin.ofUnits? timeline v.time.units = .error f) : f.IsReportable ∨ v.Stops f := by
  unfold TimeOrigin.ofUnits? at h
  split at h
  · cases h
  · cases h
  · next ss hunits =>
    split at h
    case isTrue hss =>
      cases h
      exact .inr (.texts hblock hunits hss)
    case isFalse => cases h
  · next type x hunits =>
    split at h
    case isTrue => cases h
    case isFalse hx =>
      cases h
      exact .inr (.number hblock hunits hx)
  · cases h
  · cases h
    exact .inl (Fault.isReportable_ambiguousUnits _)

theorem stops_of_parts (h : v.parts timeline names = .error f) :
    v.aqi.array.rank = 3 ∧ (f.IsReportable ∨ v.Stops f) := by
  unfold parts at h
  split at h
  case isTrue => cases h
  case isFalse hrank =>
    refine ⟨Decidable.of_not_not hrank, ?_⟩
    obtain hblock | ⟨block, hblock, h⟩ := bind_eq_error_iff.1 h
    · by_cases hdims : v.HaveDimensions
      · exact .inl (stopsOnly_block hdims f hblock)
      · rw [block_of_not_haveDimensions hdims] at hblock
        cases hblock
        exact .inr (.axis hdims)
    · obtain horigin | ⟨o, -, h⟩ := bind_eq_error_iff.1 h
      · exact stops_of_ofUnits? ⟨block, hblock⟩ horigin
      · cases h

theorem Stops.parts_eq (h : v.Stops f) (hrank : v.aqi.array.rank = 3) :
    v.parts timeline names = .error f := by
  have hunits {block : DataArray} (hblock : v.block = .ok block)
      (hf : TimeOrigin.ofUnits? timeline v.time.units = .error f) :
      v.parts timeline names = .error f := by
    simp only [parts, hrank, ne_eq, not_true_eq_false, if_false, hblock, hf]
    rfl
  cases h with
  | axis hdims =>
    simp only [parts, hrank, ne_eq, not_true_eq_false, if_false, block_of_not_haveDimensions hdims]
    rfl
  | number hblock hnumber hx =>
    obtain ⟨block, hblock⟩ := hblock
    exact hunits hblock (by simp only [TimeOrigin.ofUnits?, hnumber, hx, if_false])
  | texts hblock htexts hss =>
    obtain ⟨block, hblock⟩ := hblock
    exact hunits hblock (by simp only [TimeOrigin.ofUnits?, htexts, hss, if_true])

theorem eq_partsFrom_of_parts {g : AirQualityGrid}
    (h : v.parts timeline names = .ok (.ok g.parts)) :
    ∃ block o, v.block = .ok block ∧ TimeOrigin.ofUnits? timeline v.time.units = .ok (some o) ∧
      g.parts = v.partsFrom block o := by
  unfold parts at h
  split at h
  · cases h
  · obtain ⟨block, hblock, h⟩ := bind_eq_ok_iff.1 h
    obtain ⟨o, ho, h⟩ := bind_eq_ok_iff.1 h
    cases o with
    | none => cases h
    | some o => exact ⟨block, o, hblock, ho, (Except.ok.inj (Except.ok.inj h)).symm⟩

theorem isOwn_of_parts {why : Rejection} (h : v.parts timeline names = .ok (.error why)) :
    why.IsOwn := by
  rintro text rfl
  unfold parts at h
  split at h
  · cases h
  · obtain ⟨block, -, h⟩ := bind_eq_ok_iff.1 h
    obtain ⟨o, -, h⟩ := bind_eq_ok_iff.1 h
    cases o with
    | none => cases h
    | some o => cases h

end GridVariables

namespace AirQualityFile

variable {timeline : Timeline} {names : GridNames} {s : VariableSet} {v : GridVariables}
  {path : FilePath} {stored : Option Dataset} {f : Fault}

theorem partsOfVariables_of_areIn (h : v.AreIn names s) :
    partsOfVariables timeline names s = v.parts timeline names := by
  have hfind : [names.time, names.latitude, names.longitude, names.aqi].find?
      (fun name => (s.find? name).isNone) = none := by
    simp [h.time, h.latitude, h.longitude, h.aqi]
  simp only [partsOfVariables, hfind, h.time, h.latitude, h.longitude, h.aqi]

theorem partsOfVariables_of_missing (h : ∀ v : GridVariables, ¬ v.AreIn names s) :
    ∃ name, partsOfVariables timeline names s = .ok (.error (.missingVariable name)) := by
  cases ht : s.find? names.time with
  | none => exact ⟨names.time, by simp [partsOfVariables, ht]⟩
  | some time =>
    cases hy : s.find? names.latitude with
    | none => exact ⟨names.latitude, by simp [partsOfVariables, ht, hy]⟩
    | some latitude =>
      cases hx : s.find? names.longitude with
      | none => exact ⟨names.longitude, by simp [partsOfVariables, ht, hy, hx]⟩
      | some longitude =>
        cases ha : s.find? names.aqi with
        | none => exact ⟨names.aqi, by simp [partsOfVariables, ht, hy, hx, ha]⟩
        | some aqi => exact absurd ⟨ht, hy, hx, ha⟩ (h ⟨time, latitude, longitude, aqi⟩)

theorem exists_of_partsOfVariables (h : partsOfVariables timeline names s = .error f) :
    ∃ v : GridVariables, v.AreIn names s ∧ v.aqi.array.rank = 3 ∧ (f.IsReportable ∨ v.Stops f) := by
  by_cases hv : ∃ v : GridVariables, v.AreIn names s
  · obtain ⟨v, hv⟩ := hv
    rw [partsOfVariables_of_areIn hv] at h
    exact ⟨v, hv, GridVariables.stops_of_parts h⟩
  · obtain ⟨name, hname⟩ := partsOfVariables_of_missing (not_exists.1 hv)
    rw [hname] at h
    cases h

theorem isOwn_of_partsOfVariables {why : Rejection}
    (h : partsOfVariables timeline names s = .ok (.error why)) : why.IsOwn := by
  by_cases hv : ∃ v : GridVariables, v.AreIn names s
  · obtain ⟨v, hv⟩ := hv
    rw [partsOfVariables_of_areIn hv] at h
    exact GridVariables.isOwn_of_parts h
  · obtain ⟨name, hname⟩ := partsOfVariables_of_missing (not_exists.1 hv)
    rw [hname] at h
    cases h
    exact fun _ => nofun

/-! ### Files -/

theorem isOwn_of_partsOfRaster {raster : Raster} {why : Rejection}
    (h : partsOfRaster timeline names raster = .error why) : why.IsOwn := by
  rintro text rfl
  unfold partsOfRaster at h
  split at h
  · cases h
  · split at h
    · cases h
    · split at h
      · cases h
      · cases h

theorem caught_of_isInvalidValue (h : f.isInvalidValue = true) :
    caught path (.error f) = .ok (refused path (.reported f.text)) := if_pos h

theorem caught_of_not_isInvalidValue (h : f.isInvalidValue = false) :
    caught path (.error f) = .error f := if_neg (h ▸ Bool.false_ne_true)

theorem caught_eq_error_iff {found : GridReading} :
    caught path found = .error f ↔ found = .error f ∧ f.isInvalidValue = false := by
  cases found with
  | ok found => exact iff_of_false nofun nofun
  | error f' =>
    cases hf : f'.isInvalidValue with
    | true =>
      rw [caught_of_isInvalidValue hf]
      refine iff_of_false nofun ?_
      rintro ⟨h, hnot⟩
      cases h
      rw [hf] at hnot
      cases hnot
    | false =>
      rw [caught_of_not_isInvalidValue hf]
      constructor
      · intro h
        cases h
        exact ⟨rfl, hf⟩
      · rintro ⟨h, -⟩
        cases h
        rfl

theorem isSettled_refused {why : Rejection} (h : why.text path.text ≠ "") :
    (refused path why).1.path = path ∧ (refused path why).1.IsSettled :=
  ⟨rfl, .inr ⟨_, rfl, h⟩⟩

theorem caught_eq_ok_iff {reading : GridReading} {found : AirQualityFile × List Notice} :
    caught path reading = .ok found ↔
      (∃ parts, reading = .ok parts ∧ settled path parts = found) ∨
        ∃ f, reading = .error f ∧ f.isInvalidValue = true ∧
          refused path (.reported f.text) = found := by
  cases reading with
  | ok parts => simp [caught]
  | error f =>
    cases hf : f.isInvalidValue with
    | true => simp [caught_of_isInvalidValue hf, hf]
    | false => simp [caught_of_not_isInvalidValue hf, hf]

/-- A grid is only caught from its own parts. -/
theorem eq_parts_of_caught {reading : GridReading} {found : AirQualityFile × List Notice}
    {g : AirQualityGrid} (h : caught path reading = .ok found) (hg : found.1.grid? = some g) :
    reading = .ok (.ok g.parts) := by
  obtain ⟨parts, rfl, rfl⟩ | ⟨f, -, -, rfl⟩ := caught_eq_ok_iff.1 h
  · rw [eq_parts_of_settled hg]
  · cases hg

theorem isSettled_caught {file : AirQualityFile} {notices : List Notice}
    (h : caught path (partsOfVariables timeline names s) = .ok (file, notices)) :
    file.path = path ∧ file.IsSettled := by
  obtain ⟨parts, hparts, hfound⟩ | ⟨f, hparts, hf, hfound⟩ := caught_eq_ok_iff.1 h
  · have hsettled := isSettled_settled path fun why (hwhy : parts = .error why) =>
      isOwn_of_partsOfVariables (hwhy ▸ hparts)
    rw [hfound] at hsettled
    exact hsettled
  · obtain ⟨v, -, -, hreportable | hstops⟩ := exists_of_partsOfVariables hparts
    · have hrefused : (refused path (.reported f.text)).1.path = path ∧
          (refused path (.reported f.text)).1.IsSettled := isSettled_refused hreportable.2
      rw [hfound] at hrefused
      exact hrefused
    · rw [hstops.isInvalidValue] at hf
      cases hf

theorem read_cases (timeline : Timeline) (names : GridNames) (path : FilePath)
    (stored : Option Dataset) :
    (variableSuffixes.contains path.kind = true ∧ ∃ s, stored = some (.variableSet s) ∧
      read timeline names path stored = caught path (partsOfVariables timeline names s)) ∨
    (¬ (variableSuffixes.contains path.kind = true ∧ ∃ s, stored = some (.variableSet s)) ∧
      ∃ found, read timeline names path stored = .ok found ∧
        found.1.path = path ∧ found.1.IsSettled) := by
  have hrefused {why : Rejection} (hwhy : why.IsOwn) :
      (refused path why).1.path = path ∧ (refused path why).1.IsSettled :=
    isSettled_refused (Rejection.text_ne_empty hwhy path.text)
  have hunreadable : Rejection.unreadable.IsOwn := fun _ => nofun
  have hunsupported : Rejection.unsupported.IsOwn := fun _ => nofun
  unfold read
  by_cases hvars : variableSuffixes.contains path.kind = true
  · rw [if_pos hvars]
    split
    · next s => exact .inl ⟨hvars, s, rfl, rfl⟩
    · next hnot => exact .inr ⟨fun h => hnot _ h.2.choose_spec, _, rfl, hrefused hunreadable⟩
  · refine .inr ⟨fun h => hvars h.1, ?_⟩
    rw [if_neg hvars]
    split
    · split
      · exact ⟨_, rfl, isSettled_settled path fun _ => isOwn_of_partsOfRaster⟩
      · exact ⟨_, rfl, hrefused hunreadable⟩
    · exact ⟨_, rfl, hrefused hunsupported⟩

theorem read_eq_error_iff : read timeline names path stored = .error f ↔
    variableSuffixes.contains path.kind = true ∧
      ∃ s v, stored = some (.variableSet s) ∧ GridVariables.AreIn v names s ∧
        v.aqi.array.rank = 3 ∧ v.Stops f := by
  rcases read_cases timeline names path stored with ⟨hvars, s, rfl, hread⟩ | ⟨hnot, found, hread, -⟩
  · rw [hread, caught_eq_error_iff]
    constructor
    · rintro ⟨hparts, hf⟩
      obtain ⟨v, hv, hrank, hreportable | hstops⟩ := exists_of_partsOfVariables hparts
      · rw [hreportable.1] at hf
        cases hf
      · exact ⟨hvars, s, v, rfl, hv, hrank, hstops⟩
    · rintro ⟨-, s', v, hs, hv, hrank, hstops⟩
      cases hs
      exact ⟨(partsOfVariables_of_areIn hv).trans (hstops.parts_eq hrank), hstops.isInvalidValue⟩
  · rw [hread]
    constructor
    · exact fun h => nomatch h
    · rintro ⟨hvars, s, -, hs, -⟩
      exact absurd ⟨hvars, s, hs⟩ hnot

theorem isSettled_of_read {file : AirQualityFile} {notices : List Notice}
    (h : read timeline names path stored = .ok (file, notices)) :
    file.path = path ∧ file.IsSettled := by
  rcases read_cases timeline names path stored with ⟨-, s, rfl, hread⟩ | ⟨-, found, hread, hfound⟩
  · rw [hread] at h
    exact isSettled_caught h
  · rw [hread] at h
    rw [Except.ok.inj h] at hfound
    exact hfound

theorem partsOfVariables_of_read {found : AirQualityFile × List Notice} {g : AirQualityGrid}
    (h : read timeline names path (some (.variableSet s)) = .ok found)
    (hg : found.1.grid? = some g) : partsOfVariables timeline names s = .ok (.ok g.parts) := by
  unfold read at h
  split at h
  · exact eq_parts_of_caught h hg
  · split at h
    · cases h
      cases hg
    · cases h
      cases hg

/-- **Reading stops at the exceptions alone.**  Whatever is stored at a path, reading it stops only
if its suffix is that of variables, the variables of a grid are there with a block of three
dimensions, and an axis has no dimension or the units of the time axis are a number other than zero
or several texts with the separator among them.  In all other cases it gives the file of that path,
which holds a grid or says in words why it does not. -/
theorem read_stops_iff (timeline : Timeline) (names : GridNames) (path : FilePath)
    (stored : Option Dataset) :
    (∀ f, read timeline names path stored = .error f ↔
      variableSuffixes.contains path.kind = true ∧
        ∃ s v, stored = some (.variableSet s) ∧ GridVariables.AreIn v names s ∧
          v.aqi.array.rank = 3 ∧ v.Stops f) ∧
    ∀ file notices, read timeline names path stored = .ok (file, notices) →
      file.path = path ∧ (file.isValid = true ∨ ∃ text, file.error? = some text ∧ text ≠ "") :=
  ⟨fun _ => read_eq_error_iff, fun _ _ => isSettled_of_read⟩

end AirQualityFile

namespace Strip

/-- The variables of a grid over two cells of the strip, with units of the time axis. -/
def variableSet (units : Attribute) : VariableSet :=
  ⟨[⟨"time", ["step"], .ofList .int64 [6, 7], some units⟩,
    ⟨"latitude", ["row"], .ofList .float64 [0], none⟩,
    ⟨"longitude", ["column"], .ofList .float64 [(centre 0).x, (centre 1).x], none⟩,
    ⟨"AQI", ["step", "row", "column"], .ofCells .int16 [2, 1, 2] [1, 2, 3, 4], none⟩]⟩

/-- What reading the variables leads to. -/
def readVariables (units : Attribute) : Except Fault (AirQualityFile × List Notice) :=
  AirQualityFile.read .standard {} (.ofText "strip.nc") (some (.variableSet (variableSet units)))

end Strip

namespace AirQualityFile

/-- Units in words give a grid, and the units `5` stop the reading. -/
theorem read_stops_iff_strip :
    (∃ file notices,
      Strip.readVariables (.text "hours since 1970-01-01") = .ok (file, notices) ∧
      file.path = .ofText "strip.nc" ∧
      (file.isValid = true ∨ ∃ text, file.error? = some text ∧ text ≠ "")) ∧
    Strip.readVariables (.number .int64 5) = .error (.numericUnits .int64) := by
  constructor
  · have hok : (Strip.readVariables (.text "hours since 1970-01-01")).toOption.isSome = true := by
      decide +kernel
    cases hread : Strip.readVariables (.text "hours since 1970-01-01") with
    | error f => simp [hread, Except.toOption] at hok
    | ok found =>
      obtain ⟨file, notices⟩ := found
      exact ⟨file, notices, rfl, (read_stops_iff .standard {} (.ofText "strip.nc")
        (some (.variableSet (Strip.variableSet (.text "hours since 1970-01-01"))))).2 file notices
          hread⟩
  · let v : GridVariables :=
      { time := ⟨"time", ["step"], .ofList .int64 [6, 7], some (.number .int64 5)⟩
        latitude := ⟨"latitude", ["row"], .ofList .float64 [0], none⟩
        longitude := ⟨"longitude", ["column"],
          .ofList .float64 [(Strip.centre 0).x, (Strip.centre 1).x], none⟩
        aqi := ⟨"AQI", ["step", "row", "column"], .ofCells .int16 [2, 1, 2] [1, 2, 3, 4], none⟩ }
    have hblock : v.HasBlock := ⟨_, rfl⟩
    refine ((read_stops_iff .standard {} (.ofText "strip.nc")
      (some (.variableSet (Strip.variableSet (.number .int64 5))))).1 _).2
        ⟨by decide, _, v, rfl, ⟨?_, ?_, ?_, ?_⟩, rfl, .number hblock rfl (by decide)⟩
    all_goals decide +kernel

/-- Not every file can be read without a fault. -/
theorem exists_read_stops :
    ¬ ∀ (timeline : Timeline) (names : GridNames) (path : FilePath) (stored : Option Dataset),
      ∃ found, read timeline names path stored = .ok found := by
  intro h
  obtain ⟨found, hfound⟩ :=
    h .standard {} (.ofText "strip.nc") (some (.variableSet (Strip.variableSet (.number .int64 5))))
  have herror : (Strip.readVariables (.number .int64 5)).toOption.isSome = false := by
    decide +kernel
  rw [Strip.readVariables, hfound] at herror
  cases herror

end AirQualityFile

end StreetEnv
