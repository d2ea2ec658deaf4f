import StreetEnv.Proofs.Grid.Reading
import StreetEnv.Proofs.Time.Timeline

/-!
# The time of the first step

A valid file has an origin and a first entry of its time axis.  The checks of a file do not ask
whether these are a time.  If they are, and if the instant of both together is in range, the
milliseconds of the first step are those of this instant, rounded down.  If one of them is no time,
the file still answers with the least number of milliseconds.  In all other cases it stops.

All of this holds for every lawful timeline, whatever texts it reads and whatever range it has.

* `AirQualityGrid.firstOffset` is the first entry of the time axis;
* `AirQualityGrid.StartsAt`: the instant of the first step, in nanoseconds;
* `AirQualityGrid.StartsAtNoTime`: the first step is at no time;
* `AirQualityGrid.originMillis_eq_ok_iff`: what the file answers;
* `AirQualityFile.originMillis_of_isValid`: all of it, for a valid file.
-/

namespace StreetEnv

open Traversal

namespace AirQualityGrid

variable {g : AirQualityGrid} {timeline : Timeline} {error : Rat} {m n : Int}

/-- The first entry of the time axis, as a double. -/
def firstOffset (g : AirQualityGrid) : Number := Rounding.binary64.store (g.time.get [0])

/-- The first step is at the instant `n`: the sum of the origin and of so many units, in nanoseconds
and as a machine word. -/
def StartsAt (g : AirQualityGrid) (timeline : Timeline) (n : Int) : Prop :=
  ∃ offset instant, timeline.offset? g.unit g.firstOffset = some offset ∧
    timeline.add? g.origin offset = some instant ∧ instant.nanos? = some n ∧
    timeline.word? instant = some n

/-- The origin or the offset is no time. -/
def StartsAtNoTime (g : AirQualityGrid) (timeline : Timeline) : Prop :=
  ∃ offset, timeline.offset? g.unit g.firstOffset = some offset ∧
    (g.origin = .notATime ∨ offset = .notATime)

theorem elim_eq_ok_iff {α : Type} {x : Option α} {f : Fault} {a : α} :
    x.elim (.error f) Except.ok = .ok a ↔ x = some a := by
  cases x with
  | none => simp
  | some b => simp

theorem timestampAt_zero_eq_ok_iff {instant : Moment} :
    g.timestampAt timeline 0 = .ok instant ↔
      ∃ offset, timeline.offset? g.unit g.firstOffset = some offset ∧
        timeline.add? g.origin offset = some instant := by
  have hsize : 0 < g.timeSize := Nat.pos_of_ne_zero g.time_isAxis.2
  have hrange : ¬ (g.timeSize : Int) ≤ 0 := by omega
  have hbind : g.timestampAt timeline 0 =
      (timeline.offset? g.unit g.firstOffset).elim (.error .offsetOutOfRange) .ok >>= fun offset =>
        (timeline.add? g.origin offset).elim (.error .instantOutOfRange) .ok := by
    unfold timestampAt
    simp only [lt_self_iff_false, false_or, if_false, hrange]
    rfl
  simp only [hbind, bind_eq_ok_iff, elim_eq_ok_iff]

theorem originMillis_eq_ok_iff_word : g.originMillis timeline = .ok m ↔
    ∃ offset instant n, timeline.offset? g.unit g.firstOffset = some offset ∧
      timeline.add? g.origin offset = some instant ∧ timeline.word? instant = some n ∧
      m = n / 1000000 := by
  have hdivide (n : Int) : Int.fdiv n 1000000 = n / 1000000 :=
    Int.fdiv_eq_ediv_of_nonneg n (by decide)
  simp only [originMillis, bind_eq_ok_iff, timestampAt_zero_eq_ok_iff, elim_eq_ok_iff, hdivide]
  constructor
  · rintro ⟨instant, ⟨offset, hoffset, hinstant⟩, n, hn, hm⟩
    exact ⟨offset, instant, n, hoffset, hinstant, hn, (Except.ok.inj hm).symm⟩
  · rintro ⟨offset, instant, n, hoffset, hinstant, hn, rfl⟩
    exact ⟨instant, ⟨offset, hoffset, hinstant⟩, n, hn, rfl⟩

/-- **What a file answers**: the milliseconds of the instant, or the least number of them. -/
theorem originMillis_eq_ok_iff (h : timeline.IsLawful error) : g.originMillis timeline = .ok m ↔
    (∃ n, g.StartsAt timeline n ∧ m = n / 1000000) ∨
      g.StartsAtNoTime timeline ∧ m = -9223372036855 := by
  rw [originMillis_eq_ok_iff_word]
  constructor
  · rintro ⟨offset, instant, n, hoffset, hinstant, hn, rfl⟩
    by_cases habsent : g.origin = .notATime ∨ offset = .notATime
    · rw [h.add?_absent _ _ habsent] at hinstant
      cases hinstant
      rw [h.word?_notATime] at hn
      cases hn
      exact .inr ⟨⟨offset, hoffset, habsent⟩, by decide⟩
    · obtain ⟨horigin, hpresent⟩ := not_or.1 habsent
      obtain ⟨a, ha⟩ := Moment.exists_nanos? horigin
      obtain ⟨b, hb⟩ := Moment.exists_nanos? hpresent
      have hsum : instant.nanos? = some (a + b) := h.nanos?_add _ _ _ _ _ hinstant ha hb
      obtain rfl : n = a + b := h.word?_eq _ _ _ hn hsum
      exact .inl ⟨a + b, ⟨offset, instant, hoffset, hinstant, hsum, hn⟩, rfl⟩
  · rintro (⟨n, ⟨offset, instant, hoffset, hinstant, -, hn⟩, rfl⟩ |
      ⟨⟨offset, hoffset, habsent⟩, rfl⟩)
    · exact ⟨offset, instant, n, hoffset, hinstant, hn, rfl⟩
    · exact ⟨offset, .notATime, _, hoffset, h.add?_absent _ _ habsent, h.word?_notATime, by decide⟩

theorem StartsAt.isOffset (hn : g.StartsAt timeline n) (h : timeline.IsLawful error) :
    ∃ a, g.origin.nanos? = some a ∧ g.firstOffset.isFinite = true ∧
      Moment.IsOffset error g.unit g.firstOffset.value (n - a) := by
  obtain ⟨offset, instant, hoffset, hinstant, hn, -⟩ := hn
  have hpresent : ¬ (g.origin = .notATime ∨ offset = .notATime) := by
    intro habsent
    rw [h.add?_absent _ _ habsent] at hinstant
    cases hinstant
    cases hn
  obtain ⟨a, ha⟩ := Moment.exists_nanos? fun horigin => hpresent (.inl horigin)
  obtain ⟨b, hb⟩ := Moment.exists_nanos? fun habsent => hpresent (.inr habsent)
  have hsum := h.nanos?_add _ _ _ _ _ hinstant ha hb
  obtain rfl : n = a + b := Option.some.inj (hn.symm.trans hsum)
  refine ⟨a, ha, ?_⟩
  rw [add_sub_cancel_left]
  exact h.isOffset _ _ _ _ hoffset hb

theorem startsAtNoTime_iff (h : timeline.IsLawful error) : g.StartsAtNoTime timeline ↔
    g.firstOffset = .nan ∨
      g.origin = .notATime ∧ ∃ d, timeline.offset? g.unit g.firstOffset = some d := by
  constructor
  · rintro ⟨d, hd, horigin | rfl⟩
    · exact .inr ⟨horigin, d, hd⟩
    · exact .inl ((h.offset?_eq_notATime_iff _ _).1 hd)
  · rintro (hnan | ⟨horigin, d, hd⟩)
    · exact ⟨_, (h.offset?_eq_notATime_iff _ _).2 hnan, .inr rfl⟩
    · exact ⟨d, hd, .inl horigin⟩

end AirQualityGrid

/-- **The time of the first step of a valid file.** Milliseconds are answered in two cases only.  If
the first step is at an instant, they are those of the instant, rounded down: the origin and so many
units after it, exactly for a whole number of units and to within the error of the timeline for any
other.  If the first entry or the origin is no time, the answer is the least number of milliseconds,
as if there was such an instant.  The origin is what the timeline reads in the reference text of the
units, be it a time or none. -/
theorem AirQualityFile.originMillis_of_isValid (timeline : Timeline) (error : Rat)
    (hlawful : timeline.IsLawful error) (file : AirQualityFile) (hvalid : file.isValid = true) :
    ∃ g, file.grid? = some g ∧
      (∀ m, g.originMillis timeline = .ok m ↔
        (∃ n, g.StartsAt timeline n ∧ m = n / 1000000) ∨
          g.StartsAtNoTime timeline ∧ m = -9223372036855) ∧
      (∀ n, g.StartsAt timeline n → ∃ a, g.origin.nanos? = some a ∧
        g.firstOffset.isFinite = true ∧
          Moment.IsOffset error g.unit g.firstOffset.value (n - a)) ∧
      (g.StartsAtNoTime timeline ↔ g.firstOffset = .nan ∨
        g.origin = .notATime ∧ ∃ d, timeline.offset? g.unit g.firstOffset = some d) ∧
      ∀ units o, TimeOrigin.read? timeline units = some o → g.origin = o.instant →
        ∃ text, TimeOrigin.reference? units = some text ∧ timeline.read? text = some g.origin := by
  obtain ⟨g, hg⟩ := file.exists_grid_of_isValid hvalid
  refine ⟨g, hg, fun m => AirQualityGrid.originMillis_eq_ok_iff hlawful, fun n hn => ?_,
    AirQualityGrid.startsAtNoTime_iff hlawful, ?_⟩
  · exact hn.isOffset hlawful
  · intro units o ho horigin
    rw [horigin]
    exact TimeOrigin.exists_reference_of_read? ho

/-! ### A single step -/

namespace SingleStep

/-- One cell at one step, after some units from an origin on. -/
def grid (o : TimeOrigin) (count : Number) : AirQualityGrid where
  time := .ofList .float64 [count]
  latitude := .ofList .float64 [10]
  longitude := .ofList .float64 [100]
  aqi := .ofCells .int8 [1, 1, 1] [1]
  origin := o.instant
  unit := o.unit
  time_isAxis := ⟨rfl, Nat.one_ne_zero⟩
  latitude_isAxis := ⟨rfl, Nat.one_ne_zero⟩
  longitude_isAxis := ⟨rfl, Nat.one_ne_zero⟩
  shape_eq := rfl

/-- The file with this grid. -/
def file (o : TimeOrigin) (count : Number) : AirQualityFile :=
  .ofParts (.ofText "grid.nc") (grid o count).parts

theorem file_eq (o : TimeOrigin) (count : Number) :
    file o count = ⟨.ofText "grid.nc", .grid (grid o count)⟩ :=
  AirQualityFile.ofParts_parts _ _

end SingleStep

/-- Six and a half hours after the start of 1970. -/
theorem AirQualityFile.originMillis_of_isValid_half :
    ∃ g, (SingleStep.file ⟨.hour, .micros 0⟩ (.rational (13 / 2))).grid? = some g ∧
      g.originMillis .standard = .ok 23400000 := by
  have hfile := SingleStep.file_eq ⟨.hour, .micros 0⟩ (.rational (13 / 2))
  obtain ⟨g, hg, hmillis, -⟩ := originMillis_of_isValid .standard 6 Timeline.standard_isLawful
    (SingleStep.file ⟨.hour, .micros 0⟩ (.rational (13 / 2))) (by rw [hfile]; rfl)
  refine ⟨g, hg, (hmillis 23400000).2 (.inl ⟨23400000000000, ?_, by decide⟩)⟩
  rw [hfile] at hg
  cases hg
  exact ⟨.nanos 23400000000000, .nanos 23400000000000, by decide +kernel, by decide, rfl, by decide⟩

/-- A valid file may have no time of the first step at all. -/
theorem AirQualityFile.exists_valid_without_time :
    ¬ ∀ (timeline : Timeline) (error : Rat) (units : String) (o : TimeOrigin) (path : FilePath)
      (parts : GridParts) (g : AirQualityGrid),
      timeline.IsLawful error → TimeOrigin.read? timeline units = some o →
        parts.origin = some o.instant → parts.unit = o.unit →
        (ofParts path parts).isValid = true → (ofParts path parts).grid? = some g →
        ∃ n, g.StartsAt timeline n ∧ g.originMillis timeline = .ok (n / 1000000) := by
  intro h
  obtain ⟨n, ⟨offset, instant, hoffset, hinstant, hn, -⟩, -⟩ :=
    h .standard 6 "hours since NaT" ⟨.hour, .notATime⟩ (.ofText "grid.nc")
      (SingleStep.grid ⟨.hour, .notATime⟩ 0).parts (SingleStep.grid ⟨.hour, .notATime⟩ 0)
      Timeline.standard_isLawful (by decide +kernel) rfl rfl (by rw [ofParts_parts]; rfl)
      (by rw [ofParts_parts]; rfl)
  cases hinstant
  cases hn

end StreetEnv
