import Mathlib.Algebra.Order.Field.Rat
import Mathlib.Tactic.Linarith
import StreetEnv.Geodesy.Ellipsoid
import StreetEnv.Proofs.Grid.Arrays
import StreetEnv.Proofs.Grid.LastFile
import StreetEnv.Proofs.Grid.StepMeans
import StreetEnv.Proofs.Number.HalfEven
import StreetEnv.Proofs.Number.Order
import StreetEnv.Proofs.Sampling.Nearest
import StreetEnv.Proofs.Sampling.Walk

/-!
# The first cell of an edge

An edge is selected by the longitudes of the file, but the first sample has its longitude reduced to
the range from -180 to 180.  A file that counts its longitudes from -180 gives the first sample the
cell of the origin; one that counts them up to 360 does so only as far as the half turn.

* `Angle.normalize_of_le_half_turn` and `Angle.normalize_of_half_turn_lt`: a longitude of the range
  is its own reduction, and one from 180 to 360 is reduced by a whole turn;
* `AirQualityPass.origin_between`: a covered edge begins between two columns;
* `AirQualityPass.first_cell`: the cell of the first sample, on both sides of the half turn.
-/

namespace StreetEnv

/-! ### Reduced longitudes -/

namespace Number

theorem roundHalfEven_eq_zero {q : Rat} (hlo : -(1 / 2) ≤ q) (hhi : q ≤ 1 / 2) :
    roundHalfEven q = 0 := by
  have hnear : |((0 : Int) : Rat) - q| ≤ 1 / 2 := by
    rw [Int.cast_zero, zero_sub, abs_neg, abs_le]
    exact ⟨hlo, hhi⟩
  exact roundHalfEven_eq_iff.2 (hnear.lt_or_eq.imp_right fun h => ⟨h, rfl⟩)

theorem roundHalfEven_eq_one {q : Rat} (hlo : 1 / 2 < q) (hhi : q ≤ 1) : roundHalfEven q = 1 := by
  refine roundHalfEven_eq_iff.2 (.inl ?_)
  rw [Int.cast_one, abs_lt]
  constructor <;> linarith

end Number

namespace Angle

/-- **A longitude within a half turn is its own reduction.** -/
theorem normalize_of_le_half_turn {x : Number} (hlo : .rational (-180) ≤ x)
    (hhi : x ≤ .rational 180) : normalize x = x := by
  cases x with
  | nan => exact absurd rfl (Number.ne_nan_of_le hhi).1
  | infinite negative =>
    cases negative
    · exact absurd hhi Bool.false_ne_true
    · exact absurd hlo Bool.false_ne_true
  | negativeZero => rfl
  | rational q =>
    rw [Number.le_rational] at hlo hhi
    have hturns : Number.roundHalfEven (q / 360) = 0 :=
      Number.roundHalfEven_eq_zero (by linarith) (by linarith)
    have hreduce : reduce q = q := by simp [reduce, hturns]
    simp only [normalize, hreduce]
    split
    · next h =>
      -- the half turn keeps its sign
      rcases h with rfl | rfl
      · rfl
      · rfl
    · rfl

/-- **A longitude beyond the half turn is reduced by a whole turn.** -/
theorem normalize_of_half_turn_lt {q : Rat} (hlo : 180 < q) (hhi : q ≤ 360) :
    normalize (.rational q) = .rational (q - 360) := by
  have hturns : Number.roundHalfEven (q / 360) = 1 :=
    Number.roundHalfEven_eq_one (by linarith) (by linarith)
  have hreduce : reduce q = q - 360 := by simp [reduce, hturns]
  have hhalf : ¬ (q - 360 = 180 ∨ q - 360 = -180) := by
    rintro (h | h)
    · linarith
    · linarith
  simp only [normalize, hreduce]
  exact if_neg hhalf

end Angle

theorem Edge.origin_of_contains {box : Envelope} {e : Edge}
    (h : box.contains e.envelope = true) : box.minX ≤ e.origin.x ∧ e.origin.x ≤ box.maxX := by
  simp only [Envelope.contains, Bool.and_eq_true, decide_eq_true_eq] at h
  obtain ⟨⟨⟨hwest, heast⟩, -⟩, -⟩ := h
  exact ⟨Number.le_of_le_least hwest, Number.le_of_greatest_le heast⟩

namespace AirQualityPass

variable {p : AirQualityPass} {r : Rounding} {earth : Earth} {e : Edge}

/-! ### The columns around an edge -/

theorem store_get_mem_axis {a : DataArray} (ha : a.IsAxis) {i : Nat} (hi : i < a.size) :
    Rounding.binary64.store (a.get [i]) ∈ axis a := by
  have hi' : i < (axis a).length := by rwa [length_axis]
  rw [← getElem_axis ha hi']
  exact List.getElem_mem hi'

/-- **A covered edge begins between two columns.** -/
theorem origin_between (hcovers : p.Covers e) :
    ∃ west ∈ axis p.grid.longitude, ∃ east ∈ axis p.grid.longitude,
      west ≤ e.origin.x ∧ e.origin.x ≤ east := by
  have haxis := p.grid.longitude_isAxis
  have hsize : 0 < p.grid.longitude.size := Nat.pos_of_ne_zero haxis.2
  have hfirst := store_get_mem_axis haxis hsize
  have hlast := store_get_mem_axis haxis (Nat.sub_lt hsize Nat.one_pos)
  obtain ⟨hwest, heast⟩ := Edge.origin_of_contains hcovers
  refine ⟨_, ?_, _, ?_, hwest, heast⟩
  · unfold AirQualityGrid.boundingBox Envelope.ofCorners Number.least
    dsimp only
    split
    · exact hlast
    · exact hfirst
  · unfold AirQualityGrid.boundingBox Envelope.ofCorners Number.greatest
    dsimp only
    split
    · exact hlast
    · exact hfirst

theorem head_of_samplePoints (hstays : earth.StaysPut) {c : Coordinate} {cs : List Coordinate}
    (hpoints : p.samplePoints r earth e = .ok (c :: cs)) :
    c = ⟨Angle.normalize e.origin.x, e.origin.y⟩ := by
  obtain ⟨sampler, hsampler, hpoints⟩ := Traversal.bind_eq_ok_iff.1 hpoints
  exact Sampler.head_eq_of_points hstays hsampler hpoints

/-! ### The cell -/

/-- The row and the column of the cell nearest to a point. -/
def cellNear (p : AirQualityPass) (r : Rounding) (c : Coordinate) : Nat × Nat :=
  nearestOn r (axis p.grid.latitude) (axis p.grid.longitude) c

theorem cellNear_west_of_columns (hcolumns : Axis.IsStrict (axis p.grid.longitude))
    {c : Coordinate} (hc : c.x.isFinite = true) (hwest : ∀ x ∈ axis p.grid.longitude, c.x ≤ x) :
    ∃ h : (p.cellNear .exact c).2 < (axis p.grid.longitude).length,
      ∀ x ∈ axis p.grid.longitude, (axis p.grid.longitude)[(p.cellNear .exact c).2] ≤ x := by
  have hne : axis p.grid.longitude ≠ [] := by
    intro hnil
    have hlength := length_axis p.grid.longitude
    rw [hnil] at hlength
    exact p.grid.longitude_isAxis.2 hlength.symm
  obtain ⟨k, hk, hclosest, hleast⟩ := Axis.closestIndex_exact_of_le hcolumns hne hc hwest
  have hcolumn : (p.cellNear .exact c).2 = k := by
    rw [cellNear, nearestOn, hclosest, position_natCast]
  refine ⟨hcolumn ▸ hk, ?_⟩
  simpa only [hcolumn] using hleast

/-- **The cell of the first sample.**  An edge is covered by a grid with strictly monotone columns,
and has samples.  Then the first sample is in the row of the origin, and in its cell if the origin
is within the half turn, which it is where all columns are.  Where the columns count from 0 to 360
and the origin is beyond the half turn, the first sample is a whole turn west of it, and has its
cell in the western-most column. -/
theorem first_cell (hcolumns : Axis.IsStrict (axis p.grid.longitude)) (hcovers : p.Covers e)
    (hstays : earth.StaysPut) {c : Coordinate} {cs : List Coordinate}
    (hpoints : p.samplePoints r earth e = .ok (c :: cs)) :
    (p.cellNear r c).1 = (p.cellNear r e.origin).1 ∧
    (.rational (-180) ≤ e.origin.x ∧ e.origin.x ≤ .rational 180 →
      p.cellNear r c = p.cellNear r e.origin) ∧
    ((∀ x ∈ axis p.grid.longitude, .rational (-180) ≤ x ∧ x ≤ .rational 180) →
      p.cellNear r c = p.cellNear r e.origin) ∧
    ((∀ x ∈ axis p.grid.longitude, .rational 0 ≤ x ∧ x ≤ .rational 360) →
      .rational 180 < e.origin.x →
      c = ⟨.rational (e.origin.x.value - 360), e.origin.y⟩ ∧
      ∃ h : (p.cellNear .exact c).2 < (axis p.grid.longitude).length,
        ∀ x ∈ axis p.grid.longitude, (axis p.grid.longitude)[(p.cellNear .exact c).2] ≤ x) := by
  have hhead := head_of_samplePoints hstays hpoints
  obtain ⟨west, hwest, east, heast, hlo, hhi⟩ := origin_between hcovers
  -- within the half turn the first sample is the origin
  have hsame (h : .rational (-180) ≤ e.origin.x ∧ e.origin.x ≤ .rational 180) :
      p.cellNear r c = p.cellNear r e.origin := by
    have horigin : c = e.origin := by
      rw [hhead, Angle.normalize_of_le_half_turn h.1 h.2]
    rw [horigin]
  refine ⟨?_, hsame, fun hrange => ?_, fun hrange hbeyond => ?_⟩
  · rw [hhead]
    rfl
  · exact hsame ⟨Number.le_trans (hrange west hwest).1 hlo,
      Number.le_trans hhi (hrange east heast).2⟩
  · -- the origin lies between finite columns, so it is a rational beyond the half turn
    have hfinite : e.origin.x.isFinite = true :=
      Number.isFinite_of_le_of_le (hcolumns.isFinite west hwest) (hcolumns.isFinite east heast)
        hlo hhi
    have hgt : 180 < e.origin.x.value := (Number.lt_iff_of_isFinite rfl hfinite).1 hbeyond
    have hle : e.origin.x.value ≤ 360 :=
      (Number.le_iff_of_isFinite hfinite rfl).1 (Number.le_trans hhi (hrange east heast).2)
    have hx : e.origin.x = .rational e.origin.x.value := by
      cases h : e.origin.x with
      | nan => rw [h] at hfinite; cases hfinite
      | infinite negative => rw [h] at hfinite; cases hfinite
      | negativeZero => rw [h] at hgt; exact absurd hgt (by decide)
      | rational q => rfl
    have hc : c = ⟨.rational (e.origin.x.value - 360), e.origin.y⟩ := by
      rw [hhead, hx, Angle.normalize_of_half_turn_lt hgt hle]
      rfl
    refine ⟨hc, cellNear_west_of_columns hcolumns (by rw [hc]; rfl) fun x hmem => ?_⟩
    have hzero : c.x ≤ .rational 0 := by
      rw [hc, Number.le_rational]
      linarith
    exact Number.le_trans hzero (hrange x hmem).1

end AirQualityPass

/-! ### A strip beyond the half turn -/

namespace Strip

/-- Geodesics between points of the equator, which reduce the longitudes they give. -/
def reducing : Earth where
  inverse := earth.inverse
  direct p azimuth distance :=
    ⟨Angle.normalize (if distance = 0 then p.x else (earth.direct p azimuth distance).x), p.y⟩

theorem reducing_staysPut : reducing.StaysPut := by
  intro p q _
  show (⟨Angle.normalize (if (0 : Number) = 0 then p.x else _), p.y⟩ : Coordinate) = _
  rw [if_pos rfl]

/-- A row of three cells, with columns that count up to 360. -/
def wholeTurn : AirQualityPass where
  grid :=
    { time := .ofList .int64 [0]
      latitude := .ofList .float64 [0]
      longitude := .ofList .float64 [0, 190, 350]
      aqi := .ofCells .int8 [1, 1, 3] [1, 2, 3]
      origin := .micros 0
      unit := .hour
      time_isAxis := by decide
      latitude_isAxis := by decide
      longitude_isAxis := by decide
      shape_eq := by decide }

/-- A street of one sample, at the middle column of the whole turn. -/
def beyond : Edge :=
  { id := .text "west", origin := ⟨190, 0⟩, destination := ⟨.rational (1900002 / 10000), 0⟩ }

theorem samplePoints_beyond :
    wholeTurn.samplePoints .binary64 reducing beyond = .ok [⟨.rational (-170), 0⟩] :=
  Traversal.eq_ok_of_toOption (by decide +kernel)

theorem wholeTurn_isStrict :
    Axis.IsStrict (AirQualityPass.axis wholeTurn.grid.longitude) :=
  ⟨by decide +kernel, .inl (by decide +kernel)⟩

end Strip

/-- The street is at the middle column, and its sample in the western-most one. -/
theorem AirQualityPass.first_cell_beyond :
    (Strip.wholeTurn.cellNear .binary64 ⟨.rational (-170), 0⟩).1 =
        (Strip.wholeTurn.cellNear .binary64 Strip.beyond.origin).1 ∧
      ∃ h : (Strip.wholeTurn.cellNear .exact ⟨.rational (-170), 0⟩).2 <
          (axis Strip.wholeTurn.grid.longitude).length,
        ∀ x ∈ axis Strip.wholeTurn.grid.longitude, (axis Strip.wholeTurn.grid.longitude)[
          (Strip.wholeTurn.cellNear .exact ⟨.rational (-170), 0⟩).2] ≤ x := by
  have hcovers : Strip.wholeTurn.Covers Strip.beyond := by decide +kernel
  obtain ⟨hrow, -, -, hwest⟩ := first_cell Strip.wholeTurn_isStrict hcovers
    Strip.reducing_staysPut Strip.samplePoints_beyond
  exact ⟨hrow, (hwest (by decide +kernel) (by decide +kernel)).2⟩

/-- Beyond the half turn a walk need not begin in the cell of its origin. -/
theorem AirQualityPass.exists_other_first_cell :
    ∃ (p : AirQualityPass) (earth : Earth) (e : Edge) (c : Coordinate) (cs : List Coordinate),
      Axis.IsStrict (axis p.grid.latitude) ∧ Axis.IsStrict (axis p.grid.longitude) ∧
        p.Covers e ∧ earth.StaysPut ∧ p.samplePoints .binary64 earth e = .ok (c :: cs) ∧
        p.cellNear .binary64 c ≠ p.cellNear .binary64 e.origin := by
  have hrows : Axis.IsStrict (axis Strip.wholeTurn.grid.latitude) :=
    ⟨by decide +kernel, .inl (by decide +kernel)⟩
  have hcovers : Strip.wholeTurn.Covers Strip.beyond := by decide +kernel
  refine ⟨Strip.wholeTurn, Strip.reducing, Strip.beyond, _, _, hrows, Strip.wholeTurn_isStrict,
    hcovers, Strip.reducing_staysPut, Strip.samplePoints_beyond, ?_⟩
  decide +kernel

end StreetEnv
