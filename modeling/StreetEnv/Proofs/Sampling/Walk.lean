import Mathlib.Algebra.Order.Field.Rat
import StreetEnv.Proofs.Fault.Traversal
import StreetEnv.Sampling.Sampler

/-!
# The points of a walk

The samples of a walk are computed in chunks.  One chunk after the other they are the points after
no step, one step, two steps and so on, as many as whole steps fit into the distance.

* `Sampler.flatten_chunks`: the chunks hold every step number once and in order;
* `Sampler.points_eq_ok_iff`: the samples of a walk, without the chunks;
* `Earth.StaysPut`: to move by nothing changes a point at most by whole turns;
* `Sampler.head_eq_of_points`: then the first sample is the start, its longitude reduced.
-/

namespace StreetEnv

/-- Whoever sets out towards a point at some distance and moves by nothing is still where he was,
only that the longitude is reduced by whole turns. -/
def Earth.StaysPut (earth : Earth) : Prop :=
  ∀ p q, (earth.inverse p q).2.isFinite = true →
    earth.direct p (earth.inverse p q).1 0 = ⟨Angle.normalize p.x, p.y⟩

namespace Sampler

/-! ### Chunks -/

/-- The first `m` chunks hold the step numbers below `m` chunk sizes, as far as there are so
many. -/
theorem flatten_range_chunks (size n m : Nat) :
    ((List.range m).map fun k =>
      List.range' (k * size) (min (k * size + size) n - k * size)).flatten =
      List.range (min (m * size) n) := by
  induction m with
  | zero => simp
  | succ m ih =>
    rw [List.range_succ, List.map_append, List.flatten_append, ih, Nat.succ_mul]
    by_cases h : m * size ≤ n
    · -- the next chunk goes on where the earlier ones end
      have hjoin : List.range' 0 (m * size) ++
            List.range' (0 + m * size) (min (m * size + size) n - m * size) =
          List.range' 0 (m * size + (min (m * size + size) n - m * size)) :=
        List.range'_append_1
      have hlength : m * size + (min (m * size + size) n - m * size) =
          min (m * size + size) n := by
        omega
      rw [Nat.zero_add, hlength] at hjoin
      rw [Nat.min_eq_left h, List.range_eq_range', List.range_eq_range']
      simpa using hjoin
    · -- there are no more step numbers
      have hnone : min (m * size + size) n - m * size = 0 := by omega
      have hall : min (m * size + size) n = min (m * size) n := by omega
      rw [hall, List.map_singleton, hnone]
      simp

/-- **The chunks hold every step number once and in order.** -/
theorem flatten_chunks {size : Nat} (hsize : 0 < size) (n : Nat) :
    (chunks size n).flatten = List.range n := by
  have henough : n ≤ (n + size - 1) / size * size := by
    have hsplit := Nat.div_add_mod' (n + size - 1) size
    have hrest := Nat.mod_lt (n + size - 1) hsize
    omega
  rw [chunks, flatten_range_chunks, Nat.min_eq_right henough]

variable {r : Rounding} {earth : Earth} {s : Sampler}

theorem pointsUpTo_eq (n : Nat) :
    s.pointsUpTo r earth n = (List.range n).map (s.point r earth) := by
  have hsize : 0 < chunkSize := by decide
  rw [← flatten_chunks hsize, List.map_flatten]
  rfl

theorem count_eq_ok_iff {n : Int} : s.count r = .ok n ↔
    (s.distance.div r s.spacing).floor = .ok n ∧ 0 ≤ n ∧ n < 2 ^ 63 := by
  have htop : (Power.ofTwo 63 : Int) = 2 ^ 63 := rfl
  unfold count
  rw [htop]
  cases (s.distance.div r s.spacing).floor with
  | error f => simp [bind, Except.bind]
  | ok k =>
    simp only [bind, Except.bind, pure, Except.pure, Except.ok.injEq]
    split
    · next hk =>
      refine iff_of_false nofun ?_
      rintro ⟨rfl, hn, -⟩
      omega
    · next hk =>
      split
      · next hk' =>
        refine iff_of_false nofun ?_
        rintro ⟨rfl, -, hn⟩
        omega
      · next hk' =>
        rw [Except.ok.injEq]
        constructor
        · rintro rfl
          exact ⟨rfl, Int.not_lt.1 hk, Int.not_le.1 hk'⟩
        · exact fun h => h.1

/-- **The samples of a walk** are the points after each number of steps below the count. -/
theorem points_eq_ok_iff {cs : List Coordinate} :
    s.points r earth = .ok cs ↔
      ∃ n, s.count r = .ok n ∧ cs = (List.range n.toNat).map (s.point r earth) := by
  unfold points
  rw [Traversal.bind_eq_ok_iff]
  simp only [pointsUpTo_eq]
  constructor
  · rintro ⟨n, hn, hcs⟩
    exact ⟨n, hn, (Except.ok.inj hcs).symm⟩
  · rintro ⟨n, hn, rfl⟩
    exact ⟨n, hn, rfl⟩

/-! ### The first sample -/

theorem between_eq_ok_iff {p q : Coordinate} {spacing : Number} :
    between earth p q spacing = .ok s ↔
      ¬ spacing ≤ 0 ∧ s = ⟨p, (earth.inverse p q).1, (earth.inverse p q).2, spacing⟩ := by
  unfold between
  by_cases h : spacing ≤ 0
  · simp [h]
  · simp [h, eq_comm]

theorem finite_of_floor_div {distance spacing : Number} {n : Int}
    (h : (distance.div r spacing).floor = .ok n) (hn : 0 < n) (hspacing : ¬ spacing ≤ 0) :
    distance.isFinite = true ∧ ∃ q, spacing = .rational q := by
  -- steps without end fit nowhere
  have hzero (negative : Bool) (h : (Number.zero negative).floor = .ok n) : False := by
    have hn' : n = 0 := by
      cases negative
      · exact (Except.ok.inj h).symm
      · exact (Except.ok.inj h).symm
    omega
  cases distance with
  | nan => cases h
  | infinite negative => cases spacing <;> cases h
  | negativeZero =>
    cases spacing with
    | nan => cases h
    | infinite negative => exact (hzero _ h).elim
    | negativeZero => exact absurd (by decide) hspacing
    | rational q => exact ⟨rfl, q, rfl⟩
  | rational d =>
    cases spacing with
    | nan => cases h
    | infinite negative => exact (hzero _ h).elim
    | negativeZero => exact absurd (by decide) hspacing
    | rational q => exact ⟨rfl, q, rfl⟩

theorem natural_zero_mul {q : Rat} (hq : 0 < q) : (Number.natural 0).mul r (.rational q) = 0 := by
  have hsign : ((Number.natural 0).isNegative != (Number.rational q).isNegative) = false := by
    have hq' : ¬ q < 0 := by grind
    simp [Number.natural, Number.isNegative, hq']
  unfold Number.mul
  rw [hsign]
  simp [Number.natural, Number.zero]
  rfl

/-- **The first sample is the start**, only that its longitude is reduced. -/
theorem head_eq_of_points (hstays : earth.StaysPut) {p q : Coordinate} {spacing : Number}
    (hs : between earth p q spacing = .ok s) {c : Coordinate} {cs : List Coordinate}
    (hpoints : s.points r earth = .ok (c :: cs)) : c = ⟨Angle.normalize p.x, p.y⟩ := by
  obtain ⟨hspacing, rfl⟩ := between_eq_ok_iff.1 hs
  obtain ⟨n, hcount, hcs⟩ := points_eq_ok_iff.1 hpoints
  obtain ⟨m, hm⟩ : ∃ m, n.toNat = m + 1 := by
    have hlength := congrArg List.length hcs
    rw [List.length_cons, List.length_map, List.length_range] at hlength
    exact ⟨cs.length, hlength.symm⟩
  -- there is a sample, so the distance is finite, and no step leads to the first one
  have hfloor := (count_eq_ok_iff.1 hcount).1
  obtain ⟨hfinite, step, rfl⟩ := finite_of_floor_div hfloor (by omega) hspacing
  have hpositive : 0 < step := by
    have hle : ¬ Number.rational step ≤ .rational 0 := hspacing
    rw [Number.le_rational] at hle
    exact Rat.not_le.1 hle
  rw [hm, List.range_succ_eq_map, List.map_cons] at hcs
  calc c
    _ = earth.direct p (earth.inverse p q).1 ((Number.natural 0).mul r (.rational step)) :=
      (List.cons.inj hcs).1
    _ = earth.direct p (earth.inverse p q).1 0 := by rw [natural_zero_mul hpositive]
    _ = ⟨Angle.normalize p.x, p.y⟩ := hstays p q hfinite

end Sampler

end StreetEnv
