import StreetEnv.Proofs.Grid.Samples
import StreetEnv.Proofs.Number.Mean

/-!
# Averages of integer samples

The samples of an integer grid are averaged in double precision and stored as cells of the same
type.  An average of samples of up to 32 bits, or of moderate samples, lies between the smallest and
the largest of them.  Larger samples are not always doubles, nor are their sums, and the rounding
carries some of them into the next integer; then the average can pass all of them, but no power of
two that bounds them, and so the type by one at most.

* `Accumulator.exists_foldlM_add`: samples added at one time are the samples of that time;
* `Accumulator.averageOf_binary64`: an average is the rounded mean, narrowed;
* `Accumulator.average_within`: the averages of integer samples.
-/

namespace StreetEnv

namespace CellType

variable {type : CellType} {lo hi n : Int}

/-- An integer type ends before a power of two, and starts from zero or from the opposite of that
power.  Two of the types have more than 32 bits. -/
theorem range?_eq_some (h : type.range? = some (lo, hi)) :
    ∃ bits : Nat, hi = 2 ^ bits - 1 ∧ (lo = -2 ^ bits ∨ lo = 0) ∧
      (bits ≤ 32 ∧ type ≠ int64 ∧ type ≠ uint64 ∨ type = int64 ∧ bits = 63 ∨
        type = uint64 ∧ bits = 64) := by
  cases type with
  | int8 => exact ⟨7, by cases h; decide⟩
  | int16 => exact ⟨15, by cases h; decide⟩
  | int32 => exact ⟨31, by cases h; decide⟩
  | int64 => exact ⟨63, by cases h; decide⟩
  | uint8 => exact ⟨8, by cases h; decide⟩
  | uint16 => exact ⟨16, by cases h; decide⟩
  | uint32 => exact ⟨32, by cases h; decide⟩
  | uint64 => exact ⟨64, by cases h; decide⟩
  | float32 => cases h
  | float64 => cases h

theorem holdsInt_iff (h : type.range? = some (lo, hi)) : type.HoldsInt n ↔ lo ≤ n ∧ n ≤ hi := by
  rw [HoldsInt, h]

theorem abs_le_of_holdsInt {bits : Nat} (h : type.range? = some (lo, hi))
    (hhi : hi = 2 ^ bits - 1) (hlo : lo = -2 ^ bits ∨ lo = 0) (hn : type.HoldsInt n) :
    |n| ≤ 2 ^ bits := by
  rw [holdsInt_iff h] at hn
  rw [abs_le]
  have hpos : (0 : Int) < 2 ^ bits := by positivity
  omega

theorem narrow_of_le_add_one (h : type.range? = some (lo, hi)) (hlo : lo ≤ n) (hhi : n ≤ hi + 1)
    (hwide : type = int64 ∨ type = uint64 ∨ n ≤ hi) :
    type.narrow n = if n ≤ hi then .ok (.ofInt n) else .error .integerTooLarge := by
  simp only [narrow, h]
  by_cases hn : n ≤ hi
  · rw [if_pos ⟨hlo, hn⟩, if_pos hn]
    rfl
  · obtain rfl : n = hi + 1 := by omega
    rw [if_neg (fun h => hn h.2), if_neg hn]
    rcases hwide with rfl | rfl | hle
    · cases h
      rfl
    · cases h
      rfl
    · exact absurd hle hn

end CellType

namespace Accumulator

open Number

variable {type : CellType} {lo hi : Int} {xs : List Int}

theorem exists_foldlM_add {r : Rounding} (a : Accumulator) (time : Nat) (cells : List Number) :
    ∃ b, cells.foldlM (fun (a : Accumulator) x => a.add r time x) a = .ok b ∧ b.type = a.type ∧
      b.samplesAt time = a.samplesAt time ++ AirQualityPass.accepted r cells := by
  induction cells generalizing a with
  | nil => exact ⟨a, rfl, rfl, by simp⟩
  | cons x cells ih =>
    obtain ⟨b, hb, htype, hsamples⟩ := ih (a.accept r time x)
    have hadd : a.add r (time : Int) x = .ok (a.accept r time x) := by
      have h : ¬ (time : Int) < 0 := by omega
      simp [add, h]
    refine ⟨b, ?_, by rw [htype, type_accept], ?_⟩
    · rw [List.foldlM_cons, hadd]
      exact hb
    · have hsplit : AirQualityPass.accepted r (x :: cells) =
          AirQualityPass.accepted r [x] ++ AirQualityPass.accepted r cells :=
        AirQualityPass.accepted_append [x] cells
      rw [hsamples, samplesAt_accept, hsplit, AirQualityPass.accepted_singleton]
      simp

theorem averageOf_binary64 (type : CellType) {samples : List Number} (hne : samples ≠ [])
    (hlength : samples.length ≤ 2 ^ 959) (h : ∀ x ∈ samples, |x.value| ≤ 2 ^ 64) :
    averageOf .binary64 type samples = type.narrow (roundedAway (mean (samples.map value))) := by
  obtain ⟨total, htotal, hfinite, hvalue⟩ := mean_of_sum hne hlength h
  have hmean : |mean (samples.map value)| ≤ 2 ^ 64 :=
    abs_mean_le (by simpa using hne) (List.forall_mem_map.2 h)
  have hrange : Format.double.nearest (|mean (samples.map value)| + 1 / 2) < 2 ^ 1024 := by
    have hpos : 0 ≤ |mean (samples.map value)| + 1 / 2 := by positivity
    have hle : |(|mean (samples.map value)| + 1 / 2)| ≤ 2 ^ 65 := by
      rw [abs_of_nonneg hpos]
      have hroom : (2 : Rat) ^ 64 + 1 / 2 ≤ 2 ^ 65 := by norm_num
      linarith
    have hpow : (2 : Rat) ^ 65 < 2 ^ 1024 := pow_lt_pow_right₀ (by norm_num) (by norm_num)
    exact ((le_abs_self _).trans (abs_nearest_le hle)).trans_lt hpow
  have hround := roundHalfAway_binary64 hfinite (hvalue ▸ hrange)
  rw [hvalue] at hround
  have hempty : samples.isEmpty = false := by simpa using hne
  rw [averageOf, hempty, htotal]
  show ((total.div .binary64 (rational samples.length)).roundHalfAway .binary64 >>= type.narrow) = _
  rw [hround]
  rfl

theorem map_value_accepted (h : ∀ x ∈ xs, |x| ≤ 2 ^ 64) :
    (AirQualityPass.accepted .binary64 (xs.map ofInt)).map value =
      xs.map fun x : Int => Format.double.nearest x := by
  have hstored (x : Int) (hx : x ∈ xs) := round_of_abs_le (v := x) (j := 64) (by norm_num)
    (by exact_mod_cast h x hx)
  have hstore : (xs.map ofInt).map Rounding.binary64.store =
      xs.map fun x : Int => Format.double.round x := List.map_map
  have hall : ((xs.map ofInt).map Rounding.binary64.store).filter isFinite =
      xs.map fun x : Int => Format.double.round x := by
    rw [hstore]
    exact List.filter_eq_self.2 (List.forall_mem_map.2 fun x hx => (hstored x hx).1)
  rw [AirQualityPass.accepted, hall, List.map_map]
  exact List.map_congr_left fun x hx => (hstored x hx).2

/-- The average of integers: they are stored as doubles, and the mean of these is rounded. -/
def averageOfInts (xs : List Int) : Int :=
  roundedAway (mean (xs.map fun x : Int => Format.double.nearest x))

theorem abs_averageOfInts_le (hne : xs ≠ []) {j : Nat} (h : ∀ x ∈ xs, |x| ≤ 2 ^ j) :
    |averageOfInts xs| ≤ 2 ^ j := by
  refine abs_roundedAway_le (abs_mean_le (by simpa using hne) (List.forall_mem_map.2 ?_))
  exact fun x hx => abs_nearest_le (by exact_mod_cast h x hx)

theorem averageOfInts_nonneg (h : ∀ x ∈ xs, 0 ≤ x) : 0 ≤ averageOfInts xs := by
  have hmean : 0 ≤ mean (xs.map fun x : Int => Format.double.nearest x) :=
    mean_nonneg (List.forall_mem_map.2 fun x hx => Format.nearest_nonneg (Int.cast_nonneg (h x hx)))
  have hzero : roundedAway 0 = 0 := by simpa using roundedAway_of_abs_le (n := 0) (by norm_num)
  exact hzero ▸ roundedAway_mono hmean

theorem averageOfInts_between (h : IsModerate xs) (hne : xs ≠ []) :
    (∃ x ∈ xs, x ≤ averageOfInts xs) ∧ ∃ x ∈ xs, averageOfInts xs ≤ x := by
  -- moderate integers are doubles
  have hstored : (xs.map fun x : Int => Format.double.nearest x) = rationals xs :=
    List.map_congr_left fun x hx =>
      double_nearest_intCast ((h.abs_le_two_pow x hx).trans (by norm_num))
  rw [averageOfInts, hstored]
  exact h.roundedAway_mean_between hne

theorem average_ofInt (type : CellType) (hne : xs ≠ []) (hlength : xs.length ≤ 2 ^ 959)
    (h : ∀ x ∈ xs, |x| ≤ 2 ^ 64) (time : Nat) :
    ∃ a, (xs.map ofInt).foldlM (fun (a : Accumulator) x => a.add .binary64 time x) (empty type) =
        .ok a ∧
      a.average .binary64 time = type.narrow (averageOfInts xs) := by
  obtain ⟨a, ha, htype, hsamples⟩ :=
    exists_foldlM_add (r := .binary64) (empty type) time (xs.map ofInt)
  rw [samplesAt_empty, List.nil_append] at hsamples
  have hvalues := map_value_accepted h
  have hcount := congrArg List.length hvalues
  rw [List.length_map, List.length_map] at hcount
  have hbound : ∀ y ∈ (AirQualityPass.accepted .binary64 (xs.map ofInt)).map value,
      |y| ≤ 2 ^ 64 := by
    rw [hvalues]
    exact List.forall_mem_map.2 fun x hx => abs_nearest_le (by exact_mod_cast h x hx)
  have hsome : AirQualityPass.accepted .binary64 (xs.map ofInt) ≠ [] := by
    rw [← List.length_pos_iff, hcount]
    exact List.length_pos_iff.2 hne
  refine ⟨a, ha, ?_⟩
  rw [average_natCast, hsamples, htype, type_empty,
    averageOf_binary64 type hsome (hcount ▸ hlength) (List.forall_mem_map.1 hbound), hvalues]
  rfl

/-- **The average of integer samples.**  Samples of an integer type that are added at one time have
an average there.  It is in the type or the next integer behind it, which is refused; a power of two
that bounds the samples bounds it too.  The average of samples of up to 32 bits, and of moderate
samples of any type, is not refused: it lies between two of the samples. -/
theorem average_within (hrange : type.range? = some (lo, hi)) (hne : xs ≠ [])
    (hxs : ∀ x ∈ xs, type.HoldsInt x) (hlength : xs.length ≤ 2 ^ 959) (time : Nat) :
    ∃ a, (xs.map ofInt).foldlM (fun (a : Accumulator) x => a.add .binary64 time x) (empty type) =
        .ok a ∧
      ∃ n : Int, a.average .binary64 time =
          (if n ≤ hi then .ok (ofInt n) else .error .integerTooLarge) ∧
        (lo ≤ n ∧ n ≤ hi + 1) ∧
        (∀ j : Nat, (∀ x ∈ xs, |x| ≤ 2 ^ j) → |n| ≤ 2 ^ j) ∧
        (type ≠ .int64 ∧ type ≠ .uint64 ∨ IsModerate xs →
          n ≤ hi ∧ (∃ x ∈ xs, x ≤ n) ∧ ∃ x ∈ xs, n ≤ x) := by
  obtain ⟨bits, hhi, hlo, hbits⟩ := CellType.range?_eq_some hrange
  have hbound (x : Int) (hx : x ∈ xs) : |x| ≤ 2 ^ bits :=
    CellType.abs_le_of_holdsInt hrange hhi hlo (hxs x hx)
  have hbits64 : (2 : Int) ^ bits ≤ 2 ^ 64 := pow_le_pow_right₀ (by norm_num) (by omega)
  obtain ⟨a, ha, haverage⟩ :=
    average_ofInt type hne hlength (fun x hx => (hbound x hx).trans hbits64) time
  have hn := abs_le.1 (abs_averageOfInts_le hne hbound)
  have hlow : lo ≤ averageOfInts xs := by
    rcases hlo with rfl | rfl
    · exact hn.1
    · exact averageOfInts_nonneg fun x hx => ((CellType.holdsInt_iff hrange).1 (hxs x hx)).1
  have hamong (h : type ≠ .int64 ∧ type ≠ .uint64 ∨ IsModerate xs) :
      averageOfInts xs ≤ hi ∧ (∃ x ∈ xs, x ≤ averageOfInts xs) ∧
        ∃ x ∈ xs, averageOfInts xs ≤ x := by
    have hmoderate : IsModerate xs := by
      refine h.elim (fun h => .inl fun x hx => ?_) id
      have hbits32 : (2 : Int) ^ bits ≤ 2 ^ 32 := pow_le_pow_right₀ (by norm_num) (by grind)
      have hx32 := hbound x hx
      omega
    have hbetween := averageOfInts_between hmoderate hne
    obtain ⟨x, hx, hle⟩ := hbetween.2
    exact ⟨hle.trans ((CellType.holdsInt_iff hrange).1 (hxs x hx)).2, hbetween⟩
  refine ⟨a, ha, averageOfInts xs, ?_, ⟨hlow, by omega⟩, fun j => abs_averageOfInts_le hne, hamong⟩
  rw [haverage]
  refine CellType.narrow_of_le_add_one hrange hlow (by omega) ?_
  by_cases hwide : type = .int64 ∨ type = .uint64
  · exact hwide.elim .inl fun h => .inr (.inl h)
  · exact .inr (.inr (hamong (.inl (not_or.1 hwide))).1)

/-- A bucket of bytes at the ends of their type. -/
theorem average_within_bytes :
    ∃ a, ([-128, 127, -128].map ofInt).foldlM
        (fun (a : Accumulator) x => a.add .binary64 (0 : Nat) x) (empty .int8) = .ok a ∧
      ∃ n : Int, a.average .binary64 (0 : Nat) = .ok (ofInt n) ∧ -128 ≤ n ∧ n ≤ 127 := by
  have hrange : CellType.int8.range? = some (-128, 127) := rfl
  have hne : ([-128, 127, -128] : List Int) ≠ [] := by decide
  obtain ⟨a, ha, n, haverage, -, -, hamong⟩ :=
    average_within hrange hne (by decide) (by decide +kernel) 0
  obtain ⟨hhi, ⟨x, hx, hlow⟩, y, hy, hhigh⟩ := hamong (.inl (by decide))
  rw [if_pos hhi] at haverage
  refine ⟨a, ha, n, haverage, ?_⟩
  simp at hx hy
  omega

/-- A single sample of 53 bits has another average, and the largest one of its type has none. -/
theorem exists_average_not_within :
    (∃ a, [ofInt (2 ^ 52 + 1)].foldlM
        (fun (a : Accumulator) x => a.add .binary64 (0 : Nat) x) (empty .int64) = .ok a ∧
      a.average .binary64 (0 : Nat) = .ok (ofInt (2 ^ 52 + 2))) ∧
    ∃ a, [ofInt (2 ^ 63 - 1)].foldlM
        (fun (a : Accumulator) x => a.add .binary64 (0 : Nat) x) (empty .int64) = .ok a ∧
      a.average .binary64 (0 : Nat) = .error .integerTooLarge := by
  have hfull : ([2 ^ 52 + 1] : List Int) ≠ [] := by decide
  have hlast : ([2 ^ 63 - 1] : List Int) ≠ [] := by decide
  obtain ⟨a, ha, haverage⟩ := average_ofInt .int64 hfull (by decide +kernel) (by decide) 0
  obtain ⟨b, hb, hrefused⟩ := average_ofInt .int64 hlast (by decide +kernel) (by decide) 0
  refine ⟨⟨a, ha, haverage.trans ?_⟩, b, hb, hrefused.trans ?_⟩
  · decide +kernel
  · decide +kernel

end Accumulator

end StreetEnv
