import StreetEnv.Proofs.Number.Range
import StreetEnv.Time.Timeline

/-!
# Lawful timelines

A timeline is lawful if an offset is so many units, a sum is a sum, and the word of an instant is
its count of nanoseconds.  Nothing is asked of the texts it reads or of the ranges it keeps: any sum
may be refused.  An absent time is an offset of no number, stays absent in a sum and has the least
word.

* `Moment.IsOffset`: the nanoseconds of so many units, to within some error;
* `Moment.abs_partNanos_sub_lt`: the error of a fraction of a unit;
* `Timeline.IsLawful`: the laws;
* `Timeline.standard_isLawful`: dates and times of day keep them, and their offsets are six
  nanoseconds off at most;
* `TimeOrigin.exists_reference_of_read?`: the instant of units is what their reference text names.

A count of units is turned into an offset in two ways.  A whole count is multiplied out.  Any other
one is cut into its whole part and a fraction, which is rounded to some decimal places and once more
in double precision.  So the offset of a whole count is exact.
-/

namespace StreetEnv

namespace Moment

variable {unit : TimeUnit} {x : Number} {q error : Rat} {a b d : Moment} {i j m n : Int}

/-- The nanoseconds of so many units, without rounding. -/
def exactNanos (unit : TimeUnit) (q : Rat) : Rat := q * (unit.seconds * 1000000000)

/-- So many nanoseconds are so many units to within an error, and exactly for a whole number. -/
structure IsOffset (error : Rat) (unit : TimeUnit) (q : Rat) (n : Int) : Prop where
  /-- They are near. -/
  abs_sub_lt : |(n : Rat) - exactNanos unit q| < error
  /-- They may be exact. -/
  eq_of_whole : q.den = 1 → (n : Rat) = exactNanos unit q

theorem exists_nanos? (h : d ≠ notATime) : ∃ n, d.nanos? = some n := by
  cases d with
  | notATime => exact absurd rfl h
  | ticks r n => exact ⟨n * r.tick, rfl⟩

/-! ### The error of a fraction -/

theorem abs_truncate_sub_lt (q : Rat) : |(truncate q : Rat) - q| < 1 := by
  unfold truncate
  split
  · have hle : ((-q).floor : Rat) ≤ -q := Rat.floor_le (-q)
    have hlt : -q < (((-q).floor + 1 : Int) : Rat) := Rat.lt_floor_add_one (-q)
    push_cast at hlt ⊢
    rw [abs_lt]
    constructor
    · linarith
    · linarith
  · have hle : (q.floor : Rat) ≤ q := Rat.floor_le q
    have hlt : q < ((q.floor + 1 : Int) : Rat) := Rat.lt_floor_add_one q
    push_cast at hlt
    rw [abs_lt]
    constructor
    · linarith
    · linarith

theorem decimal_near {scale : Nat} (hscale : 0 < scale) (hq : |q| ≤ 1) :
    |(Number.roundHalfEven (q * scale) : Rat) / scale - q| ≤ 1 / 2 / scale ∧
      |(Number.roundHalfEven (q * scale) : Rat) / scale| ≤ 1 := by
  have hpos : (0 : Rat) < scale := Nat.cast_pos.2 hscale
  have herror := Number.abs_roundHalfEven_sub_le (q * scale)
  obtain ⟨hlo, hhi⟩ := abs_le.1 hq
  constructor
  · have hdivide : (Number.roundHalfEven (q * scale) : Rat) / scale - q =
        (Number.roundHalfEven (q * scale) - q * scale) / scale := by
      rw [sub_div, mul_div_cancel_right₀ _ hpos.ne']
    rw [hdivide, abs_div, abs_of_pos hpos]
    exact div_le_div_of_nonneg_right herror hpos.le
  · have habove : Number.roundHalfEven (q * scale) ≤ (scale : Int) :=
      Number.roundHalfEven_le (by push_cast; nlinarith)
    have hbelow : -(scale : Int) ≤ Number.roundHalfEven (q * scale) :=
      Number.le_roundHalfEven (by push_cast; nlinarith)
    have habove' : (Number.roundHalfEven (q * scale) : Rat) ≤ scale := by exact_mod_cast habove
    have hbelow' : -(scale : Rat) ≤ Number.roundHalfEven (q * scale) := by exact_mod_cast hbelow
    rw [abs_div, abs_of_pos hpos, div_le_one hpos, abs_le]
    exact ⟨hbelow', habove'⟩

theorem perUnit_bounds (unit : TimeUnit) :
    (0 : Rat) < unit.seconds * 1000000000 ∧ (unit.seconds * 1000000000 : Rat) ≤ 2 ^ 47 ∧
      (unit.seconds * 1000000000 : Rat) * (1 / 2 / (Power.ofTen unit.places : Nat)) ≤ 9 / 2 := by
  cases unit
  all_goals norm_num [TimeUnit.seconds, TimeUnit.places, Power.ofTen]

theorem abs_product_sub_le {factor perUnit : Rat} (hfactor : |factor| ≤ 1) (hpos : 0 < perUnit)
    (hsmall : perUnit ≤ 2 ^ 47) :
    |((Rounding.binary64.round factor).mul .binary64 (.rational perUnit)).value -
      factor * perUnit| ≤ 1 / 32 := by
  change |((Format.double.round factor).mul .binary64 (.rational perUnit)).value -
    factor * perUnit| ≤ 1 / 32
  obtain ⟨hfinite, hround, hone⟩ := Number.round_near (j := 0) (by decide) (by simpa using hfactor)
  have hfirst : |(Format.double.round factor).value * perUnit - factor * perUnit| ≤ 1 / 64 := by
    rw [← sub_mul, abs_mul, abs_of_pos hpos]
    calc |(Format.double.round factor).value - factor| * perUnit
      _ ≤ 2 ^ 0 / 2 ^ 53 * 2 ^ 47 := mul_le_mul hround hsmall hpos.le (by norm_num)
      _ = 1 / 64 := by norm_num
  have hproduct : |(Format.double.round factor).value * perUnit| ≤ 2 ^ 47 := by
    rw [abs_mul, abs_of_pos hpos]
    calc |(Format.double.round factor).value| * perUnit
      _ ≤ 2 ^ 0 * 2 ^ 47 := mul_le_mul hone hsmall hpos.le (by norm_num)
      _ = 2 ^ 47 := by norm_num
  have hsecond : |((Format.double.round factor).mul .binary64 (.rational perUnit)).value -
      (Format.double.round factor).value * perUnit| ≤ 1 / 64 :=
    (Number.mul_near (by decide) hfinite hproduct).trans (by norm_num)
  rw [abs_le] at hfirst hsecond ⊢
  constructor
  · linarith
  · linarith

/-- **The error of a fraction** of a unit: that of its decimals, that of two roundings, and what is
cut off. -/
theorem abs_partNanos_sub_lt (hq : |q| ≤ 1) :
    |(partNanos unit q : Rat) - exactNanos unit q| < 6 := by
  obtain ⟨hpos, hsmall, hdecimal⟩ := perUnit_bounds unit
  have hcast : ((unit.seconds * 1000000000 : Int) : Rat) = unit.seconds * 1000000000 := by
    push_cast
    rfl
  unfold partNanos exactNanos
  dsimp only
  rw [hcast]
  generalize (unit.seconds * 1000000000 : Rat) = perUnit at *
  obtain ⟨hnear, hone⟩ := decimal_near (Power.ofTen_pos unit.places) hq
  generalize (Number.roundHalfEven (q * (Power.ofTen unit.places : Nat)) : Rat) /
    (Power.ofTen unit.places : Nat) = decimal at *
  have hplaces : |decimal * perUnit - q * perUnit| ≤ 9 / 2 := by
    rw [← sub_mul, abs_mul, abs_of_pos hpos]
    calc |decimal - q| * perUnit
      _ ≤ 1 / 2 / (Power.ofTen unit.places : Nat) * perUnit :=
        mul_le_mul_of_nonneg_right hnear hpos.le
      _ ≤ 9 / 2 := by rw [mul_comm]; exact hdecimal
  have hproduct := abs_product_sub_le hone hpos hsmall
  have hcut := abs_truncate_sub_lt
    ((Rounding.binary64.round decimal).mul .binary64 (.rational perUnit)).value
  rw [abs_lt] at hcut ⊢
  rw [abs_le] at hplaces hproduct
  constructor
  · linarith
  · linarith

/-! ### Offsets -/

theorem ofTicks?_eq_some_iff {r : Resolution} :
    ofTicks? r n = some d ↔ fits n = true ∧ d = ticks r n := by
  unfold ofTicks?
  cases fits n with
  | true => simp [eq_comm]
  | false => simp

theorem offset?_rational (unit : TimeUnit) (q : Rat) :
    offset? unit (.rational q) =
      if q.den = 1 then ofTicks? .micro (q.num * unit.seconds * 1000000)
      else ofTicks? .nano
        (truncate q * (unit.seconds * 1000000000) + partNanos unit (q - truncate q)) := rfl

theorem offset?_eq_notATime_iff : offset? unit x = some notATime ↔ x = .nan := by
  cases x with
  | nan => exact iff_of_true rfl rfl
  | infinite negative => exact iff_of_false nofun nofun
  | negativeZero => exact iff_of_false nofun nofun
  | rational q =>
    refine iff_of_false (fun h => ?_) nofun
    rw [offset?_rational] at h
    split at h
    · cases (ofTicks?_eq_some_iff.1 h).2
    · cases (ofTicks?_eq_some_iff.1 h).2

theorem isOffset_whole (hq : q.den = 1) :
    IsOffset 6 unit q (q.num * unit.seconds * 1000000 * Resolution.micro.tick) := by
  have hnum : (q.num : Rat) = q := Rat.coe_int_num_of_den_eq_one hq
  have hexact : ((q.num * unit.seconds * 1000000 * Resolution.micro.tick : Int) : Rat) =
      exactNanos unit q := by
    rw [exactNanos, Resolution.tick]
    push_cast
    rw [hnum]
    ring
  refine ⟨?_, fun _ => hexact⟩
  rw [hexact, sub_self, abs_zero]
  norm_num

theorem isOffset_fraction (hq : q.den ≠ 1) :
    IsOffset 6 unit q (truncate q * (unit.seconds * 1000000000) +
      partNanos unit (q - truncate q)) := by
  refine ⟨?_, fun hden => absurd hden hq⟩
  have hfraction : |q - truncate q| ≤ 1 := by
    rw [abs_sub_comm]
    exact (abs_truncate_sub_lt q).le
  have hsplit : ((truncate q * (unit.seconds * 1000000000) +
      partNanos unit (q - truncate q) : Int) : Rat) - exactNanos unit q =
      partNanos unit (q - truncate q) - exactNanos unit (q - truncate q) := by
    simp only [exactNanos]
    push_cast
    ring
  rw [hsplit]
  exact abs_partNanos_sub_lt hfraction

theorem isOffset_of_offset? (h : offset? unit x = some d) (hd : d.nanos? = some n) :
    x.isFinite = true ∧ IsOffset 6 unit x.value n := by
  cases x with
  | nan =>
    cases h
    cases hd
  | infinite negative => cases h
  | negativeZero =>
    cases h
    cases hd
    refine ⟨rfl, ?_, fun _ => ?_⟩
    · simp [exactNanos]
    · simp [exactNanos]
  | rational q =>
    refine ⟨rfl, ?_⟩
    rw [offset?_rational] at h
    split at h
    case isTrue hq =>
      obtain ⟨-, rfl⟩ := ofTicks?_eq_some_iff.1 h
      cases hd
      exact isOffset_whole hq
    case isFalse hq =>
      obtain ⟨-, rfl⟩ := ofTicks?_eq_some_iff.1 h
      rw [nanos?, Resolution.tick, mul_one] at hd
      cases hd
      exact isOffset_fraction hq

/-! ### Sums -/

theorem refined?_eq_some {r s : Resolution} (h : refined? r s n = some m) :
    m = n * (r.tick / s.tick) := by
  unfold refined? at h
  dsimp only at h
  split at h
  · exact (Option.some.inj h).symm
  · cases h

theorem tick_finer (r s : Resolution) :
    r.tick / (r.finer s).tick * (r.finer s).tick = r.tick ∧
      s.tick / (r.finer s).tick * (r.finer s).tick = s.tick := by
  cases r
  all_goals cases s
  all_goals decide

theorem add?_absent (h : a = notATime ∨ b = notATime) : add? a b = some notATime := by
  rcases h with rfl | rfl
  · rfl
  · cases a with
    | notATime => rfl
    | ticks r n => rfl

theorem nanos?_of_add? (h : add? a b = some d) (ha : a.nanos? = some i) (hb : b.nanos? = some j) :
    d.nanos? = some (i + j) := by
  cases a with
  | notATime => cases ha
  | ticks r x =>
    cases b with
    | notATime => cases hb
    | ticks s y =>
      cases ha
      cases hb
      obtain ⟨x', hx, h⟩ := Option.bind_eq_some_iff.1 h
      obtain ⟨y', hy, h⟩ := Option.bind_eq_some_iff.1 h
      obtain ⟨-, rfl⟩ := ofTicks?_eq_some_iff.1 h
      obtain ⟨hr, hs⟩ := tick_finer r s
      rw [nanos?, refined?_eq_some hx, refined?_eq_some hy, add_mul, mul_assoc, hr, mul_assoc, hs]

theorem word?_eq_some (h : word? d = some m) (hd : d.nanos? = some n) : m = n := by
  cases d with
  | notATime => cases hd
  | ticks r k =>
    cases hd
    rw [word?] at h
    split at h
    · exact (Option.some.inj h).symm
    · cases h

end Moment

namespace Timeline

/-- The laws of offsets, sums and words. -/
structure IsLawful (timeline : Timeline) (error : Rat) : Prop where
  /-- Only what is no number is no offset. -/
  offset?_eq_notATime_iff (unit : TimeUnit) (x : Number) :
    timeline.offset? unit x = some .notATime ↔ x = .nan
  /-- Any other offset is so many units. -/
  isOffset (unit : TimeUnit) (x : Number) (d : Moment) (n : Int) :
    timeline.offset? unit x = some d → d.nanos? = some n →
      x.isFinite = true ∧ Moment.IsOffset error unit x.value n
  /-- Nothing is added to an absent time, nor an absent time to anything. -/
  add?_absent (a b : Moment) :
    a = .notATime ∨ b = .notATime → timeline.add? a b = some .notATime
  /-- A sum is a sum. -/
  nanos?_add (a b c : Moment) (i j : Int) :
    timeline.add? a b = some c → a.nanos? = some i → b.nanos? = some j → c.nanos? = some (i + j)
  /-- The absent time has the least word. -/
  word?_notATime : timeline.word? .notATime = some (-9223372036854775808)
  /-- Any other word is the count of nanoseconds. -/
  word?_eq (a : Moment) (m n : Int) : timeline.word? a = some m → a.nanos? = some n → m = n

/-- **Dates and times of day are lawful**, with an error of six nanoseconds. -/
theorem standard_isLawful : standard.IsLawful 6 where
  offset?_eq_notATime_iff _ _ := Moment.offset?_eq_notATime_iff
  isOffset _ _ _ _ := Moment.isOffset_of_offset?
  add?_absent _ _ := Moment.add?_absent
  nanos?_add _ _ _ _ _ := Moment.nanos?_of_add?
  word?_notATime := rfl
  word?_eq _ _ _ := Moment.word?_eq_some

end Timeline

namespace TimeOrigin

variable {timeline : Timeline} {units : String} {o : TimeOrigin}

/-- The reference text of units: what follows the separator, without blanks around it. -/
def reference? (units : String) : Option String :=
  (splitAt? separator.toList units.toList).map fun parts => Blank.trimmed (String.ofList parts.2)

theorem exists_reference_of_read? (h : read? timeline units = some o) :
    ∃ text, reference? units = some text ∧ timeline.read? text = some o.instant := by
  obtain ⟨⟨before, after⟩, hsplit, h⟩ := Option.bind_eq_some_iff.1 h
  obtain ⟨unit, -, h⟩ := Option.bind_eq_some_iff.1 h
  obtain ⟨instant, hinstant, h⟩ := Option.bind_eq_some_iff.1 h
  cases h
  refine ⟨Blank.trimmed (String.ofList after), ?_, hinstant⟩
  rw [reference?, hsplit]
  rfl

end TimeOrigin

end StreetEnv
