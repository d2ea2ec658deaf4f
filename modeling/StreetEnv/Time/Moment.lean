import StreetEnv.Decimal.Text
import StreetEnv.Number.Arithmetic
import StreetEnv.Number.Basic

/-!
# Dates and moments

A `Date` is a date of the proleptic Gregorian calendar.  A `Moment` is an instant since the first of
January 1970, or an offset between two of them, counted at some resolution.  `Moment.notATime`
stands for the absence of an instant.

* `Calendar.dayNumber` counts days from the first of January 1970, and `Calendar.dateOfDay` leads
  back;
* `Moment.nanos?` counts the nanoseconds of a moment;
* `Moment.offset?` turns a count of time units into an offset: whole counts are exact to the
  microsecond, fractions are taken to the nanosecond;
* `Moment.add?` adds in the finer of the two resolutions;
* `Moment.word?` is the count of nanoseconds as a machine word;
* `Moment.text` writes an instant as date and time.
-/

namespace StreetEnv

/-! ### The calendar -/

/-- A date. -/
structure Date where
  /-- The year; the year before 1 is 0. -/
  year : Int
  /-- The month, from 1. -/
  month : Nat
  /-- The day of the month, from 1. -/
  day : Nat
  deriving DecidableEq, Inhabited

namespace Calendar

/-- A year of 366 days. -/
def isLeap (year : Int) : Bool := year % 4 = 0 && (year % 100 ≠ 0 || year % 400 = 0)

/-- The number of days of a month. -/
def daysInMonth (year : Int) (month : Nat) : Nat :=
  if month = 2 then (if isLeap year then 29 else 28)
  else if month = 4 ∨ month = 6 ∨ month = 9 ∨ month = 11 then 30
  else 31

/-- The date exists. -/
def isValid (d : Date) : Bool :=
  1 ≤ d.month && d.month ≤ 12 && 1 ≤ d.day && d.day ≤ daysInMonth d.year d.month

/-- Days from the first of January 1970.  Years are counted from March, so that the leap day is the
last of its year. -/
def dayNumber (d : Date) : Int :=
  let y := if d.month ≤ 2 then d.year - 1 else d.year
  let m : Int := (d.month + 9) % 12
  let era := Int.fdiv y 400
  let yearOfEra := y - era * 400
  let dayOfYear := (153 * m + 2) / 5 + d.day - 1
  let dayOfEra := yearOfEra * 365 + yearOfEra / 4 - yearOfEra / 100 + dayOfYear
  era * 146097 + dayOfEra - 719468

/-- The date of a day number. -/
def dateOfDay (n : Int) : Date :=
  let z := n + 719468
  let era := Int.fdiv z 146097
  let dayOfEra := z - era * 146097
  let yearOfEra := (dayOfEra - dayOfEra / 1460 + dayOfEra / 36524 - dayOfEra / 146096) / 365
  let dayOfYear := dayOfEra - (365 * yearOfEra + yearOfEra / 4 - yearOfEra / 100)
  let m := (5 * dayOfYear + 2) / 153
  let day := dayOfYear - (153 * m + 2) / 5 + 1
  let month := if m < 10 then m + 3 else m - 9
  let year := yearOfEra + era * 400 + (if month ≤ 2 then 1 else 0)
  ⟨year, month.toNat, day.toNat⟩

example : dayNumber ⟨1970, 1, 1⟩ = 0 := by decide

example : dateOfDay (dayNumber ⟨2024, 2, 29⟩) = ⟨2024, 2, 29⟩ := by decide

end Calendar

/-! ### Moments -/

/-- A unit of time axes. -/
inductive TimeUnit where
  | second | minute | hour | day
  deriving DecidableEq, Inhabited

namespace TimeUnit

/-- The short name of a unit. -/
def symbol : TimeUnit → String
  | second => "s"
  | minute => "min"
  | hour => "h"
  | day => "D"

/-- Seconds of a unit. -/
def seconds : TimeUnit → Int
  | second => 1
  | minute => 60
  | hour => 3600
  | day => 86400

/-- The decimal places to which a fraction of the unit is taken. -/
def places : TimeUnit → Nat
  | second => 9
  | minute => 10
  | hour => 12
  | day => 13

end TimeUnit

/-- What instants and offsets are counted in. -/
inductive Resolution where
  | second | milli | micro | nano
  deriving DecidableEq, Inhabited

namespace Resolution

/-- Nanoseconds of a tick. -/
def tick : Resolution → Int
  | second => 1000000000
  | milli => 1000000
  | micro => 1000
  | nano => 1

/-- The finer of two resolutions. -/
def finer (r s : Resolution) : Resolution := if r.tick ≤ s.tick then r else s

end Resolution

/-- An instant or an offset. -/
inductive Moment where
  /-- No instant at all. -/
  | notATime
  /-- A count of ticks. -/
  | ticks (resolution : Resolution) (n : Int)
  deriving DecidableEq, Inhabited

namespace Moment

/-- A count of microseconds. -/
@[match_pattern] abbrev micros (n : Int) : Moment := ticks .micro n

/-- A count of nanoseconds. -/
@[match_pattern] abbrev nanos (n : Int) : Moment := ticks .nano n

/-- The count of nanoseconds, if there is a time at all. -/
def nanos? : Moment → Option Int
  | notATime => none
  | ticks r n => some (n * r.tick)

/-- The count fits a machine word that keeps its least value for the absent time. -/
def fits (n : Int) : Bool := -(Power.ofTwo 63 : Int) < n && n < Power.ofTwo 63

/-- The integer part of a rational, towards zero. -/
def truncate (q : Rat) : Int := if q < 0 then -(-q).floor else q.floor

/-- The part of an offset that comes from a fraction of a unit. -/
def partNanos (unit : TimeUnit) (q : Rat) : Int :=
  let scale : Rat := (Power.ofTen unit.places : Rat)
  let fraction := Rounding.binary64.round (Number.roundHalfEven (q * scale) / scale)
  truncate (fraction.mul .binary64 (.rational (unit.seconds * 1000000000 : Int))).value

/-- A count that fits. -/
def ofTicks? (r : Resolution) (n : Int) : Option Moment := if fits n then some (ticks r n) else none

/-- The offset of `x` units of time. -/
def offset? (unit : TimeUnit) : Number → Option Moment
  | .nan => some notATime
  | .infinite _ => none
  | .negativeZero => some (micros 0)
  | .rational q =>
    if q.den = 1 then ofTicks? .micro (q.num * unit.seconds * 1000000)
    else
      ofTicks? .nano (truncate q * (unit.seconds * 1000000000) + partNanos unit (q - truncate q))

/-- The ticks of a resolution in those of a finer one, if they fit. -/
def refined? (r s : Resolution) (n : Int) : Option Int :=
  let m := n * (r.tick / s.tick)
  if fits m then some m else none

/-- The instant after an offset. -/
def add? : Moment → Moment → Option Moment
  | notATime, _ => some notATime
  | _, notATime => some notATime
  | ticks r m, ticks s n => do
    let i ← refined? r (r.finer s) m
    let j ← refined? s (r.finer s) n
    ofTicks? (r.finer s) (i + j)

/-- The nanoseconds as a machine word; the absent time has the least word. -/
def word? : Moment → Option Int
  | notATime => some (-(Power.ofTwo 63 : Int))
  | ticks r n => if fits (n * r.tick) then some (n * r.tick) else none

/-- A number of at least the given width, a minus sign included. -/
def padded (width : Nat) (n : Int) : List Char :=
  if n < 0 then '-' :: DecimalStyle.padded (width - 1) n.natAbs
  else DecimalStyle.padded width n.natAbs

/-- Date and time of a count of nanoseconds: six digits of a fraction, nine if they are needed and
none for a whole second. -/
def textOfNanos (n : Int) : String :=
  let day := Int.fdiv n (86400 * 1000000000)
  let rest := (n - day * (86400 * 1000000000)).toNat
  let second := rest / 1000000000
  let fraction := rest % 1000000000
  let d := Calendar.dateOfDay day
  let two (k : Nat) := DecimalStyle.padded 2 k
  let tail :=
    if fraction = 0 then []
    else if fraction % 1000 = 0 then '.' :: DecimalStyle.padded 6 (fraction / 1000)
    else '.' :: DecimalStyle.padded 9 fraction
  String.ofList (padded 4 d.year ++ '-' :: two d.month ++ '-' :: two d.day ++
    'T' :: two (second / 3600) ++ ':' :: two (second / 60 % 60) ++ ':' :: two (second % 60) ++ tail)
    ++ "+00:00"

/-- An instant as date and time. -/
def text (m : Moment) : String := m.nanos?.elim "NaT" textOfNanos

end Moment

end StreetEnv
