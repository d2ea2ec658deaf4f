import StreetEnv.Number.Basic
import StreetEnv.Number.Rounding

/-!
# The text of numbers

The text of a double has the fewest digits that read back as the same double.  They are written
positionally when the first digit stands for a power of ten from `-4` to `15`, and with an exponent
of at least two digits otherwise.  A positional whole number keeps `.0`.

* `Shortest.interval` is the set of rationals that round to a double, as its two ends;
* `Shortest.onGrid?` looks for a point of one decimal grid inside the interval;
* `Shortest.digits` takes the coarsest grid that has one.
-/

namespace StreetEnv

/-! ### The fewest digits -/

namespace Shortest

/-- A decimal: `digits` times ten to the power `exponent`. -/
structure Decimal where
  /-- The digits, as a number. -/
  digits : Nat
  /-- The exponent of ten. -/
  exponent : Int
  deriving DecidableEq, Inhabited

/-- Ten to an integer power. -/
def tenTo (e : Int) : Rat :=
  if 0 ≤ e then (Power.ofTen e.toNat : Rat) else mkRat 1 (Power.ofTen (-e).toNat)

/-- The value of a decimal. -/
def Decimal.value (d : Decimal) : Rat := d.digits * tenTo d.exponent

/-- The rationals that round to one value: from `low` to `high`, with the ends or without. -/
structure Interval where
  /-- The lower end. -/
  low : Rat
  /-- The upper end. -/
  high : Rat
  /-- The ends belong to it. -/
  closed : Bool

/-- A rational lies in the interval. -/
def Interval.has (i : Interval) (q : Rat) : Bool :=
  if i.closed then i.low ≤ q && q ≤ i.high else i.low < q && q < i.high

/-- The interval of the rationals that round to the positive value `q` of a format.  Below a power
of two the values are twice as dense; the ends round to the even significand. -/
def interval (f : Format) (q : Rat) : Interval :=
  let a := q.num.natAbs
  let u := f.unitExponent a q.den
  let scaled := Format.inUnits a q.den u
  let m := scaled.1 / scaled.2
  let half := Format.ofUnits 1 (u - 1)
  let below :=
    if m = Power.ofTwo (f.precision - 1) ∧ u ≠ -(f.finest : Int) then Format.ofUnits 1 (u - 2)
    else half
  ⟨q - below, q + half, m % 2 = 0⟩

/-- The exponent `e` with `10 ^ e ≤ q < 10 ^ (e + 1)`, found by correcting an estimate. -/
def decimalExponent (q : Rat) : Int :=
  let e := Format.binaryExponent q.num.natAbs q.den * 1233 / 4096
  if q < tenTo e then e - 1
  else if q < tenTo (e + 1) then e
  else e + 1

/-- The point nearest to `q` among the multiples of `10 ^ e` inside the interval. -/
def onGrid? (i : Interval) (q : Rat) (e : Int) : Option Decimal :=
  let k := (q / tenTo e).floor.toNat
  let down : Decimal := ⟨k, e⟩
  let up : Decimal := ⟨k + 1, e⟩
  match k ≠ 0 && i.has down.value, i.has up.value with
  | true, true =>
    let toDown := q - down.value
    let toUp := up.value - q
    if toDown < toUp then some down
    else if toUp < toDown then some up
    else if k % 2 = 0 then some down else some up
  | true, false => some down
  | false, true => some up
  | false, false => none

/-- Tries `n` grids from `10 ^ e` on, each ten times finer than the one before. -/
def search (i : Interval) (q : Rat) : Nat → Int → Option Decimal
  | 0, _ => none
  | n + 1, e =>
    match onGrid? i q e with
    | some d => some d
    | none => search i q n (e - 1)

/-- The shortest decimal that reads back as the positive value `q`. -/
def digits (f : Format) (q : Rat) : Decimal :=
  (search (interval f q) q 18 (decimalExponent q)).getD ⟨0, 0⟩

end Shortest

/-! ### Their arrangement -/

/-- How decimals are written. -/
structure DecimalStyle where
  /-- The smallest power of ten of a first digit that is written positionally. -/
  least : Int
  /-- The largest such power. -/
  greatest : Int
  /-- The least number of digits of an exponent. -/
  exponentDigits : Nat

/-- The style of every report. -/
def DecimalStyle.report : DecimalStyle := ⟨-4, 15, 2⟩

namespace DecimalStyle

/-- The digits of a number with zeros in front, up to the given length. -/
def padded (width n : Nat) : List Char :=
  let ds := Nat.toDigits 10 n
  List.replicate (width - ds.length) '0' ++ ds

/-- Drops the zeros at the end. -/
def stripZeros (ds : List Char) : List Char := (ds.reverse.dropWhile (· = '0')).reverse

/-- A positive decimal in the style. -/
def write (s : DecimalStyle) (d : Shortest.Decimal) : List Char :=
  let all := Nat.toDigits 10 d.digits
  let power : Int := d.exponent + (all.length : Int) - 1
  let ds := match stripZeros all with
    | [] => ['0']
    | ds => ds
  if s.least ≤ power ∧ power ≤ s.greatest then
    if power < 0 then
      '0' :: '.' :: List.replicate ((-power).toNat - 1) '0' ++ ds
    else
      let whole := power.toNat + 1
      let fraction := match ds.drop whole with
        | [] => ['0']
        | rest => rest
      ds.take whole ++ List.replicate (whole - ds.length) '0' ++ '.' :: fraction
  else
    let fraction := match ds.drop 1 with
      | [] => []
      | rest => '.' :: rest
    let sign := if power < 0 then '-' else '+'
    ds.take 1 ++ fraction ++ 'e' :: sign :: padded s.exponentDigits power.natAbs

end DecimalStyle

/-- The text of a double. -/
def Number.text : Number → String
  | .nan => "nan"
  | .infinite false => "inf"
  | .infinite true => "-inf"
  | .negativeZero => "-0.0"
  | .rational q =>
    if q.num = 0 then "0.0"
    else
      let m : Rat := if q < 0 then -q else q
      let cs := DecimalStyle.report.write (Shortest.digits Format.double m)
      String.ofList (if q < 0 then '-' :: cs else cs)

end StreetEnv
