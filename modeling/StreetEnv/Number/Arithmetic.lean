import StreetEnv.Fault
import StreetEnv.Number.Basic
import StreetEnv.Number.Rounding

/-!
# Arithmetic under a rounding

Each operation is the exact one followed by the rounding.  Infinities, `nan` and the sign of a zero
follow the usual conventions of floating-point arithmetic.

* `Number.add`, `Number.sub`, `Number.mul`, `Number.div`;
* `Number.sum` rounds once, after the exact sum, and refuses a running sum that is out of range;
* `Number.hypot` is the length of a vector in double precision, without overflow on the way;
* `Number.floor` and `Number.roundHalfAway` lead back to the integers.
-/

namespace StreetEnv

namespace Number

/-- The sum. -/
def add (r : Rounding) : Number → Number → Number
  | nan, _ => nan
  | _, nan => nan
  | infinite s, infinite t => if s = t then infinite s else nan
  | infinite s, _ => infinite s
  | _, infinite t => infinite t
  | negativeZero, negativeZero => negativeZero
  | x, y => r.round (x.value + y.value)

/-- The difference. -/
def sub (r : Rounding) (x y : Number) : Number := add r x (-y)

/-- The product. -/
def mul (r : Rounding) (x y : Number) : Number :=
  let negative := x.isNegative != y.isNegative
  match x, y with
  | nan, _ => nan
  | _, nan => nan
  | infinite _, z => if z.isFinite && z.value = 0 then nan else infinite negative
  | z, infinite _ => if z.value = 0 then nan else infinite negative
  | x, y =>
    let q := x.value * y.value
    if q = 0 then zero negative else r.round q

/-- The quotient.  A zero divisor gives an infinity, and `nan` for zero over zero. -/
def div (r : Rounding) (x y : Number) : Number :=
  let negative := x.isNegative != y.isNegative
  match x, y with
  | nan, _ => nan
  | _, nan => nan
  | infinite _, infinite _ => nan
  | infinite _, _ => infinite negative
  | _, infinite _ => zero negative
  | x, y =>
    if y.value = 0 then (if x.value = 0 then nan else infinite negative)
    else if x.value = 0 then zero negative
    else r.round (x.value / y.value)

/-- The sums of the nonempty initial segments, after a first term `q`. -/
def runningSums (q : Rat) : List Rat → List Rat
  | [] => []
  | x :: xs => (q + x) :: runningSums (q + x) xs

/-- The sum of finite numbers, rounded once.  It is refused when the sum of an initial segment
leaves the range.  A summation with partial sums also stops where one of these leaves the range on
the way; those overflows are not followed here. -/
def sum (r : Rounding) (xs : List Number) : Except Fault Number :=
  let values := xs.map value
  if (runningSums 0 values).all fun q => (r.round q).isFinite then
    .ok (r.round (values.foldl (· + ·) 0))
  else .error .sumOverflow

/-- The square root of a positive rational in double precision.  The root is taken with so many
digits that no value of the format, nor a midpoint of two, lies between its neighbours. -/
def sqrt (q : Rat) : Number :=
  let a := q.num.natAbs
  let shift : Nat := ((160 : Int) - Format.binaryExponent a q.den).toNat
  let scaled := a * Power.ofTwo (2 * shift) / q.den
  let root := Nat.sqrt scaled
  let isSquare := root * root * q.den = a * Power.ofTwo (2 * shift)
  let twice := if isSquare then 2 * root else 2 * root + 1
  Format.double.round (mkRat twice (Power.ofTwo (shift + 1)))

/-- The length of the vector `(x, y)` in double precision; infinite as soon as one part is. -/
def hypot (x y : Number) : Number :=
  match x, y with
  | infinite _, _ => infinite false
  | _, infinite _ => infinite false
  | nan, _ => nan
  | _, nan => nan
  | x, y =>
    let q := x.value * x.value + y.value * y.value
    if q = 0 then 0 else sqrt q

/-- The largest integer that is not above the number. -/
def floor : Number → Except Fault Int
  | nan => .error .nanToInteger
  | infinite _ => .error .infinityToInteger
  | x => .ok x.value.floor

/-- The nearest integer, where a half goes away from zero: the magnitude plus one half is cut, and
the sign is put back. -/
def roundHalfAway (r : Rounding) (x : Number) : Except Fault Int := do
  let n ← floor (add r x.abs (rational (1 / 2)))
  return if x.isNegative then -n else n

/-- The integer nearest to a rational, where a half goes to the even neighbour. -/
def roundHalfEven (q : Rat) : Int :=
  let k := q.floor
  let twice := 2 * (q - k)
  if twice < 1 then k
  else if 1 < twice then k + 1
  else if k % 2 = 0 then k else k + 1

theorem sum_exact (xs : List Number) :
    sum .exact xs = .ok (rational ((xs.map value).foldl (· + ·) 0)) := by
  have all : ∀ (q : Rat) (l : List Rat),
      ((runningSums q l).all fun p => (Rounding.exact.round p).isFinite) = true := by
    intro q l
    induction l generalizing q with
    | nil => rfl
    | cons x l ih => simp only [runningSums, List.all_cons, ih, Bool.and_true]; rfl
  simp only [sum, all, if_true]
  rfl

end Number

end StreetEnv
