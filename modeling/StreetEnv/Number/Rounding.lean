import StreetEnv.Number.Basic

/-!
# Rounding

A `Rounding` says which number stands for a rational that has to be stored.  All arithmetic of the
library takes one as an argument, so the same definitions run in double precision and are reasoned
about exactly.

* `Rounding.exact` stores every rational as it is;
* `Format.round` rounds to the nearest value of a binary format, ties to the even significand;
* `Rounding.binary64` and `Rounding.binary32` are the two formats in use.

Trigonometry is done by the machine on its own doubles.  `Number.toFloat` and `Number.ofFloat` lead
there and back through the 64 bits of the representation.
-/

namespace StreetEnv

/-- The number that stands for a rational. -/
structure Rounding where
  /-- The stored form of a rational. -/
  round : Rat → Number

/-- A binary floating-point format. -/
structure Format where
  /-- Bits of a full significand. -/
  precision : Nat
  /-- The exponent of the smallest unit, as a power of one half. -/
  finest : Nat
  /-- The power of two that is already out of range. -/
  ceiling : Nat

namespace Format

/-- Eleven bits of exponent and 53 of significand. -/
def double : Format := ⟨53, 1074, 1024⟩

/-- Eight bits of exponent and 24 of significand. -/
def single : Format := ⟨24, 149, 128⟩

/-- The natural number nearest to `a / d`; a half goes to the even neighbour. -/
def nearestQuotient (a d : Nat) : Nat :=
  let k := a / d
  let r := a % d
  if 2 * r < d then k
  else if d < 2 * r then k + 1
  else if k % 2 = 0 then k else k + 1

/-- `a / d` in units of `2 ^ u`, as a numerator and a denominator. -/
def inUnits (a d : Nat) (u : Int) : Nat × Nat :=
  if 0 ≤ u then (a, d * Power.ofTwo u.toNat) else (a * Power.ofTwo (-u).toNat, d)

/-- The exponent `e` with `2 ^ e ≤ a / d < 2 ^ (e + 1)`, for positive `a` and `d`. -/
def binaryExponent (a d : Nat) : Int :=
  let e : Int := (a.log2 : Int) - (d.log2 : Int)
  let scaled := inUnits a d e
  if scaled.2 ≤ scaled.1 then e else e - 1

/-- The exponent of the unit in the last place of values of the size of `a / d`. -/
def unitExponent (f : Format) (a d : Nat) : Int :=
  max (binaryExponent a d - ((f.precision : Int) - 1)) (-(f.finest : Int))

/-- `m` units of `2 ^ u`. -/
def ofUnits (m : Nat) (u : Int) : Rat :=
  if 0 ≤ u then ((m * Power.ofTwo u.toNat : Nat) : Rat) else mkRat m (Power.ofTwo (-u).toNat)

/-- The magnitude nearest to `a / d` in the format, `none` when it is out of range. -/
def roundMagnitude (f : Format) (a d : Nat) : Option Rat :=
  let u := f.unitExponent a d
  let scaled := inUnits a d u
  let q := ofUnits (nearestQuotient scaled.1 scaled.2) u
  if q < (Power.ofTwo f.ceiling : Rat) then some q else none

/-- The value of the format nearest to a rational.  What rounds to zero keeps its sign, and what
is out of range becomes an infinity. -/
def round (f : Format) (q : Rat) : Number :=
  if q.num = 0 then .rational 0
  else
    let negative := decide (q.num < 0)
    match f.roundMagnitude q.num.natAbs q.den with
    | none => .infinite negative
    | some m =>
      if m.num = 0 then .zero negative
      else .rational (if negative then -m else m)

/-- The format has this rational among its values. -/
def Represents (f : Format) (q : Rat) : Prop := f.round q = .rational q

instance (f : Format) (q : Rat) : Decidable (f.Represents q) :=
  inferInstanceAs (Decidable (_ = _))

end Format

namespace Rounding

/-- Every rational stands for itself. -/
def exact : Rounding := ⟨.rational⟩

/-- Double precision. -/
def binary64 : Rounding := ⟨Format.double.round⟩

/-- Single precision. -/
def binary32 : Rounding := ⟨Format.single.round⟩

/-- A number as the rounding stores it; what is not a nonzero rational is stored already. -/
def store (r : Rounding) : Number → Number
  | .rational q => r.round q
  | x => x

@[simp] theorem exact_round (q : Rat) : exact.round q = .rational q := rfl

@[simp] theorem exact_store (x : Number) : exact.store x = x := by cases x <;> rfl

end Rounding

/-! ### Doubles as words -/

namespace Number

/-- The word of a positive double. -/
def magnitudeBits (q : Rat) : Nat :=
  let a := q.num.natAbs
  let u := Format.double.unitExponent a q.den
  let scaled := Format.inUnits a q.den u
  let m := Format.nearestQuotient scaled.1 scaled.2
  if m < Power.ofTwo 52 then m else (u + 1075).toNat * Power.ofTwo 52 + (m - Power.ofTwo 52)

/-- The word of a double. -/
def toWord : Number → Nat
  | nan => 0x7ff8 * Power.ofTwo 48
  | infinite s => (if s then Power.ofTwo 63 else 0) + 0x7ff * Power.ofTwo 52
  | negativeZero => Power.ofTwo 63
  | rational q =>
    if q.num = 0 then 0 else (if q < 0 then Power.ofTwo 63 else 0) + magnitudeBits q

/-- The double with a given word. -/
def ofWord (w : Nat) : Number :=
  let negative := w / Power.ofTwo 63 = 1
  let e : Nat := w / Power.ofTwo 52 % 2048
  let m : Nat := w % Power.ofTwo 52
  if e = 2047 then (if m = 0 then infinite negative else nan)
  else if e = 0 ∧ m = 0 then zero negative
  else
    let q :=
      if e = 0 then Format.ofUnits m (-1074)
      else Format.ofUnits (Power.ofTwo 52 + m) ((e : Int) - 1075)
    rational (if negative then -q else q)

/-- The machine's double. -/
def toFloat (x : Number) : Float := Float.ofBits (UInt64.ofNat x.toWord)

/-- The number of a machine's double. -/
def ofFloat (x : Float) : Number := ofWord x.toBits.toNat

end Number

end StreetEnv
