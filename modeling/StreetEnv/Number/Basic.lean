/-!
# Numbers of the extended line

`Number` holds every value the library measures with: an exact rational, a zero that has kept a
minus sign, one of the two infinities, or not-a-number.

* `Number.value?` is the rational a number stands for, absent for the infinities and `nan`;
* `Number.lt` and `Number.le` compare, and no comparison holds with `nan`;
* `Number.least` and `Number.greatest` keep their first argument unless the second is strictly
  better, which settles what happens to `nan` and to zeros of either sign.

The powers of two count the values that bits can tell apart, the powers of ten place a decimal
point.
-/

namespace StreetEnv

/-! ### Powers -/

namespace Power

/-- Two to the power `n`. -/
def ofTwo (n : Nat) : Nat := Nat.pow 2 n

/-- Ten to the power `n`. -/
def ofTen (n : Nat) : Nat := Nat.pow 10 n

theorem ofTwo_pos (n : Nat) : 0 < ofTwo n := Nat.pow_pos (by decide)

theorem ofTen_pos (n : Nat) : 0 < ofTen n := Nat.pow_pos (by decide)

end Power

/-! ### Numbers -/

/-- A number: an exact rational, a negative zero, an infinity, or not-a-number. -/
inductive Number where
  /-- Not a number. -/
  | nan
  /-- An infinity, with its sign. -/
  | infinite (negative : Bool)
  /-- The zero that has kept a minus sign. -/
  | negativeZero
  /-- A rational number. -/
  | rational (q : Rat)
  deriving DecidableEq, Inhabited

namespace Number

instance (n : Nat) : OfNat Number n := ⟨rational n⟩

/-- A whole number. -/
def ofInt (n : Int) : Number := rational n

/-- A natural number. -/
def natural (n : Nat) : Number := rational n

/-- The rational a finite number stands for. -/
def value? : Number → Option Rat
  | nan => none
  | infinite _ => none
  | negativeZero => some 0
  | rational q => some q

/-- The rational a finite number stands for, and zero for the others. -/
def value (x : Number) : Rat := x.value?.getD 0

/-- Neither an infinity nor `nan`. -/
def isFinite (x : Number) : Bool := x.value?.isSome

/-- The sign bit: set for negative rationals, for the negative zero and for negative infinity. -/
def isNegative : Number → Bool
  | nan => false
  | infinite s => s
  | negativeZero => true
  | rational q => decide (q < 0)

/-- A zero of the given sign. -/
def zero (negative : Bool) : Number := if negative then negativeZero else rational 0

/-- The number with the opposite sign. -/
protected def neg : Number → Number
  | nan => nan
  | infinite s => infinite (!s)
  | negativeZero => rational 0
  | rational q => if q = 0 then negativeZero else rational (-q)

instance : Neg Number := ⟨Number.neg⟩

/-- The magnitude. -/
def abs (x : Number) : Number := if x.isNegative then -x else x

/-! ### Order -/

/-- Strictly less; false whenever `nan` is involved, and for two zeros. -/
def lt : Number → Number → Bool
  | nan, _ => false
  | _, nan => false
  | infinite s, infinite t => s && !t
  | infinite s, _ => s
  | _, infinite t => !t
  | x, y => decide (x.value < y.value)

/-- Less or equal; false whenever `nan` is involved. -/
def le : Number → Number → Bool
  | nan, _ => false
  | _, nan => false
  | x, y => !lt y x

/-- Equality of what two numbers stand for: the zeros are equal, `nan` equals nothing. -/
def same (x y : Number) : Bool := x.le y && y.le x

instance : LT Number := ⟨fun x y => x.lt y = true⟩
instance : LE Number := ⟨fun x y => x.le y = true⟩
instance (x y : Number) : Decidable (x < y) := inferInstanceAs (Decidable (_ = true))
instance (x y : Number) : Decidable (x ≤ y) := inferInstanceAs (Decidable (_ = true))

/-- The smaller of two numbers: the first unless the second is strictly smaller. -/
def least (x y : Number) : Number := if y < x then y else x

/-- The larger of two numbers: the first unless the second is strictly larger. -/
def greatest (x y : Number) : Number := if x < y then y else x

/-! ### First laws -/

@[simp] theorem value_rational (q : Rat) : (rational q).value = q := rfl

@[simp] theorem value_negativeZero : negativeZero.value = 0 := rfl

theorem lt_rational {p q : Rat} : rational p < rational q ↔ p < q := by
  change decide (p < q) = true ↔ _
  exact decide_eq_true_iff

theorem le_rational {p q : Rat} : rational p ≤ rational q ↔ p ≤ q := by
  change (!decide (q < p)) = true ↔ _
  rw [Bool.not_eq_true', decide_eq_false_iff_not, Rat.not_lt]

theorem not_nan_lt (x : Number) : ¬ nan < x := by
  cases x <;> exact Bool.false_ne_true

theorem not_lt_nan (x : Number) : ¬ x < nan := by
  cases x <;> exact Bool.false_ne_true

end Number

end StreetEnv
