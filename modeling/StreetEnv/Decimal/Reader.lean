import StreetEnv.Number.Basic
import StreetEnv.Number.Rounding
import StreetEnv.Text.Character

/-!
# Reading numerals

A whole number is a sign and digits of any script, with single underscores between them and white
space around.

A decimal literal is a sign, digits with at most one point among them, and perhaps an exponent.
`Literal` is what such a text says, before any rounding, and `Literal.toNumber` rounds it once.
-/

namespace StreetEnv

/-! ### Whole numbers -/

namespace Integer

/-- The values of digits; a single underscore may stand between two of them. -/
def digits? : List Char → Option (List Nat)
  | [] => none
  | [c] => (Digit.value? c).map fun d => [d]
  | c :: '_' :: cs => do return (← Digit.value? c) :: (← digits? cs)
  | c :: cs => do return (← Digit.value? c) :: (← digits? cs)

/-- Texts with more digits are not read. -/
def maxDigits : Nat := 4300

/-- The whole number that a text writes. -/
def read? (s : String) : Option Int := do
  let cs := Blank.trim Blank.isWhiteSpace s.toList
  let (negative, cs) := match cs with
    | '-' :: cs => (true, cs)
    | '+' :: cs => (false, cs)
    | cs => (false, cs)
  let ds ← digits? cs
  if maxDigits < ds.length then none
  let n : Int := Digit.readFrom 0 ds
  return if negative then -n else n

example : read? " +1_000 " = some 1000 := by decide +kernel

example : read? "1__0" = none := by decide +kernel

end Integer

/-! ### Decimal literals -/

/-- A decimal literal: `digits` times ten to the power `exponent`, with a sign. -/
structure Literal where
  /-- It has a minus sign. -/
  negative : Bool
  /-- All digits, as a number. -/
  digits : Nat
  /-- The exponent of ten that goes with the last digit. -/
  exponent : Int
  deriving DecidableEq, Inhabited

namespace Literal

/-- The double nearest to a literal.  With a first digit beyond the 400th place before the point, or
after it, the outcome is an infinity or a zero whatever the other digits are. -/
def toNumber (l : Literal) : Number :=
  if l.digits = 0 then .zero l.negative
  else
    let power : Int := l.exponent + ((Nat.toDigits 10 l.digits).length : Int)
    if 400 < power then .infinite l.negative
    else if power < -400 then .zero l.negative
    else
      let m : Rat :=
        if 0 ≤ l.exponent then ((l.digits * Power.ofTen l.exponent.toNat : Nat) : Rat)
        else mkRat l.digits (Power.ofTen (-l.exponent).toNat)
      Rounding.binary64.round (if l.negative then -m else m)

/-- The ASCII digits a text starts with, as values, and the rest. -/
def spanDigits : List Char → List Nat × List Char
  | [] => ([], [])
  | c :: cs =>
    if c.isDigit then
      let (ds, rest) := spanDigits cs
      ((c.toNat - 48) :: ds, rest)
    else ([], c :: cs)

/-- Removes a sign; the flag is set for a minus. -/
def takeSign : List Char → Bool × List Char
  | '-' :: cs => (true, cs)
  | '+' :: cs => (false, cs)
  | cs => (false, cs)

/-- The exponent a text starts with, `some 0` if it has none, `none` if the mark stands alone. -/
def takeExponent (cs : List Char) : Option (Int × List Char) :=
  match cs with
  | c :: rest =>
    if c = 'e' || c = 'E' then
      let (negative, rest) := takeSign rest
      match spanDigits rest with
      | ([], _) => none
      | (ds, rest) =>
        let n : Int := Digit.readFrom 0 ds
        some (if negative then -n else n, rest)
    else some (0, cs)
  | [] => some (0, [])

/-- Reads a whole text as a literal: digits on at least one side of a point. -/
def read? (cs : List Char) : Option Literal :=
  let (negative, cs) := takeSign cs
  let (whole, cs) := spanDigits cs
  let (fraction, cs) := match cs with
    | '.' :: cs => spanDigits cs
    | cs => ([], cs)
  if whole.isEmpty && fraction.isEmpty then none
  else
    match takeExponent cs with
    | some (e, []) =>
      some ⟨negative, Digit.readFrom 0 (whole ++ fraction), e - (fraction.length : Int)⟩
    | _ => none

end Literal

end StreetEnv
