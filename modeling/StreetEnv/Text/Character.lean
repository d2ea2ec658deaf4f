/-!
# Characters

* `Case.lower` knows which characters have an ASCII letter as their lower case: the ASCII capitals
  and the sign for the kelvin.  Names of units, suffixes and formats are ASCII, so this is enough to
  compare them;
* `Blank.isWhiteSpace` is the property White_Space of characters, `Blank.isBlank` adds the four
  information separators, and `Blank.trim` removes characters of a class from both ends;
* `Digit.zeros` lists the digit zero of each script, the other nine follow it, and `Digit.value?`
  reads a digit of any script.
-/

namespace StreetEnv

/-! ### Lower case -/

namespace Case

/-- The lower case of a character, as far as it is an ASCII letter. -/
def lowerChar (c : Char) : Char := if c = '\u212a' then 'k' else c.toLower

/-- The lower case of a text, as far as it is ASCII. -/
def lower (s : String) : String := String.ofList (s.toList.map lowerChar)

example : lower ".GeoJSON" = ".geojson" := by decide +kernel

end Case

/-! ### Blank characters -/

namespace Blank

/-- The character has the property White_Space. -/
def isWhiteSpace (c : Char) : Bool :=
  let n := c.toNat
  (9 ≤ n && n ≤ 13) || n == 0x20 || n == 0x85 || n == 0xa0 || n == 0x1680 ||
    (0x2000 ≤ n && n ≤ 0x200a) || n == 0x2028 || n == 0x2029 || n == 0x202f || n == 0x205f ||
    n == 0x3000

/-- White space, or one of the information separators. -/
def isBlank (c : Char) : Bool := isWhiteSpace c || (0x1c ≤ c.toNat && c.toNat ≤ 0x1f)

/-- Removes the characters of a class from both ends. -/
def trim (p : Char → Bool) (cs : List Char) : List Char :=
  ((cs.dropWhile p).reverse.dropWhile p).reverse

/-- Removes blanks from both ends of a text. -/
def trimmed (s : String) : String := String.ofList (trim isBlank s.toList)

theorem isBlank_of_isWhitespace {c : Char} (h : c.isWhitespace = true) : isBlank c = true := by
  simp only [Char.isWhitespace, Bool.or_eq_true, decide_eq_true_eq] at h
  rcases h with ((rfl | rfl) | rfl) | rfl <;> decide

end Blank

/-! ### Decimal digits -/

namespace Digit

/-- The code points of the digit zero, script by script. -/
def zeros : List Nat :=
  [0x30, 0x660, 0x6f0, 0x7c0, 0x966, 0x9e6, 0xa66, 0xae6, 0xb66, 0xbe6, 0xc66, 0xce6, 0xd66,
   0xde6, 0xe50, 0xed0, 0xf20, 0x1040, 0x1090, 0x17e0, 0x1810, 0x1946, 0x19d0, 0x1a80, 0x1a90,
   0x1b50, 0x1bb0, 0x1c40, 0x1c50, 0xa620, 0xa8d0, 0xa900, 0xa9d0, 0xa9f0, 0xaa50, 0xabf0,
   0xff10, 0x104a0, 0x10d30, 0x11066, 0x110f0, 0x11136, 0x111d0, 0x112f0, 0x11450, 0x114d0,
   0x11650, 0x116c0, 0x11730, 0x118e0, 0x11950, 0x11c50, 0x11d50, 0x11da0, 0x16a60, 0x16ac0,
   0x16b50, 0x1d7ce, 0x1d7d8, 0x1d7e2, 0x1d7ec, 0x1d7f6, 0x1e140, 0x1e2f0, 0x1e950, 0x1fbf0]

/-- The value of a decimal digit of any script. -/
def value? (c : Char) : Option Nat :=
  if c.toNat < 128 then
    if c.isDigit then some (c.toNat - 48) else none
  else (zeros.find? fun z => z ≤ c.toNat && c.toNat < z + 10).map fun z => c.toNat - z

/-- The number that a row of digits writes, after `n`. -/
def readFrom (n : Nat) : List Nat → Nat
  | [] => n
  | d :: ds => readFrom (10 * n + d) ds

example : value? '7' = some 7 := by decide

example : value? '٣' = some 3 := by decide

end Digit

end StreetEnv
