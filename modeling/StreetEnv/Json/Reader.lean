import StreetEnv.Decimal.Reader
import StreetEnv.Json.Basic

/-!
# Reading structured data

`Json.read?` reads a whole text.  Besides the standard grammar it accepts `NaN`, `Infinity` and
`-Infinity`; it refuses control characters inside texts, a mark of the byte order, and anything
after the value.

Every reader takes a bound on the calls below it; `read?` passes one that the length of the text
cannot exceed.
-/

namespace StreetEnv

namespace Json

/-- The spaces between tokens. -/
def isSpace (c : Char) : Bool := c = ' ' || c = '\t' || c = '\n' || c = '\r'

/-- Drops the spaces a text starts with. -/
def skip (cs : List Char) : List Char := cs.dropWhile isSpace

/-- Removes a word from the front of a text. -/
def word? : List Char → List Char → Option (List Char)
  | [], cs => some cs
  | _ :: _, [] => none
  | w :: ws, c :: cs => if w = c then word? ws cs else none

/-- The value of a hexadecimal digit. -/
def hexDigit? (c : Char) : Option Nat :=
  if c.isDigit then some (c.toNat - 48)
  else if 'a' ≤ c ∧ c ≤ 'f' then some (c.toNat - 87)
  else if 'A' ≤ c ∧ c ≤ 'F' then some (c.toNat - 55)
  else none

/-- Four hexadecimal digits as a number. -/
def hexUnit? : List Char → Option (Nat × List Char)
  | a :: b :: c :: d :: cs => do
    let a ← hexDigit? a
    let b ← hexDigit? b
    let c ← hexDigit? c
    let d ← hexDigit? d
    return (((a * 16 + b) * 16 + c) * 16 + d, cs)
  | _ => none

/-- A text under construction: its characters, last first, and whether half a pair was met. -/
structure Pending where
  /-- The characters so far, last first. -/
  characters : List Char
  /-- Half of a surrogate pair stood alone. -/
  broken : Bool

/-- The unit after an upper surrogate, if it completes the pair. -/
def lowerHalf? (cs : List Char) : Option (Nat × List Char) :=
  match cs with
  | '\\' :: 'u' :: cs =>
    match hexUnit? cs with
    | some (n, rest) => if 0xdc00 ≤ n ∧ n < 0xe000 then some (n, rest) else none
    | none => none
  | _ => none

/-- The character of a short escape. -/
def shortEscape? : Char → Option Char
  | '"' => some '"'
  | '\\' => some '\\'
  | '/' => some '/'
  | 'b' => some '\x08'
  | 'f' => some '\x0c'
  | 'n' => some '\n'
  | 'r' => some '\r'
  | 't' => some '\t'
  | _ => none

/-- Reads the rest of a text, up to its closing quote. -/
def textTail (fuel : Nat) (p : Pending) (cs : List Char) : Option (Pending × List Char) :=
  match fuel with
  | 0 => none
  | fuel + 1 =>
    match cs with
    | [] => none
    | '"' :: cs => some (⟨p.characters.reverse, p.broken⟩, cs)
    | '\\' :: 'u' :: cs =>
      match hexUnit? cs with
      | none => none
      | some (n, cs) =>
        if 0xd800 ≤ n ∧ n < 0xdc00 then
          match lowerHalf? cs with
          | some (m, cs) =>
            let c := Char.ofNat (0x10000 + (n - 0xd800) * 0x400 + (m - 0xdc00))
            textTail fuel ⟨c :: p.characters, p.broken⟩ cs
          | none => textTail fuel ⟨p.characters, true⟩ cs
        else if 0xdc00 ≤ n ∧ n < 0xe000 then textTail fuel ⟨p.characters, true⟩ cs
        else textTail fuel ⟨Char.ofNat n :: p.characters, p.broken⟩ cs
    | '\\' :: c :: cs =>
      match shortEscape? c with
      | some c => textTail fuel ⟨c :: p.characters, p.broken⟩ cs
      | none => none
    | c :: cs =>
      if c.toNat < 0x20 then none else textTail fuel ⟨c :: p.characters, p.broken⟩ cs

/-- Reads a number without its sign. -/
def magnitude? (negative : Bool) (cs : List Char) : Option (Json × List Char) :=
  let (whole, rest) := match cs with
    | '0' :: rest => ([0], rest)
    | cs => Literal.spanDigits cs
  if whole.isEmpty then none
  else
    let (fraction, rest) := match rest with
      | '.' :: after =>
        match Literal.spanDigits after with
        | ([], _) => ([], rest)
        | found => found
      | rest => ([], rest)
    let exponent := match rest with
      | c :: _ => if c = 'e' || c = 'E' then Literal.takeExponent rest else none
      | [] => none
    if fraction.isEmpty && exponent.isNone then
      if 4300 < whole.length then none
      else
        let n : Int := Digit.readFrom 0 whole
        some (int (if negative then -n else n), rest)
    else
      let (e, rest) := exponent.getD (0, rest)
      let l : Literal :=
        ⟨negative, Digit.readFrom 0 (whole ++ fraction), e - (fraction.length : Int)⟩
      some (number l.toNumber, rest)

/-- Reads a number with its sign, or one of the special values. -/
def numeral? (cs : List Char) : Option (Json × List Char) :=
  match cs with
  | '-' :: rest =>
    match word? "Infinity".toList rest with
    | some rest => some (number (.infinite true), rest)
    | none => magnitude? true rest
  | cs => magnitude? false cs

/-- Reads one of the words that stand for values. -/
def named? (cs : List Char) : Option (Json × List Char) :=
  let names : List (String × Json) :=
    [("null", null), ("true", bool true), ("false", bool false), ("NaN", number .nan),
      ("Infinity", number (.infinite false))]
  names.findSome? fun (name, j) => (word? name.toList cs).map fun rest => (j, rest)

mutual

/-- Reads a value at the front of a text. -/
def value? : Nat → List Char → Option (Json × List Char)
  | 0, _ => none
  | fuel + 1, cs =>
    match cs with
    | '"' :: cs =>
      (textTail (cs.length + 1) ⟨[], false⟩ cs).map fun (p, rest) =>
        (if p.broken then unpaired else string (String.ofList p.characters), rest)
    | '[' :: cs =>
      match skip cs with
      | ']' :: rest => some (array [], rest)
      | cs => elements? fuel [] cs
    | '\x7b' :: cs =>
      match skip cs with
      | '\x7d' :: rest => some (object [], rest)
      | cs => members? fuel [] cs
    | cs =>
      match named? cs with
      | some found => some found
      | none => numeral? cs

/-- Reads the elements of a list, after those in `done`. -/
def elements? : Nat → List Json → List Char → Option (Json × List Char)
  | 0, _, _ => none
  | fuel + 1, done, cs =>
    match value? fuel cs with
    | none => none
    | some (j, rest) =>
      match skip rest with
      | ',' :: rest => elements? fuel (j :: done) (skip rest)
      | ']' :: rest => some (array (j :: done).reverse, rest)
      | _ => none

/-- Reads the fields of an object, after those in `done`. -/
def members? : Nat → List (String × Json) → List Char → Option (Json × List Char)
  | 0, _, _ => none
  | fuel + 1, done, cs =>
    match cs with
    | '"' :: cs =>
      match textTail (cs.length + 1) ⟨[], false⟩ cs with
      | none => none
      | some (key, rest) =>
        match skip rest with
        | ':' :: rest =>
          match value? fuel (skip rest) with
          | none => none
          | some (j, rest) =>
            let done := if key.broken then done else (String.ofList key.characters, j) :: done
            match skip rest with
            | ',' :: rest => members? fuel done (skip rest)
            | '\x7d' :: rest => some (object done.reverse, rest)
            | _ => none
        | _ => none
    | _ => none

end

/-- Reads a whole text. -/
def read? (s : String) : Option Json :=
  let cs := s.toList
  match value? (2 * cs.length + 2) (skip cs) with
  | some (j, rest) => if (skip rest).isEmpty then some j else none
  | none => none

end Json

end StreetEnv
