import StreetEnv.Decimal.Text
import StreetEnv.Number.Rounding

/-!
# Structured data

`Json` is the data that brokers send and that datasets are described in.  Whole numbers are kept
apart from numbers written with a point or an exponent, because the difference shows in reports.

`Json.render` writes a value on one line, without spaces.  Only quotes, backslashes and control
characters are escaped.
-/

namespace StreetEnv

/-- Structured data. -/
inductive Json where
  /-- The absent value. -/
  | null
  /-- A truth value. -/
  | bool (b : Bool)
  /-- A number written without point and exponent. -/
  | int (n : Int)
  /-- A number written with a point or an exponent, or one of the special values. -/
  | number (x : Number)
  /-- A text. -/
  | string (s : String)
  /-- A text with half of a surrogate pair, which no character has. -/
  | unpaired
  /-- A list of values. -/
  | array (items : List Json)
  /-- Named values, in the order of writing. -/
  | object (fields : List (String × Json))
  deriving Inhabited

namespace Json

/-- The value of a key; of several the last counts. -/
def get? (j : Json) (key : String) : Option Json :=
  match j with
  | object fields => (fields.reverse.find? fun f => f.1 == key).map (·.2)
  | _ => none

/-- The value of a key, and `null` for an absent one. -/
def get (j : Json) (key : String) : Json := (j.get? key).getD null

/-- It is the absent value. -/
def isNull : Json → Bool
  | null => true
  | _ => false

/-- The items of a list; nothing else has any. -/
def items : Json → List Json
  | array xs => xs
  | _ => []

/-- The text of a text. -/
def text? : Json → Option String
  | string s => some s
  | _ => none

/-- The whole number that is written. -/
def int? : Json → Option Int
  | int n => some n
  | _ => none

/-- The double a written number stands for. -/
def number? : Json → Option Number
  | int n => some (Rounding.binary64.round n)
  | number x => some x
  | _ => none

/-- The truth value. -/
def bool? : Json → Option Bool
  | bool b => some b
  | _ => none

/-- Replaces the value of a key, or adds the key at the end. -/
def set (j : Json) (key : String) (value : Json) : Json :=
  match j with
  | object fields =>
    if fields.any fun f => f.1 == key then
      object (fields.map fun f => if f.1 == key then (key, value) else f)
    else object (fields ++ [(key, value)])
  | j => j

/-- Strings, one after the other, as a list. -/
def strings (xs : List String) : Json := array (xs.map string)

/-- Nothing as `null`, something as itself. -/
def ofOption {α : Type} (f : α → Json) : Option α → Json
  | none => null
  | some a => f a

end Json

/-! ### Writing -/

namespace Json

/-- A character inside a text. -/
def escapeChar (c : Char) : List Char :=
  if c = '"' then ['\\', '"']
  else if c = '\\' then ['\\', '\\']
  else if c.toNat < 0x20 then
    ['\\', 'u', '0', '0', Nat.digitChar (c.toNat / 16), Nat.digitChar (c.toNat % 16)]
  else [c]

/-- A text in quotes. -/
def renderText (s : String) : String :=
  String.ofList ('"' :: s.toList.flatMap escapeChar ++ ['"'])

/-- A number; the special values have names of their own. -/
def renderNumber : Number → String
  | .nan => "NaN"
  | .infinite false => "Infinity"
  | .infinite true => "-Infinity"
  | x => x.text

mutual

/-- A value on one line. -/
def render : Json → String
  | null => "null"
  | bool true => "true"
  | bool false => "false"
  | int n => toString n
  | number x => renderNumber x
  | string s => renderText s
  | unpaired => renderText ""
  | array items => "[" ++ ",".intercalate (renderItems items) ++ "]"
  | object fields => "\x7b" ++ ",".intercalate (renderFields fields) ++ "\x7d"

/-- The items of a list. -/
def renderItems : List Json → List String
  | [] => []
  | j :: js => render j :: renderItems js

/-- The fields of an object. -/
def renderFields : List (String × Json) → List String
  | [] => []
  | (key, j) :: fs => (renderText key ++ ":" ++ render j) :: renderFields fs

end

end Json

end StreetEnv
