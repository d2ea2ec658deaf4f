import StreetEnv.Decimal.Reader
import StreetEnv.Json.Basic
import StreetEnv.Number.Basic
import StreetEnv.Storage.FilePath
import StreetEnv.Text.Character

/-!
# Validation of data against a schema

A validation reports every issue it meets, in the order of the schema.  An `Issue` is a place in
the data and the kind of the mismatch there.  Each check takes structured data to a value of a type
or reports what is wrong.  Numbers may be written as texts, and truth values count as numbers.

* `Check.float`, `Check.int`, `Check.text` and `Check.path` check single values;
* `Check.optional`, `Check.list` and `Check.model` build checks from checks;
* `Check.field` looks a field up by its names and falls back on a default.
-/

namespace StreetEnv

/-! ### Issues -/

/-- One step on the way to a value inside structured data. -/
inductive Place where
  /-- The value of a key. -/
  | key (name : String)
  /-- The element at an index. -/
  | index (i : Nat)
  deriving DecidableEq, Inhabited

/-- What a value should have been. -/
inductive Mismatch where
  | floatParsing | floatType
  | intParsing | intFromFloat | intType | intParsingSize
  | stringType | stringUnicode | listType | modelType | pathType | finiteNumber
  deriving DecidableEq, Inhabited

/-- The written name of a mismatch. -/
def Mismatch.name : Mismatch → String
  | floatParsing => "float_parsing"
  | floatType => "float_type"
  | intParsing => "int_parsing"
  | intFromFloat => "int_from_float"
  | intType => "int_type"
  | intParsingSize => "int_parsing_size"
  | stringType => "string_type"
  | stringUnicode => "string_unicode"
  | listType => "list_type"
  | modelType => "model_type"
  | pathType => "path_type"
  | finiteNumber => "finite_number"

/-- A mismatch at a place. -/
structure Issue where
  /-- The way to the value. -/
  location : List Place
  /-- What is wrong with it. -/
  mismatch : Mismatch
  deriving DecidableEq, Inhabited

/-- The same issue, seen from one step further out. -/
def Issue.under (p : Place) (i : Issue) : Issue := ⟨p :: i.location, i.mismatch⟩

/-- A value, or the issues that kept it from being one. -/
abbrev Checked (α : Type) := Except (List Issue) α

namespace Checked

/-- Moves the issues of a part one step further out. -/
def under {α : Type} (p : Place) (c : Checked α) : Checked α :=
  c.mapError (List.map (Issue.under p))

/-- A single issue at the value itself. -/
def fail {α : Type} (m : Mismatch) : Checked α := .error [⟨[], m⟩]

/-- The issues found. -/
def issues {α : Type} : Checked α → List Issue
  | .ok _ => []
  | .error is => is

/-- Applies a function to two parts, or reports the issues of both. -/
def both {α β γ : Type} (f : α → β → γ) : Checked α → Checked β → Checked γ
  | .ok a, .ok b => .ok (f a b)
  | a, b => .error (a.issues ++ b.issues)

/-- Applies a checked function, so that a record is checked field by field and every issue is
reported. -/
def field {α β : Type} (f : Checked (α → β)) (a : Checked α) : Checked β :=
  both (fun g x => g x) f a

/-- Checks each element; an issue is placed at the index of its element. -/
def all {α β : Type} (check : α → Checked β) (xs : List α) : Checked (List β) :=
  (xs.zipIdx.map fun (x, i) => (check x).under (.index i)).foldr (both List.cons) (.ok [])

end Checked

/-! ### Checks -/

namespace Check

/-- Removes underscores that stand singly between other characters; `none` if there is nothing to
remove or one stands elsewhere. -/
def withoutUnderscores? (cs : List Char) : Option (List Char) :=
  let rec doubled : List Char → Bool
    | '_' :: '_' :: _ => true
    | _ :: cs => doubled cs
    | [] => false
  if '_' ∈ cs ∧ cs.head? ≠ some '_' ∧ cs.getLast? ≠ some '_' ∧ !doubled cs then
    some (cs.filter (· ≠ '_'))
  else none

/-- A number in text: a decimal, an infinity, or `nan`, in any case. -/
def floatText? (cs : List Char) : Option Number :=
  match Literal.read? cs with
  | some l => some l.toNumber
  | none =>
    let (negative, rest) := Literal.takeSign cs
    let word := String.ofList (rest.map Char.toLower)
    if word = "inf" ∨ word = "infinity" then some (.infinite negative)
    else if word = "nan" then some .nan
    else none

/-- A double. -/
def float : Json → Checked Number
  | .int n =>
    match Rounding.binary64.round n with
    | .infinite _ => Checked.fail .floatType
    | x => .ok x
  | .number x => .ok x
  | .bool b => .ok (if b then 1 else 0)
  | .string s =>
    let cs := s.toList
    match floatText? (Blank.trim Blank.isWhiteSpace cs) with
    | some x => .ok x
    | none =>
      match (withoutUnderscores? cs).bind floatText? with
      | some x => .ok x
      | none => Checked.fail .floatParsing
  | .unpaired => Checked.fail .floatParsing
  | _ => Checked.fail .floatType

/-- Drops a point with nothing but zeros after it. -/
def withoutZeroFraction (cs : List Char) : List Char :=
  let whole := cs.takeWhile (· ≠ '.')
  if (cs.drop (whole.length + 1)).all (· = '0') then whole else cs

/-- A whole number in text: a sign, digits with single underscores between them, and perhaps a
fraction of zeros. -/
def intText? (cs : List Char) : Option Int :=
  let cs := Blank.trim Blank.isWhiteSpace cs
  let unsigned := match cs with
    | '+' :: rest => if rest.head? = some '-' then none else some rest
    | cs => some cs
  unsigned.bind fun cs =>
    let (negative, cs) := match cs with
      | '-' :: rest => (true, rest)
      | cs => (false, cs)
    let cs := withoutZeroFraction cs
    let cs := (withoutUnderscores? cs).getD cs
    match Literal.spanDigits cs with
    | ([], _) => none
    | (ds, []) =>
      let n : Int := Digit.readFrom 0 ds
      some (if negative then -n else n)
    | _ => none

/-- A whole number. -/
def int : Json → Checked Int
  | .int n => .ok n
  | .bool b => .ok (if b then 1 else 0)
  | .number x =>
    match x.value? with
    | none => Checked.fail .finiteNumber
    | some q =>
      if q.den ≠ 1 then Checked.fail .intFromFloat
      else if -(Power.ofTwo 63 : Int) < q.num ∧ q.num < Power.ofTwo 63 then .ok q.num
      else Checked.fail .intParsingSize
  | .string s =>
    if 4300 < s.utf8ByteSize then Checked.fail .intParsingSize
    else
      match intText? s.toList with
      | some n => .ok n
      | none => Checked.fail .intParsing
  | .unpaired => Checked.fail .intParsing
  | _ => Checked.fail .intType

/-- A text. -/
def text : Json → Checked String
  | .string s => .ok s
  | .unpaired => Checked.fail .stringUnicode
  | _ => Checked.fail .stringType

/-- A path, as text. -/
def path : Json → Checked FilePath
  | .string s => .ok (.ofText s)
  | _ => Checked.fail .pathType

/-- `null`, or what a check accepts. -/
def optional {α : Type} (check : Json → Checked α) : Json → Checked (Option α)
  | .null => .ok none
  | j => (check j).map some

/-- A list of what a check accepts. -/
def list {α : Type} (check : Json → Checked α) : Json → Checked (List α)
  | .array items => Checked.all check items
  | _ => Checked.fail .listType

/-- A record, whose fields a check reads. -/
def model {α : Type} (check : Json → Checked α) (j : Json) : Checked α :=
  match j with
  | .object _ => check j
  | _ => Checked.fail .modelType

/-- A field of a record under the first of its names that is present.  Issues are placed under that
name. -/
def field {α : Type} (names : List String) (default : α) (check : Json → Checked α) (j : Json) :
    Checked α :=
  match names.findSome? fun n => (j.get? n).map fun v => (n, v) with
  | some (name, value) => (check value).under (.key name)
  | none => .ok default

end Check

end StreetEnv
