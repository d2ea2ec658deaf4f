import StreetEnv.Decimal.Reader
import StreetEnv.Number.Basic
import StreetEnv.Text.Character
import StreetEnv.Time.Moment

/-!
# Timelines and time origins

A `Timeline` is what the library takes as given about times: which reference texts name an instant,
and how instants and offsets are added and counted.  `Timeline.standard` reads the texts of
`Reference.read?` and counts in microseconds and nanoseconds.

A reference text names an instant: a date, perhaps a time of day, perhaps a zone.  Dates are written
`2019`, `2019-01`, `2019-01-01`, `20190101`, `2019/01/02`, `1 Jan 2019` or `January 5, 2019`; times
`12`, `12:30`, `12:30:15.5`, `1pm` or `12:00 PM`; zones `Z`, `UTC`, `+01`, `+0100` or `+01:00`.
Months, days and times may be written without leading zeros.

A `LocalTime` is a date and a time of day, perhaps with an offset from universal time.  It is read
and written as `2024-01-01T12:00:00.500000+05:30`.

The units of a time axis are written as `hours since 2019-01-01 00:00:00`.  `TimeOrigin.read?`
understands the unit and the reference text after the first ` since `.
-/

namespace StreetEnv

/-! ### Texts of times -/

namespace Reference

/-- The texts for the absent time. -/
def absent : List String := ["", "NaT", "nat", "NAT", "nan", "NaN", "NAN"]

/-- The blanks inside a reference text. -/
def isGap (c : Char) : Bool := c = ' ' || c = '\t'

/-- The digits a text starts with, and the rest. -/
def digits (cs : List Char) : List Nat × List Char := Literal.spanDigits cs

/-- A number of one or two digits. -/
def short? (cs : List Char) : Option (Nat × List Char) :=
  match digits cs with
  | ([a], rest) => some (a, rest)
  | ([a, b], rest) => some (10 * a + b, rest)
  | _ => none

/-- The lower-case names of the months. -/
def months : List String :=
  ["january", "february", "march", "april", "may", "june", "july", "august", "september",
    "october", "november", "december"]

/-- The month with a name, written out or by its first three letters. -/
def month? (name : List Char) : Option Nat :=
  let name := name.map Case.lowerChar
  (months.zipIdx.find? fun (m, _) => name = m.toList ∨ name = m.toList.take 3).map (·.2 + 1)

/-- A date at the front of a text; the flag is set when it names a day. -/
structure DatePart where
  /-- The date, with 1 for what is not named. -/
  date : Date
  /-- The date names a day. -/
  isFull : Bool
  /-- The text after it. -/
  rest : List Char

/-- A year of four digits. -/
def year? (cs : List Char) : Option (Nat × List Char) :=
  match digits cs with
  | ([a, b, c, d], rest) => some (Digit.readFrom 0 [a, b, c, d], rest)
  | _ => none

/-- What follows a year: a month and a day after separators. -/
def afterYear? (y : Nat) : List Char → Option DatePart
  | '-' :: cs =>
    match short? cs with
    | none => none
    | some (m, '-' :: cs) => (short? cs).map fun (d, rest) => ⟨⟨y, m, d⟩, true, rest⟩
    | some (m, rest) => some ⟨⟨y, m, 1⟩, false, rest⟩
  | '/' :: cs =>
    match short? cs with
    | some (m, '/' :: cs) => (short? cs).map fun (d, rest) => ⟨⟨y, m, d⟩, true, rest⟩
    | _ => none
  | rest => some ⟨⟨y, 1, 1⟩, false, rest⟩

/-- Letters at the front of a text. -/
def spanLetters (cs : List Char) : List Char × List Char :=
  (cs.takeWhile Char.isAlpha, cs.dropWhile Char.isAlpha)

/-- A date at the front of a text. -/
def date? (cs : List Char) : Option DatePart :=
  match digits cs with
  | ([], _) => do
    let (name, rest) := spanLetters cs
    let m ← month? name
    let (d, rest) ← short? (rest.dropWhile isGap)
    let rest := match rest with
      | ',' :: rest => rest
      | rest => rest
    let (y, rest) ← year? (rest.dropWhile isGap)
    return ⟨⟨y, m, d⟩, true, rest⟩
  | ([_, _, _, _], _) => do
    let (y, rest) ← year? cs
    afterYear? y rest
  | ([a, b, c, d, e, f, g, h], rest) =>
    some ⟨⟨Digit.readFrom 0 [a, b, c, d], 10 * e + f, 10 * g + h⟩, true, rest⟩
  | (ds, rest) => do
    if 2 < ds.length then none
    let (name, rest) := spanLetters (rest.dropWhile isGap)
    let m ← month? name
    let (y, rest) ← year? (rest.dropWhile isGap)
    return ⟨⟨y, m, Digit.readFrom 0 ds⟩, true, rest⟩

/-- A time of day. -/
structure Clock where
  /-- The hour. -/
  hour : Nat
  /-- The minute. -/
  minute : Nat := 0
  /-- The second. -/
  second : Nat := 0
  /-- The digits of a fraction of the second. -/
  fraction : List Nat := []

/-- The clock exists. -/
def Clock.isValid (c : Clock) : Bool := c.hour < 24 && c.minute < 60 && c.second < 60

/-- The digits after a point, if there is one. -/
def fraction (cs : List Char) : List Nat × List Char :=
  match cs with
  | '.' :: cs => digits cs
  | cs => ([], cs)

/-- What follows an hour and a colon. -/
def afterHour? (h : Nat) (cs : List Char) : Option (Clock × List Char) :=
  match short? cs with
  | none => none
  | some (m, ':' :: cs) =>
    (short? cs).map fun (s, rest) =>
      let (f, rest) := fraction rest
      ({ hour := h, minute := m, second := s, fraction := f }, rest)
  | some (m, '.' :: cs) =>
    let (f, rest) := digits cs
    let second := 60 * Digit.readFrom 0 f / Power.ofTen f.length
    some ({ hour := h, minute := m, second := second }, rest)
  | some (m, rest) => some ({ hour := h, minute := m }, rest)

/-- A time of day at the front of a text. -/
def clock? (cs : List Char) : Option (Clock × List Char) :=
  match digits cs with
  | ([], _) => none
  | ([a, b, c, d], rest) => some ({ hour := 10 * a + b, minute := 10 * c + d }, rest)
  | ([a, b, c, d, e, f], rest) =>
    let (fr, rest) := fraction rest
    some ({ hour := 10 * a + b, minute := 10 * c + d, second := 10 * e + f, fraction := fr }, rest)
  | (ds, rest) =>
    if 2 < ds.length then none
    else
      let h := Digit.readFrom 0 ds
      match rest with
      | ':' :: rest => afterHour? h rest
      | rest => some ({ hour := h }, rest)

/-- Half days: the clock says hours before or after noon. -/
def halfDay? (c : Clock) (cs : List Char) : Option (Clock × List Char) :=
  let (word, rest) := spanLetters cs
  let word := String.ofList (word.map Case.lowerChar)
  if word = "am" ∨ word = "a" ∨ word = "pm" ∨ word = "p" then
    if 12 < c.hour then none
    else
      let afternoon := word = "pm" ∨ word = "p"
      let h :=
        if afternoon ∧ c.hour < 12 then c.hour + 12
        else if ¬ afternoon ∧ c.hour = 12 then 0
        else c.hour
      some ({ c with hour := h }, rest)
  else some (c, cs)

/-- Minutes east of Greenwich, from a text that is a zone or empty. -/
def zone? (cs : List Char) : Option Int :=
  match cs with
  | [] => some 0
  | sign :: rest =>
    if sign = '+' ∨ sign = '-' then
      let minutes? : Option Nat := match digits rest with
        | ([a], []) => some (60 * a)
        | ([a, b], []) => some (60 * (10 * a + b))
        | ([a, b, c, d], []) => some (60 * (10 * a + b) + 10 * c + d)
        | ([a], ':' :: more) =>
          (short? more).bind fun (m, r) => if r = [] then some (60 * a + m) else none
        | ([a, b], ':' :: more) =>
          (short? more).bind fun (m, r) => if r = [] then some (60 * (10 * a + b) + m) else none
        | _ => none
      minutes?.bind fun m =>
        if m < 24 * 60 then some (if sign = '-' then -(m : Int) else m) else none
    else if ["Z", "z", "UTC", "GMT"].contains (String.ofList cs) then some 0
    else none

/-- The instant of a date, a clock and a zone.  More than six digits of a fraction ask for
nanoseconds; digits after the ninth are cut. -/
def instant? (d : Date) (c : Clock) (east : Int) : Option Moment :=
  if 1 ≤ d.year ∧ Calendar.isValid d ∧ c.isValid then
    let seconds : Int :=
      Calendar.dayNumber d * 86400 + (c.hour * 3600 + c.minute * 60 + c.second : Nat) - east * 60
    let f := c.fraction.take 9
    let nanos : Int := Digit.readFrom 0 f * Power.ofTen (9 - f.length)
    let n := seconds * 1000000000 + nanos
    if c.fraction.length ≤ 6 then some (.micros (n / 1000))
    else if Moment.fits n then some (.nanos n)
    else none
  else none

/-- A time of day and a zone, as a whole text. -/
def clockAndZone? (cs : List Char) : Option (Clock × Int) := do
  let (c, rest) ← clock? cs
  let (c, rest) ← halfDay? c (rest.dropWhile isGap)
  let east ← zone? (rest.dropWhile isGap)
  return (c, east)

/-- The instant a trimmed reference text names. -/
def read? (s : String) : Option Moment :=
  if absent.contains s then some .notATime
  else do
    let part ← date? s.toList
    match part.rest with
    | [] => instant? part.date { hour := 0 } 0
    | c :: rest =>
      if part.isFull ∧ (c = 'T' ∨ c = 't' ∨ isGap c) then
        let (clock, east) ← clockAndZone? (rest.dropWhile isGap)
        instant? part.date clock east
      else none

end Reference

/-! ### Local times -/

/-- A date, a time of day in microseconds, and the seconds east of Greenwich. -/
structure LocalTime where
  /-- The date. -/
  date : Date
  /-- Microseconds of the day. -/
  micros : Nat
  /-- Seconds east of Greenwich. -/
  east : Option Int
  deriving DecidableEq, Inhabited

namespace LocalTime

/-- Pairs of digits, apart by colons or not at all, and a fraction: hour, minute, second and
microseconds. -/
def clock? (cs : List Char) : Option (List Nat × Nat) :=
  let rec pairs : Nat → List Char → Option (List Nat × List Char)
    | 0, cs => some ([], cs)
    | n + 1, a :: b :: cs =>
      if a.isDigit && b.isDigit then
        let v := 10 * (a.toNat - 48) + (b.toNat - 48)
        match cs with
        | ':' :: rest => (pairs n rest).map fun (vs, r) => (v :: vs, r)
        | c :: rest =>
          if c.isDigit then (pairs n (c :: rest)).map fun (vs, r) => (v :: vs, r)
          else some ([v], c :: rest)
        | [] => some ([v], [])
      else none
    | _, _ => none
  match pairs 3 cs with
  | none => none
  | some (vs, rest) =>
    match Reference.fraction rest with
    | (ds, []) =>
      let f := ds.take 6
      some (vs, Digit.readFrom 0 f * Power.ofTen (6 - f.length))
    | _ => none

/-- Seconds of the day. -/
def seconds (vs : List Nat) : Nat := vs.getD 0 0 * 3600 + vs.getD 1 0 * 60 + vs.getD 2 0

/-- The offset that a text names. -/
def east? (cs : List Char) : Option (Option Int) :=
  match cs with
  | [] => some none
  | ['Z'] => some (some 0)
  | '+' :: cs => (clock? cs).map fun (vs, _) => some (seconds vs)
  | '-' :: cs => (clock? cs).map fun (vs, _) => some (-(seconds vs : Int))
  | _ => none

/-- The local time that a text names. -/
def ofText? (s : String) : Option LocalTime := do
  let part ← Reference.date? s.toList
  if !part.isFull then none
  match part.rest with
  | [] => return ⟨part.date, 0, none⟩
  | _ :: rest =>
    let isZone (c : Char) : Bool := c = '+' || c = '-' || c = 'Z'
    let (vs, micros) ← clock? (rest.takeWhile fun c => !isZone c)
    let east ← east? (rest.dropWhile fun c => !isZone c)
    return ⟨part.date, seconds vs * 1000000 + micros, east⟩

/-- An offset as hours and minutes, with seconds if there are any. -/
def eastText (n : Int) : List Char :=
  let two (k : Nat) := DecimalStyle.padded 2 k
  let m := n.natAbs
  (if n < 0 then '-' else '+') :: two (m / 3600) ++ ':' :: two (m / 60 % 60) ++
    (if m % 60 = 0 then [] else ':' :: two (m % 60))

/-- The text of a local time. -/
def text (t : LocalTime) : String :=
  let two (k : Nat) := DecimalStyle.padded 2 k
  let s := t.micros / 1000000
  let f := t.micros % 1000000
  String.ofList (Moment.padded 4 t.date.year ++ '-' :: two t.date.month ++ '-' :: two t.date.day ++
    'T' :: two (s / 3600) ++ ':' :: two (s / 60 % 60) ++ ':' :: two (s % 60) ++
    (if f = 0 then [] else '.' :: DecimalStyle.padded 6 f) ++ (t.east.map eastText).getD [])

end LocalTime

/-! ### Timelines -/

/-- Texts, sums and counts of instants. -/
structure Timeline where
  /-- The instant in universal time that a reference text names, if it names any. -/
  read? : String → Option Moment
  /-- The offset of so many units, unless it is out of range. -/
  offset? : TimeUnit → Number → Option Moment
  /-- The instant after an offset, unless it is out of range. -/
  add? : Moment → Moment → Option Moment
  /-- The nanoseconds of an instant as a machine word, unless they are out of range. -/
  word? : Moment → Option Int

/-- The timeline of dates and times of day. -/
def Timeline.standard : Timeline := ⟨Reference.read?, Moment.offset?, Moment.add?, Moment.word?⟩

/-- The unit of a time axis and the instant of its zero. -/
structure TimeOrigin where
  /-- The unit. -/
  unit : TimeUnit
  /-- The instant of zero. -/
  instant : Moment
  deriving DecidableEq, Inhabited

namespace TimeOrigin

/-- The units by their names. -/
def units : List (String × TimeUnit) :=
  [("second", .second), ("seconds", .second), ("minute", .minute), ("minutes", .minute),
    ("hour", .hour), ("hours", .hour), ("day", .day), ("days", .day)]

/-- The unit with a name, in any case and between blanks. -/
def unit? (s : String) : Option TimeUnit := units.lookup (Case.lower (Blank.trimmed s))

/-- Cuts a text at the first occurrence of a word. -/
def splitAt? (word : List Char) : List Char → Option (List Char × List Char)
  | [] => if word.isEmpty then some ([], []) else none
  | c :: cs =>
    if word.isPrefixOf (c :: cs) then some ([], (c :: cs).drop word.length)
    else (splitAt? word cs).map fun (before, after) => (c :: before, after)

/-- The word between the unit and the reference text. -/
def separator : String := " since "

/-- Reads the units of a time axis. -/
def read? (timeline : Timeline) (s : String) : Option TimeOrigin := do
  let (before, after) ← splitAt? separator.toList s.toList
  let unit ← unit? (String.ofList before)
  let instant ← timeline.read? (Blank.trimmed (String.ofList after))
  return ⟨unit, instant⟩

end TimeOrigin

end StreetEnv
