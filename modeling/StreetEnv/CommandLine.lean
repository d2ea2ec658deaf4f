import StreetEnv.Decimal.Reader
import StreetEnv.Enrichment
import StreetEnv.Fault
import StreetEnv.Settings
import StreetEnv.Text.Character
import StreetEnv.Text.Quoted

/-!
# The command line

A word of the command line is an option, perhaps with a value attached, or a value, or it only looks
like an option.

* an option may be shortened as far as no other has the same beginning;
* a value is attached after `=`, or directly to a name of one letter;
* negative numbers, and words with a space in them, are values unless they name an option;
* behind the separator everything is a value.

`Arguments.parse` reads the words of a command line, and words that belong to no option are refused;
`Settings.override` applies arguments to settings.

`Program.run` sets up the output directory, loads the street edges, enriches them once or polls, and
saves them.  A missing file, invalid data and an impossible value end it with a notice and status 1;
other faults are passed on.
-/

namespace StreetEnv

/-! ### Options -/

/-- An option of the command line. -/
inductive CommandOption where
  | help | edges | layer | airQuality | noiseUrl | outputDir | workers | poll | maxRuns
  deriving DecidableEq, Inhabited

/-- How many values an option takes. -/
inductive Arity where
  /-- No value. -/
  | none
  /-- One value. -/
  | one
  /-- Any number of values. -/
  | many
  deriving DecidableEq, Inhabited

namespace CommandOption

/-- All options. -/
def all : List CommandOption :=
  [help, edges, layer, airQuality, noiseUrl, outputDir, workers, poll, maxRuns]

/-- The names of an option. -/
def names : CommandOption → List String
  | help => ["-h", "--help"]
  | edges => ["--edges"]
  | layer => ["--layer"]
  | airQuality => ["--air-quality"]
  | noiseUrl => ["--noise-url"]
  | outputDir => ["--output-dir"]
  | workers => ["--workers"]
  | poll => ["--poll"]
  | maxRuns => ["--max-runs"]

/-- How many values an option takes. -/
def arity : CommandOption → Arity
  | help => .none
  | poll => .none
  | airQuality => .many
  | _ => .one

/-- Every name with its option, in order. -/
def named : List (String × CommandOption) :=
  all.flatMap fun o => o.names.map fun n => (n, o)

/-- The option with a name. -/
def ofName? (name : String) : Option CommandOption := named.lookup name

/-- What is said about an option. -/
def complaint (o : CommandOption) (text : String) : String :=
  "argument " ++ "/".intercalate o.names ++ ": " ++ text

end CommandOption

/-! ### Words -/

/-- What a word of the command line is. -/
inductive WordKind where
  /-- A value. -/
  | value
  /-- An option, perhaps with a value attached. -/
  | option (o : CommandOption) (attached : Option String)
  /-- A word that looks like an option and is none. -/
  | unknown
  /-- The mark behind which everything is a value. -/
  | separator
  deriving DecidableEq, Inhabited

/-- A word with what it is. -/
structure Word where
  /-- The word as it was written. -/
  text : String
  /-- What it is. -/
  kind : WordKind
  deriving DecidableEq, Inhabited

namespace Word

/-- The word that separates options from values. -/
def separatorText : String := "--"

/-- The part before the first `=`, and the part behind it if there is one. -/
def splitAttached (cs : List Char) : List Char × Option (List Char) :=
  match cs.dropWhile (· ≠ '=') with
  | _ :: value => (cs.takeWhile (· ≠ '='), some value)
  | [] => (cs, none)

/-- One digit at least, and nothing else. -/
def isDigits (cs : List Char) : Bool := !cs.isEmpty && cs.all fun c => (Digit.value? c).isSome

/-- A minus sign before digits, with at most one point and a digit behind it.  A line may end after
the number. -/
def isNegativeNumber : List Char → Bool
  | '-' :: cs =>
    let cs := if cs.getLast? = some '\n' then cs.dropLast else cs
    match cs.dropWhile (· ≠ '.') with
    | [] => isDigits cs
    | _ :: fraction =>
      let whole := cs.takeWhile (· ≠ '.')
      (whole.isEmpty || isDigits whole) && isDigits fraction
  | _ => false

/-- The options that a word starting with a dash may mean, with their names and attached values. -/
def readings (cs : List Char) : List (String × CommandOption × Option String) :=
  if cs.take 2 = ['-', '-'] then
    let (start, value) := splitAttached cs
    (CommandOption.named.filter fun (n, _) => start.isPrefixOf n.toList).map fun (n, o) =>
      (n, o, value.map String.ofList)
  else
    (CommandOption.named.filter fun (n, _) => n.toList = cs.take 2).map fun (n, o) =>
      (n, o, some (String.ofList (cs.drop 2)))

/-- What a word is that stands before the separator. -/
def kindOf (s : String) : Except Fault WordKind :=
  let cs := s.toList
  if cs.head? ≠ some '-' then .ok .value
  else
    match CommandOption.ofName? s with
    | some o => .ok (.option o none)
    | none =>
      if cs.length = 1 then .ok .value
      else
        let (name, value) := splitAttached cs
        match CommandOption.ofName? (String.ofList name), value with
        | some o, some v => .ok (.option o (some (String.ofList v)))
        | _, _ =>
          match readings cs with
          | [(_, o, v)] => .ok (.option o v)
          | [] => .ok (if isNegativeNumber cs || cs.contains ' ' then .value else .unknown)
          | several =>
            let names := ", ".intercalate (several.map (·.1))
            .error (.usage s!"ambiguous option: {s} could match {names}")

/-- Reads words until the separator; behind it all are values. -/
def readAll : List String → Except Fault (List Word)
  | [] => .ok []
  | s :: rest =>
    if s = separatorText then .ok (⟨s, .separator⟩ :: rest.map fun v => ⟨v, .value⟩)
    else do
      let kind ← kindOf s
      return ⟨s, kind⟩ :: (← readAll rest)

end Word

/-! ### Arguments -/

/-- What the command line says. -/
structure Arguments where
  /-- The vector file of the street edges. -/
  edges : Option FilePath := none
  /-- The layer of the street edges. -/
  layer : Option String := none
  /-- The air quality files. -/
  airQuality : Option (List FilePath) := none
  /-- The address of the broker. -/
  noiseUrl : Option String := none
  /-- The directory of outputs. -/
  outputDir : Option FilePath := none
  /-- The number of workers that average. -/
  workers : Option Int := none
  /-- Poll, instead of a single pass. -/
  poll : Bool := false
  /-- How often to poll. -/
  maxRuns : Option Int := none
  deriving DecidableEq, Inhabited

namespace Arguments

/-- A complaint about an option. -/
def refuse {α : Type} (o : CommandOption) (text : String) : Except Fault α :=
  .error (.usage (o.complaint text))

/-- The whole number that is given to an option. -/
def integer (o : CommandOption) (s : String) : Except Fault Int :=
  match Integer.read? s with
  | some n => .ok n
  | none => refuse o s!"invalid int value: {Quoted.quote s}"

/-- An option with its values; help ends the process. -/
def take (a : Arguments) (o : CommandOption) (values : List String) : Except Fault Arguments := do
  let value := values.headD ""
  match o with
  | .help => .error (.exit 0)
  | .edges => return { a with edges := some (.ofText value) }
  | .layer => return { a with layer := some value }
  | .airQuality => return { a with airQuality := some (values.map FilePath.ofText) }
  | .noiseUrl => return { a with noiseUrl := some value }
  | .outputDir => return { a with outputDir := some (.ofText value) }
  | .workers => return { a with workers := some (← integer o value) }
  | .poll => return { a with poll := true }
  | .maxRuns => return { a with maxRuns := some (← integer o value) }

/-- The value attached to an option is taken, unless the option takes none.  Behind one dash, the
letters of options without values may stand together. -/
def takeAttached (a : Arguments) (written : String) (o : CommandOption) (value : String) :
    Except Fault Arguments :=
  match o.arity with
  | .none =>
    let isShort := written.toList.take 2 ≠ ['-', '-']
    let rest := if isShort then value.toList.dropWhile (· = 'h') else value.toList
    if rest.isEmpty && !value.isEmpty then a.take o []
    else refuse o s!"ignored explicit argument {Quoted.quote (String.ofList rest)}"
  | .one => a.take o [value]
  | .many => a.take o ([value].filter (· ≠ Word.separatorText))

/-- A word is a value. -/
def isValue (w : Word) : Bool := w.kind == .value

/-- The values that an option takes from the words behind it, and the words left; `none` if there
are too few. -/
def following? (n : Arity) (ws : List Word) :
    Option (List String × { rest : List Word // rest.length ≤ ws.length }) :=
  match n, ws with
  | .none, ws => some ([], ⟨ws, Nat.le_refl _⟩)
  | .one, v :: rest => if isValue v then some ([v.text], ⟨rest, by simp⟩) else none
  | .one, [] => none
  | .many, ws =>
    some ((ws.takeWhile isValue).map (·.text),
      ⟨ws.dropWhile isValue, (List.dropWhile_sublist isValue).length_le⟩)

/-- Takes options with their values, in order; the words that belong to none are left over. -/
def takeAll (a : Arguments) (extras : List String) :
    List Word → Except Fault (Arguments × List String)
  | [] => .ok (a, extras)
  | w :: ws =>
    match w.kind with
    | .option o (some value) => do takeAll (← a.takeAttached w.text o value) extras ws
    | .option o none =>
      match following? o.arity ws with
      | some (values, rest) => do takeAll (← a.take o values) extras rest
      | none => refuse o "expected one argument"
    | _ => takeAll a (extras ++ [w.text]) ws
  termination_by ws => ws.length
  decreasing_by
    · simp
    · exact Nat.lt_succ_of_le rest.property
    · simp

/-- Reads a command line. -/
def parse (words : List String) : Except Fault Arguments := do
  let (a, extras) ← takeAll {} [] (← Word.readAll words)
  if extras.isEmpty then return a
  else throw (Fault.usage ("unrecognized arguments: " ++ " ".intercalate extras))

end Arguments

/-- The settings, with what the command line says instead. -/
def Settings.override (s : Settings) (a : Arguments) : Settings :=
  { s with
    paths :=
      { s.paths with
        streetEdges := a.edges.getD s.paths.streetEdges
        airQuality := a.airQuality.getD s.paths.airQuality
        output := a.outputDir.getD s.paths.output }
    input := { s.input with layer := a.layer.orElse fun _ => s.input.layer }
    pass := { s.pass with workers := a.workers.getD s.pass.workers }
    poll := { s.poll with broker := a.noiseUrl.orElse fun _ => s.poll.broker } }

/-! ### The program -/

/-- What the program leaves. -/
structure Finish where
  /-- The files and the broker. -/
  sources : Sources
  /-- The notices, in order. -/
  notices : List Notice := []
  /-- The fault that ended the program. -/
  fault : Option Fault := none

namespace Finish

/-- The same after earlier notices. -/
def noting (notices : List Notice) (f : Finish) : Finish :=
  { f with notices := notices ++ f.notices }

end Finish

namespace Program

/-- What is said when a fault halts the program, if it is one that does so. -/
def haltNotice? (f : Fault) : Option Notice :=
  match f with
  | .vectorFileNotFound _ => some (.haltedByMissingFile f)
  | .noSuchDirectory => some (.haltedByMissingFile f)
  | .invalidFiles _ => some (.haltedByInvalidData f)
  | f => if f.isInvalidValue then some .haltedByValue else none

/-- Ends with a notice and status 1, if the fault is one that halts the program. -/
def halted (finish : Finish) : Finish :=
  match finish.fault.bind haltNotice? with
  | some n => ⟨finish.sources, finish.notices ++ [n], some (.exit 1)⟩
  | none => finish

variable (r : Rounding) (earth : Earth) (s : Settings) (a : Arguments) (horizon : Nat)

/-- Polls, or enriches once. -/
def refresh (src : Sources) (g : Graph) : Sources × Outcome Unit :=
  if a.poll then
    let (site, notices) := s.pollAll r earth a.maxRuns horizon ⟨g, src⟩
    (site.sources, .untouched site.graph notices ())
  else
    let (src, o) := s.enrich r earth src g
    (src, o.map fun _ => ())

/-- Saves the graph that is left, unless there was a fault. -/
def save (src : Sources) (o : Outcome Unit) : Finish :=
  match o.result with
  | .error f => ⟨src, o.notices, some f⟩
  | .ok _ =>
    let saved := s.saveGraph o.graph src.files
    ⟨{ src with files := saved.tree }, o.notices ++ saved.notices, saved.fault⟩

/-- Loads the graph, refreshes it and saves it. -/
def work (src : Sources) : Finish :=
  match s.loadGraph earth.atlas src.files with
  | (.error f, notices) => ⟨src, notices, some f⟩
  | (.ok g, notices) =>
    let (src, o) := refresh r earth s a horizon src g
    (save s src o).noting notices

/-- Sets up the output directory and works. -/
def start (src : Sources) : Finish :=
  let setup := src.files.setUpOutput s.paths.output false
  let src := { src with files := setup.tree }
  match setup.fault with
  | some f => ⟨src, setup.notices, some f⟩
  | none => (work r earth s a horizon src).noting setup.notices

/-- Runs the program on a command line.  A command line that is not understood changes nothing. -/
def run (words : List String) (src : Sources) : Finish :=
  match Arguments.parse words with
  | .error f => { sources := src, fault := some f }
  | .ok a => halted (start r earth (s.override a) a horizon src)

end Program

end StreetEnv
