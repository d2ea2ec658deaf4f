import StreetEnv.CommandLine
import StreetEnv.Json.Basic
import StreetEnv.Json.Reader
import StreetEnv.Storage.Description

/-!
# The command line program

Files hold descriptions: a table of features for the street edges, a dataset for the air quality.
The address of the broker names a file with the list of observations.  All of them are read once,
at the start; the enriched edges are written as a table.
-/

namespace StreetEnv

namespace Main

/-- The text of a file, if it can be read. -/
def textOf? (path : FilePath) : IO (Option String) :=
  try some <$> IO.FS.readFile path.text
  catch _ => pure none

/-- The vector file that a text describes, with its table under every wanted layer. -/
def vectorFile (layer : Option String) (text : String) : FileContent :=
  match Json.read? text with
  | some j => .layers [(layer.getD "", Description.table j)]
  | none => .dataset .other

/-- The air quality file that a text describes. -/
def gridFile (text : String) : FileContent :=
  .dataset (((Json.read? text).bind Description.dataset?).getD .other)

/-- The files that settings name, as far as they exist. -/
def readFiles (s : Settings) : IO FileTree := do
  let mut tree : FileTree := {}
  for path in s.paths.airQuality do
    if let some text ← textOf? path then tree := tree.install path (gridFile text)
  if let some text ← textOf? s.paths.streetEdges then
    tree := tree.install s.paths.streetEdges (vectorFile s.input.layer text)
  return tree

/-- The broker that settings name: its only reply is the content of a file. -/
def readBroker (s : Settings) : IO Broker := do
  match s.broker? with
  | none => return {}
  | some url =>
    match ← textOf? (.ofText url) with
    | some text => return { replies := [.answer 200 text] }
    | none => return { replies := [.failure "no such file"] }

/-- Writes the enriched edges, if there are any. -/
def writeEdges (s : Settings) (tree : FileTree) : IO Unit := do
  if let some table := (tree.layersAt s.enrichedEdges).lookup s.output.layer then
    IO.FS.createDirAll s.paths.output.text
    IO.FS.writeFile s.enrichedEdges.text ((Description.ofTable table).render ++ "\n")

/-- Says what a fault is about, and gives the status to end with. -/
def statusOf (fault : Option Fault) : IO UInt32 := do
  match fault with
  | none => return 0
  | some (.exit n) => return n.toNat.toUInt32
  | some (.usage text) =>
    IO.eprintln s!"error: {text}"
    return 2
  | some f =>
    IO.eprintln s!"error: {f.text}"
    return 1

/-- Runs the program.  What was read at the start does not change, so one poll without a limit is
enough. -/
def runWith (words : List String) : IO UInt32 := do
  let s := Settings.standard (.ofText ".") (← IO.getEnv "NOISE_BROKER_URL")
  let configured := match Arguments.parse words with
    | .ok a => s.override a
    | .error _ => s
  let src : Sources := { files := ← readFiles configured, broker := ← readBroker configured }
  let finish := Program.run .binary64 .wgs84 s 1 words src
  for n in finish.notices do
    IO.println s!"{n.severity.name} {n.text}"
  if finish.fault.isNone then writeEdges configured finish.sources.files
  statusOf finish.fault

end Main

end StreetEnv

def main (words : List String) : IO UInt32 := StreetEnv.Main.runWith words
