import StreetEnv.Text.Character

/-!
# Paths

A `FilePath` is a root and the parts below it.  Repeated slashes and parts `.` are dropped on
reading; parts `..` stay, because what they mean depends on the tree.

* `FilePath.ofText` reads a path and `FilePath.text` writes it;
* `FilePath.join` places one path below another, unless it is absolute;
* `FilePath.suffix` is the ending of the last part.
-/

namespace StreetEnv

/-- A path. -/
structure FilePath where
  /-- The root: empty, one slash or two. -/
  root : String
  /-- The parts below the root. -/
  parts : List String
  deriving DecidableEq, Inhabited

namespace FilePath

/-- Cuts a text at every slash. -/
def pieces (cs : List Char) : List (List Char) := cs.splitOn '/'

/-- The root a text starts with: two slashes count only if there is no third. -/
def rootOf : List Char → String
  | '/' :: '/' :: '/' :: _ => "/"
  | '/' :: '/' :: _ => "//"
  | '/' :: _ => "/"
  | _ => ""

/-- The path a text names. -/
def ofText (s : String) : FilePath :=
  let cs := s.toList
  ⟨rootOf cs, ((pieces cs).filter fun p => p ≠ [] ∧ p ≠ ['.']).map String.ofList⟩

/-- The text of a path; the empty path is a point. -/
def text (p : FilePath) : String :=
  if p.root = "" ∧ p.parts = [] then "." else p.root ++ "/".intercalate p.parts

/-- The second path, seen from the first. -/
def join (p q : FilePath) : FilePath := if q.root = "" then ⟨p.root, p.parts ++ q.parts⟩ else q

/-- The path without its last part. -/
def parent (p : FilePath) : FilePath := ⟨p.root, p.parts.dropLast⟩

/-- The last part. -/
def name (p : FilePath) : String := p.parts.getLast?.getD ""

/-- The ending of the last part from its last point on, unless the point is its first or its last
character. -/
def suffix (p : FilePath) : String :=
  let cs := p.name.toList
  let tail := (cs.reverse.takeWhile (· ≠ '.')).reverse
  if tail.length + 1 < cs.length ∧ tail ≠ [] then String.ofList ('.' :: tail) else ""

/-- The ending in lower case. -/
def kind (p : FilePath) : String := Case.lower p.suffix

example : (ofText "a//b/./c.NC").text = "a/b/c.NC" := by decide +kernel

example : (ofText "a/.nc").suffix = "" := by decide +kernel

end FilePath

end StreetEnv
