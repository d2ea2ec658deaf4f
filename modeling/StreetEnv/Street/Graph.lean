import StreetEnv.Geometry.Envelope
import StreetEnv.Grid.Accumulator
import StreetEnv.Notice

/-!
# The street graph

An `Edge` is a directed street segment with what is known about its environment.  Its endpoints come
from the table it was read from; where it has a line, the ends of the line are its start and end
point.  A `Graph` is a list of edges that keeps its order.  Passes work on the edges inside an
envelope.

* `Graph.edgesIn` selects the edges inside an envelope;
* `Graph.replaceIn` puts edges back into the places of the selected ones;
* `Outcome` is what an operation leaves: the graph, also after a fault, and notices.
-/

namespace StreetEnv

/-! ### Edges -/

/-- What names an edge: a cell of the identifier column. -/
inductive Identifier where
  | missing
  | flag (b : Bool)
  | integer (n : Int)
  | real (x : Number)
  | text (s : String)
  deriving DecidableEq, Inhabited

/-- A directed street segment. -/
structure Edge where
  /-- Its name. -/
  id : Identifier
  /-- Where it begins. -/
  origin : Coordinate
  /-- Where it ends. -/
  destination : Coordinate
  /-- The vertices of its line, if it has one. -/
  line : Option (List Vertex) := none
  /-- The air quality per time step. -/
  airQuality : Option Series := none
  /-- The time of the first step, in milliseconds of the epoch. -/
  airQualityTime : Option Int := none
  /-- The noise level. -/
  noise : Option Number := none
  deriving DecidableEq, Inhabited

namespace Edge

/-- The first vertex of the line, and the origin where there is none. -/
def startPoint (e : Edge) : Coordinate := (e.line.getD []).head?.elim e.origin Vertex.toCoordinate

/-- The last vertex of the line, and the destination where there is none. -/
def endPoint (e : Edge) : Coordinate :=
  (e.line.getD []).getLast?.elim e.destination Vertex.toCoordinate

/-- The envelope of origin and destination. -/
def envelope (e : Edge) : Envelope :=
  .ofCorners e.origin.x e.destination.x e.origin.y e.destination.y

/-- The edge with another air quality. -/
def withAirQuality (e : Edge) (s : Series) (time : Int) : Edge :=
  { e with airQuality := some s, airQualityTime := some time }

/-- The edge with another noise level. -/
def withNoise (e : Edge) (level : Number) : Edge := { e with noise := some level }

/-- One end of the edge is nearer to a point than the threshold. -/
def isNear (e : Edge) (p : Coordinate) (threshold : Number) : Bool :=
  [e.startPoint, e.endPoint].any fun c =>
    Number.hypot (p.x.sub .binary64 c.x) (p.y.sub .binary64 c.y) < threshold

end Edge

/-! ### Graphs -/

/-- The street edges that passes work on, in order. -/
structure Graph where
  /-- The edges. -/
  edges : List Edge := []
  deriving DecidableEq, Inhabited

namespace Graph

/-- The number of edges. -/
def size (g : Graph) : Nat := g.edges.length

/-- The edges inside an envelope, in order. -/
def edgesIn (g : Graph) (e : Envelope) : List Edge := g.edges.filter fun x => e.contains x.envelope

/-- Walks along edges and takes the next replacement wherever a predicate holds. -/
def merge (p : Edge → Bool) : List Edge → List Edge → List Edge
  | [], _ => []
  | e :: es, us =>
    if p e then
      match us with
      | u :: us => u :: merge p es us
      | [] => e :: merge p es []
    else e :: merge p es us

theorem length_merge (p : Edge → Bool) (es us : List Edge) :
    (merge p es us).length = es.length := by
  fun_induction merge p es us <;> simp_all

theorem merge_filter (p : Edge → Bool) (es : List Edge) : merge p es (es.filter p) = es := by
  induction es with
  | nil => rfl
  | cons e es ih => by_cases h : p e <;> simp [merge, h, ih]

/-- The graph with other edges in the places of those inside an envelope. -/
def replaceIn (g : Graph) (e : Envelope) (updated : List Edge) : Graph :=
  ⟨merge (fun x => e.contains x.envelope) g.edges updated⟩

@[simp]
theorem size_replaceIn (g : Graph) (e : Envelope) (updated : List Edge) :
    (g.replaceIn e updated).size = g.size :=
  length_merge _ _ _

@[simp]
theorem replaceIn_edgesIn (g : Graph) (e : Envelope) : g.replaceIn e (g.edgesIn e) = g := by
  simp [replaceIn, edgesIn, merge_filter]

end Graph

/-- What an operation on a graph leaves. -/
structure Outcome (α : Type) where
  /-- The graph as it is left, also after a fault. -/
  graph : Graph
  /-- The notices, in order. -/
  notices : List Notice
  /-- The answer, or the fault that stopped the operation. -/
  result : Except Fault α

namespace Outcome

variable {α β : Type}

/-- The graph is left as it is, and only notices are given. -/
def untouched (g : Graph) (notices : List Notice) (a : α) : Outcome α := ⟨g, notices, .ok a⟩

/-- The graph is left as it is, because of a fault. -/
def failed (g : Graph) (notices : List Notice) (f : Fault) : Outcome α := ⟨g, notices, .error f⟩

/-- The same outcome after earlier notices. -/
def noting (notices : List Notice) (o : Outcome α) : Outcome α :=
  { o with notices := notices ++ o.notices }

/-- The same outcome with another answer. -/
def map (f : α → β) (o : Outcome α) : Outcome β := ⟨o.graph, o.notices, o.result.map f⟩

end Outcome

end StreetEnv
