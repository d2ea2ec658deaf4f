import StreetEnv.Noise.Observation
import StreetEnv.Street.Graph

/-!
# Attribution of noise to edges

A `NoisePass` gives every edge inside the area of its sources the level of the loudest source near
one of the edge's ends, and at least a floor.

* `NoiseSource.ofObservations` keeps the observations that have a place and a level;
* `NoisePass.area?` is the envelope of the sources;
* `NoisePass.raise` raises one edge source by source and counts the raises;
* `NoisePass.apply` resets and raises the edges inside the expanded area.
-/

namespace StreetEnv

/-- A place and the level observed there. -/
structure NoiseSource where
  /-- The place. -/
  place : Coordinate
  /-- The level. -/
  level : NoiseLevel
  deriving DecidableEq, Inhabited

namespace NoiseSource

/-- The source of an observation, if it has a place and a level. -/
def ofObservation? (measurement : String) (o : Observation) :
    Except Fault (Option NoiseSource) := do
  let level ← o.measurement measurement
  return do
    let place ← o.coordinate?
    return ⟨place, ← level⟩

/-- The sources among observations, some of which may be missing. -/
def ofObservations (measurement : String) (os : List (Option Observation)) :
    Except Fault (List NoiseSource) := do
  let found ← (os.filterMap id).mapM (ofObservation? measurement)
  return found.filterMap id

end NoiseSource

/-- One pass of observations over edges. -/
structure NoisePass where
  /-- The sources, in the order of the observations. -/
  sources : List NoiseSource
  /-- The distance in degrees below which a source is near. -/
  threshold : Number := .rational (5 / 1000)
  /-- The level that every edge has at least. -/
  floor : Number := 0
  /-- The degrees by which the area is expanded. -/
  margin : Number := 0
  deriving Inhabited

namespace NoisePass

variable (p : NoisePass)

/-- The envelope of the sources, if there are any. -/
def area? : Option Envelope := Envelope.ofCoordinates? (p.sources.map (·.place))

/-- The pass of observations, with a notice about those that are dropped. -/
def ofObservations (os : List (Option Observation)) (measurement : String)
    (threshold floor margin : Number) : Except Fault (NoisePass × List Notice) := do
  let sources ← NoiseSource.ofObservations measurement os
  let skipped := os.length - sources.length
  return (⟨sources, threshold, floor, margin⟩,
    if skipped = 0 then [] else [.skippedObservations skipped measurement])

/-- What an edge becomes: the edge, how often it was raised, and the fault that stopped it. -/
structure Raised where
  /-- The edge. -/
  edge : Edge
  /-- How often it was raised. -/
  count : Nat
  /-- The fault that stopped it. -/
  fault : Option Fault

/-- Raises an edge to the level of each near source that is louder than the edge is by then. -/
def raise (threshold : Number) : List NoiseSource → Edge → Raised
  | [], e => ⟨e, 0, none⟩
  | s :: sources, e =>
    match s.level with
    | .text _ => ⟨e, 0, some .levelNotComparable⟩
    | .number x =>
      if e.noise.getD .nan < x && e.isNear s.place threshold then
        let rest := raise threshold sources (e.withNoise x)
        { rest with count := rest.count + 1 }
      else raise threshold sources e

/-- What edges become: the edges, the number of raises, and the fault that stopped the pass. -/
structure Result where
  /-- The edges. -/
  edges : List Edge
  /-- The number of raises. -/
  count : Nat
  /-- The fault that stopped the pass. -/
  fault : Option Fault

/-- Resets and raises edges in turn, until a fault. -/
def run : List Edge → Result
  | [] => ⟨[], 0, none⟩
  | e :: es =>
    let first := raise p.threshold p.sources (e.withNoise p.floor)
    match first.fault with
    | some f => ⟨first.edge :: es, first.count, some f⟩
    | none =>
      let rest := run es
      ⟨first.edge :: rest.edges, first.count + rest.count, rest.fault⟩

/-- Resets and raises the edges inside the expanded area; the number of raises. -/
def apply (r : Rounding) (g : Graph) : Outcome Nat :=
  match p.area? with
  | none => ⟨g, [.noObservations], .ok 0⟩
  | some area =>
    let box := area.expandedBy r p.margin
    let result := p.run (g.edgesIn box)
    { graph := g.replaceIn box result.edges
      notices := []
      result := match result.fault with
        | some f => .error f
        | none => .ok result.count }

end NoisePass

end StreetEnv
