import StreetEnv.Fault
import StreetEnv.Geodesy.Earth
import StreetEnv.Number.Arithmetic

/-!
# Sample points along a geodesic, and their cells

A `Sampler` walks from one point towards another in steps of a fixed length, along the geodesic that
leaves the first point.  The first sample is the start itself and the destination is never one.

* `Sampler.count` is the number of samples, the whole steps that fit into the distance;
* `Sampler.point` is a single sample;
* `Sampler.points` lists the samples, computed in chunks of a fixed size.

`Axis.closestIndex` scans an axis from its start and stops at the first entry that is not strictly
closer than the one before.  On a monotone axis this finds the nearest entry, the lower index of two
that are equally near, and the end beyond which the value lies.
-/

namespace StreetEnv

/-! ### The nearest entry of an axis -/

namespace Axis

/-- The index before the first entry, counted from `next` on, that does not come strictly closer to
`v` than `best`. -/
def scan (r : Rounding) (v best : Number) (next : Int) : List Number → Int
  | [] => next - 1
  | c :: cs =>
    let d := (c.sub r v).abs
    if d < best then scan r v d (next + 1) cs else next - 1

/-- The index of the entry closest to `v`.  It is `-1` when not even the first entry is at a finite
distance, or when there is none. -/
def closestIndex (r : Rounding) (axis : List Number) (v : Number) : Int :=
  scan r v (.infinite false) 0 axis

end Axis

/-! ### Sample points -/

/-- A walk along a geodesic. -/
structure Sampler where
  /-- Where the walk starts. -/
  origin : Coordinate
  /-- The azimuth in degrees at the start. -/
  azimuth : Number
  /-- The distance in metres to the destination. -/
  distance : Number
  /-- The length of a step in metres. -/
  spacing : Number
  deriving DecidableEq, Inhabited

namespace Sampler

/-- The length of a step unless another is asked for. -/
def defaultSpacing : Number := 12

/-- The number of samples computed at once. -/
def chunkSize : Nat := 1024

/-- The walk from one point towards another. -/
def between (earth : Earth) (p q : Coordinate) (spacing : Number) : Except Fault Sampler :=
  if spacing ≤ 0 then .error (.spacingNotPositive spacing)
  else
    let (azimuth, distance) := earth.inverse p q
    .ok ⟨p, azimuth, distance, spacing⟩

/-- The number of samples, if it can be a length. -/
def count (r : Rounding) (s : Sampler) : Except Fault Int := do
  let n ← (s.distance.div r s.spacing).floor
  if n < 0 then throw .negativeCount
  if (Power.ofTwo 63 : Int) ≤ n then throw .countTooLarge
  return n

/-- The sample after `i` steps. -/
def point (r : Rounding) (earth : Earth) (s : Sampler) (i : Nat) : Coordinate :=
  earth.direct s.origin s.azimuth ((Number.natural i).mul r s.spacing)

/-- The step numbers below `n`, cut into chunks of `size`. -/
def chunks (size n : Nat) : List (List Nat) :=
  (List.range ((n + size - 1) / size)).map fun k =>
    List.range' (k * size) (min (k * size + size) n - k * size)

/-- The samples of a walk with `n` of them, chunk by chunk. -/
def pointsUpTo (r : Rounding) (earth : Earth) (s : Sampler) (n : Nat) : List Coordinate :=
  (chunks chunkSize n).flatMap fun steps => steps.map (s.point r earth)

/-- The samples. -/
def points (r : Rounding) (earth : Earth) (s : Sampler) : Except Fault (List Coordinate) := do
  let n ← s.count r
  return s.pointsUpTo r earth n.toNat

end Sampler

end StreetEnv
