import StreetEnv.Geodesy.Atlas
import StreetEnv.Geodesy.Ellipsoid
import StreetEnv.Time.Timeline

/-!
# The earth

`Earth` is what the library takes as given: the two geodesic problems, as functions on coordinates
in degrees, the timeline and the atlas.  `Earth.wgs84` solves the geodesic problems on the ellipsoid
of satellite positioning.  A coordinate that is not finite, or beyond a pole, has `nan` for every
answer.

* the direct problem: where one arrives from a point after a distance along the geodesic that leaves
  at an azimuth;
* the inverse problem: the length of the shortest path between two points and the azimuth at which
  it leaves the first.  The azimuth is found by Newton's method, safeguarded by a bracket;
  `Geodesic.newton` counts down the steps that remain.
-/

namespace StreetEnv

/-! ### The direct problem -/

namespace Geodesic

/-- A quantity so small that its square is the least normal double. -/
def tiny : Float := 1.4916681462400413e-154

/-- The reduced latitude of a latitude in degrees. -/
def reducedLatitude (e : Ellipsoid) (lat : Float) : Heading :=
  let (s, c) := Angle.sinCos lat
  let h := Heading.unit (e.ratio * s) c
  ⟨h.sin, if h.cos < tiny then tiny else h.cos⟩

/-- A geodesic: its start, and what its series need. -/
structure Line where
  /-- The ellipsoid. -/
  ellipsoid : Ellipsoid
  /-- The azimuth where the geodesic crosses the equator. -/
  atEquator : Heading
  /-- The spherical arc from the equator to the start. -/
  arc : Heading
  /-- The spherical longitude of the start. -/
  longitude : Heading
  /-- The parameter of the series. -/
  expansion : Float

/-- The geodesic that leaves a latitude in degrees at an azimuth. -/
def Line.leaving (e : Ellipsoid) (lat : Float) (azimuth : Heading) : Line :=
  let b := reducedLatitude e (Angle.coarse lat)
  let s0 := azimuth.sin * b.cos
  let c0 := Heading.length azimuth.cos (azimuth.sin * b.sin)
  let east := if b.sin != 0 || azimuth.cos != 0 then b.cos * azimuth.cos else 1
  { ellipsoid := e
    atEquator := ⟨s0, c0⟩
    arc := Heading.unit b.sin east
    longitude := ⟨s0 * b.sin, east⟩
    expansion := e.expansion c0 }

/-- The latitude in degrees and the longitude from the start, in degrees, after a distance in
metres. -/
def Line.position (l : Line) (distance : Float) : Float × Float :=
  let eps := l.expansion
  let b11 := Series.sines (Series.distance eps) l.arc.sin l.arc.cos
  let tau1 : Heading :=
    ⟨l.arc.sin * b11.cos + l.arc.cos * b11.sin, l.arc.cos * b11.cos - l.arc.sin * b11.sin⟩
  let tau12 := distance / (l.ellipsoid.polar * (1 + Series.distanceScale eps))
  let s := tau12.sin
  let c := tau12.cos
  let b12 :=
    -Series.sines (Series.arcOfDistance eps) (tau1.sin * c + tau1.cos * s)
      (tau1.cos * c - tau1.sin * s)
  let sigma := tau12 - (b12 - b11)
  let s := sigma.sin
  let c := sigma.cos
  let arc : Heading := ⟨l.arc.sin * c + l.arc.cos * s, l.arc.cos * c - l.arc.sin * s⟩
  let sinBeta := l.atEquator.cos * arc.sin
  let cosBeta := Heading.length l.atEquator.sin (l.atEquator.cos * arc.cos)
  let atPole := cosBeta == 0
  let cosBeta := if atPole then tiny else cosBeta
  let arc : Heading := ⟨arc.sin, if atPole then tiny else arc.cos⟩
  let end_ : Heading := ⟨l.atEquator.sin * arc.sin, arc.cos⟩
  let omega :=
    (end_.sin * l.longitude.cos - end_.cos * l.longitude.sin).atan2
      (end_.cos * l.longitude.cos + end_.sin * l.longitude.sin)
  let terms := l.ellipsoid.longitudeAt eps
  let scale := -l.ellipsoid.flattening * l.atEquator.sin * l.ellipsoid.longitudeScaleAt eps
  let lambda :=
    omega + scale * (sigma +
      (Series.sines terms arc.sin arc.cos - Series.sines terms l.arc.sin l.arc.cos))
  (Angle.direction sinBeta (l.ellipsoid.ratio * cosBeta), lambda / Angle.degree)

end Geodesic

/-! ### The inverse problem -/

namespace Geodesic

/-- The distance between one and the next double. -/
def epsilon : Float := 2.220446049250313e-16

/-- The square root of `epsilon`. -/
def rootEpsilon : Float := 1.4901161193847656e-8

/-- A path on the auxiliary sphere between two reduced latitudes. -/
structure Ends where
  /-- The reduced latitude of the first end, the one farther from the equator. -/
  first : Heading
  /-- The reduced latitude of the second end. -/
  second : Heading

/-- The factor between spherical and ellipsoidal arcs at a reduced latitude. -/
def stretch (e : Ellipsoid) (b : Heading) : Float :=
  (1 + e.secondEccentricity * b.sin * b.sin).sqrt

/-- The length of an arc over the polar radius, and its reduced length likewise. -/
def lengths (e : Ellipsoid) (ends : Ends) (eps arc : Float) (departure arrival : Heading) :
    Float × Float :=
  let a1 := Series.distanceScale eps
  let a2 := Series.reducedScale eps
  let c1 := Series.distance eps
  let c2 := Series.reduced eps
  let b1 := Series.sines c1 arrival.sin arrival.cos - Series.sines c1 departure.sin departure.cos
  let b2 := Series.sines c2 arrival.sin arrival.cos - Series.sines c2 departure.sin departure.cos
  let j := (a1 - a2) * arc + ((1 + a1) * b1 - (1 + a2) * b2)
  let reducedLength :=
    stretch e ends.second * (departure.cos * arrival.sin) -
      stretch e ends.first * (departure.sin * arrival.cos) - departure.cos * arrival.cos * j
  ((1 + a1) * (arc + b1), reducedLength)

/-- The positive root of the astroid equation for `(x, y)`. -/
def astroid (x y : Float) : Float :=
  let p := x * x
  let q := y * y
  let r := (p + q - 1) / 6
  if q == 0 && r <= 0 then 0
  else
    let s := p * q / 4
    let r2 := r * r
    let r3 := r * r2
    let disc := s * (s + 2 * r3)
    let u :=
      if disc >= 0 then
        let t3 := s + r3
        let t3 := t3 + (if t3 < 0 then -disc.sqrt else disc.sqrt)
        let t := t3.cbrt
        r + t + (if t != 0 then r2 / t else 0)
      else
        let angle := (-disc).sqrt.atan2 (-(s + r3))
        r + 2 * r * (angle / 3).cos
    let v := (u * u + q).sqrt
    let uv := if u < 0 then q / (v - u) else u + v
    let w := (uv - q) / (2 * v)
    uv / ((uv + w * w).sqrt + w)

/-- The first guess: the azimuth, and for a short path also its spherical arc and the stretch of its
middle. -/
def start (e : Ellipsoid) (ends : Ends) (lambda : Float) (turn : Heading) :
    Heading × Option (Float × Float) :=
  let b1 := ends.first
  let b2 := ends.second
  let sum := b2.sin * b1.cos + b2.cos * b1.sin
  let diffSin := b2.sin * b1.cos - b2.cos * b1.sin
  let diffCos := b2.cos * b1.cos + b2.sin * b1.sin
  let isShort := diffCos >= 0 && diffSin < 0.5 && b2.cos * lambda < 0.5
  let middle :=
    let s := (b1.sin + b2.sin) * (b1.sin + b2.sin)
    let s := s / (s + (b1.cos + b2.cos) * (b1.cos + b2.cos))
    (1 + e.secondEccentricity * s).sqrt
  let omega : Heading :=
    if isShort then
      let w := lambda / (e.ratio * middle)
      ⟨w.sin, w.cos⟩
    else turn
  let s1 := b2.cos * omega.sin
  let c1 :=
    if omega.cos >= 0 then
      diffSin + b2.cos * b1.sin * omega.sin * omega.sin / (1 + omega.cos)
    else sum - b2.cos * b1.sin * omega.sin * omega.sin / (1 - omega.cos)
  let arcSin := Heading.length s1 c1
  let arcCos := b1.sin * b2.sin + b1.cos * b2.cos * omega.cos
  let tolerance := 0.1 * rootEpsilon / ((0.003352810664747481 : Float) * 0.998323594667626 / 2).sqrt
  let guess : Float × Float × Option (Float × Float) :=
    if isShort && arcSin < tolerance then (s1, c1, some (arcSin.atan2 arcCos, middle))
    else if arcCos >= 0 || arcSin >= 6 * e.third * Angle.pi * b1.cos * b1.cos then (s1, c1, none)
    else
      let away := (-turn.sin).atan2 (-turn.cos)
      let lambdaScale :=
        e.flattening * b1.cos * e.longitudeScaleAt (e.expansion b1.sin) * Angle.pi
      let x := away / lambdaScale
      let y := sum / (lambdaScale * b1.cos)
      if y > -200 * epsilon && x > -1 - 1000 * rootEpsilon then
        let s := if -x < 1 then -x else 1
        (s, -(1 - s * s).sqrt, none)
      else
        let k := astroid x y
        let w := lambdaScale * (-x * k / (1 + k))
        let ws := w.sin
        let wc := -w.cos
        (b2.cos * ws, sum - b2.cos * b1.sin * ws * ws / (1 - wc), none)
  let (s, c, short) := guess
  (if s <= 0 then ⟨1, 0⟩ else Heading.unit s c, short)

/-- Where a geodesic that leaves the first end at an azimuth meets the latitude of the second. -/
structure Meeting where
  /-- By how much the longitude there misses the wanted one. -/
  miss : Float
  /-- The derivative of `miss` by the azimuth. -/
  slope : Float
  /-- The parameter of the series. -/
  expansion : Float
  /-- The spherical arc. -/
  arc : Float
  /-- The spherical arc from the equator to the first end. -/
  departure : Heading
  /-- The spherical arc from the equator to the second end. -/
  arrival : Heading

/-- Follows the geodesic that leaves at an azimuth. -/
def follow (e : Ellipsoid) (ends : Ends) (azimuth turn : Heading) : Meeting :=
  let b1 := ends.first
  let b2 := ends.second
  let s1 := azimuth.sin
  let c1 := if b1.sin == 0 && azimuth.cos == 0 then -tiny else azimuth.cos
  let s0 := s1 * b1.cos
  let c0 := Heading.length c1 (s1 * b1.sin)
  let omega1 : Heading := ⟨s0 * b1.sin, c1 * b1.cos⟩
  let departure := Heading.unit b1.sin (c1 * b1.cos)
  let c2 :=
    if b2.cos != b1.cos || b2.sin.abs != -b1.sin then
      let rise :=
        if b1.cos < -b1.sin then (b2.cos - b1.cos) * (b1.cos + b2.cos)
        else (b1.sin - b2.sin) * (b1.sin + b2.sin)
      (c1 * b1.cos * (c1 * b1.cos) + rise).sqrt / b2.cos
    else c1.abs
  let omega2 : Heading := ⟨s0 * b2.sin, c2 * b2.cos⟩
  let arrival := Heading.unit b2.sin (c2 * b2.cos)
  let arc := departure.arcTo arrival
  let s12 := omega1.cos * omega2.sin - omega1.sin * omega2.cos
  let s12 := if s12 > 0 then s12 else 0
  let c12 := omega1.cos * omega2.cos + omega1.sin * omega2.sin
  let eta := (s12 * turn.cos - c12 * turn.sin).atan2 (c12 * turn.cos + s12 * turn.sin)
  let eps := e.expansion c0
  let terms := e.longitudeAt eps
  let b3 :=
    Series.sines terms arrival.sin arrival.cos - Series.sines terms departure.sin departure.cos
  let correction := -e.flattening * e.longitudeScaleAt eps * s0 * (arc + b3)
  let slope :=
    if c2 == 0 then -2 * e.ratio * stretch e b1 / b1.sin
    else (lengths e ends eps arc departure arrival).2 * (e.ratio / (c2 * b2.cos))
  ⟨eta + correction, slope, eps, arc, departure, arrival⟩

/-- Refines the azimuth, for at most the given number of steps.  `low` and `high` bracket it;
`close` and `stuck` say that the last step was tiny, or that the bracket cannot shrink. -/
def newton (e : Ellipsoid) (ends : Ends) (turn : Heading) :
    Nat → Heading → Heading → Heading → Bool → Bool → Heading × Meeting
  | 0, azimuth, _, _, _, _ => (azimuth, follow e ends azimuth turn)
  | steps + 1, azimuth, low, high, close, stuck =>
    let m := follow e ends azimuth turn
    let v := m.miss
    if stuck || !(v.abs >= (if close then 8 else 1) * epsilon) then (azimuth, m)
    else
      let late := steps < 63
      let ratio := azimuth.cos / azimuth.sin
      let high := if v > 0 && (late || ratio > high.cos / high.sin) then azimuth else high
      let low := if v < 0 && (late || ratio < low.cos / low.sin) then azimuth else low
      let change := -v / m.slope
      let s := azimuth.sin * change.cos + azimuth.cos * change.sin
      if !late && m.slope > 0 && s > 0 && change.abs < Angle.pi then
        let next := Heading.unit s (azimuth.cos * change.cos - azimuth.sin * change.sin)
        newton e ends turn steps next low high (v.abs <= 16 * epsilon) false
      else
        let next := Heading.unit ((low.sin + high.sin) / 2) ((low.cos + high.cos) / 2)
        let stuck :=
          (low.sin - next.sin).abs + (low.cos - next.cos) < epsilon ||
            (next.sin - high.sin).abs + (next.cos - high.cos) < epsilon
        newton e ends turn steps next low high false stuck

/-- The azimuth at the first end and the distance in metres, for ends in standard position. -/
def between (e : Ellipsoid) (ends : Ends) (lat1 lambda supplement : Float) (turn : Heading) :
    Heading × Heading × Float :=
  let b1 := ends.first
  let b2 := ends.second
  let final (a : Heading) : Heading :=
    let s0 := a.sin * b1.cos
    let rise :=
      if b1.cos < -b1.sin then (b2.cos - b1.cos) * (b1.cos + b2.cos)
      else (b1.sin - b2.sin) * (b1.sin + b2.sin)
    let c :=
      if b2.cos != b1.cos || b2.sin.abs != -b1.sin then
        (a.cos * b1.cos * (a.cos * b1.cos) + rise).sqrt / b2.cos
      else a.cos.abs
    ⟨if b2.cos != b1.cos then s0 / b2.cos else a.sin, c⟩
  let general : Heading × Heading × Float :=
    if b1.sin == 0 && supplement >= e.flattening * 180 then
      (⟨1, 0⟩, ⟨1, 0⟩, e.equatorial * lambda)
    else
      match start e ends lambda turn with
      | (azimuth, some (arc, middle)) =>
        let omega := lambda / (e.ratio * middle)
        let s := b1.cos * omega.sin
        let c := b2.sin * b1.cos - b2.cos * b1.sin -
          b1.cos * b2.sin * (if omega.cos >= 0 then
            omega.sin * omega.sin / (1 + omega.cos) else 1 - omega.cos)
        (azimuth, Heading.unit s c, arc * e.polar * middle)
      | (azimuth, none) =>
        let (azimuth, m) := newton e ends turn 83 azimuth ⟨tiny, 1⟩ ⟨tiny, -1⟩ false false
        let (length, _) := lengths e ends m.expansion m.arc m.departure m.arrival
        (azimuth, final azimuth, length * e.polar)
  if lat1 == -90 || turn.sin == 0 then
    let departure : Heading := ⟨b1.sin, turn.cos * b1.cos⟩
    let arrival : Heading := b2
    let arc := departure.arcTo arrival
    let (s, m) := lengths e ends e.third arc departure arrival
    if arc < rootEpsilon || m >= 0 then
      let nothing := arc < 3 * tiny || (arc < epsilon && (s < 0 || m < 0))
      (⟨turn.sin, turn.cos⟩, ⟨0, 1⟩, if nothing then 0 else s * e.polar)
    else general
  else general

/-- The azimuth in degrees at the first point, and the distance in metres, between two points given
by longitude and latitude in degrees. -/
def inverse (e : Ellipsoid) (lon1 lat1 lon2 lat2 : Rat) : Float × Float :=
  let (lon12, lost) := Angle.difference lon1 lon2
  let west := lon12 < 0 || (lon12 == 0 && lon2 < lon1)
  let lon12 := lon12.abs
  let lost := if west then -lost else lost
  let (ts, tc) := Angle.sinCosSum lon12 lost
  let turn : Heading := ⟨ts, tc⟩
  let supplement := (180 - lon12) - lost
  let a := Angle.coarse (Number.rational lat1).toFloat
  let b := Angle.coarse (Number.rational lat2).toFloat
  let swap := a.abs < b.abs
  let (a, b) := if swap then (b, a) else (a, b)
  let north := !(a < 0)
  let (a, b) := if north then (-a, -b) else (a, b)
  let b1 := reducedLatitude e a
  let b2 := reducedLatitude e b
  let ends : Ends :=
    if b1.cos < -b1.sin then
      if b2.cos == b1.cos then ⟨b1, ⟨if b2.sin < 0 then -b1.sin.abs else b1.sin.abs, b2.cos⟩⟩
      else ⟨b1, b2⟩
    else if b2.sin.abs == -b1.sin then ⟨b1, ⟨b2.sin, b1.cos⟩⟩
    else ⟨b1, b2⟩
  let (first, second, distance) := between e ends a (lon12 * Angle.degree) supplement turn
  let azimuth := if swap then second else first
  let s := if west then -azimuth.sin else azimuth.sin
  let c := if swap != north then -azimuth.cos else azimuth.cos
  (Angle.direction s c, distance)

end Geodesic

/-! ### The earth -/

/-- The geodesic problems of a surface, its times and its reference systems. -/
structure Earth where
  /-- The azimuth in degrees at the first point, and the distance in metres to the second. -/
  inverse : Coordinate → Coordinate → Number × Number
  /-- The point reached from a point at an azimuth in degrees after a distance in metres. -/
  direct : Coordinate → Number → Number → Coordinate
  /-- Instants and offsets. -/
  timeline : Timeline := .standard
  /-- The reference systems. -/
  atlas : Atlas := .standard

namespace Earth

/-- The degrees of a point that lies on the surface. -/
def degrees? (c : Coordinate) : Option (Rat × Rat) := do
  let lon ← c.x.value?
  let lat ← c.y.value?
  if -90 ≤ lat ∧ lat ≤ 90 then some (lon, lat) else none

/-- The inverse problem of an ellipsoid.  Between coincident points the azimuth is 180. -/
def inverseOn (e : Ellipsoid) (p q : Coordinate) : Number × Number :=
  match degrees? p, degrees? q with
  | some (lon1, lat1), some (lon2, lat2) =>
    if lat1 = lat2 ∧ Angle.reduce (lon2 - lon1) = 0 then (180, 0)
    else
      let (azimuth, distance) := Geodesic.inverse e lon1 lat1 lon2 lat2
      (Number.ofFloat azimuth, Number.ofFloat distance)
  | _, _ => (.nan, .nan)

/-- The direct problem of an ellipsoid. -/
def directOn (e : Ellipsoid) (p : Coordinate) (azimuth distance : Number) : Coordinate :=
  match degrees? p, azimuth.value?, distance.value? with
  | some (_, lat), some a, some _ =>
    let heading := Angle.sinCos (Angle.coarse (Number.rational (Angle.reduce a)).toFloat)
    let line := Geodesic.Line.leaving e (Number.rational lat).toFloat ⟨heading.1, heading.2⟩
    let (lat, turn) := line.position distance.toFloat
    let lon := (Angle.normalize p.x).add .binary64 (Angle.normalize (Number.ofFloat turn))
    ⟨Angle.normalize lon, Number.ofFloat lat⟩
  | _, _, _ => ⟨.nan, .nan⟩

/-- The ellipsoid of satellite positioning. -/
def wgs84 : Earth := { inverse := inverseOn .wgs84, direct := directOn .wgs84 }

end Earth

end StreetEnv
