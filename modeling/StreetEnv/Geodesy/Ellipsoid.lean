import StreetEnv.Number.Arithmetic
import StreetEnv.Number.Rounding

/-!
# Angles and the ellipsoid

Longitudes are reduced by exact arithmetic, and the sine and cosine of an angle in degrees are exact
at the multiples of a right angle.

The distance and the longitude along a geodesic of an ellipsoid are trigonometric series whose
coefficients are polynomials of sixth order in a small parameter.  Each table of `Series` lists, per
coefficient, a polynomial (highest power first) and its common denominator.  `Ellipsoid` holds the
constants of an ellipsoid of revolution that the geodesic problems share.
-/

namespace StreetEnv

/-! ### Angles -/

namespace Angle

/-- A half turn in radians. -/
def pi : Float := 3.14159265358979323846

/-- A degree in radians. -/
def degree : Float := pi / 180

/-- A rational less the nearest multiple of 360, a half being counted to the even multiple. -/
def reduce (q : Rat) : Rat := q - 360 * Number.roundHalfEven (q / 360)

/-- A longitude reduced to the range from -180 to 180; the half turn keeps its sign. -/
def normalize (x : Number) : Number :=
  match x with
  | .rational q =>
    let d := reduce q
    if d = 180 ∨ d = -180 then .rational (if q < 0 then -180 else 180) else .rational d
  | .negativeZero => .negativeZero
  | _ => .nan

/-- The way from one longitude to another: the difference in degrees within a half turn, and what
its rounding lost. -/
def difference (x y : Rat) : Float × Float :=
  let d := reduce (reduce y - reduce x)
  let d := if d = 180 ∨ d = -180 then (if y < x then -180 else 180) else d
  let rounded := Format.double.round d
  (rounded.toFloat, (Format.double.round (d - rounded.value)).toFloat)

/-- An angle in degrees, moved to a coarser grid when it is tiny, so that it does not underflow. -/
def coarse (x : Float) : Float :=
  let z := 1 / 16
  let y := x.abs
  let w := z - y
  let y := if w > 0 then z - w else y
  if x < 0 then -y else y

/-- The sine and the cosine of `x + t` degrees, for `x` within one turn and a small `t`. -/
def sinCosSum (x t : Float) : Float × Float :=
  let quarter := (x / 90).round
  let r := (coarse (x - 90 * quarter + t)) * degree
  let s := r.sin
  let c := r.cos
  let turned := ((quarter.toInt64.toInt) % 4).toNat
  match turned with
  | 0 => (s, c)
  | 1 => (c, -s)
  | 2 => (-s, -c)
  | _ => (-c, s)

/-- The sine and the cosine of an angle in degrees. -/
def sinCos (x : Float) : Float × Float :=
  let quarter := (x / 90).round
  let r := (x - 90 * quarter) * degree
  let s := r.sin
  let c := r.cos
  match ((quarter.toInt64.toInt) % 4).toNat with
  | 0 => (s, c)
  | 1 => (c, -s)
  | 2 => (-s, -c)
  | _ => (-c, s)

/-- The angle in degrees of the point `(x, y)`, exact on the axes. -/
def direction (y x : Float) : Float :=
  let steep := y.abs > x.abs
  let (a, b) := if steep then (y, x) else (x, y)
  let quarter := (if steep then 2 else 0) + (if a < 0 then 1 else 0)
  let a := if a < 0 then -a else a
  let angle := (b.atan2 a) / degree
  match quarter with
  | 0 => angle
  | 1 => (if y < 0 then -180 else 180) - angle
  | 2 => 90 - angle
  | _ => -90 + angle

end Angle

/-! ### Series of the geodesic -/

namespace Series

/-- The value of a polynomial, highest power first. -/
def polynomial (coefficients : List Float) (x : Float) : Float :=
  coefficients.foldl (fun y c => y * x + c) 0

/-- The sum of `c k * sin (2 k x)` over the coefficients `c 1, c 2, …`. -/
def sines (coefficients : List Float) (sinX cosX : Float) : Float :=
  let a := 2 * (cosX - sinX) * (cosX + sinX)
  let (b, _) := coefficients.foldr (fun c (y, z) => (a * y - z + c, y)) ((0, 0) : Float × Float)
  2 * sinX * cosX * b

/-- A polynomial over its denominator. -/
structure Term where
  /-- Coefficients, highest power first. -/
  numerator : List Float
  /-- The common denominator. -/
  denominator : Float

/-- The terms `c k`, each with the factor `eps ^ k`, of polynomials in `eps ^ 2`. -/
def evenTerms (terms : List Term) (eps : Float) : List Float :=
  let square := eps * eps
  let rec go : List Term → Float → List Float
    | [], _ => []
    | t :: ts, power => power * polynomial t.numerator square / t.denominator :: go ts (power * eps)
  go terms eps

/-- The scale of the distance, less one. -/
def distanceScale (eps : Float) : Float :=
  let t := polynomial [1, 4, 64, 0] (eps * eps) / 256
  (t + eps) / (1 - eps)

/-- The coefficients of the distance. -/
def distance (eps : Float) : List Float :=
  evenTerms
    [⟨[-1, 6, -16], 32⟩, ⟨[-9, 64, -128], 2048⟩, ⟨[9, -16], 768⟩, ⟨[3, -5], 512⟩, ⟨[-7], 1280⟩,
      ⟨[-7], 2048⟩] eps

/-- The coefficients of the reverted distance. -/
def arcOfDistance (eps : Float) : List Float :=
  evenTerms
    [⟨[205, -432, 768], 1536⟩, ⟨[4005, -4736, 3840], 12288⟩, ⟨[-225, 116], 384⟩,
      ⟨[-7173, 2695], 7680⟩, ⟨[3467], 7680⟩, ⟨[38081], 61440⟩] eps

/-- The scale of the second integral of the reduced length, less one. -/
def reducedScale (eps : Float) : Float :=
  let t := polynomial [-11, -28, -192, 0] (eps * eps) / 256
  (t - eps) / (1 + eps)

/-- The coefficients of the second integral of the reduced length. -/
def reduced (eps : Float) : List Float :=
  evenTerms
    [⟨[1, 2, 16], 32⟩, ⟨[35, 64, 384], 2048⟩, ⟨[15, 80], 768⟩, ⟨[7, 35], 512⟩, ⟨[63], 1280⟩,
      ⟨[77], 2048⟩] eps

/-- The scale of the longitude for the third flattening `n`: a polynomial in `eps`, highest power
first. -/
def longitudeScaleTerms (n : Float) : List Float :=
  let terms : List Term :=
    [⟨[-3], 128⟩, ⟨[-2, -3], 64⟩, ⟨[-1, -3, -1], 16⟩, ⟨[3, -1, -2], 8⟩, ⟨[1, -1], 2⟩, ⟨[1], 1⟩]
  terms.map fun t => polynomial t.numerator n / t.denominator

/-- The coefficients of the longitude for the third flattening `n`: per coefficient a polynomial in
`eps`, highest power first. -/
def longitudeTerms (n : Float) : List (List Float) :=
  let terms : List (List Term) :=
    [[⟨[3], 128⟩, ⟨[2, 5], 128⟩, ⟨[-1, 3, 3], 64⟩, ⟨[-1, 0, 1], 8⟩, ⟨[-1, 1], 4⟩],
      [⟨[5], 256⟩, ⟨[1, 3], 128⟩, ⟨[-3, -2, 3], 64⟩, ⟨[1, -3, 2], 32⟩],
      [⟨[7], 512⟩, ⟨[-10, 9], 384⟩, ⟨[5, -9, 5], 192⟩], [⟨[7], 512⟩, ⟨[-14, 7], 512⟩],
      [⟨[21], 2560⟩]]
  terms.map fun row => row.map fun t => polynomial t.numerator n / t.denominator

/-- The coefficients of the longitude at `eps`, each with the factor `eps ^ k`. -/
def longitude (terms : List (List Float)) (eps : Float) : List Float :=
  let rec go : List (List Float) → Float → List Float
    | [], _ => []
    | row :: rows, power => power * polynomial row eps :: go rows (power * eps)
  go terms eps

end Series

/-! ### The ellipsoid -/

/-- An oblate ellipsoid of revolution and the constants derived from it. -/
structure Ellipsoid where
  /-- The equatorial radius in metres. -/
  equatorial : Float
  /-- The flattening. -/
  flattening : Float
  /-- The polar radius in metres. -/
  polar : Float
  /-- The square of the second eccentricity. -/
  secondEccentricity : Float
  /-- The third flattening. -/
  third : Float
  /-- The scale of the longitude as a polynomial. -/
  longitudeScale : List Float
  /-- The coefficients of the longitude as polynomials. -/
  longitudeTerms : List (List Float)

namespace Ellipsoid

/-- The ellipsoid with an equatorial radius and a flattening. -/
def ofFlattening (a f : Float) : Ellipsoid :=
  let e2 := f * (2 - f)
  let n := f / (2 - f)
  { equatorial := a
    flattening := f
    polar := a * (1 - f)
    secondEccentricity := e2 / ((1 - f) * (1 - f))
    third := n
    longitudeScale := Series.longitudeScaleTerms n
    longitudeTerms := Series.longitudeTerms n }

/-- The ellipsoid of satellite positioning. -/
def wgs84 : Ellipsoid := ofFlattening 6378137 (1 / 298.257223563)

variable (e : Ellipsoid)

/-- The ratio of the polar to the equatorial radius. -/
def ratio : Float := 1 - e.flattening

/-- The scale of the longitude at `eps`. -/
def longitudeScaleAt (eps : Float) : Float := Series.polynomial e.longitudeScale eps

/-- The coefficients of the longitude at `eps`. -/
def longitudeAt (eps : Float) : List Float := Series.longitude e.longitudeTerms eps

/-- The parameter of the series for a geodesic whose azimuth at the equator has the cosine
`cosAlpha`. -/
def expansion (cosAlpha : Float) : Float :=
  let k2 := cosAlpha * cosAlpha * e.secondEccentricity
  k2 / (2 * (1 + (1 + k2).sqrt) + k2)

end Ellipsoid

/-- A direction in the plane: a sine and a cosine. -/
structure Heading where
  /-- The sine. -/
  sin : Float
  /-- The cosine. -/
  cos : Float
  deriving Inhabited

namespace Heading

/-- The length of the vector `(x, y)`. -/
def length (x y : Float) : Float :=
  let x := x.abs
  let y := y.abs
  let big := if x < y then y else x
  let small := if x < y then x else y
  if big == 0 then 0
  else
    let t := small / big
    big * (1 + t * t).sqrt

/-- The direction of a vector, with length one. -/
def unit (s c : Float) : Heading :=
  let l := (s * s + c * c).sqrt
  ⟨s / l, c / l⟩

/-- The arc from one direction to another, between zero and a half turn. -/
def arcTo (p q : Heading) : Float :=
  let s := p.cos * q.sin - p.sin * q.cos
  (if s > 0 then s else 0).atan2 (p.cos * q.cos + p.sin * q.sin)

end Heading

end StreetEnv
