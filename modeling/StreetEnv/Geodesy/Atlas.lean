import StreetEnv.Geodesy.Ellipsoid
import StreetEnv.Geometry.Envelope
import StreetEnv.Text.Character

/-!
# Atlases

A `ReferenceSystem` is what names a coordinate reference system: a code or a text.  An `Atlas` is
what the library takes as given about these: which are known, which are the same, and how the points
of one lie in another.

`Atlas.standard` knows the systems in degrees, the spherical Mercator system and the zones of the
universal transverse Mercator system.  A `Projection` takes longitudes and latitudes in degrees to
metres on a plane, and back:

* `Projection.sphericalMercator` is the Mercator projection of a sphere;
* `Projection.transverseMercator` is a zone, as a series of sixth order in the third flattening.
-/

namespace StreetEnv

/-- How coordinates of a reference system lie on the earth. -/
inductive Projection where
  /-- They are longitudes and latitudes. -/
  | degrees
  /-- The Mercator projection of a sphere. -/
  | sphericalMercator
  /-- A zone of the universal transverse Mercator system. -/
  | transverseMercator (zone : Nat) (south : Bool)
  deriving DecidableEq, Inhabited

namespace Projection

/-- A point as a pair of machine numbers. -/
abbrev Point := Float × Float

/-- The hyperbolic sine of what has the hyperbolic tangent `e * s` times `e`. -/
def conformalShift (e s : Float) : Float := (e * (e * s).atanh).sinh

/-- The tangent of the conformal latitude, from the tangent of the latitude. -/
def conformalTangent (e t : Float) : Float :=
  let h := (1 + t * t).sqrt
  let sigma := conformalShift e (t / h)
  t * (1 + sigma * sigma).sqrt - sigma * h

/-- The tangent of the latitude, from the tangent of the conformal latitude, by a fixed number of
steps of Newton's method. -/
def geographicTangent (e t' : Float) : Nat → Float → Float
  | 0, t => t
  | n + 1, t =>
    let found := conformalTangent e t
    let h := (1 + t * t).sqrt
    let slope := (1 - e * e) * (1 + found * found).sqrt * h / (1 + (1 - e * e) * t * t)
    geographicTangent e t' n (t + (t' - found) / slope)

/-- The eccentricity of an ellipsoid. -/
def eccentricity (e : Ellipsoid) : Float := (e.flattening * (2 - e.flattening)).sqrt

/-- The radius of the meridian circle of the same length. -/
def meridianRadius (e : Ellipsoid) : Float :=
  let n := e.third
  e.equatorial / (1 + n) * (1 + n * n / 4 + n * n * n * n / 64 + n * n * n * n * n * n / 256)

/-- Coefficients `c j * n ^ j * (…)` of a series in the third flattening. -/
def coefficients (terms : List Series.Term) (n : Float) : List Float :=
  let rec go : List Series.Term → Float → List Float
    | [], _ => []
    | t :: ts, power => power * Series.polynomial t.numerator n / t.denominator :: go ts (power * n)
  go terms n

/-- The series from the sphere to the plane. -/
def toPlane (n : Float) : List Float :=
  coefficients
    [⟨[31564, -66675, 34440, 47250, -100800, 75600], 151200⟩,
      ⟨[-1983433, 863232, 748608, -1161216, 524160], 1935360⟩,
      ⟨[670412, 406647, -533952, 184464], 725760⟩, ⟨[6601661, -7732800, 2230245], 7257600⟩,
      ⟨[-13675556, 3438171], 7983360⟩, ⟨[212378941], 319334400⟩] n

/-- The series from the plane to the sphere. -/
def fromPlane (n : Float) : List Float :=
  coefficients
    [⟨[384796, -382725, -6720, 932400, -1612800, 1209600], 2419200⟩,
      ⟨[-1118711, 1695744, -1174656, 258048, 80640], 3870720⟩,
      ⟨[22276, -16929, -15984, 12852], 362880⟩, ⟨[-830251, -158400, 197865], 7257600⟩,
      ⟨[-435388, 453717], 15966720⟩, ⟨[20648693], 638668800⟩] n

/-- The corrections of a point `(xi, eta)` by a series. -/
def correction (cs : List Float) (xi eta : Float) : Point :=
  let rec go : List Float → Float → Point
    | [], _ => (0, 0)
    | c :: cs, j =>
      let (x, y) := go cs (j + 1)
      (x + c * (2 * j * xi).sin * (2 * j * eta).cosh, y + c * (2 * j * xi).cos * (2 * j * eta).sinh)
  go cs 1

/-- The central meridian of a zone in degrees. -/
def meridian (zone : Nat) : Float := 6 * zone.toFloat - 183

/-- The scale on the central meridian. -/
def meridianScale : Float := 0.9996

/-- The false easting of every zone. -/
def falseEasting : Float := 500000

/-- The false northing of a zone. -/
def falseNorthing (south : Bool) : Float := if south then 10000000 else 0

/-- Metres from degrees in a zone. -/
def toZone (e : Ellipsoid) (zone : Nat) (south : Bool) : Point → Point := fun (lon, lat) =>
  let t := conformalTangent (eccentricity e) (lat * Angle.degree).tan
  let lambda := (lon - meridian zone) * Angle.degree
  let xi := t.atan2 lambda.cos
  let eta := (lambda.sin / (t * t + lambda.cos * lambda.cos).sqrt).asinh
  let (dx, dy) := correction (toPlane e.third) xi eta
  let scale := meridianScale * meridianRadius e
  (falseEasting + scale * (eta + dy), falseNorthing south + scale * (xi + dx))

/-- Degrees from metres in a zone. -/
def fromZone (e : Ellipsoid) (zone : Nat) (south : Bool) : Point → Point := fun (x, y) =>
  let scale := meridianScale * meridianRadius e
  let xi := (y - falseNorthing south) / scale
  let eta := (x - falseEasting) / scale
  let (dx, dy) := correction (fromPlane e.third) xi eta
  let xi := xi - dx
  let eta := eta - dy
  let t' := xi.sin / (eta.sinh * eta.sinh + xi.cos * xi.cos).sqrt
  let t := geographicTangent (eccentricity e) t' 6 t'
  (meridian zone + eta.sinh.atan2 xi.cos / Angle.degree, t.atan / Angle.degree)

/-- Metres from degrees on the sphere; the poles are infinitely far. -/
def toMercator (radius : Float) : Point → Point := fun (lon, lat) =>
  if lat.abs >= 90 then (1 / 0, 1 / 0)
  else (radius * lon * Angle.degree, radius * ((lat * Angle.degree).tan).asinh)

/-- Degrees from metres on the sphere. -/
def fromMercator (radius : Float) : Point → Point := fun (x, y) =>
  (x / radius / Angle.degree, ((y / radius).sinh.atan) / Angle.degree)

/-- The coordinates of a point given in degrees. -/
def ofDegrees : Projection → Point → Point
  | degrees, p => p
  | sphericalMercator, p => toMercator Ellipsoid.wgs84.equatorial p
  | transverseMercator zone south, p => toZone .wgs84 zone south p

/-- The degrees of a point. -/
def toDegrees : Projection → Point → Point
  | degrees, p => p
  | sphericalMercator, p => fromMercator Ellipsoid.wgs84.equatorial p
  | transverseMercator zone south, p => fromZone .wgs84 zone south p

/-- A point of one projection as a point of another; a point that is not finite has no image. -/
def convert (source target : Projection) (c : Coordinate) : Coordinate :=
  if source = target then c
  else if c.x.isFinite && c.y.isFinite then
    let (x, y) := target.ofDegrees (source.toDegrees (c.x.toFloat, c.y.toFloat))
    ⟨Number.ofFloat x, Number.ofFloat y⟩
  else ⟨.infinite false, .infinite false⟩
end Projection

/-! ### Reference systems -/

/-- What names a reference system. -/
inductive ReferenceSystem where
  /-- Its registered code. -/
  | epsg (code : Int)
  /-- A text, such as the register and the code. -/
  | named (definition : String)
  deriving DecidableEq, Inhabited

namespace ReferenceSystem

/-- The system of satellite positioning, in degrees. -/
def wgs84 : ReferenceSystem := named "EPSG:4326"

/-- How the system is written. -/
def text : ReferenceSystem → String
  | epsg code => toString code
  | named definition => definition

/-- The registered code, where it is given. -/
def code? : ReferenceSystem → Option Nat
  | epsg code => if code < 0 then none else some code.toNat
  | named definition =>
    let register := definition.toList.take 5
    let digits := definition.toList.drop 5
    if Case.lower (String.ofList register) = "epsg:" ∧ digits ≠ [] ∧ digits.all Char.isDigit then
      some (Digit.readFrom 0 (digits.map fun c => c.toNat - 48))
    else none

end ReferenceSystem

/-- Reference systems and the ways from one to another. -/
structure Atlas where
  /-- The system is known. -/
  knows : ReferenceSystem → Bool
  /-- The systems are the same. -/
  same : ReferenceSystem → ReferenceSystem → Bool
  /-- The way from one system to another, if there is one. -/
  convert? : ReferenceSystem → ReferenceSystem → Option (Vertex → Vertex)

namespace Atlas

/-- The first codes of the families of zones, with their zones and their hemisphere. -/
def families : List (Nat × Nat × Nat × Bool) :=
  [(32600, 1, 60, false), (32700, 1, 60, true), (25800, 28, 38, false)]

/-- The projection of the system with a code. -/
def projectionOf? (n : Nat) : Option Projection :=
  if n = 4326 ∨ n = 4258 then some .degrees
  else if n = 3857 then some .sphericalMercator
  else
    (families.find? fun (base, first, last, _) => base + first ≤ n ∧ n ≤ base + last).map
      fun (base, _, _, south) => .transverseMercator (n - base) south

/-- The projection of a system. -/
def projection? (s : ReferenceSystem) : Option Projection := s.code?.bind projectionOf?

/-- The atlas of registered codes.  Heights are kept. -/
def standard : Atlas where
  knows s := (projection? s).isSome
  same s t := s.code? = t.code?
  convert? s t := do
    let source ← projection? s
    let target ← projection? t
    return fun v => { source.convert target v.toCoordinate with z := v.z }

end Atlas

end StreetEnv
