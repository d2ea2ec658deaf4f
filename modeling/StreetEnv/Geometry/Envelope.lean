import StreetEnv.Number.Arithmetic

/-!
# Envelopes

A `Coordinate` is a point of the plane of longitudes and latitudes, a `Vertex` one of a line,
perhaps with a height, and an `Envelope` a rectangle with sides along the axes that contains its
bounds.

* `Envelope.ofCorners` and `Envelope.ofCoordinates?` are the least envelopes of what they are given;
* `Envelope.contains` compares two envelopes, and never holds where `nan` is a bound;
* `Envelope.expandedBy` moves every side outwards.
-/

namespace StreetEnv

/-- A point: a longitude and a latitude. -/
structure Coordinate where
  /-- The longitude. -/
  x : Number
  /-- The latitude. -/
  y : Number
  deriving DecidableEq, Inhabited

/-- A point of a line; its first two ordinates are a point of the plane. -/
structure Vertex extends Coordinate where
  /-- The third ordinate, if there is one. -/
  z : Option Number := none
  deriving DecidableEq, Inhabited

/-- A rectangle with sides along the axes, its bounds included. -/
structure Envelope where
  /-- The western side. -/
  minX : Number
  /-- The southern side. -/
  minY : Number
  /-- The eastern side. -/
  maxX : Number
  /-- The northern side. -/
  maxY : Number
  deriving DecidableEq, Inhabited

namespace Envelope

/-- The envelope of two opposite corners `(x₁, y₁)` and `(x₂, y₂)`, in either order. -/
def ofCorners (x₁ x₂ y₁ y₂ : Number) : Envelope :=
  ⟨x₁.least x₂, y₁.least y₂, x₁.greatest x₂, y₁.greatest y₂⟩

/-- The envelope of a single point. -/
def ofPoint (c : Coordinate) : Envelope := ⟨c.x, c.y, c.x, c.y⟩

/-- The envelope grown by a point. -/
def grow (e : Envelope) (c : Coordinate) : Envelope :=
  ⟨e.minX.least c.x, e.minY.least c.y, e.maxX.greatest c.x, e.maxY.greatest c.y⟩

/-- The envelope of the coordinates, if there are any. -/
def ofCoordinates? : List Coordinate → Option Envelope
  | [] => none
  | c :: cs => some (cs.foldl grow (ofPoint c))

/-- The second envelope lies inside the first; it may touch the sides. -/
def contains (e other : Envelope) : Bool :=
  e.minX ≤ other.minX && other.maxX ≤ e.maxX && e.minY ≤ other.minY && other.maxY ≤ e.maxY

/-- The envelope with every side moved outwards by a distance. -/
def expandedBy (r : Rounding) (e : Envelope) (d : Number) : Envelope :=
  ⟨e.minX.sub r d, e.minY.sub r d, e.maxX.add r d, e.maxY.add r d⟩

/-- The four bounds: west, south, east, north. -/
def bounds (e : Envelope) : List Number := [e.minX, e.minY, e.maxX, e.maxY]

end Envelope

end StreetEnv
