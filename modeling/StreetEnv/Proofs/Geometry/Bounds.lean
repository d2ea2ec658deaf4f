import StreetEnv.Geometry.Envelope
import StreetEnv.Proofs.Number.Monotone
import StreetEnv.Proofs.Number.Order
import StreetEnv.Proofs.Number.Zeros
import StreetEnv.Proofs.Street.Inside

/-!
# The bounds of envelopes

`Envelope.IsLeastAround` is the envelope of several points by its bounds: no point lies outside, and
some point lies on each side.

* `Envelope.foldl_grow`: an envelope grows in each bound by itself;
* `Envelope.ofCoordinates?_isLeastAround`: what `Envelope.ofCoordinates?` gives is least.

The envelope of points depends on their order in two ways: a zero may have either sign, which
nothing that is contained sees, and the first point decides about `nan`.

* `Envelope.IsSame`: the bounds are numerically the same, and then the same is contained;
* `Envelope.isSame_of_perm`: the envelopes of the same points in two orders, unless one of them
  begins with a point that has an ordinate `nan`;
* `Envelope.contains_of_nan_head`: in that case nothing is contained.

More points have an envelope that contains the one of fewer points, and expanding both by the same
distance keeps it so.  A distance that is infinite can take all numbers out of the sides; then the
narrow envelope contains no point.

* `Envelope.contains_trans`: what is contained by a contained envelope is contained;
* `Envelope.IsLeastAround.contains_of_subset`: the envelopes of some and of more points;
* `Envelope.contains_expandedBy`: expanded envelopes, if the narrow one contains a point at all.
-/

namespace StreetEnv

/-! ### The least envelope around points -/

namespace Envelope

/-- No point lies outside the envelope, and some point lies on each of its sides. -/
structure IsLeastAround (cs : List Coordinate) (e : Envelope) : Prop where
  /-- No point lies outside. -/
  encloses : ∀ c ∈ cs, e.minX ≤ c.x ∧ c.x ≤ e.maxX ∧ e.minY ≤ c.y ∧ c.y ≤ e.maxY
  /-- The western side touches a point. -/
  west : ∃ c ∈ cs, c.x = e.minX
  /-- The southern side touches a point. -/
  south : ∃ c ∈ cs, c.y = e.minY
  /-- The eastern side touches a point. -/
  east : ∃ c ∈ cs, c.x = e.maxX
  /-- The northern side touches a point. -/
  north : ∃ c ∈ cs, c.y = e.maxY

theorem foldl_grow (cs : List Coordinate) (e : Envelope) :
    cs.foldl grow e =
      ⟨(cs.map Coordinate.x).foldl Number.least e.minX,
        (cs.map Coordinate.y).foldl Number.least e.minY,
        (cs.map Coordinate.x).foldl Number.greatest e.maxX,
        (cs.map Coordinate.y).foldl Number.greatest e.maxY⟩ := by
  induction cs generalizing e with
  | nil => rfl
  | cons c cs ih => exact ih (e.grow c)

theorem ofCoordinates?_eq_none_iff {cs : List Coordinate} : ofCoordinates? cs = none ↔ cs = [] := by
  cases cs <;> simp [ofCoordinates?]

/-- **The envelope of points is least**, unless an ordinate is no number. -/
theorem ofCoordinates?_isLeastAround {cs : List Coordinate} {e : Envelope}
    (h : ofCoordinates? cs = some e) (hcs : ∀ c ∈ cs, c.x ≠ .nan ∧ c.y ≠ .nan) :
    e.IsLeastAround cs := by
  cases cs with
  | nil => cases h
  | cons c cs =>
    obtain rfl := Option.some.inj h
    rw [foldl_grow]
    -- a side touches some point, and no point lies beyond it
    have hleast (f : Coordinate → Number) (hf : ∀ d ∈ c :: cs, f d ≠ .nan) :
        (∃ d ∈ c :: cs, f d = (cs.map f).foldl Number.least (f c)) ∧
        ∀ d ∈ c :: cs, (cs.map f).foldl Number.least (f c) ≤ f d := by
      obtain ⟨hmem, hle⟩ := Number.foldl_least (hf c List.mem_cons_self) (cs.map f)
      exact ⟨List.mem_map.1 hmem, fun d hd => hle _ (List.mem_map_of_mem hd) (hf d hd)⟩
    have hgreatest (f : Coordinate → Number) (hf : ∀ d ∈ c :: cs, f d ≠ .nan) :
        (∃ d ∈ c :: cs, f d = (cs.map f).foldl Number.greatest (f c)) ∧
        ∀ d ∈ c :: cs, f d ≤ (cs.map f).foldl Number.greatest (f c) := by
      obtain ⟨hmem, hle⟩ := Number.foldl_greatest (hf c List.mem_cons_self) (cs.map f)
      exact ⟨List.mem_map.1 hmem, fun d hd => hle _ (List.mem_map_of_mem hd) (hf d hd)⟩
    obtain ⟨hwest, hx⟩ := hleast Coordinate.x fun d hd => (hcs d hd).1
    obtain ⟨hsouth, hy⟩ := hleast Coordinate.y fun d hd => (hcs d hd).2
    obtain ⟨heast, hx'⟩ := hgreatest Coordinate.x fun d hd => (hcs d hd).1
    obtain ⟨hnorth, hy'⟩ := hgreatest Coordinate.y fun d hd => (hcs d hd).2
    exact ⟨fun d hd => ⟨hx d hd, hx' d hd, hy d hd, hy' d hd⟩, hwest, hsouth, heast,
      hnorth⟩

end Envelope

/-! ### Envelopes with the same bounds -/

/-- One of the ordinates is `nan`. -/
def Coordinate.hasNan (c : Coordinate) : Bool := c.x = .nan || c.y = .nan

theorem Coordinate.hasNan_eq_false_iff {c : Coordinate} :
    c.hasNan = false ↔ c.x ≠ .nan ∧ c.y ≠ .nan := by
  simp [hasNan]

namespace Envelope

variable {e e' : Envelope} {r : Rounding}

/-- The bounds are numerically the same. -/
structure IsSame (e e' : Envelope) : Prop where
  /-- The western sides are. -/
  minX_eq : e.minX.unsigned = e'.minX.unsigned
  /-- The southern sides are. -/
  minY_eq : e.minY.unsigned = e'.minY.unsigned
  /-- The eastern sides are. -/
  maxX_eq : e.maxX.unsigned = e'.maxX.unsigned
  /-- The northern sides are. -/
  maxY_eq : e.maxY.unsigned = e'.maxY.unsigned

theorem IsSame.contains_eq (h : IsSame e e') (other : Envelope) :
    e.contains other = e'.contains other := by
  have hwest := Number.le_congr_left (z := other.minX) h.minX_eq
  have heast := Number.le_congr_right (z := other.maxX) h.maxX_eq
  have hsouth := Number.le_congr_left (z := other.minY) h.minY_eq
  have hnorth := Number.le_congr_right (z := other.maxY) h.maxY_eq
  simp only [contains, hwest, heast, hsouth, hnorth]

theorem IsSame.expandedBy (hr : r.round 0 = .rational 0) (h : IsSame e e') (d : Number) :
    IsSame (e.expandedBy r d) (e'.expandedBy r d) where
  minX_eq := Number.unsigned_add_congr hr h.minX_eq
  minY_eq := Number.unsigned_add_congr hr h.minY_eq
  maxX_eq := Number.unsigned_add_congr hr h.maxX_eq
  maxY_eq := Number.unsigned_add_congr hr h.maxY_eq

/-- **The order of points does not matter to their envelope**, if both orders begin with a point
whose ordinates are numbers. -/
theorem isSame_of_perm {c c' : Coordinate} {cs cs' : List Coordinate}
    (hperm : (c :: cs).Perm (c' :: cs')) (hc : c.hasNan = false) (hc' : c'.hasNan = false) :
    IsSame (cs.foldl grow (ofPoint c)) (cs'.foldl grow (ofPoint c')) := by
  obtain ⟨hx, hy⟩ := Coordinate.hasNan_eq_false_iff.1 hc
  obtain ⟨hx', hy'⟩ := Coordinate.hasNan_eq_false_iff.1 hc'
  have hmem (f : Coordinate → Number) (x : Number) :
      x ∈ f c :: cs.map f ↔ x ∈ f c' :: cs'.map f := by
    have h := (hperm.map f).mem_iff (a := x)
    rwa [List.map_cons, List.map_cons] at h
  rw [foldl_grow, foldl_grow]
  exact ⟨Number.foldl_least_congr hx hx' (hmem Coordinate.x),
    Number.foldl_least_congr hy hy' (hmem Coordinate.y),
    Number.foldl_greatest_congr hx hx' (hmem Coordinate.x),
    Number.foldl_greatest_congr hy hy' (hmem Coordinate.y)⟩

theorem contains_of_nan (h : e.minX = .nan ∨ e.minY = .nan) (other : Envelope) :
    e.contains other = false := by
  have hnot (x : Number) : ¬ Number.nan ≤ x := fun h => (Number.ne_nan_of_le h).1 rfl
  rcases h with h | h
  · simp [contains, h, hnot]
  · simp [contains, h, hnot]

/-- **After a first point that has an ordinate `nan`, the envelope contains nothing**, by however
much it is expanded. -/
theorem contains_of_nan_head {c : Coordinate} (cs : List Coordinate) (hc : c.hasNan = true)
    (d : Number) (other : Envelope) :
    ((cs.foldl grow (ofPoint c)).expandedBy r d).contains other = false := by
  rw [foldl_grow]
  have hnan : c.x = .nan ∨ c.y = .nan := by simpa [Coordinate.hasNan] using hc
  refine contains_of_nan (hnan.imp (fun h => ?_) fun h => ?_) other
  · simp [Envelope.expandedBy, ofPoint, h, Number.foldl_least_nan, Number.sub, Number.add]
  · simp [Envelope.expandedBy, ofPoint, h, Number.foldl_least_nan, Number.sub, Number.add]

end Envelope

/-! ### Wider envelopes -/

namespace Number

variable {r : Rounding} {lo lo' hi hi' d x : Number}

/-- The ends of an interval, moved outwards by a distance, enclose those of a narrower one, if the
narrower one then holds a number at all. -/
theorem expanded_ends (hr : r.IsMonotone) (hlo : lo' ≤ lo) (hhi : hi ≤ hi')
    (hlox : lo.sub r d ≤ x) (hxhi : x ≤ hi.add r d) :
    lo'.sub r d ≤ lo.sub r d ∧ hi.add r d ≤ hi'.add r d := by
  have hlonum : lo.sub r d ≠ nan := (ne_nan_of_le hlox).1
  have hhinum : hi.add r d ≠ nan := (ne_nan_of_le hxhi).2
  have hlo'num : lo' ≠ nan := (ne_nan_of_le hlo).1
  have hhi'num : hi' ≠ nan := (ne_nan_of_le hhi).2
  -- it is left to show that the ends of the wider interval are numbers when they are moved
  suffices h : lo'.sub r d ≠ nan ∧ hi'.add r d ≠ nan from
    ⟨sub_le_sub_of_ne_nan hr hlo h.1 hlonum, add_le_add_of_ne_nan hr hhi hhinum h.2⟩
  rcases infinite_or_isFinite (ne_nan_of_add hhinum).2 with ⟨negative, rfl⟩ | hd
  · cases negative with
    | false =>
      refine ⟨add_infinite_ne_nan hlo'num ?_, add_infinite_ne_nan hhi'num ?_⟩
      · rintro rfl
        rw [eq_infinity_of_le hlo] at hlonum
        exact hlonum rfl
      · rintro rfl
        rw [eq_minusInfinity_of_le hhi] at hhinum
        exact hhinum rfl
    | true =>
      -- the ends of the narrower interval have passed each other
      have hlow : lo.sub r (infinite true) = infinite false := add_infinite hlonum
      have hhigh : hi.add r (infinite true) = infinite true := add_infinite hhinum
      rw [hlow] at hlox
      rw [hhigh, eq_infinity_of_le hlox] at hxhi
      exact absurd hxhi (by decide)
  · exact ⟨add_ne_nan hr hlo'num (isFinite_neg hd).1, add_ne_nan hr hhi'num hd⟩

end Number

namespace Envelope

variable {r : Rounding} {wide narrow other : Envelope} {cs cs' : List Coordinate} {c : Coordinate}

theorem contains_iff :
    wide.contains narrow = true ↔ (wide.minX ≤ narrow.minX ∧ narrow.maxX ≤ wide.maxX) ∧
      wide.minY ≤ narrow.minY ∧ narrow.maxY ≤ wide.maxY := by
  simp [contains, and_assoc]

theorem contains_trans (h : wide.contains narrow = true) (h' : narrow.contains other = true) :
    wide.contains other = true := by
  obtain ⟨⟨hwest, heast⟩, hsouth, hnorth⟩ := contains_iff.1 h
  obtain ⟨⟨hwest', heast'⟩, hsouth', hnorth'⟩ := contains_iff.1 h'
  exact contains_iff.2 ⟨⟨Number.le_trans hwest hwest', Number.le_trans heast' heast⟩,
    Number.le_trans hsouth hsouth', Number.le_trans hnorth' hnorth⟩

/-- **The envelope of more points contains that of fewer**: each side of the latter touches one of
the points. -/
theorem IsLeastAround.contains_of_subset (hwide : wide.IsLeastAround cs')
    (hnarrow : narrow.IsLeastAround cs) (hsub : cs ⊆ cs') : wide.contains narrow = true := by
  obtain ⟨west, hwest, hwestX⟩ := hnarrow.west
  obtain ⟨south, hsouth, hsouthY⟩ := hnarrow.south
  obtain ⟨east, heast, heastX⟩ := hnarrow.east
  obtain ⟨north, hnorth, hnorthY⟩ := hnarrow.north
  rw [contains_iff, ← hwestX, ← heastX, ← hsouthY, ← hnorthY]
  exact ⟨⟨(hwide.encloses west (hsub hwest)).1, (hwide.encloses east (hsub heast)).2.1⟩,
    (hwide.encloses south (hsub hsouth)).2.2.1, (hwide.encloses north (hsub hnorth)).2.2.2⟩

/-- **Expanded by the same distance, a wider envelope contains the narrower one**, if that contains
a point. -/
theorem contains_expandedBy (hr : r.IsMonotone) (h : wide.contains narrow = true) (d : Number)
    (hc : (narrow.expandedBy r d).Covers c) :
    (wide.expandedBy r d).contains (narrow.expandedBy r d) = true := by
  obtain ⟨⟨hwest, heast⟩, hsouth, hnorth⟩ := contains_iff.1 h
  exact contains_iff.2 ⟨Number.expanded_ends hr hwest heast hc.1.1 hc.1.2,
    Number.expanded_ends hr hsouth hnorth hc.2.1 hc.2.2⟩

end Envelope

end StreetEnv
