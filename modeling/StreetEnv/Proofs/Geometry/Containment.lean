import StreetEnv.Proofs.Geometry.Bounds

/-!
# The order of envelopes by containment

Containment orders the envelopes whose bounds are numbers, up to the sign of a zero, and the
envelope of some points is the least one that contains each of them.  A bound `nan` takes an
envelope out of the order: it neither contains nor is contained.  No envelope of points has one, but
expanding can bring it in, where an infinite distance meets an infinite bound.

* `Envelope.IsNumeric`: every bound is a number, and the envelope contains itself;
* `Envelope.isSame_of_contains`: envelopes that contain each other are the same;
* `Envelope.IsLeastAround.contains_iff`: the least envelope around points;
* `Envelope.CanExpandBy` and `Envelope.contains_expandedBy_iff`: the distances by which envelopes
  can be expanded, and what that keeps;
* `Envelope.ordered_by_contains` puts these together.
-/

namespace StreetEnv

namespace Envelope

variable {r : Rounding} {e e' wide narrow : Envelope} {cs cs' : List Coordinate} {c : Coordinate}

/-! ### Envelopes in the order -/

/-- Every bound is a number. -/
structure IsNumeric (e : Envelope) : Prop where
  /-- The western side is. -/
  minX_ne : e.minX ≠ .nan
  /-- The southern side is. -/
  minY_ne : e.minY ≠ .nan
  /-- The eastern side is. -/
  maxX_ne : e.maxX ≠ .nan
  /-- The northern side is. -/
  maxY_ne : e.maxY ≠ .nan

/-- Only envelopes with numbers for bounds contain or are contained. -/
theorem isNumeric_of_contains (h : wide.contains narrow = true) :
    wide.IsNumeric ∧ narrow.IsNumeric := by
  obtain ⟨⟨hwest, heast⟩, hsouth, hnorth⟩ := contains_iff.1 h
  exact ⟨⟨(Number.ne_nan_of_le hwest).1, (Number.ne_nan_of_le hsouth).1,
      (Number.ne_nan_of_le heast).2, (Number.ne_nan_of_le hnorth).2⟩,
    ⟨(Number.ne_nan_of_le hwest).2, (Number.ne_nan_of_le hsouth).2,
      (Number.ne_nan_of_le heast).1, (Number.ne_nan_of_le hnorth).1⟩⟩

theorem contains_self_iff : e.contains e = true ↔ e.IsNumeric := by
  refine ⟨fun h => (isNumeric_of_contains h).1, fun h => contains_iff.2 ?_⟩
  exact ⟨⟨Number.le_self h.minX_ne, Number.le_self h.maxX_ne⟩,
    Number.le_self h.minY_ne, Number.le_self h.maxY_ne⟩

theorem isSame_of_contains (h : e.contains e' = true) (h' : e'.contains e = true) :
    e.IsSame e' := by
  obtain ⟨⟨hwest, heast⟩, hsouth, hnorth⟩ := contains_iff.1 h
  obtain ⟨⟨hwest', heast'⟩, hsouth', hnorth'⟩ := contains_iff.1 h'
  exact ⟨Number.unsigned_eq_of_le_of_le hwest hwest',
    Number.unsigned_eq_of_le_of_le hsouth hsouth',
    Number.unsigned_eq_of_le_of_le heast' heast,
    Number.unsigned_eq_of_le_of_le hnorth' hnorth⟩

/-! ### Points -/

theorem contains_ofPoint_iff : e.contains (ofPoint c) = true ↔ e.Covers c := by
  rw [contains_iff]
  rfl

/-- **The least envelope around points** is contained exactly where all of the points are. -/
theorem IsLeastAround.contains_iff (h : narrow.IsLeastAround cs) :
    wide.contains narrow = true ↔ ∀ c ∈ cs, wide.contains (ofPoint c) = true := by
  constructor
  · intro hwide c hc
    obtain ⟨hwest, heast, hsouth, hnorth⟩ := h.encloses c hc
    exact contains_trans hwide (contains_ofPoint_iff.2 ⟨⟨hwest, heast⟩, hsouth, hnorth⟩)
  · intro hpoints
    -- each side touches one of the points
    obtain ⟨west, hwest, hwestX⟩ := h.west
    obtain ⟨south, hsouth, hsouthY⟩ := h.south
    obtain ⟨east, heast, heastX⟩ := h.east
    obtain ⟨north, hnorth, hnorthY⟩ := h.north
    have hcovers : ∀ c ∈ cs, wide.Covers c := fun c hc => contains_ofPoint_iff.1 (hpoints c hc)
    rw [Envelope.contains_iff, ← hwestX, ← hsouthY, ← heastX, ← hnorthY]
    exact ⟨⟨(hcovers west hwest).1.1, (hcovers east heast).1.2⟩,
      (hcovers south hsouth).2.1, (hcovers north hnorth).2.2⟩

theorem exists_isLeastAround (hne : cs ≠ []) (hcs : ∀ c ∈ cs, c.hasNan = false) :
    ∃ e, ofCoordinates? cs = some e ∧ e.IsLeastAround cs := by
  cases he : ofCoordinates? cs with
  | none => exact absurd (ofCoordinates?_eq_none_iff.1 he) hne
  | some e =>
    exact ⟨e, rfl,
      ofCoordinates?_isLeastAround he fun c hc => Coordinate.hasNan_eq_false_iff.1 (hcs c hc)⟩

theorem IsLeastAround.isSame (h : e.IsLeastAround cs) (h' : e'.IsLeastAround cs')
    (hmem : ∀ c, c ∈ cs ↔ c ∈ cs') : e.IsSame e' :=
  isSame_of_contains (h.contains_of_subset h' fun c => (hmem c).2)
    (h'.contains_of_subset h fun c => (hmem c).1)

theorem isSame_ofCorners {d : Coordinate} (hc : c.hasNan = false) (hd : d.hasNan = false) :
    (ofCorners c.x d.x c.y d.y).IsSame (ofCorners d.x c.x d.y c.y) :=
  isSame_of_perm (.swap d c []) hc hd

/-! ### Expanded envelopes -/

/-- The distance is a number, and if it is infinite it moves no side back from the infinity where
that side lies. -/
structure CanExpandBy (e : Envelope) (d : Number) : Prop where
  /-- The distance is a number. -/
  ne_nan : d ≠ .nan
  /-- The western side can be moved. -/
  west : ∀ negative, d = .infinite negative → e.minX ≠ .infinite negative
  /-- The southern side can be moved. -/
  south : ∀ negative, d = .infinite negative → e.minY ≠ .infinite negative
  /-- The eastern side can be moved. -/
  east : ∀ negative, d = .infinite negative → e.maxX ≠ .infinite !negative
  /-- The northern side can be moved. -/
  north : ∀ negative, d = .infinite negative → e.maxY ≠ .infinite !negative

theorem canExpandBy_of_isFinite {d : Number} (hd : d.isFinite = true) (e : Envelope) :
    e.CanExpandBy d := by
  have hne (negative : Bool) : d ≠ .infinite negative := by
    rintro rfl
    cases hd
  exact ⟨Number.ne_nan_of_isFinite hd, fun _ h => absurd h (hne _), fun _ h => absurd h (hne _),
    fun _ h => absurd h (hne _), fun _ h => absurd h (hne _)⟩

theorem isNumeric_expandedBy_iff (hr : r.IsMonotone) (h : e.IsNumeric) {d : Number} :
    (e.expandedBy r d).IsNumeric ↔ e.CanExpandBy d := by
  have hwest := Number.sub_ne_nan_iff (z := d) hr h.minX_ne
  have hsouth := Number.sub_ne_nan_iff (z := d) hr h.minY_ne
  have heast := Number.add_ne_nan_iff (z := d) hr h.maxX_ne
  have hnorth := Number.add_ne_nan_iff (z := d) hr h.maxY_ne
  constructor
  · intro he
    exact ⟨(hwest.1 he.minX_ne).1, (hwest.1 he.minX_ne).2, (hsouth.1 he.minY_ne).2,
      (heast.1 he.maxX_ne).2, (hnorth.1 he.maxY_ne).2⟩
  · intro he
    exact ⟨hwest.2 ⟨he.ne_nan, he.west⟩, hsouth.2 ⟨he.ne_nan, he.south⟩,
      heast.2 ⟨he.ne_nan, he.east⟩, hnorth.2 ⟨he.ne_nan, he.north⟩⟩

/-- **Expanding by the same distance keeps containment** if both envelopes can be expanded by it,
and only then. -/
theorem contains_expandedBy_iff (hr : r.IsMonotone) (h : wide.contains narrow = true)
    {d : Number} :
    (wide.expandedBy r d).contains (narrow.expandedBy r d) = true ↔
      wide.CanExpandBy d ∧ narrow.CanExpandBy d := by
  obtain ⟨hwide, hnarrow⟩ := isNumeric_of_contains h
  rw [← isNumeric_expandedBy_iff hr hwide, ← isNumeric_expandedBy_iff hr hnarrow]
  refine ⟨isNumeric_of_contains, fun ⟨hwide', hnarrow'⟩ => ?_⟩
  obtain ⟨⟨hwest, heast⟩, hsouth, hnorth⟩ := contains_iff.1 h
  exact contains_iff.2
    ⟨⟨Number.sub_le_sub_of_ne_nan hr hwest hwide'.minX_ne hnarrow'.minX_ne,
        Number.add_le_add_of_ne_nan hr heast hnarrow'.maxX_ne hwide'.maxX_ne⟩,
      Number.sub_le_sub_of_ne_nan hr hsouth hwide'.minY_ne hnarrow'.minY_ne,
      Number.add_le_add_of_ne_nan hr hnorth hnarrow'.maxY_ne hwide'.maxY_ne⟩

/-! ### The order -/

/-- **Containment orders envelopes.**  Points whose ordinates are numbers have an envelope that
contains each of them and is contained in every envelope that does, whatever their order and however
often each of them comes.  Containment is transitive; an envelope contains itself exactly if its
bounds are numbers; and envelopes that contain each other are numerically the same.  So are the
envelopes of two corners in either order.  Expanded by the same distance, an envelope still contains
another one exactly if both can be expanded by it, as all can by a finite distance. -/
theorem ordered_by_contains (hr : r.IsMonotone) :
    (∀ cs : List Coordinate, cs ≠ [] → (∀ c ∈ cs, c.hasNan = false) →
      ∃ e, ofCoordinates? cs = some e ∧ (∀ c ∈ cs, e.contains (ofPoint c) = true) ∧
        (∀ e' : Envelope, (∀ c ∈ cs, e'.contains (ofPoint c) = true) → e'.contains e = true) ∧
        ∀ cs', (∀ c, c ∈ cs ↔ c ∈ cs') → ∃ e', ofCoordinates? cs' = some e' ∧ e.IsSame e') ∧
    (∀ e : Envelope, e.contains e = true ↔ e.IsNumeric) ∧
    (∀ e₁ e₂ e₃ : Envelope, e₁.contains e₂ = true → e₂.contains e₃ = true →
      e₁.contains e₃ = true) ∧
    (∀ e e' : Envelope, e.contains e' = true → e'.contains e = true → e.IsSame e') ∧
    (∀ c d : Coordinate, c.hasNan = false → d.hasNan = false →
      (ofCorners c.x d.x c.y d.y).IsSame (ofCorners d.x c.x d.y c.y)) ∧
    ∀ (e e' : Envelope) (d : Number), e.contains e' = true →
      ((e.expandedBy r d).contains (e'.expandedBy r d) = true ↔
        e.CanExpandBy d ∧ e'.CanExpandBy d) ∧
      (d.isFinite = true → (e.expandedBy r d).contains (e'.expandedBy r d) = true) := by
  refine ⟨fun cs hne hcs => ?_, fun e => contains_self_iff, fun _ _ _ => contains_trans,
    fun _ _ => isSame_of_contains, fun _ _ => isSame_ofCorners, fun e e' d h => ⟨?_, fun hd => ?_⟩⟩
  · obtain ⟨e, he, hleast⟩ := exists_isLeastAround hne hcs
    refine ⟨e, he, hleast.contains_iff.1 ?_, fun e' => hleast.contains_iff.2, fun cs' hmem => ?_⟩
    · exact hleast.contains_of_subset hleast (List.Subset.refl cs)
    · obtain ⟨c, hc⟩ := List.exists_mem_of_ne_nil cs hne
      have hne' : cs' ≠ [] := List.ne_nil_of_mem ((hmem c).1 hc)
      obtain ⟨e', he', hleast'⟩ := exists_isLeastAround hne' fun c hc => hcs c ((hmem c).2 hc)
      exact ⟨e', he', hleast.isSame hleast' hmem⟩
  · exact contains_expandedBy_iff hr h
  · have hcan := canExpandBy_of_isFinite hd
    exact (contains_expandedBy_iff hr h).2 ⟨hcan e, hcan e'⟩

/-- Four points, of which two are numerically the same: the zeros differ in sign. -/
theorem ordered_by_contains_points :
    let cs : List Coordinate := [⟨1, 5⟩, ⟨.negativeZero, 2⟩, ⟨3, 4⟩, ⟨0, 2⟩]
    let e : Envelope := ⟨.negativeZero, 2, 3, 5⟩
    let d : Number := .rational (1 / 4)
    Rounding.binary64.IsMonotone ∧ cs ≠ [] ∧ (∀ c ∈ cs, c.hasNan = false) ∧
      ofCoordinates? cs = some e ∧ (∀ c ∈ cs, e.contains (ofPoint c) = true) ∧
      (∀ e' : Envelope, (∀ c ∈ cs, e'.contains (ofPoint c) = true) → e'.contains e = true) ∧
      (e.expandedBy .binary64 d).contains ((ofPoint ⟨3, 4⟩).expandedBy .binary64 d) = true := by
  intro cs e d
  have hne : cs ≠ [] := List.cons_ne_nil _ _
  have hcs : ∀ c ∈ cs, c.hasNan = false := by decide
  have he : ofCoordinates? cs = some e := by decide +kernel
  obtain ⟨hpoints, -, -, -, -, hexpand⟩ := ordered_by_contains Rounding.isMonotone_binary64
  obtain ⟨e', he', hcontains, hleast, -⟩ := hpoints cs hne hcs
  obtain rfl : e = e' := Option.some.inj (he.symm.trans he')
  have hpoint : e.contains (ofPoint ⟨3, 4⟩) = true := hcontains _ (by decide)
  exact ⟨Rounding.isMonotone_binary64, hne, hcs, he, hcontains, hleast,
    (hexpand e _ d hpoint).2 rfl⟩

/-- An envelope with a bound `nan` does not contain itself.  The envelope of a single point at
infinity does, and does not any more after it is expanded by an infinite distance. -/
theorem exists_uncontained :
    (∃ e : Envelope, e.contains e = false) ∧
    ∃ (c : Coordinate) (e : Envelope) (d : Number), c.hasNan = false ∧
      ofCoordinates? [c] = some e ∧ e.contains e = true ∧
      (e.expandedBy .binary64 d).contains (e.expandedBy .binary64 d) = false :=
  ⟨⟨⟨.nan, 0, 1, 1⟩, by decide⟩, ⟨.infinite false, 0⟩, _, .infinite false, by decide, rfl,
    by decide, by decide +kernel⟩

end Envelope

end StreetEnv
