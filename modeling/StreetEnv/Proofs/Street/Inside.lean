import Mathlib.Data.List.Basic
import Mathlib.Tactic.Tauto
import StreetEnv.Proofs.Number.Order
import StreetEnv.Street.Graph

/-!
# The edges inside an envelope

An envelope selects an edge by the bounds of its two ends.  A bound of two ordinates keeps the first
one when the second is `nan`, so an ordinate of the destination that is no number is not looked at,
while one of the origin keeps the edge out.

* `Envelope.Covers` and `Envelope.Admits`: a point inside an envelope, and one that is inside in the
  ordinates that are numbers;
* `Edge.contains_envelope_iff`: the edges an envelope selects;
* `Graph.edgesIn_places`: the selected edges, by their places in the graph.
-/

namespace StreetEnv

namespace Envelope

/-- The point lies inside the envelope or on its sides. -/
def Covers (box : Envelope) (c : Coordinate) : Prop :=
  (box.minX ≤ c.x ∧ c.x ≤ box.maxX) ∧ box.minY ≤ c.y ∧ c.y ≤ box.maxY

/-- The same, but an ordinate that is no number is not looked at. -/
def Admits (box : Envelope) (c : Coordinate) : Prop :=
  (c.x = .nan ∨ box.minX ≤ c.x ∧ c.x ≤ box.maxX) ∧
    (c.y = .nan ∨ box.minY ≤ c.y ∧ c.y ≤ box.maxY)

variable {box : Envelope} {c : Coordinate}

theorem admits_iff_covers (hx : c.x ≠ .nan) (hy : c.y ≠ .nan) : box.Admits c ↔ box.Covers c := by
  simp [Admits, Covers, hx, hy]

theorem Covers.ne_nan (h : box.Covers c) : c.x ≠ .nan ∧ c.y ≠ .nan :=
  ⟨(Number.ne_nan_of_le h.1.1).2, (Number.ne_nan_of_le h.2.1).2⟩

theorem contains_ofCorners_iff {d : Coordinate} :
    box.contains (ofCorners c.x d.x c.y d.y) = true ↔ box.Covers c ∧ box.Admits d := by
  simp only [contains, ofCorners, Bool.and_eq_true, decide_eq_true_eq, Number.le_least_iff,
    Number.greatest_le_iff, Covers, Admits]
  tauto

end Envelope

/-- **The edges an envelope selects** begin inside and end inside, but for the ordinates of the
destination that are no numbers. -/
theorem Edge.contains_envelope_iff {box : Envelope} {e : Edge} :
    box.contains e.envelope = true ↔ box.Covers e.origin ∧ box.Admits e.destination :=
  Envelope.contains_ofCorners_iff

namespace Graph

theorem filter_eq_filterMap_places {α : Type} (p : α → Bool) (l : List α) :
    ∃ places : List Nat, places.Pairwise (· < ·) ∧
      (∀ i, i ∈ places ↔ ∃ x, l[i]? = some x ∧ p x = true) ∧
      l.filter p = places.filterMap (l[·]?) := by
  -- the places are those of the kept entries of the numbered list
  have hvalues : (l.zipIdx.filter (p ∘ Prod.fst)).map Prod.fst = l.filter p := by
    rw [← List.filter_map, List.zipIdx_map_fst]
  refine ⟨(l.zipIdx.filter (p ∘ Prod.fst)).map Prod.snd, ?_, fun i => ?_, ?_⟩
  · have hall : (l.zipIdx.map Prod.snd).Pairwise (· < ·) := by
      rw [List.zipIdx_map_snd]
      exact List.pairwise_lt_range'
    exact hall.sublist (List.filter_sublist.map _)
  · simp [List.mem_zipIdx_iff_getElem?]
  · rw [← hvalues, List.filterMap_map]
    exact (List.filterMap_eq_map_iff_forall_eq_some.2 fun x hx =>
      List.mem_zipIdx_iff_getElem?.1 (List.mem_filter.1 hx).1).symm

/-- **The selected edges, by their places.**  They come in the order of the graph and each place
once.  An edge that ends at numbers is selected when both its ends are inside; one that begins at an
ordinate that is no number is never selected. -/
theorem edgesIn_places (g : Graph) (box : Envelope) :
    ∃ places : List Nat, g.edgesIn box = places.filterMap (g.edges[·]?) ∧
      places.Pairwise (· < ·) ∧
      (∀ i, i ∈ places ↔
        ∃ e, g.edges[i]? = some e ∧ box.Covers e.origin ∧ box.Admits e.destination) ∧
      ∀ i e, g.edges[i]? = some e →
        (e.destination.x ≠ .nan → e.destination.y ≠ .nan →
          (i ∈ places ↔ box.Covers e.origin ∧ box.Covers e.destination)) ∧
        (e.origin.x = .nan ∨ e.origin.y = .nan → i ∉ places) := by
  obtain ⟨places, hincreasing, hmem, hfilter⟩ :=
    filter_eq_filterMap_places (fun e => box.contains e.envelope) g.edges
  simp only [Edge.contains_envelope_iff] at hmem
  refine ⟨places, hfilter, hincreasing, hmem, fun i e he => ?_⟩
  have hplace : i ∈ places ↔ box.Covers e.origin ∧ box.Admits e.destination := by
    rw [hmem]
    simp [he]
  constructor
  · intro hx hy
    rw [hplace, Envelope.admits_iff_covers hx hy]
  · intro hnan hi
    have hnumber := (hplace.1 hi).1.ne_nan
    exact hnan.elim hnumber.1 hnumber.2

/-- An edge that ends at no number is selected, and the same edge the other way round is not. -/
theorem exists_edgesIn_nan :
    Graph.edgesIn ⟨[{ id := .missing, origin := ⟨5, 5⟩, destination := ⟨.nan, 5⟩ },
        { id := .missing, origin := ⟨.nan, 5⟩, destination := ⟨5, 5⟩ }]⟩ ⟨0, 0, 10, 10⟩ =
      [{ id := .missing, origin := ⟨5, 5⟩, destination := ⟨.nan, 5⟩ }] := by
  decide

end Graph

end StreetEnv
