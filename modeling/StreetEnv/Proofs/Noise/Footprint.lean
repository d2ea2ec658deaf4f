import StreetEnv.Noise.Attribution
import StreetEnv.Proofs.Street.Footprint

/-!
# The footprint of a pass of noise

Passes of observations do not see the air quality of an edge, and write nothing but its noise.  A
pass resets every edge before it raises it, so it does not see the noise that the edges have either,
and a pass that succeeds can be carried out again.

* `NoisePass.raise_unaired` and `NoisePass.muted_raise`: raising an edge keeps to this footprint;
* `NoisePass.run_unaired` and `NoisePass.muted_run`: so does raising edges in turn;
* `NoisePass.keepsTo_apply`: so does a pass, whether or not it stops;
* `NoisePass.run_eq_of_muted`: without a fault, what becomes of edges is settled by the rest of
  them;
* `NoisePass.isRepeatable_apply`: a pass that succeeds is repeatable.
-/

namespace StreetEnv

open Outcome

/-! ### The footprint -/

namespace NoisePass

variable (p : NoisePass)

theorem raise_unaired (threshold : Number) (sources : List NoiseSource) (e : Edge) :
    raise threshold sources e.unaired =
      { raise threshold sources e with edge := (raise threshold sources e).edge.unaired } := by
  induction sources generalizing e with
  | nil => rfl
  | cons s sources ih =>
    have hnear : e.unaired.isNear s.place threshold = e.isNear s.place threshold := rfl
    have hnoise : e.unaired.noise = e.noise := rfl
    simp only [raise, hnear, hnoise]
    cases s.level with
    | text t => rfl
    | number x =>
      have hraised : e.unaired.withNoise x = (e.withNoise x).unaired := rfl
      dsimp only
      split
      · rw [hraised, ih]
      · exact ih e

/-- Raising an edge changes only its noise. -/
theorem muted_raise (threshold : Number) (sources : List NoiseSource) (e : Edge) :
    (raise threshold sources e).edge.muted = e.muted := by
  induction sources generalizing e with
  | nil => rfl
  | cons s sources ih =>
    simp only [raise]
    cases s.level with
    | text t => rfl
    | number x =>
      dsimp only
      split
      · exact ih (e.withNoise x)
      · exact ih e

theorem run_unaired (edges : List Edge) :
    p.run (edges.map Edge.unaired) =
      { p.run edges with edges := (p.run edges).edges.map Edge.unaired } := by
  induction edges with
  | nil => rfl
  | cons e edges ih =>
    have hreset : e.unaired.withNoise p.floor = (e.withNoise p.floor).unaired := rfl
    simp only [List.map_cons, run, hreset, raise_unaired]
    cases (raise p.threshold p.sources (e.withNoise p.floor)).fault with
    | some f => rfl
    | none => simp only [ih]; rfl

theorem muted_run (edges : List Edge) :
    (p.run edges).edges.map Edge.muted = edges.map Edge.muted := by
  induction edges with
  | nil => rfl
  | cons e edges ih =>
    have hfirst : (raise p.threshold p.sources (e.withNoise p.floor)).edge.muted = e.muted :=
      muted_raise p.threshold p.sources (e.withNoise p.floor)
    simp only [run]
    cases (raise p.threshold p.sources (e.withNoise p.floor)).fault with
    | some f => simp [hfirst]
    | none => simp [hfirst, ih]

/-- What a pass does to the edges that it is given. -/
def work (edges : List Edge) : List Edge × List Notice × Except Fault Nat :=
  let result := p.run edges
  (result.edges, [],
    match result.fault with
    | some f => .error f
    | none => .ok result.count)

theorem apply_eq_of_no_area (h : p.area? = none) (r : Rounding) :
    p.apply r = fun g => ⟨g, [.noObservations], .ok 0⟩ := by
  funext g
  rw [apply, h]

theorem apply_eq_inside {area : Envelope} (h : p.area? = some area) (r : Rounding) :
    p.apply r = inside (area.expandedBy r p.margin) p.work := by
  funext g
  rw [apply, h]
  rfl

/-- **A pass sees no air quality and writes noise alone**, whether or not it stops. -/
theorem keepsTo_apply (r : Rounding) : KeepsTo Edge.unaired Edge.muted (p.apply r) := by
  cases harea : p.area? with
  | none =>
    rw [p.apply_eq_of_no_area harea]
    exact .const [.noObservations] (.ok 0)
  | some area =>
    rw [p.apply_eq_inside harea]
    refine keepsTo_inside Edge.envelope_unaired _ (fun edges => ?_) p.muted_run
    simp only [work, run_unaired]

end NoisePass

/-! ### Passes carried out again -/

theorem Edge.withNoise_eq_of_muted {e e' : Edge} (h : e.muted = e'.muted) (x : Number) :
    e.withNoise x = e'.withNoise x := by
  have hreset (e : Edge) : e.withNoise x = e.muted.withNoise x := rfl
  rw [hreset, h, ← hreset]

namespace NoisePass

variable {p : NoisePass} {r : Rounding}

theorem run_eq_of_muted {es es' : List Edge} (h : es'.map Edge.muted = es.map Edge.muted)
    (hfault : (p.run es).fault = none) : p.run es' = p.run es := by
  induction es generalizing es' with
  | nil =>
    rw [List.map_nil, List.map_eq_nil_iff] at h
    rw [h]
  | cons e es ih =>
    obtain ⟨e', es', rfl, he, hes⟩ := List.map_eq_cons_iff.1 h
    have hreset : e'.withNoise p.floor = e.withNoise p.floor := Edge.withNoise_eq_of_muted he _
    simp only [run, hreset] at hfault ⊢
    cases hfirst : (raise p.threshold p.sources (e.withNoise p.floor)).fault with
    | some f => simp [hfirst] at hfault
    | none =>
      simp only [hfirst] at hfault ⊢
      rw [ih hes hfault]

/-- **A pass that succeeds is repeatable.** -/
theorem isRepeatable_apply {g : Graph} {n : Nat} (h : (p.apply r g).result = .ok n) :
    IsRepeatable (p.apply r) g := by
  cases harea : p.area? with
  | none =>
    rw [p.apply_eq_of_no_area harea]
    exact isRepeatable_const [.noObservations] (.ok 0)
  | some area =>
    rw [p.apply_eq_inside harea] at h ⊢
    have hmuted := p.muted_run (g.edgesIn (area.expandedBy r p.margin))
    refine isRepeatable_inside ?_ ?_
    · -- the envelope of an edge does not depend on its noise
      have henvelope := congrArg (List.map Edge.envelope) hmuted
      rw [List.map_map, List.map_map] at henvelope
      exact henvelope
    · have hfault : (p.run (g.edgesIn (area.expandedBy r p.margin))).fault = none := by
        cases hcase : (p.run (g.edgesIn (area.expandedBy r p.margin))).fault with
        | none => rfl
        | some f => simp [inside, work, hcase] at h
      unfold work
      rw [run_eq_of_muted hmuted hfault]

end NoisePass

end StreetEnv
