import Std.Data.TreeMap
import StreetEnv.Fault
import StreetEnv.Number.Arithmetic
import StreetEnv.Number.Basic

/-!
# Averaging samples per time

An `Accumulator` gathers the samples of one edge, grouped by time index, and answers their rounded
averages as cells of one type.

* `Accumulator.samplesAt` is the view: the accepted samples of a time, in order of arrival;
* `Accumulator.accept` and `Accumulator.add` take finite samples, the latter at checked times;
* `Accumulator.average` rounds the mean of the samples of a time half away from zero, and is zero
  when there are none.
-/

namespace StreetEnv

namespace CellType

/-- An integer as a cell of the type.  Floating types round it; integer types refuse what they
cannot hold. -/
def narrow (t : CellType) (n : Int) : Except Fault Number :=
  match t.range? with
  | none => .ok (t.rounding.round n)
  | some (lo, hi) =>
    if lo ≤ n ∧ n ≤ hi then .ok (.rational n)
    else
      let bits := if t = uint32 ∨ t = uint64 then 64 else 63
      if -(Power.ofTwo 63 : Int) ≤ n ∧ n < Power.ofTwo bits then .error (.cellOutOfRange n t)
      else .error .integerTooLarge

end CellType

/-- A row of cells of one type. -/
structure Series where
  /-- The type of the cells. -/
  type : CellType
  /-- The cells. -/
  values : List Number
  deriving DecidableEq, Inhabited

/-- Samples grouped by time index. -/
structure Accumulator where
  /-- The type of the averages. -/
  type : CellType
  /-- The samples of each time, last first. -/
  groups : Std.TreeMap Nat (List Number)

namespace Accumulator

/-- No samples yet. -/
def empty (type : CellType) : Accumulator := ⟨type, {}⟩

/-- The accepted samples of a time, in order of arrival. -/
def samplesAt (a : Accumulator) (t : Nat) : List Number := (a.groups.getD t []).reverse

/-- Adds a sample; one that is not finite is ignored. -/
def accept (r : Rounding) (a : Accumulator) (t : Nat) (sample : Number) : Accumulator :=
  let x := r.store sample
  if x.isFinite then ⟨a.type, a.groups.insert t (x :: a.groups.getD t [])⟩ else a

/-- Adds a sample, unless its time is negative. -/
def add (r : Rounding) (a : Accumulator) (time : Int) (sample : Number) :
    Except Fault Accumulator :=
  if time < 0 then .error (.negativeTime time) else .ok (a.accept r time.toNat sample)

/-- The mean of samples, rounded half away from zero and stored as a cell; zero if there are
none. -/
def averageOf (r : Rounding) (type : CellType) (samples : List Number) : Except Fault Number :=
  if samples.isEmpty then .ok 0
  else do
    let total ← Number.sum r samples
    let mean := total.div r (.rational samples.length)
    type.narrow (← mean.roundHalfAway r)

/-- The average of the samples of a time. -/
def average (r : Rounding) (a : Accumulator) (time : Int) : Except Fault Number :=
  if time < 0 then .ok 0 else averageOf r a.type (a.samplesAt time.toNat)

/-- The averages of the times `0, …, n - 1`. -/
def averages (r : Rounding) (a : Accumulator) (n : Int) : Except Fault Series := do
  let values ← (List.range n.toNat).mapM fun (t : Nat) => a.average r t
  return ⟨a.type, values⟩

/-- The number of accepted samples. -/
def size (a : Accumulator) : Nat := a.groups.foldl (fun n _ xs => n + xs.length) 0

end Accumulator

end StreetEnv
