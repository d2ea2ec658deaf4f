import Mathlib.Algebra.BigOperators.Group.Multiset.Basic
import StreetEnv.Proofs.Fault.Traversal
import StreetEnv.Proofs.Grid.Samples
import StreetEnv.Proofs.Number.Mean

/-!
# Operations on an accumulator

Samples are added to an accumulator and its averages and its size are asked for, in any order.  What
it answers depends on the bag of samples that it has accepted for each time, and on nothing else.

* `Accumulator.Operation` and `Accumulator.Answer`: what can be asked, and what can be answered;
* `Accumulator.after` and `Accumulator.answers`: a run of operations;
* `Accumulator.accepted`: the samples that a run accepts, with their times;
* `Accumulator.samplesAt_after`, `Accumulator.size_after`: what a run leaves;
* `Accumulator.cellOf`: the average of a bag of samples;
* `Accumulator.answers_of_samples`: the answers of a run.
-/

namespace StreetEnv

namespace Accumulator

variable {r : Rounding} {type : CellType}

/-! ### The number of samples -/

/-- The number of samples at other times. -/
def sizeElsewhere (a : Accumulator) (t : Nat) : Nat :=
  ((a.groups.toList.filter fun p => ¬ t == p.1).map fun p => p.2.length).sum

theorem size_eq_sum (a : Accumulator) :
    a.size = (a.groups.toList.map fun p => p.2.length).sum := by
  rw [size, Std.TreeMap.foldl_eq_foldl_toList, List.sum_eq_foldl, List.foldl_map]

theorem size_insert (a : Accumulator) (t : Nat) (xs : List Number) :
    (⟨a.type, a.groups.insert t xs⟩ : Accumulator).size = xs.length + a.sizeElsewhere t := by
  rw [size_eq_sum, ((Std.TreeMap.toList_insert_perm).map _).sum_eq]
  rfl

theorem size_eq_add (a : Accumulator) (t : Nat) :
    a.size = (a.samplesAt t).length + a.sizeElsewhere t := by
  rw [samplesAt, List.length_reverse, Std.TreeMap.getD_eq_getD_getElem?]
  cases h : a.groups[t]? with
  | some xs =>
    -- putting the group in once more changes nothing
    have hsame : (a.groups.insert t xs).Equiv a.groups := by
      refine .of_forall_constGet?_eq fun u => ?_
      by_cases hu : t = u
      · rw [← hu, Std.TreeMap.getElem?_insert_self, h]
      · simp [Std.TreeMap.getElem?_insert, hu]
    rw [Option.getD_some, ← size_insert, size_eq_sum, size_eq_sum, hsame.toList_eq]
  | none =>
    have hother : ∀ p ∈ a.groups.toList, decide (¬ (t == p.1) = true) = true := by
      rintro ⟨u, ys⟩ hp
      rw [Std.TreeMap.mem_toList_iff_getElem?_eq_some] at hp
      have hu : t ≠ u := fun hu => by rw [hu, hp] at h; cases h
      simpa using hu
    rw [sizeElsewhere, List.filter_eq_self.2 hother, size_eq_sum]
    simp

theorem size_accept (a : Accumulator) (t : Nat) (x : Number) :
    (a.accept r t x).size = a.size + if (r.store x).isFinite = true then 1 else 0 := by
  unfold accept
  by_cases hx : (r.store x).isFinite = true
  · simp only [hx, if_true]
    rw [size_insert, a.size_eq_add t, samplesAt, List.length_reverse, List.length_cons]
    omega
  · simp [hx]

@[simp] theorem size_empty (type : CellType) : (empty type).size = 0 := rfl

/-! ### Operations -/

/-- Something asked of an accumulator. -/
inductive Operation where
  /-- To add a sample at a time. -/
  | add (time : Int) (sample : Number)
  /-- The average of a time. -/
  | average (time : Int)
  /-- The averages of the times `0, …, n - 1`. -/
  | averages (n : Int)
  /-- The number of samples. -/
  | size
  deriving DecidableEq

/-- What an accumulator answers. -/
inductive Answer where
  /-- A sample was added, or its time is refused. -/
  | added (result : Except Fault Unit)
  /-- An average, as a cell. -/
  | average (result : Except Fault Number)
  /-- Averages. -/
  | averages (result : Except Fault Series)
  /-- A number of samples. -/
  | size (n : Nat)

/-- The answer to an operation. -/
def answer (r : Rounding) (a : Accumulator) : Operation → Answer
  | .add t x => .added ((a.add r t x).map fun _ => ())
  | .average t => .average (a.average r t)
  | .averages n => .averages (a.averages r n)
  | .size => .size a.size

/-- What an operation leaves; a sample that is refused leaves what was there. -/
def perform (r : Rounding) (a : Accumulator) : Operation → Accumulator
  | .add t x =>
    match a.add r t x with
    | .ok b => b
    | .error _ => a
  | .average _ => a
  | .averages _ => a
  | .size => a

/-- What operations leave that are carried out in turn. -/
def after (r : Rounding) (a : Accumulator) (ops : List Operation) : Accumulator :=
  ops.foldl (perform r) a

/-- The answers to operations that are carried out in turn. -/
def answers (r : Rounding) (a : Accumulator) : List Operation → List Answer
  | [] => []
  | op :: ops => a.answer r op :: answers r (a.perform r op) ops

/-! ### Samples that are accepted -/

/-- The sample that an operation adds, with its time, if it is accepted: the time is not negative
and the sample is finite. -/
def Operation.accepted? (r : Rounding) : Operation → Option (Int × Number)
  | .add t x => if 0 ≤ t ∧ (r.store x).isFinite = true then some (t, r.store x) else none
  | _ => none

/-- The accepted samples of operations, with their times, in order of arrival. -/
def accepted (r : Rounding) (ops : List Operation) : List (Int × Number) :=
  ops.filterMap (Operation.accepted? r)

/-- The samples of a time. -/
def valuesAt (t : Int) (samples : List (Int × Number)) : List Number :=
  (samples.filter fun p => p.1 == t).map Prod.snd

/-- The bag of samples that operations have added at a time. -/
def bagAt (r : Rounding) (ops : List Operation) (t : Int) : Multiset Number :=
  (valuesAt t (accepted r ops) : Multiset Number)

@[simp] theorem valuesAt_nil (t : Int) : valuesAt t [] = [] := rfl

@[simp] theorem valuesAt_append (t : Int) (samples samples' : List (Int × Number)) :
    valuesAt t (samples ++ samples') = valuesAt t samples ++ valuesAt t samples' := by
  simp [valuesAt]

theorem accepted_cons (op : Operation) (ops : List Operation) :
    accepted r (op :: ops) = (op.accepted? r).toList ++ accepted r ops := by
  cases h : op.accepted? r <;> simp [accepted, h]

theorem perform_of_accepted?_eq_none {op : Operation} (h : op.accepted? r = none)
    (a : Accumulator) : a.perform r op = a := by
  cases op with
  | add t x =>
    simp only [perform, add]
    by_cases ht : t < 0
    · simp [ht]
    · have hx : ¬ (r.store x).isFinite = true := by
        simpa [Operation.accepted?, not_lt.1 ht] using h
      simp [ht, accept, hx]
  | average t => rfl
  | averages n => rfl
  | size => rfl

theorem exists_of_accepted?_eq_some {op : Operation} {p : Int × Number}
    (h : op.accepted? r = some p) :
    ∃ (t : Nat) (x : Number), p = (↑t, r.store x) ∧ (r.store x).isFinite = true ∧
      ∀ a : Accumulator, a.perform r op = a.accept r t x := by
  cases op with
  | add t x =>
    simp only [Operation.accepted?, Option.ite_none_right_eq_some, Option.some.injEq] at h
    obtain ⟨⟨ht, hx⟩, rfl⟩ := h
    refine ⟨t.toNat, x, by rw [Int.toNat_of_nonneg ht], hx, fun a => ?_⟩
    simp [perform, add, not_lt.2 ht]
  | average t => cases h
  | averages n => cases h
  | size => cases h

/-! ### A run of operations -/

@[simp] theorem after_cons (a : Accumulator) (op : Operation) (ops : List Operation) :
    a.after r (op :: ops) = (a.perform r op).after r ops := rfl

@[simp] theorem type_perform (a : Accumulator) (op : Operation) :
    (a.perform r op).type = a.type := by
  cases h : op.accepted? r with
  | none => rw [perform_of_accepted?_eq_none h]
  | some p =>
    obtain ⟨t, x, -, -, hperform⟩ := exists_of_accepted?_eq_some h
    rw [hperform, type_accept]

theorem samplesAt_perform (a : Accumulator) (op : Operation) (t : Nat) :
    (a.perform r op).samplesAt t = a.samplesAt t ++ valuesAt t (op.accepted? r).toList := by
  cases h : op.accepted? r with
  | none => simp [perform_of_accepted?_eq_none h]
  | some p =>
    obtain ⟨u, x, rfl, hx, hperform⟩ := exists_of_accepted?_eq_some h
    rw [hperform, samplesAt_accept]
    by_cases hu : u = t <;> simp [hu, hx, valuesAt]

theorem size_perform (a : Accumulator) (op : Operation) :
    (a.perform r op).size = a.size + (op.accepted? r).toList.length := by
  cases h : op.accepted? r with
  | none => simp [perform_of_accepted?_eq_none h]
  | some p =>
    obtain ⟨u, x, rfl, hx, hperform⟩ := exists_of_accepted?_eq_some h
    simp [hperform, size_accept, hx]

@[simp] theorem type_after (a : Accumulator) (ops : List Operation) :
    (a.after r ops).type = a.type := by
  induction ops generalizing a with
  | nil => rfl
  | cons op ops ih => rw [after_cons, ih, type_perform]

theorem samplesAt_after (a : Accumulator) (ops : List Operation) (t : Nat) :
    (a.after r ops).samplesAt t = a.samplesAt t ++ valuesAt t (accepted r ops) := by
  induction ops generalizing a with
  | nil => simp [after, accepted]
  | cons op ops ih =>
    rw [after_cons, ih, samplesAt_perform, accepted_cons, valuesAt_append, List.append_assoc]

theorem size_after (a : Accumulator) (ops : List Operation) :
    (a.after r ops).size = a.size + (accepted r ops).length := by
  induction ops generalizing a with
  | nil => rfl
  | cons op ops ih =>
    rw [after_cons, ih, size_perform, accepted_cons, List.length_append, Nat.add_assoc]

theorem after_filter (a : Accumulator) (ops : List Operation) :
    a.after r (ops.filter fun op => (op.accepted? r).isSome) = a.after r ops := by
  induction ops generalizing a with
  | nil => rfl
  | cons op ops ih =>
    cases h : op.accepted? r with
    | none => rw [List.filter_cons_of_neg (by simp [h]), ih, after_cons,
        perform_of_accepted?_eq_none h]
    | some p => rw [List.filter_cons_of_pos (by simp [h]), after_cons, ih, after_cons]

theorem getElem?_answers (a : Accumulator) (ops : List Operation) (k : Nat) :
    (answers r a ops)[k]? = ops[k]?.map ((a.after r (ops.take k)).answer r) := by
  induction ops generalizing a k with
  | nil => simp [answers]
  | cons op ops ih =>
    cases k with
    | zero => simp [answers, after]
    | succ k => simp [answers, ih]

/-! ### Bags of samples -/

theorem bagAt_of_perm {ops ops' : List Operation} (h : ops.Perm ops') (t : Int) :
    bagAt r ops t = bagAt r ops' t :=
  Multiset.coe_eq_coe.2 (((h.filterMap _).filter _).map _)

theorem count_valuesAt (t : Int) (x : Number) (samples : List (Int × Number)) :
    (valuesAt t samples).count x = samples.count (t, x) := by
  induction samples with
  | nil => rfl
  | cons p samples ih =>
    obtain ⟨u, y⟩ := p
    by_cases hu : u = t
    · subst hu
      by_cases hy : y = x <;> simp_all [valuesAt]
    · simp_all [valuesAt]

theorem accepted_perm {ops ops' : List Operation} (h : ∀ t, bagAt r ops t = bagAt r ops' t) :
    (accepted r ops).Perm (accepted r ops') := by
  refine List.perm_iff_count.2 fun ⟨t, x⟩ => ?_
  rw [← count_valuesAt, ← count_valuesAt]
  exact (Multiset.coe_eq_coe.1 (h t)).count_eq x

theorem bagAt_of_neg {t : Int} (ht : t < 0) (ops : List Operation) : bagAt r ops t = 0 := by
  have hnone : ∀ p ∈ accepted r ops, ¬ (p.1 == t) = true := by
    intro p hp
    obtain ⟨op, -, hop⟩ := List.mem_filterMap.1 hp
    obtain ⟨u, x, rfl, -⟩ := exists_of_accepted?_eq_some hop
    simp
    omega
  simp [bagAt, valuesAt, List.filter_eq_nil_iff.2 hnone]

/-! ### The average of a bag -/

/-- The average of a bag of samples: the exact sum, rounded, is divided by their number; the mean is
rounded half away from zero and stored as a cell.  Without samples it is zero. -/
def cellOf (r : Rounding) (type : CellType) (m : Multiset Number) : Except Fault Number :=
  if m = 0 then .ok 0
  else do
    let mean := (r.round (m.map Number.value).sum).div r (.rational m.card)
    type.narrow (← mean.roundHalfAway r)

theorem averageOf_eq_cellOf {xs : List Number} {total : Number}
    (h : Number.sum r xs = .ok total) : averageOf r type xs = cellOf r type xs := by
  obtain rfl := Number.sum_eq_round h
  cases xs with
  | nil => rfl
  | cons x xs => simp [averageOf, cellOf, h, bind, Except.bind]

/-- No sum of the samples of a time leaves the range. -/
def NoOverflow (r : Rounding) (ops : List Operation) : Prop :=
  ∀ t, ∃ total, Number.sum r (valuesAt t (accepted r ops)) = .ok total

theorem NoOverflow.take {ops : List Operation} (h : NoOverflow r ops) (k : Nat) :
    NoOverflow r (ops.take k) := by
  intro t
  obtain ⟨total, htotal⟩ := h t
  rw [← List.take_append_drop k ops, accepted, List.filterMap_append, valuesAt_append] at htotal
  exact Number.exists_sum_of_append htotal

/-- Moderate samples leave no range, unless there are too many of them. -/
theorem noOverflow_binary64 {ops : List Operation}
    (hlength : (accepted .binary64 ops).length ≤ 2 ^ 959)
    (h : ∀ p ∈ accepted .binary64 ops, |p.2.value| ≤ 2 ^ 64) : NoOverflow .binary64 ops := by
  intro t
  refine ⟨_, Number.sum_binary64 ?_ ?_⟩
  · rw [valuesAt, List.length_map]
    exact (List.length_filter_le ..).trans hlength
  · refine List.forall_mem_map.2 fun p hp => ?_
    exact h p (List.mem_of_mem_filter hp)

/-! ### The answers -/

/-- What has to be answered after operations on no samples: an average is that of the bag of its
time, and the size counts the accepted samples. -/
def specified (r : Rounding) (type : CellType) (ops : List Operation) : Operation → Answer
  | .add t _ => .added (if t < 0 then .error (.negativeTime t) else .ok ())
  | .average t => .average (cellOf r type (bagAt r ops t))
  | .averages n =>
    .averages (((List.range n.toNat).mapM fun (t : Nat) => cellOf r type (bagAt r ops t)).map
      (Series.mk type))
  | .size => .size (accepted r ops).length

theorem average_after {ops : List Operation} (h : NoOverflow r ops) (t : Int) :
    ((empty type).after r ops).average r t = cellOf r type (bagAt r ops t) := by
  by_cases ht : t < 0
  · simp [average, ht, bagAt_of_neg ht, cellOf]
  · obtain ⟨u, rfl⟩ := Int.eq_ofNat_of_zero_le (not_lt.1 ht)
    obtain ⟨total, htotal⟩ := h u
    rw [average_natCast, type_after, samplesAt_after, samplesAt_empty, List.nil_append,
      averageOf_eq_cellOf htotal, type_empty, bagAt]

theorem answer_after {ops : List Operation} (h : NoOverflow r ops) (op : Operation) :
    ((empty type).after r ops).answer r op = specified r type ops op := by
  cases op with
  | add t x => by_cases ht : t < 0 <;> simp [answer, specified, add, ht, Except.map]
  | average t => rw [answer, specified, average_after h]
  | averages n =>
    simp only [answer, specified, averages, average_after h, type_after, type_empty]
    cases (List.range n.toNat).mapM fun (t : Nat) => cellOf r type (bagAt r ops t) <;> rfl
  | size => simp [answer, specified, size_after]

theorem specified_congr {ops ops' : List Operation} (h : ∀ t, bagAt r ops' t = bagAt r ops t)
    (op : Operation) : specified r type ops' op = specified r type ops op := by
  cases op with
  | add t x => rfl
  | average t => rw [specified, specified, h]
  | averages n => simp only [specified, h]
  | size => rw [specified, specified, (accepted_perm h).length_eq]

/-- **An accumulator depends on the bags of accepted samples alone.**  Operations are carried out in
turn, and no sum of samples leaves the range.  Then every answer, on the way and at the end, is the
one that is specified by the samples accepted before.  Operations that add no sample can be left
out.  The answers are the same after any operations with the same bags, and operations in another
order have the same bags. -/
theorem answers_of_samples (r : Rounding) (type : CellType) (ops : List Operation)
    (h : NoOverflow r ops) :
    (∀ k op, ops[k]? = some op →
      (answers r (empty type) ops)[k]? = some (specified r type (ops.take k) op)) ∧
    (∀ op, ((empty type).after r ops).answer r op = specified r type ops op) ∧
    (empty type).after r (ops.filter fun op => (op.accepted? r).isSome) =
      (empty type).after r ops ∧
    (∀ ops', NoOverflow r ops' → (∀ t, bagAt r ops' t = bagAt r ops t) → ∀ op,
      ((empty type).after r ops').answer r op = ((empty type).after r ops).answer r op) ∧
    ∀ ops', ops'.Perm ops → ∀ t, bagAt r ops' t = bagAt r ops t := by
  refine ⟨fun k op hop => ?_, answer_after h, after_filter _ _, fun ops' h' hbags op => ?_,
    fun ops' hperm => bagAt_of_perm hperm⟩
  · rw [getElem?_answers, hop, Option.map_some, answer_after (h.take k)]
  · rw [answer_after h', answer_after h, specified_congr hbags]

/-- Samples at two times, with reads, a refused sample and samples that are not finite between
them. -/
def interleaved : List Operation :=
  [.average 0, .add 0 4, .add (-1) 3, .size, .add 2 7, .add 0 .nan, .averages 3, .add 0 5,
    .add 1 (.infinite false)]

theorem accepted_interleaved :
    accepted .binary64 interleaved = [(0, 4), (2, 7), (0, 5)] := by
  decide +kernel

/-- The samples that were accepted, in another order and without anything between them. -/
def sorted : List Operation := [.add 0 5, .add 0 4, .add 2 7]

theorem accepted_sorted : accepted .binary64 sorted = [(0, 5), (0, 4), (2, 7)] := by
  decide +kernel

theorem answers_of_samples_interleaved :
    NoOverflow .binary64 interleaved ∧ NoOverflow .binary64 sorted ∧
      (answers .binary64 (empty .int8) interleaved)[6]? =
        some (.averages (.ok ⟨.int8, [4, 0, 7]⟩)) ∧
      ((empty .int8).after .binary64 interleaved).answer .binary64 (.average 0) =
        .average (.ok 5) ∧
      ((empty .int8).after .binary64 sorted).answer .binary64 .size = .size 3 := by
  have hinterleaved : NoOverflow .binary64 interleaved :=
    noOverflow_binary64 (by rw [accepted_interleaved]; decide +kernel)
      (by rw [accepted_interleaved]; decide +kernel)
  have hsorted : NoOverflow .binary64 sorted :=
    noOverflow_binary64 (by rw [accepted_sorted]; decide +kernel)
      (by rw [accepted_sorted]; decide +kernel)
  have hbags : ∀ t, bagAt .binary64 sorted t = bagAt .binary64 interleaved t := by
    intro t
    rw [bagAt, bagAt, accepted_sorted, accepted_interleaved]
    exact Multiset.coe_eq_coe.2 (((by decide :
      [((0 : Int), (5 : Number)), (0, 4), (2, 7)].Perm [(0, 4), (2, 7), (0, 5)]).filter _).map _)
  obtain ⟨hanswers, hlast, -, hcongr, -⟩ :=
    answers_of_samples .binary64 .int8 interleaved hinterleaved
  refine ⟨hinterleaved, hsorted, ?_, ?_, ?_⟩
  · rw [hanswers 6 (.averages 3) rfl]
    exact congrArg (fun x => some (Answer.averages x)) (by decide +kernel)
  · rw [hlast]
    exact congrArg Answer.average (by decide +kernel)
  · rw [hcongr _ hsorted hbags, hlast, specified, accepted_interleaved]
    rfl

end Accumulator

end StreetEnv
