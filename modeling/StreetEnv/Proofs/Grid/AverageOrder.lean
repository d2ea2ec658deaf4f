import StreetEnv.Proofs.Grid.StepMeans
import StreetEnv.Proofs.Grid.SampleRange
import StreetEnv.Proofs.Number.Monotone

/-!
# Averages of larger samples

Samples that are larger one by one have no smaller average, whatever rounding keeps the order.  In
exact arithmetic an average lies between values of the cell type, and so it can always be stored.

* `CellType.narrow_mono`: cells keep the order of the integers that they store;
* `IsStepMean.le_of_forall₂`: larger samples have no smaller average;
* `exists_isStepMean_exact`: in exact arithmetic there always is an average;
* `CellType.isFinite_store`: finite cells are finite doubles.
-/

namespace StreetEnv

open Number

/-! ### Cells -/

namespace CellType

variable {type : CellType} {m n : Int} {x y : Number}

theorem isMonotone_rounding (type : CellType) : type.rounding.IsMonotone := by
  cases type with
  | float32 => exact Rounding.isMonotone_binary32
  | _ => exact Rounding.isMonotone_binary64

theorem eq_of_narrow {lo hi : Int} (hrange : type.range? = some (lo, hi))
    (h : type.narrow n = .ok x) : x = rational n := by
  simp only [narrow, hrange] at h
  by_cases hn : lo ≤ n ∧ n ≤ hi
  · rw [if_pos hn] at h
    exact (Except.ok.inj h).symm
  · rw [if_neg hn] at h
    generalize (if type = uint32 ∨ type = uint64 then 64 else 63) = bits at h
    split at h <;> cases h

/-- **Cells keep the order** of the integers that they store. -/
theorem narrow_mono (h : m ≤ n) (hm : type.narrow m = .ok x) (hn : type.narrow n = .ok y) :
    x ≤ y := by
  have hcast : (m : Rat) ≤ n := Int.cast_le.2 h
  cases hrange : type.range? with
  | some ends =>
    rw [eq_of_narrow hrange hm, eq_of_narrow hrange hn]
    exact le_rational.2 hcast
  | none =>
    simp only [narrow, hrange] at hm hn
    rw [← Except.ok.inj hm, ← Except.ok.inj hn]
    exact (isMonotone_rounding type).round_le hcast

theorem abs_lt_of_round_eq {f : Format} {q : Rat} (h : f.round q = rational q) :
    |q| < 2 ^ f.ceiling := by
  rcases lt_or_ge |f.nearest q| (2 ^ f.ceiling) with hlt | hle
  · have hvalue := (Format.round_of_lt hlt).2
    rw [h, value_rational] at hvalue
    rwa [← hvalue] at hlt
  · rw [Format.round_of_le hle] at h
    cases h

theorem isFinite_store (h : type.Holds x) (hx : x.isFinite = true) :
    (Rounding.binary64.store x).isFinite = true := by
  cases x with
  | nan => cases hx
  | infinite negative => cases hx
  | negativeZero => rfl
  | rational q =>
    cases hrange : type.range? with
    | some ends =>
      -- an integer of up to 64 bits
      simp only [Holds, hrange] at h
      obtain ⟨hden, hint⟩ := h
      obtain ⟨bits, hhi, hlo, hwidth⟩ := range?_eq_some hrange
      have hbits : bits ≤ 64 := by omega
      have habs : |(q.num : Rat)| ≤ 2 ^ bits := by
        exact_mod_cast abs_le_of_holdsInt hrange hhi hlo hint
      rw [Rat.coe_int_num_of_den_eq_one hden] at habs
      exact (round_of_abs_le (by omega) habs).1
    | none =>
      simp only [Holds, hrange] at h
      cases type with
      | float32 =>
        have habs : |q| < (2 : Rat) ^ 128 := abs_lt_of_round_eq (f := .single) h
        exact (round_of_abs_le (by norm_num) habs.le).1
      | float64 =>
        have hstored : Rounding.binary64.store (rational q) = rational q := h
        rw [hstored]
        rfl
      | _ => cases hrange

theorem between_of_holds {lo hi : Int} (hrange : type.range? = some (lo, hi))
    (h : type.Holds x) : (lo : Rat) ≤ x.value ∧ x.value ≤ hi := by
  cases x with
  | rational q =>
    simp only [Holds, hrange] at h
    obtain ⟨hden, hint⟩ := h
    obtain ⟨hlo, hhi⟩ := (holdsInt_iff hrange).1 hint
    rw [value_rational, ← Rat.coe_int_num_of_den_eq_one hden]
    exact ⟨Int.cast_le.2 hlo, Int.cast_le.2 hhi⟩
  | _ => simp only [Holds, hrange] at h

end CellType

/-! ### Sums and rounded means -/

namespace Number

variable {r : Rounding} {x y : Number} {xs ys : List Number}

theorem store_le_store (hr : r.IsMonotone) (hx : x.isFinite = true) (hy : y.isFinite = true)
    (h : x ≤ y) : r.store x ≤ r.store y := by
  have hstored {z : Number} (hz : z.isFinite = true) :
      (r.store z).unsigned = (r.round z.value).unsigned := by
    cases z with
    | nan => cases hz
    | infinite negative => cases hz
    | negativeZero =>
      rw [value_negativeZero, hr.round_zero]
      rfl
    | rational q => rfl
  rw [le_congr_left (hstored hx), le_congr_right (hstored hy)]
  exact hr.round_le ((le_iff_of_isFinite hx hy).1 h)

theorem foldl_add_mem_runningSums {ys : List Rat} (hne : ys ≠ []) (q : Rat) :
    ys.foldl (· + ·) q ∈ runningSums q ys := by
  induction ys generalizing q with
  | nil => exact absurd rfl hne
  | cons y ys ih =>
    cases ys with
    | nil => exact List.mem_cons_self
    | cons z zs => exact List.mem_cons_of_mem _ (ih (by simp) (q + y))

theorem isFinite_of_sum {total : Number} (hne : xs ≠ []) (h : sum r xs = .ok total) :
    total.isFinite = true := by
  simp only [sum] at h
  split at h
  · next hall =>
    rw [← Except.ok.inj h]
    exact List.all_eq_true.1 hall _ (foldl_add_mem_runningSums (by simpa using hne) 0)
  · cases h

theorem sum_le_sum (hr : r.IsMonotone) (h : List.Forall₂ (· ≤ ·) xs ys)
    (hxs : ∀ x ∈ xs, x.isFinite = true) (hys : ∀ y ∈ ys, y.isFinite = true) {s t : Number}
    (hs : sum r xs = .ok s) (ht : sum r ys = .ok t) : s ≤ t := by
  rw [sum_eq_round hs, sum_eq_round ht]
  refine hr.round_le ?_
  clear hs ht
  induction h with
  | nil => exact le_refl _
  | cons hxy _ ih =>
    obtain ⟨hx, hxs⟩ := List.forall_mem_cons.1 hxs
    obtain ⟨hy, hys⟩ := List.forall_mem_cons.1 hys
    exact add_le_add ((le_iff_of_isFinite hx hy).1 hxy) (ih hxs hys)

/-- Only a finite number has a rounded integer. -/
theorem isFinite_of_roundHalfAway {n : Int} (h : x.roundHalfAway r = .ok n) :
    x.isFinite = true := by
  obtain ⟨k, hk, -⟩ := Traversal.bind_eq_ok_iff.1 h
  have hfinite := (floor_eq_ok_iff.1 hk).1
  cases x with
  | nan => cases hfinite
  | infinite negative => cases negative <;> cases hfinite
  | negativeZero => rfl
  | rational q => rfl

end Number

variable {r : Rounding} {type : CellType} {xs ys : List Number} {x y : Number}

/-- **Larger samples have no smaller average.** -/
theorem IsStepMean.le_of_forall₂ (hr : r.IsMonotone) (h : List.Forall₂ (· ≤ ·) xs ys)
    (hxs : ∀ x ∈ xs, x.isFinite = true) (hys : ∀ y ∈ ys, y.isFinite = true)
    (hx : IsStepMean r type xs x) (hy : IsStepMean r type ys y) : x ≤ y := by
  have hlength := h.length_eq
  cases hx with
  | none =>
    obtain rfl : ys = [] := List.length_eq_zero_iff.1 hlength.symm
    cases hy with
    | none => exact le_self (by decide)
    | mean hne => exact absurd rfl hne
  | mean hxne hxsum hxround hxcell =>
    cases hy with
    | none => exact absurd (List.length_eq_zero_iff.1 hlength) hxne
    | mean hyne hysum hyround hycell =>
      have hsum := sum_le_sum hr h hxs hys hxsum hysum
      have hmean := div_natural_le hr (isFinite_of_sum hxne hxsum) (isFinite_of_sum hyne hysum)
        hsum (List.length_pos_iff.2 hxne)
      rw [← hlength] at hyround
      have hround := roundHalfAway_mono hr (isFinite_of_roundHalfAway hxround)
        (isFinite_of_roundHalfAway hyround) hmean hxround hyround
      exact CellType.narrow_mono hround hxcell hycell

/-! ### Averages in exact arithmetic -/

namespace Number

theorem exists_roundHalfAway_exact (hx : x.isFinite = true) :
    ∃ n, x.roundHalfAway .exact = .ok n ∧ ∀ k : Int, x.value = k → n = k := by
  refine ⟨_, (roundHalfAway_eq_ok_iff Rounding.isMonotone_exact hx).2 ⟨rfl, rfl⟩, fun k hk => ?_⟩
  have hcut : cut .exact |x.value| = |k| := by
    rw [hk, ← Int.cast_abs]
    exact floor_eq_of_le_of_lt (by simp) (by simp; norm_num)
  rw [hcut, hk]
  rcases lt_or_ge k 0 with hneg | hpos
  · rw [if_pos (Int.cast_lt_zero.2 hneg), abs_of_neg hneg, neg_neg]
  · rw [if_neg (not_lt.2 (Int.cast_nonneg hpos)), abs_of_nonneg hpos]

theorem roundHalfAway_exact_between (hx : x.isFinite = true) {n lo hi : Int}
    (h : x.roundHalfAway .exact = .ok n) (hlo : (lo : Rat) ≤ x.value) (hhi : x.value ≤ hi) :
    lo ≤ n ∧ n ≤ hi := by
  have hself (k : Int) : (rational k).roundHalfAway .exact = .ok k := by
    obtain ⟨m, hm, hself⟩ := exists_roundHalfAway_exact (x := rational k) rfl
    rw [hm, hself k rfl]
  have hle : rational lo ≤ x := (le_iff_of_isFinite (x := rational lo) rfl hx).2 hlo
  have hge : x ≤ rational hi := (le_iff_of_isFinite (y := rational hi) hx rfl).2 hhi
  exact ⟨roundHalfAway_mono Rounding.isMonotone_exact rfl hx hle (hself lo) h,
    roundHalfAway_mono Rounding.isMonotone_exact hx rfl hge h (hself hi)⟩

theorem div_natural_exact (hx : x.isFinite = true) {n : Nat} (hn : 0 < n) :
    (x.div .exact (natural n)).isFinite = true ∧
      (x.div .exact (natural n)).value = x.value / n := by
  have hunsigned := unsigned_div_natural (r := .exact) rfl hx hn
  have hvalue := congrArg value hunsigned
  rw [value_unsigned, value_unsigned] at hvalue
  refine ⟨?_, hvalue⟩
  generalize x.div .exact (natural n) = q at hunsigned
  cases q <;> first | rfl | cases hunsigned

theorem mean_between {ys : List Rat} (hne : ys ≠ []) {lo hi : Rat}
    (h : ∀ y ∈ ys, lo ≤ y ∧ y ≤ hi) : lo ≤ ys.sum / ys.length ∧ ys.sum / ys.length ≤ hi := by
  have hcount : (0 : Rat) < ys.length := Nat.cast_pos.2 (List.length_pos_iff.2 hne)
  have hlo := List.card_nsmul_le_sum ys lo fun y hy => (h y hy).1
  have hhi := List.sum_le_card_nsmul ys hi fun y hy => (h y hy).2
  rw [nsmul_eq_mul] at hlo hhi
  exact ⟨(le_div_iff₀ hcount).2 (by linarith), (div_le_iff₀ hcount).2 (by linarith)⟩

end Number

/-- **In exact arithmetic there always is an average** of finite values of a cell type: it lies
between two of them. -/
theorem exists_isStepMean_exact (hxs : ∀ x ∈ xs, x.isFinite = true ∧ type.Holds x) :
    ∃ y, IsStepMean .exact type xs y := by
  by_cases hne : xs = []
  · subst hne
    exact ⟨0, .none⟩
  have hcount := List.length_pos_iff.2 hne
  have hsum := sum_exact xs
  rw [← List.sum_eq_foldl] at hsum
  obtain ⟨hfinite, hvalue⟩ := div_natural_exact (x := rational (xs.map value).sum) rfl hcount
  obtain ⟨n, hround, -⟩ := exists_roundHalfAway_exact hfinite
  suffices hcell : ∃ y, type.narrow n = .ok y by
    obtain ⟨y, hy⟩ := hcell
    exact ⟨y, .mean hne hsum hround hy⟩
  cases hrange : type.range? with
  | none =>
    refine ⟨type.rounding.round n, ?_⟩
    simp only [CellType.narrow, hrange]
  | some ends =>
    obtain ⟨lo, hi⟩ := ends
    -- the values lie between the ends of the type, and so do their mean and its rounded integer
    have hvalues : ∀ v ∈ xs.map value, (lo : Rat) ≤ v ∧ v ≤ hi := by
      refine List.forall_mem_map.2 fun x hx => ?_
      exact CellType.between_of_holds hrange (hxs x hx).2
    have hmean := mean_between (by simpa using hne) hvalues
    rw [List.length_map] at hmean
    rw [value_rational] at hvalue
    rw [← hvalue] at hmean
    have hends := roundHalfAway_exact_between hfinite hround hmean.1 hmean.2
    refine ⟨rational n, ?_⟩
    simp only [CellType.narrow, hrange, hends, and_self, if_true]

end StreetEnv
