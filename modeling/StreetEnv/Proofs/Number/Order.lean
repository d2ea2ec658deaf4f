import StreetEnv.Number.Basic

/-!
# The order of numbers

`<` is a strict order of all numbers and a linear one away from `nan`.  The smallest and the
largest of several numbers are found by keeping the better of two again and again.

* `Number.lt_iff` reduces `<` to the infinities and the rational values;
* `Number.lt_irrefl`, `Number.lt_trans`, `Number.le_trans` and `Number.le_iff_not_lt` are the laws
  of the order;
* `Number.lt_iff_of_isFinite` and `Number.le_iff_of_isFinite` compare the rationals of finite
  numbers;
* `Number.le_infinity` and `Number.minusInfinity_le`: the infinities are the ends;
* `Number.le_least_iff`, `Number.greatest_le_iff` and `Number.greatest_lt_iff` say what is below the
  smaller and above the larger of two numbers;
* `Number.foldl_least` and `Number.foldl_greatest` say what is kept in the end.
-/

namespace StreetEnv

namespace Number

variable {x y z : Number}

/-- On which side of the finite numbers a number lies. -/
def side : Number → Int
  | infinite negative => if negative then -1 else 1
  | _ => 0

theorem lt_iff :
    x < y ↔ x ≠ nan ∧ y ≠ nan ∧ (x.side < y.side ∨ x.side = y.side ∧ x.value < y.value) := by
  show x.lt y = true ↔ _
  rcases x with _ | (_ | _) | _ | p <;> rcases y with _ | (_ | _) | _ | q <;> simp [lt, side]
  -- what is left compares finite numbers
  all_goals exact decide_eq_true_iff

theorem lt_irrefl (x : Number) : ¬ x < x := by
  rw [lt_iff]
  grind

theorem lt_trans (hxy : x < y) (hyz : y < z) : x < z := by
  rw [lt_iff] at hxy hyz ⊢
  grind

theorem le_iff_not_lt (hx : x ≠ nan) (hy : y ≠ nan) : x ≤ y ↔ ¬ y < x := by
  show x.le y = true ↔ ¬ y.lt x = true
  cases x <;> cases y <;> simp_all [le]

theorem ne_nan_of_lt (h : x < y) : x ≠ nan ∧ y ≠ nan := ⟨(lt_iff.1 h).1, (lt_iff.1 h).2.1⟩

theorem ne_nan_of_le (h : x ≤ y) : x ≠ nan ∧ y ≠ nan := by
  change x.le y = true at h
  constructor
  · rintro rfl
    exact Bool.false_ne_true h
  · rintro rfl
    cases x <;> exact Bool.false_ne_true h

theorem le_trans (hxy : x ≤ y) (hyz : y ≤ z) : x ≤ z := by
  have hx := (ne_nan_of_le hxy).1
  have hy := (ne_nan_of_le hxy).2
  have hz := (ne_nan_of_le hyz).2
  rw [le_iff_not_lt hx hy, lt_iff] at hxy
  rw [le_iff_not_lt hy hz, lt_iff] at hyz
  rw [le_iff_not_lt hx hz, lt_iff]
  grind

theorem le_self (hx : x ≠ nan) : x ≤ x := (le_iff_not_lt hx hx).2 (lt_irrefl x)

theorem le_of_lt (h : x < y) : x ≤ y := by
  obtain ⟨hx, hy⟩ := ne_nan_of_lt h
  rw [le_iff_not_lt hx hy]
  exact fun h' => lt_irrefl _ (lt_trans h h')

/-! ### The smaller and the larger of two numbers -/

/-- What is at most the smaller of two numbers is at most both, unless the second is `nan`. -/
theorem le_least_iff : z ≤ x.least y ↔ z ≤ x ∧ (y = nan ∨ z ≤ y) := by
  unfold least
  by_cases hy : y < x
  · rw [if_pos hy]
    refine ⟨fun h => ⟨le_trans h (le_of_lt hy), .inr h⟩, fun h => ?_⟩
    exact h.2.resolve_left (ne_nan_of_lt hy).1
  · rw [if_neg hy]
    refine ⟨fun h => ⟨h, ?_⟩, fun h => h.1⟩
    by_cases hnan : y = nan
    · exact .inl hnan
    · exact .inr (le_trans h ((le_iff_not_lt (ne_nan_of_le h).2 hnan).2 hy))

/-- What is at least the larger of two numbers is at least both, unless the second is `nan`. -/
theorem greatest_le_iff : x.greatest y ≤ z ↔ x ≤ z ∧ (y = nan ∨ y ≤ z) := by
  unfold greatest
  by_cases hy : x < y
  · rw [if_pos hy]
    refine ⟨fun h => ⟨le_trans (le_of_lt hy) h, .inr h⟩, fun h => ?_⟩
    exact h.2.resolve_left (ne_nan_of_lt hy).2
  · rw [if_neg hy]
    refine ⟨fun h => ⟨h, ?_⟩, fun h => h.1⟩
    by_cases hnan : y = nan
    · exact .inl hnan
    · exact .inr (le_trans ((le_iff_not_lt hnan (ne_nan_of_le h).1).2 hy) h)

theorem le_of_le_least (h : z ≤ x.least y) : z ≤ x := (le_least_iff.1 h).1

theorem le_of_greatest_le (h : x.greatest y ≤ z) : x ≤ z := (greatest_le_iff.1 h).1

theorem least_comm_of (h : x < y ∨ y < x ∨ x = y) : x.least y = y.least x := by
  unfold least
  rcases h with hlt | hlt | rfl
  · rw [if_neg fun h => lt_irrefl _ (lt_trans hlt h), if_pos hlt]
  · rw [if_pos hlt, if_neg fun h => lt_irrefl _ (lt_trans hlt h)]
  · rfl

theorem greatest_comm_of (h : x < y ∨ y < x ∨ x = y) : x.greatest y = y.greatest x := by
  unfold greatest
  rcases h with hlt | hlt | rfl
  · rw [if_pos hlt, if_neg fun h => lt_irrefl _ (lt_trans hlt h)]
  · rw [if_neg fun h => lt_irrefl _ (lt_trans hlt h), if_pos hlt]
  · rfl

/-! ### Finite numbers -/

theorem ne_nan_of_isFinite (hx : x.isFinite = true) : x ≠ nan := by
  rintro rfl
  cases hx

theorem side_of_isFinite (hx : x.isFinite = true) : x.side = 0 := by
  cases x with
  | infinite negative => cases hx
  | nan => rfl
  | negativeZero => rfl
  | rational q => rfl

theorem lt_iff_of_isFinite (hx : x.isFinite = true) (hy : y.isFinite = true) :
    x < y ↔ x.value < y.value := by
  simp [lt_iff, ne_nan_of_isFinite hx, ne_nan_of_isFinite hy, side_of_isFinite hx,
    side_of_isFinite hy]

theorem le_iff_of_isFinite (hx : x.isFinite = true) (hy : y.isFinite = true) :
    x ≤ y ↔ x.value ≤ y.value := by
  rw [le_iff_not_lt (ne_nan_of_isFinite hx) (ne_nan_of_isFinite hy), lt_iff_of_isFinite hy hx,
    Rat.not_lt]

theorem isFinite_of_le_of_le (hx : x.isFinite = true) (hz : z.isFinite = true) (hxy : x ≤ y)
    (hyz : y ≤ z) : y.isFinite = true := by
  cases y with
  | nan => exact absurd rfl (ne_nan_of_le hxy).2
  | infinite negative =>
    -- one infinity is not above anything finite, the other one not below
    cases negative
    · cases z <;> first | exact absurd hz Bool.false_ne_true | exact absurd hyz Bool.false_ne_true
    · cases x <;> first | exact absurd hx Bool.false_ne_true | exact absurd hxy Bool.false_ne_true
  | negativeZero => rfl
  | rational q => rfl

/-! ### Infinities -/

theorem le_infinity (hx : x ≠ nan) : x ≤ infinite false := by
  rw [le_iff_not_lt hx (by simp), lt_iff]
  rcases x with _ | (_ | _) | _ | q <;> simp [side]

theorem minusInfinity_le (hx : x ≠ nan) : infinite true ≤ x := by
  rw [le_iff_not_lt (by simp) hx, lt_iff]
  rcases x with _ | (_ | _) | _ | q <;> simp [side]

theorem infinite_or_isFinite (hx : x ≠ nan) :
    (∃ negative, x = infinite negative) ∨ x.isFinite = true := by
  cases x with
  | nan => exact absurd rfl hx
  | infinite negative => exact .inl ⟨negative, rfl⟩
  | negativeZero => exact .inr rfl
  | rational q => exact .inr rfl

theorem eq_infinity_of_le (h : infinite false ≤ x) : x = infinite false := by
  have hx := (ne_nan_of_le h).2
  rw [le_iff_not_lt (by simp) hx, lt_iff] at h
  rcases x with _ | (_ | _) | _ | q <;> simp_all [side]

theorem eq_minusInfinity_of_le (h : x ≤ infinite true) : x = infinite true := by
  have hx := (ne_nan_of_le h).1
  rw [le_iff_not_lt hx (by simp), lt_iff] at h
  rcases x with _ | (_ | _) | _ | q <;> simp_all [side]

/-! ### What is above the larger of two numbers -/

theorem lt_of_not_lt_of_lt (hx : x ≠ nan) (hxy : ¬ z < x) (hzy : z < y) : x < y := by
  rw [lt_iff] at hxy hzy ⊢
  grind

/-- What is above the larger of two numbers is above both, unless the second is `nan`. -/
theorem greatest_lt_iff : x.greatest y < z ↔ x < z ∧ (y = nan ∨ y < z) := by
  unfold greatest
  by_cases hy : x < y
  · rw [if_pos hy]
    refine ⟨fun h => ⟨lt_trans hy h, .inr h⟩, fun h => ?_⟩
    exact h.2.resolve_left (ne_nan_of_lt hy).2
  · rw [if_neg hy]
    refine ⟨fun h => ⟨h, ?_⟩, fun h => h.1⟩
    by_cases hnan : y = nan
    · exact .inl hnan
    · exact .inr (lt_of_not_lt_of_lt hnan hy h)

/-! ### The best of several numbers -/

section Keep

/-- The first of two numbers, unless the second is better. -/
def keep (better : Number → Number → Prop) [DecidableRel better] (x y : Number) : Number :=
  if better y x then y else x

variable (better : Number → Number → Prop) [DecidableRel better]

theorem foldl_keep_mem (xs : List Number) (a : Number) : xs.foldl (keep better) a ∈ a :: xs := by
  induction xs generalizing a with
  | nil => exact List.mem_singleton_self a
  | cons b xs ih =>
    rw [List.foldl_cons]
    rcases List.mem_cons.1 (ih (keep better a b)) with h | h
    · rw [h, keep]
      split
      · exact List.mem_cons_of_mem a List.mem_cons_self
      · exact List.mem_cons_self
    · exact List.mem_cons_of_mem a (List.mem_cons_of_mem b h)

variable (irrefl : ∀ a, ¬ better a a)
  (trans : ∀ a b c, better a b → better b c → better a c)

include trans in
theorem foldl_keep_eq_or_better (xs : List Number) (a : Number) :
    xs.foldl (keep better) a = a ∨ better (xs.foldl (keep better) a) a := by
  induction xs generalizing a with
  | nil => exact .inl rfl
  | cons b xs ih =>
    rw [List.foldl_cons, keep]
    by_cases hb : better b a
    · rw [if_pos hb]
      rcases ih b with h | h
      · rw [h]
        exact .inr hb
      · exact .inr (trans _ _ _ h hb)
    · rw [if_neg hb]
      exact ih a

include irrefl trans in
theorem not_better_foldl_keep (xs : List Number) (a : Number) :
    ∀ x ∈ a :: xs, ¬ better x (xs.foldl (keep better) a) := by
  -- what is worse than a start is not better than what is kept from there
  have hstart (xs : List Number) (a x : Number) (hx : ¬ better x a) :
      ¬ better x (xs.foldl (keep better) a) := by
    intro h
    rcases foldl_keep_eq_or_better better trans xs a with heq | hbetter
    · exact hx (heq ▸ h)
    · exact hx (trans _ _ _ h hbetter)
  induction xs generalizing a with
  | nil => exact fun x hx => List.mem_singleton.1 hx ▸ irrefl a
  | cons b xs ih =>
    refine List.forall_mem_cons.2 ⟨hstart _ a a (irrefl a), ?_⟩
    rw [List.foldl_cons, keep]
    by_cases hb : better b a
    · rw [if_pos hb]
      exact ih b
    · rw [if_neg hb]
      exact List.forall_mem_cons.2
        ⟨hstart xs a b hb, fun x hx => ih a x (List.mem_cons_of_mem a hx)⟩

end Keep

theorem foldl_least {a : Number} (ha : a ≠ nan) (xs : List Number) :
    xs.foldl least a ∈ a :: xs ∧ ∀ x ∈ a :: xs, x ≠ nan → xs.foldl least a ≤ x := by
  have htrans : ∀ x y z : Number, x < y → y < z → x < z := fun _ _ _ => lt_trans
  refine ⟨foldl_keep_mem (· < ·) xs a, fun x hx hne => ?_⟩
  -- the start is a number, and what is better than a number is one
  have hbest : xs.foldl least a ≠ nan := by
    rcases foldl_keep_eq_or_better (· < ·) htrans xs a with h | h
    · exact fun hnan => ha (h ▸ hnan)
    · exact (ne_nan_of_lt h).1
  rw [le_iff_not_lt hbest hne]
  exact not_better_foldl_keep (· < ·) lt_irrefl htrans xs a x hx

theorem foldl_greatest {a : Number} (ha : a ≠ nan) (xs : List Number) :
    xs.foldl greatest a ∈ a :: xs ∧ ∀ x ∈ a :: xs, x ≠ nan → x ≤ xs.foldl greatest a := by
  have htrans : ∀ x y z : Number, y < x → z < y → z < x := fun _ _ _ h h' => lt_trans h' h
  refine ⟨foldl_keep_mem (fun x y => y < x) xs a, fun x hx hne => ?_⟩
  have hbest : xs.foldl greatest a ≠ nan := by
    rcases foldl_keep_eq_or_better (fun x y => y < x) htrans xs a with h | h
    · exact fun hnan => ha (h ▸ hnan)
    · exact (ne_nan_of_lt h).2
  rw [le_iff_not_lt hne hbest]
  exact not_better_foldl_keep (fun x y => y < x) lt_irrefl htrans xs a x hx

end Number

end StreetEnv
