import Mathlib.Algebra.Ring.Nat
import Mathlib.Data.List.Basic
import StreetEnv.Decimal.Reader

/-!
# Whole numbers that are read back

A whole number is written with its decimal digits, after a minus sign if it is negative.  What is
read from that text is the number, as long as there are no more digits than are read.

* `Integer.digits?_of_isDigit`: the values of a row of digits;
* `Integer.read?_digits` and `Integer.read?_minus_digits`: what is read from a row of digits, and
  from one after a minus sign;
* `Integer.read?_toString`: a whole number is read back from its text.
-/

namespace StreetEnv

/-! ### Digits -/

theorem Digit.value?_of_isDigit {c : Char} (h : c.isDigit = true) :
    Digit.value? c = some (c.toNat - 48) := by
  have hlast : c.toNat ≤ 57 := (Char.isDigit_iff_toNat.1 h).2
  rw [value?, if_pos (by omega), if_pos h]

theorem Digit.readFrom_digits (n : Nat) (cs : List Char) :
    Digit.readFrom n (cs.map fun c => c.toNat - 48) = Nat.ofDigitChars 10 cs n := by
  induction cs generalizing n with
  | nil => rfl
  | cons c cs ih => exact ih (10 * n + (c.toNat - 48))

theorem Blank.isWhiteSpace_of_isDigit {c : Char} (h : c.isDigit = true) :
    Blank.isWhiteSpace c = false := by
  have hfirst : 48 ≤ c.toNat := (Char.isDigit_iff_toNat.1 h).1
  have hlast : c.toNat ≤ 57 := (Char.isDigit_iff_toNat.1 h).2
  simp [isWhiteSpace]
  omega

theorem Blank.trim_eq_self {p : Char → Bool} {cs : List Char} (h : ∀ c ∈ cs, p c = false) :
    Blank.trim p cs = cs := by
  have hdrop (ds : List Char) (hds : ∀ c ∈ ds, p c = false) : ds.dropWhile p = ds := by
    cases ds with
    | nil => rfl
    | cons d ds => rw [List.dropWhile_cons_of_neg (by simp [hds d List.mem_cons_self])]
  rw [trim, hdrop cs h, hdrop _ fun c hc => h c (List.mem_reverse.1 hc), List.reverse_reverse]

namespace Integer

variable {cs : List Char}

theorem digits?_of_isDigit (hne : cs ≠ []) (h : ∀ c ∈ cs, c.isDigit = true) :
    digits? cs = some (cs.map fun c => c.toNat - 48) := by
  induction cs with
  | nil => exact absurd rfl hne
  | cons c cs ih =>
    have hc := Digit.value?_of_isDigit (h c List.mem_cons_self)
    cases cs with
    | nil => simp [digits?, hc]
    | cons d ds =>
      -- the next character is no underscore, so it belongs to the digits that are left
      have hd : d ≠ '_' := by
        rintro rfl
        exact absurd (h '_' (by simp)) (by decide)
      have hrest := ih (List.cons_ne_nil d ds) fun c' hc' => h c' (List.mem_cons_of_mem c hc')
      simp [digits?, hd, hc, hrest]

/-! ### Texts -/

theorem exists_digits? (hne : cs ≠ []) (h : ∀ c ∈ cs, c.isDigit = true)
    (hlength : cs.length ≤ maxDigits) :
    ∃ ds, digits? cs = some ds ∧ ¬ maxDigits < ds.length ∧
      Digit.readFrom 0 ds = Nat.ofDigitChars 10 cs 0 := by
  refine ⟨_, digits?_of_isDigit hne h, ?_, Digit.readFrom_digits 0 cs⟩
  rwa [List.length_map, Nat.not_lt]

theorem read?_digits (hne : cs ≠ []) (h : ∀ c ∈ cs, c.isDigit = true)
    (hlength : cs.length ≤ maxDigits) :
    read? (String.ofList cs) = some (Nat.ofDigitChars 10 cs 0 : Int) := by
  have htrim : Blank.trim Blank.isWhiteSpace cs = cs :=
    Blank.trim_eq_self fun c hc => Blank.isWhiteSpace_of_isDigit (h c hc)
  obtain ⟨ds, hds, hshort, hvalue⟩ := exists_digits? hne h hlength
  cases cs with
  | nil => exact absurd rfl hne
  | cons c cs =>
    have hminus : c ≠ '-' := by
      rintro rfl
      exact absurd (h '-' List.mem_cons_self) (by decide)
    have hplus : c ≠ '+' := by
      rintro rfl
      exact absurd (h '+' List.mem_cons_self) (by decide)
    simp [read?, htrim, hminus, hplus, hds, hshort, hvalue]

theorem read?_minus_digits (hne : cs ≠ []) (h : ∀ c ∈ cs, c.isDigit = true)
    (hlength : cs.length ≤ maxDigits) :
    read? (String.ofList ('-' :: cs)) = some (-(Nat.ofDigitChars 10 cs 0 : Int)) := by
  have htrim : Blank.trim Blank.isWhiteSpace ('-' :: cs) = '-' :: cs := by
    refine Blank.trim_eq_self (List.forall_mem_cons.2 ⟨by decide, fun c hc => ?_⟩)
    exact Blank.isWhiteSpace_of_isDigit (h c hc)
  obtain ⟨ds, hds, hshort, hvalue⟩ := exists_digits? hne h hlength
  simp [read?, htrim, hds, hshort, hvalue]

theorem toList_toString (n : Int) :
    (toString n).toList =
      if 0 ≤ n then Nat.toDigits 10 n.natAbs else '-' :: Nat.toDigits 10 n.natAbs := by
  rw [Int.toString_eq_repr, Int.repr_eq_if]
  by_cases hn : 0 ≤ n
  · have habs : n.toNat = n.natAbs := by omega
    rw [if_pos hn, if_pos hn, Nat.toList_repr, habs]
  · have habs : (-n).toNat = n.natAbs := by omega
    rw [if_neg hn, if_neg hn, String.toList_append, Nat.toList_repr, habs]
    rfl

/-- **A whole number is read back from its text**, unless it has more digits than are read. -/
theorem read?_toString {n : Int} (h : n.natAbs < 10 ^ maxDigits) :
    read? (toString n) = some n := by
  have hdigits : ∀ c ∈ Nat.toDigits 10 n.natAbs, c.isDigit = true :=
    fun c hc => Nat.isDigit_of_mem_toDigits (by decide) (by decide) hc
  have hlength : (Nat.toDigits 10 n.natAbs).length ≤ maxDigits :=
    (Nat.length_toDigits_le_iff (by decide) (by decide)).2 h
  have hvalue : Nat.ofDigitChars 10 (Nat.toDigits 10 n.natAbs) 0 = n.natAbs :=
    Nat.ofDigitChars_toDigits (by decide) (by decide)
  rw [← String.ofList_toList (s := toString n), toList_toString]
  by_cases hn : 0 ≤ n
  · rw [if_pos hn, read?_digits Nat.toDigits_ne_nil hdigits hlength, hvalue]
    exact congrArg some (by omega)
  · rw [if_neg hn, read?_minus_digits Nat.toDigits_ne_nil hdigits hlength, hvalue]
    exact congrArg some (by omega)

theorem comma_notMem_toString (n : Int) : ',' ∉ (toString n).toList := by
  have hdigits : ',' ∉ Nat.toDigits 10 n.natAbs := by
    intro hmem
    exact absurd (Nat.isDigit_of_mem_toDigits (by decide) (by decide) hmem) (by decide)
  rw [toList_toString]
  split
  · exact hdigits
  · rw [List.mem_cons, not_or]
    exact ⟨by decide, hdigits⟩

end Integer

end StreetEnv
