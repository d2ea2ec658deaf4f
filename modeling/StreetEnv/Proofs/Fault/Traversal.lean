import Mathlib.Data.List.Forall2
import StreetEnv.Fault

/-!
# Operations that may stop at a fault

How a sequence of operations that may fail succeeds as a whole.

* `bind_eq_ok_iff`: two operations succeed when the first does and then the second;
* `bind_eq_error_iff`: they stop where the first stops, or after it where the second does;
* `mapM_eq_ok_iff`: a traversal succeeds when every element does, with the answers in order;
* `mapM_eq_ok_map`: what is known of each answer is known of all;
* `StopsOnly`: every fault at which an operation may stop has a property;
* `InStep`: two operations both stop at the same fault or both succeed, with related answers.
  Operations that are built from such operations are in step as well.
-/

namespace StreetEnv

namespace Traversal

variable {ε α β : Type}

theorem bind_eq_ok_iff {x : Except ε α} {f : α → Except ε β} {b : β} :
    x >>= f = .ok b ↔ ∃ a, x = .ok a ∧ f a = .ok b := by
  cases x with
  | error e => simp [bind, Except.bind]
  | ok a => simp [bind, Except.bind]

theorem bind_eq_error_iff {x : Except ε α} {f : α → Except ε β} {e : ε} :
    x >>= f = .error e ↔ x = .error e ∨ ∃ a, x = .ok a ∧ f a = .error e := by
  cases x with
  | error e' => simp [bind, Except.bind]
  | ok a => simp [bind, Except.bind]

theorem eq_ok_of_toOption {x : Except ε α} {a : α} (h : x.toOption = some a) : x = .ok a := by
  cases x with
  | error e => cases h
  | ok b => rw [Option.some.inj h]

theorem mapM_cons_eq_ok_iff {f : α → Except ε β} {x : α} {xs : List α} {zs : List β} :
    (x :: xs).mapM f = .ok zs ↔ ∃ y ys, zs = y :: ys ∧ f x = .ok y ∧ xs.mapM f = .ok ys := by
  rw [List.mapM_cons, bind_eq_ok_iff]
  constructor
  · rintro ⟨y, hy, h⟩
    obtain ⟨ys, hys, h⟩ := bind_eq_ok_iff.1 h
    exact ⟨y, ys, (Except.ok.inj h).symm, hy, hys⟩
  · rintro ⟨y, ys, rfl, hy, hys⟩
    exact ⟨y, hy, bind_eq_ok_iff.2 ⟨ys, hys, rfl⟩⟩

theorem mapM_eq_ok_iff {f : α → Except ε β} {xs : List α} {ys : List β} :
    xs.mapM f = .ok ys ↔
      ys.length = xs.length ∧
        ∀ i (h : i < xs.length) (h' : i < ys.length), f xs[i] = .ok ys[i] := by
  induction xs generalizing ys with
  | nil =>
    cases ys with
    | nil => simp [pure, Except.pure]
    | cons y ys => simp [pure, Except.pure]
  | cons x xs ih =>
    rw [mapM_cons_eq_ok_iff]
    constructor
    · rintro ⟨y, ys, rfl, hy, hys⟩
      obtain ⟨hlen, hget⟩ := ih.1 hys
      refine ⟨by simp [hlen], fun i h h' => ?_⟩
      cases i with
      | zero => exact hy
      | succ i => exact hget i (by simpa using h) (by simpa using h')
    · rintro ⟨hlen, hget⟩
      cases ys with
      | nil => simp at hlen
      | cons y ys =>
        refine ⟨y, ys, rfl, hget 0 (by simp) (by simp), ih.2 ⟨by simpa using hlen, ?_⟩⟩
        intro i h h'
        exact hget (i + 1) (by simpa using h) (by simpa using h')

theorem exists_eq_ok_of_mapM {f : α → Except ε β} {xs : List α} {ys : List β}
    (h : xs.mapM f = .ok ys) : ∀ x ∈ xs, ∃ y, f x = .ok y := by
  obtain ⟨hlen, hget⟩ := mapM_eq_ok_iff.1 h
  intro x hx
  obtain ⟨i, hi, rfl⟩ := List.getElem_of_mem hx
  exact ⟨_, hget i hi (hlen ▸ hi)⟩

theorem exists_of_mem_mapM {f : α → Except ε β} {xs : List α} {ys : List β}
    (h : xs.mapM f = .ok ys) : ∀ y ∈ ys, ∃ x ∈ xs, f x = .ok y := by
  obtain ⟨hlen, hget⟩ := mapM_eq_ok_iff.1 h
  intro y hy
  obtain ⟨i, hi, rfl⟩ := List.getElem_of_mem hy
  exact ⟨_, List.getElem_mem (hlen ▸ hi), hget i (hlen ▸ hi) hi⟩

theorem mapM_eq_ok_map {f : α → Except ε β} {g : α → β} {xs : List α}
    (h : ∀ x ∈ xs, f x = .ok (g x)) : xs.mapM f = .ok (xs.map g) := by
  rw [mapM_eq_ok_iff]
  refine ⟨by simp, fun i hi _ => ?_⟩
  rw [List.getElem_map]
  exact h _ (List.getElem_mem hi)

theorem mapM_congr {f g : α → Except ε β} {xs : List α} (h : ∀ x ∈ xs, f x = g x) :
    xs.mapM f = xs.mapM g := by
  induction xs with
  | nil => rfl
  | cons x xs ih =>
    obtain ⟨hx, hxs⟩ := List.forall_mem_cons.1 h
    rw [List.mapM_cons, List.mapM_cons, hx, ih hxs]

/-- If an operation stops, then at a fault with a property. -/
def StopsOnly (P : ε → Prop) (x : Except ε α) : Prop := ∀ e, x = .error e → P e

namespace StopsOnly

variable {P Q : ε → Prop} {x : Except ε α}

theorem ok (a : α) : StopsOnly P (.ok a : Except ε α) := fun _ h => by cases h

theorem error {e : ε} (h : P e) : StopsOnly P (.error e : Except ε α) := fun _ h' => by
  cases h'
  exact h

theorem mono (h : StopsOnly P x) (hPQ : ∀ e, P e → Q e) : StopsOnly Q x :=
  fun e he => hPQ e (h e he)

theorem bind {f : α → Except ε β} (hx : StopsOnly P x) (hf : ∀ a, StopsOnly P (f a)) :
    StopsOnly P (x >>= f) := by
  cases x with
  | error e => exact error (hx e rfl)
  | ok a => exact hf a

theorem map (h : StopsOnly P x) (f : α → β) : StopsOnly P (x.map f) := by
  cases x with
  | error e => exact error (h e rfl)
  | ok a => exact ok (f a)

theorem ite {c : Prop} [Decidable c] {y : Except ε α} (hx : StopsOnly P x) (hy : StopsOnly P y) :
    StopsOnly P (if c then x else y) := by
  split
  · exact hx
  · exact hy

theorem mapM {f : α → Except ε β} {xs : List α} (h : ∀ x ∈ xs, StopsOnly P (f x)) :
    StopsOnly P (xs.mapM f) := by
  induction xs with
  | nil => exact ok []
  | cons x xs ih =>
    rw [List.mapM_cons]
    refine (h x List.mem_cons_self).bind fun y => ?_
    exact (ih fun x' hx' => h x' (List.mem_cons_of_mem x hx')).bind fun ys => ok (y :: ys)

end StopsOnly

end Traversal

/-! ### Two operations in step -/

namespace Traversal

variable {ε α β γ δ : Type}

/-- Both operations stop at the same fault, or both succeed with related answers. -/
inductive InStep (R : α → β → Prop) : Except ε α → Except ε β → Prop
  /-- Both stop. -/
  | error (e : ε) : InStep R (.error e) (.error e)
  /-- Both succeed. -/
  | ok {a : α} {b : β} (h : R a b) : InStep R (.ok a) (.ok b)

namespace InStep

variable {R : α → β → Prop} {S : γ → δ → Prop} {x : Except ε α} {y : Except ε β}

theorem bind {f : α → Except ε γ} {g : β → Except ε δ} (h : InStep R x y)
    (hfg : ∀ a b, R a b → InStep S (f a) (g b)) : InStep S (x >>= f) (y >>= g) := by
  cases h with
  | error e => exact .error e
  | ok h => exact hfg _ _ h

theorem mapM {ι : Type} {f : ι → Except ε α} {g : ι → Except ε β} {xs : List ι}
    (h : ∀ i ∈ xs, InStep R (f i) (g i)) :
    InStep (List.Forall₂ R) (xs.mapM f) (xs.mapM g) := by
  induction xs with
  | nil => exact .ok .nil
  | cons i xs ih =>
    obtain ⟨hi, hxs⟩ := List.forall_mem_cons.1 h
    rw [List.mapM_cons, List.mapM_cons]
    exact hi.bind fun a b hab => (ih hxs).bind fun as bs habs => .ok (.cons hab habs)

end InStep

end Traversal

end StreetEnv
