import StreetEnv.Polling.Updater
import Mathlib.Logic.Function.Iterate

/-!
# How often a run polls

A run counts its polls, compares the count with the limit when a poll is over, and waits before the
next one.

* `Updater.loop_of_reached`, `Updater.loop_of_endsProcess`, `Updater.loop_of_waitTooLong` and
  `Updater.loop_of_waits`: the ways in which a poll ends the loop, or goes on with it;
* `Updater.loop_add`: polls that are survived leave a poll each, and their notices in turn;
* `Updater.runIfReady_limited`: a run that is not stopped polls as often as its limit says, at
  least once, and no survivable fault of a poll changes that; a time that cannot be waited does;
* `Updater.exists_poll_beyond_limit`: at the limit zero it polls nevertheless.
-/

namespace StreetEnv

/-- A poll whose fault, if it has one, does not end the process. -/
def Polled.IsSurvived {σ : Type} (p : Polled σ) : Prop :=
  ∀ f, p.fault = some f → f.endsProcess = false

instance {σ : Type} (p : Polled σ) : Decidable p.IsSurvived :=
  inferInstanceAs (Decidable (∀ f ∈ p.fault, f.endsProcess = false))

namespace Updater

variable {σ : Type} (u : Updater σ)

/-! ### One poll -/

/-- The state after a number of polls. -/
def after (k : Nat) (s : σ) : σ :=
  (fun t => (u.poll t).state)^[k] s

@[simp] theorem after_zero (s : σ) : u.after 0 s = s :=
  rfl

theorem after_poll (k : Nat) (s : σ) : u.after k (u.poll s).state = u.after (k + 1) s :=
  rfl

theorem after_succ (k : Nat) (s : σ) : u.after (k + 1) s = (u.poll (u.after k s)).state :=
  Function.iterate_succ_apply' ..

/-- What a survived poll leaves: its own notices, and one for its fault. -/
def noted (s : σ) : List Notice :=
  (u.poll s).notices ++ ((u.poll s).fault.map (Notice.pollFailed u.name)).toList

theorem guarded_of_isSurvived {s : σ} (h : (u.poll s).IsSurvived) :
    u.guarded s = ⟨(u.poll s).state, u.noted s, none⟩ := by
  simp only [guarded, noted]
  split
  · rename_i hfault
    simp only [hfault, Option.map_none, Option.toList_none, List.append_nil]
    rw [← hfault]
  · rename_i f hfault
    simp [hfault, h f hfault]

theorem guarded_of_endsProcess {s : σ} {f : Fault} (h : (u.poll s).fault = some f)
    (hf : f.endsProcess = true) : u.guarded s = u.poll s := by
  simp only [guarded]
  split <;> simp_all

/-- The time between two polls can be waited. -/
def CanWait : Prop := ¬ longestWait < u.frequency

instance : Decidable u.CanWait := inferInstanceAs (Decidable (¬ _))

theorem waitFault?_of_canWait (h : u.CanWait) (s : σ) : u.waitFault? s = none := by
  have hlong : (longestWait < u.frequency) = False := eq_false h
  simp [waitFault?, hlong]

theorem waitFault?_of_not_canWait (h : ¬ u.CanWait) {s : σ} (hgoing : u.isStopped s = false) :
    u.waitFault? s = some .waitTooLong := by
  have hlong : longestWait < u.frequency := not_not.1 h
  simp [waitFault?, hgoing, hlong]

/-! ### One round of the loop -/

variable {u} {limit : Option Int} {runs : Nat} {s : σ}

theorem not_reached (h : ∀ m ∈ limit, (runs : Int) + 1 < m) :
    limit.any (· ≤ (runs : Int) + 1) = false := by
  cases limit with
  | none => rfl
  | some m => simpa using h m rfl

theorem loop_of_reached (hgoing : u.isStopped s = false) (h : (u.poll s).IsSurvived)
    (hlimit : ∃ m ∈ limit, m ≤ (runs : Int) + 1) (fuel : Nat) :
    u.loop limit (fuel + 1) runs s = ⟨(u.poll s).state, [.polled], u.noted s, none, true⟩ := by
  obtain ⟨m, rfl, hm⟩ := hlimit
  simp [loop, hgoing, guarded_of_isSurvived u h, hm]

theorem loop_of_endsProcess {f : Fault} (hgoing : u.isStopped s = false)
    (h : (u.poll s).fault = some f) (hf : f.endsProcess = true) (fuel : Nat) :
    u.loop limit (fuel + 1) runs s =
      ⟨(u.poll s).state, [.polled], (u.poll s).notices, some f, true⟩ := by
  simp [loop, hgoing, guarded_of_endsProcess u h hf, h]

theorem loop_of_waitTooLong (hgoing : u.isStopped s = false) (h : (u.poll s).IsSurvived)
    (hlimit : ∀ m ∈ limit, (runs : Int) + 1 < m) (hlong : ¬ u.CanWait)
    (hnext : u.isStopped (u.poll s).state = false) (fuel : Nat) :
    u.loop limit (fuel + 1) runs s =
      ⟨(u.poll s).state, [.polled], u.noted s, some .waitTooLong, true⟩ := by
  simp [loop, hgoing, guarded_of_isSurvived u h, not_reached hlimit,
    waitFault?_of_not_canWait u hlong hnext]

theorem loop_of_waits (limit : Option Int) (runs : Nat) (s : σ)
    (hgoing : u.isStopped s = false) (h : (u.poll s).IsSurvived)
    (hlimit : ∀ m ∈ limit, (runs : Int) + 1 < m) (hwait : u.CanWait) (fuel : Nat) :
    u.loop limit (fuel + 1) runs s =
      Run.andThen ⟨(u.poll s).state, [.polled], u.noted s, none, true⟩
        (u.loop limit fuel (runs + 1) (u.poll s).state) := by
  simp [loop, hgoing, guarded_of_isSurvived u h, not_reached hlimit,
    waitFault?_of_canWait u hwait]

/-! ### Many rounds -/

theorem loop_add (k fuel runs : Nat) (s : σ) (hwait : k = 0 ∨ u.CanWait)
    (hgoing : ∀ j < k, u.isStopped (u.after j s) = false)
    (hsurvived : ∀ j < k, (u.poll (u.after j s)).IsSurvived)
    (hlimit : ∀ j < k, ∀ m ∈ limit, (runs : Int) + j + 1 < m) :
    u.loop limit (k + fuel) runs s =
      Run.andThen
        { state := u.after k s
          events := List.replicate k .polled
          notices := (List.range k).flatMap fun j => u.noted (u.after j s) }
        (u.loop limit fuel (runs + k) (u.after k s)) := by
  induction k generalizing runs s with
  | zero => simp [Run.andThen]
  | succ k ih =>
    have hwait' : u.CanWait := hwait.resolve_left (by omega)
    have hrest := ih (runs + 1) (u.poll s).state (.inr hwait')
      (fun j hj => hgoing (j + 1) (by omega)) (fun j hj => hsurvived (j + 1) (by omega))
      (fun j hj m hm => by
        have hlt := hlimit (j + 1) (by omega) m hm
        push_cast at hlt ⊢
        omega)
    have hfirst := loop_of_waits limit runs s (hgoing 0 (by omega))
      (hsurvived 0 (by omega)) (fun m hm => by simpa using hlimit 0 (by omega) m hm) hwait'
      (k + fuel)
    rw [Nat.add_right_comm, hfirst, hrest, Nat.add_right_comm runs 1 k]
    simp [Run.andThen, List.replicate_succ, List.range_succ_eq_map, List.flatMap_map, after_poll,
      Nat.add_assoc]

theorem runIfReady_of_loop (k n horizon : Nat) (last : Run σ) (hk : k < max 1 n)
    (hwait : k = 0 ∨ u.CanWait) (hgoing : ∀ j < k, u.isStopped (u.after j s) = false)
    (hsurvived : ∀ j < k, (u.poll (u.after j s)).IsSurvived)
    (hlast : ∀ fuel, u.loop (some n) (fuel + 1) k (u.after k s) =
      ⟨last.state, .polled :: last.events, last.notices, last.fault, true⟩) :
    u.runIfReady true (some n) horizon s =
      { state := last.state
        events := [.configured, .started] ++ List.replicate (k + 1) .polled ++ last.events ++
          [.stopped]
        notices := ((List.range k).flatMap fun j => u.noted (u.after j s)) ++ last.notices
        fault := last.fault } := by
  obtain ⟨m, hm⟩ : ∃ m, n + 1 = k + (m + 1) := ⟨n - k, by omega⟩
  have hlimit (j : Nat) (hj : j < k) (m : Int) (h : some (n : Int) = some m) :
      ((0 : Nat) : Int) + j + 1 < m := by
    cases h
    omega
  have hloop := loop_add k (m + 1) 0 s hwait hgoing hsurvived hlimit
  rw [Nat.zero_add, hlast, ← hm] at hloop
  simp [runIfReady, run, hloop, Run.andThen, List.replicate_succ']

/-! ### A run under a limit -/

variable (u)

/-- A run that is not stopped makes as many polls as its limit says, and one if the limit is zero.
It configures and starts before them and stops after them, once each; a fault of a poll is noted and
the next poll follows.  Two things cut it short, and then, too, it stops once: a poll whose fault
ends the process, and between two polls a time that cannot be waited. -/
theorem runIfReady_limited (n horizon : Nat) (s : σ)
    (hgoing : ∀ k < max 1 n, u.isStopped (u.after k s) = false) :
    (n ≤ 1 ∨ u.CanWait → (∀ k < max 1 n, (u.poll (u.after k s)).IsSurvived) →
      u.runIfReady true (some n) horizon s =
        { state := u.after (max 1 n) s
          events := [.configured, .started] ++ List.replicate (max 1 n) .polled ++ [.stopped]
          notices := (List.range (max 1 n)).flatMap fun k => u.noted (u.after k s) }) ∧
    (∀ k < max 1 n, ∀ f, k = 0 ∨ u.CanWait →
      (∀ j < k, (u.poll (u.after j s)).IsSurvived) →
      (u.poll (u.after k s)).fault = some f → f.endsProcess = true →
      u.runIfReady true (some n) horizon s =
        { state := u.after (k + 1) s
          events := [.configured, .started] ++ List.replicate (k + 1) .polled ++ [.stopped]
          notices := ((List.range k).flatMap fun j => u.noted (u.after j s)) ++
            (u.poll (u.after k s)).notices
          fault := some f }) ∧
    (2 ≤ n → ¬ u.CanWait → (u.poll s).IsSurvived →
      u.runIfReady true (some n) horizon s =
        { state := u.after 1 s
          events := [.configured, .started, .polled, .stopped]
          notices := u.noted s
          fault := some .waitTooLong }) := by
  refine ⟨fun hwait hsurvived => ?_, fun k hk f hwait hbefore hfault hf => ?_,
    fun hn hlong hsurvived => ?_⟩
  · obtain ⟨k, hk⟩ : ∃ k, max 1 n = k + 1 := ⟨max 1 n - 1, by omega⟩
    have hrun := runIfReady_of_loop k n horizon
      ⟨u.after (k + 1) s, [], u.noted (u.after k s), none, true⟩ (by omega)
      (hwait.imp_left fun h => by omega) (fun j hj => hgoing j (by omega))
      (fun j hj => hsurvived j (by omega)) fun fuel => by
        rw [loop_of_reached (hgoing k (by omega)) (hsurvived k (by omega)) ⟨n, rfl, by omega⟩,
          after_succ]
    rw [hrun, hk]
    simp [List.range_succ]
  · have hrun := runIfReady_of_loop k n horizon
      ⟨u.after (k + 1) s, [], (u.poll (u.after k s)).notices, some f, true⟩ hk hwait
      (fun j hj => hgoing j (by omega)) hbefore fun fuel => by
        rw [loop_of_endsProcess (hgoing k hk) hfault hf, after_succ]
    rw [hrun]
    simp
  · have hrun := runIfReady_of_loop 0 n horizon
      ⟨u.after 1 s, [], u.noted s, some .waitTooLong, true⟩ (by omega) (.inl rfl)
      (fun j hj => by omega) (fun j hj => by omega) fun fuel =>
        loop_of_waitTooLong (hgoing 0 (by omega)) hsurvived (fun m hm => by cases hm; omega) hlong
          (hgoing 1 (by omega)) fuel
    rw [hrun]
    rfl

/-- An updater that counts its polls, so many seconds apart.  The second poll fails, and the fourth
ends the process. -/
def flaky (seconds : Number) : Updater Nat where
  name := "FlakyUpdater"
  frequency := seconds
  poll k :=
    { state := k + 1
      fault :=
        if k = 1 then some (.failure "poll failed")
        else if k = 3 then some (.exit 1)
        else none }

theorem runIfReady_limited_flaky :
    (flaky 60).runIfReady true (some 3) 0 0 =
        { state := 3
          events := [.configured, .started, .polled, .polled, .polled, .stopped]
          notices := [.pollFailed "FlakyUpdater" (.failure "poll failed")] } ∧
      (flaky 60).runIfReady true (some 9) 0 0 =
        { state := 4
          events := [.configured, .started, .polled, .polled, .polled, .polled, .stopped]
          notices := [.pollFailed "FlakyUpdater" (.failure "poll failed")]
          fault := some (.exit 1) } ∧
      (flaky 10000000000).runIfReady true (some 3) 0 0 =
        { state := 1
          events := [.configured, .started, .polled, .stopped]
          fault := some .waitTooLong } :=
  ⟨((flaky 60).runIfReady_limited 3 0 0 (fun _ _ => rfl)).1 (.inr (by decide +kernel)) (by decide),
    ((flaky 60).runIfReady_limited 9 0 0 (fun _ _ => rfl)).2.1 3 (by decide) (.exit 1)
      (.inr (by decide +kernel)) (by decide) (by decide) (by decide),
    ((flaky 10000000000).runIfReady_limited 3 0 0 (fun _ _ => rfl)).2.2 (by decide)
      (by decide +kernel) (by decide)⟩

/-- A run with the limit zero that nothing stops polls, and does so before it compares its count
with the limit. -/
theorem exists_poll_beyond_limit :
    ∃ (u : Updater Nat) (s : Nat),
      (∀ t, u.isStopped t = false) ∧ (u.poll s).fault = none ∧
      u.runIfReady true (some 0) 0 s =
        { state := u.after 1 s, events := [.configured, .started, .polled, .stopped] } ∧
      (u.runIfReady true (some 0) 0 s).events.count .polled ≠ 0 :=
  ⟨flaky 60, 0, fun _ => rfl, by decide, rfl, by decide⟩

end Updater

end StreetEnv
