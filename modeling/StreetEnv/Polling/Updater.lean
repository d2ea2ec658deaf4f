import StreetEnv.Notice

/-!
# Polling

An `Updater` refreshes a state again and again, and waits between two polls.  A poll that fails is
reported, and polling goes on; only a fault that ends the process, or a time that cannot be waited,
ends the run.

* `Updater.loop` polls, counts its polls, compares the count with the limit and waits, until the
  state says stop or the limit is reached;
* `Updater.run` configures, starts, polls and stops, and records each of these as an event.
-/

namespace StreetEnv

/-- What one poll leaves. -/
structure Polled (σ : Type) where
  /-- The state, also after a fault. -/
  state : σ
  /-- The notices, in order. -/
  notices : List Notice := []
  /-- The fault that ended the poll. -/
  fault : Option Fault := none

/-- Something that refreshes a state when it is polled. -/
structure Updater (σ : Type) where
  /-- What it is called in notices. -/
  name : String
  /-- One poll. -/
  poll : σ → Polled σ
  /-- Seconds between polls. -/
  frequency : Number := 0
  /-- Polling is to stop. -/
  isStopped : σ → Bool := fun _ => false

/-- What happens in a run. -/
inductive RunEvent where
  /-- The updater reads its settings. -/
  | configured
  /-- The updater starts. -/
  | started
  /-- The updater is polled. -/
  | polled
  /-- The updater stops. -/
  | stopped
  deriving DecidableEq, Inhabited

/-- What a run leaves. -/
structure Run (σ : Type) where
  /-- The state. -/
  state : σ
  /-- What happened, in order. -/
  events : List RunEvent := []
  /-- The notices, in order. -/
  notices : List Notice := []
  /-- The fault that ended the run. -/
  fault : Option Fault := none
  /-- The run is over, and not only followed no further. -/
  isOver : Bool := true

/-- A run that goes on with another one. -/
def Run.andThen {σ : Type} (first rest : Run σ) : Run σ :=
  { rest with events := first.events ++ rest.events, notices := first.notices ++ rest.notices }

/-- A fault that no poll survives. -/
def Fault.endsProcess : Fault → Bool
  | .exit _ => true
  | .usage _ => true
  | _ => false

namespace Updater

variable {σ : Type} (u : Updater σ)

/-- One poll, its fault turned into a notice unless it ends the process. -/
def guarded (s : σ) : Polled σ :=
  let p := u.poll s
  match p.fault with
  | none => p
  | some f =>
    if f.endsProcess then p
    else { state := p.state, notices := p.notices ++ [.pollFailed u.name f] }

/-- The seconds that can be waited at most: the microseconds in a machine word of nanoseconds. -/
def longestWait : Number := .rational (((Power.ofTwo 63 - 1) / 1000 : Nat) / 1000000)

/-- Why the time to the next poll cannot be waited, if it cannot; a run that is to stop does not
wait. -/
def waitFault? (s : σ) : Option Fault :=
  if !u.isStopped s && longestWait < u.frequency then some .waitTooLong else none

/-- Polls and waits, when `runs` polls are over, until the state says stop or there were as many
polls as the limit says; `fuel` bounds the polls that are followed. -/
def loop (limit : Option Int) : Nat → Nat → σ → Run σ
  | 0, _, s => { state := s, isOver := false }
  | fuel + 1, runs, s =>
    if u.isStopped s then { state := s }
    else
      let p := u.guarded s
      let round : Run σ := ⟨p.state, [.polled], p.notices, p.fault, true⟩
      if p.fault.isSome || limit.any (· ≤ (runs : Int) + 1) then round
      else
        match u.waitFault? p.state with
        | some f => { round with fault := some f }
        | none => round.andThen (loop limit fuel (runs + 1) p.state)

/-- A run: whatever ends it, the updater stops in the end.  One with a limit is followed to its end,
one without up to a horizon. -/
def run (limit : Option Int) (horizon : Nat) (s : σ) : Run σ :=
  let r := u.loop limit (limit.elim horizon fun n => n.toNat + 1) 0 s
  let last := if r.isOver then [.stopped] else []
  { r with events := [.configured, .started] ++ r.events ++ last }

/-- A run, refused without a graph to work on. -/
def runIfReady (isReady : Bool) (limit : Option Int) (horizon : Nat) (s : σ) : Run σ :=
  if isReady then u.run limit horizon s
  else { state := s, fault := some (.noManager u.name) }

end Updater

end StreetEnv
