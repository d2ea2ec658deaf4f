import StreetEnv.Proofs.Polling.Findings

/-!
# Turns of two loops on one graph

The loop of the air quality and the loop of the noise share a graph and take turns, in any order.  A
poll takes two turns of its loop.  In the first it looks at its sources, as they are at that time;
in the second it has the graph to itself and carries out what it found.  In between, the other loop
may take any number of turns.

* `Shared.turn` is one turn, and `Shared.run` any number of them;
* `Shared.turn_turn`: with nothing in between, two turns are one poll of the updater;
* `Shared.Alike.turn` and `Shared.Alike.turn_of_ne`: what a turn does to states that are alike for a
  loop, if it is a turn of the loop and if it is one of the other;
* `Shared.SameWork.turn`: what a loop does to the graph depends on the graph and the finding alone.
-/

namespace StreetEnv

/-! ### Carrying out a finding -/

namespace Loop

/-- The updater that a loop polls. -/
def updater (l : Loop) (s : Settings) (r : Rounding) (earth : Earth) : Updater Site :=
  match l with
  | airQuality => s.airQualityUpdater r earth
  | noise => s.noiseUpdater r

theorem poll_updater (l : Loop) (s : Settings) (r : Rounding) (earth : Earth) (site : Site) :
    ∃ left, (l.updater s r earth).poll site =
      .ofOutcome left ((s.finding r earth l site.sources).carriedOut site.graph) := by
  cases l with
  | airQuality =>
    refine ⟨site.sources, ?_⟩
    rw [Settings.finding, ← Settings.airQualityCycle_eq]
    rfl
  | noise =>
    refine ⟨{ site.sources with
      broker := (s.noiseCycle r site.sources.since site.sources.broker site.graph).1 }, ?_⟩
    rw [Settings.finding, ← Settings.noiseCycle_eq]
    rfl

end Loop

namespace Finding

/-- An updater that has looked already. -/
def updater (x : Finding) (name : String) : Updater Site :=
  { name := name
    poll := fun site => .ofOutcome site.sources (x.carriedOut site.graph) }

/-- What an updater notes of a poll with a finding. -/
def noted (x : Finding) (name : String) (g : Graph) : List Notice :=
  (x.carriedOut g).notices ++
    match (x.carriedOut g).result with
    | .error f => [.pollFailed name f]
    | .ok _ => []

variable {l : Loop} {x : Finding}

theorem guarded_eq (h : x.IsOf l) {u : Updater Site} {site : Site} {left : Sources}
    (hpoll : u.poll site = .ofOutcome left (x.carriedOut site.graph)) :
    u.guarded site =
      ⟨⟨(x.carriedOut site.graph).graph, left⟩, x.noted u.name site.graph, none⟩ := by
  unfold Updater.guarded noted
  rw [hpoll]
  cases hresult : (x.carriedOut site.graph).result with
  | ok done => simp [Polled.ofOutcome, hresult]
  | error f =>
    have hsurvived : f.endsProcess = false := h.survivable site.graph f hresult
    simp [Polled.ofOutcome, hresult, hsurvived]

/-- On graphs that look the same to the loop, a finding leaves the same in the view of the loop, and
the same is noted. -/
theorem IsOf.congr (h : x.IsOf l) {g g' : Graph} (hg : g.map l.own = g'.map l.own)
    (name : String) :
    (x.carriedOut g).graph.map l.own = (x.carriedOut g').graph.map l.own ∧
      x.noted name g = x.noted name g' := by
  obtain ⟨hgraph, hnotices, hresult⟩ := h.keepsTo.congr hg
  exact ⟨hgraph, by rw [noted, noted, hnotices, hresult]⟩

end Finding

/-! ### Turns -/

/-- A turn of a loop, with the sources as they are at that time. -/
structure Turn where
  /-- The loop whose turn it is. -/
  loop : Loop
  /-- The sources it can look at. -/
  sources : Sources

/-- How far a loop has come. -/
structure Progress where
  /-- How many polls are over. -/
  polls : Nat := 0
  /-- What the poll under way has found. -/
  finding : Option Finding := none
  /-- The notices of the polls that are over. -/
  notices : List Notice := []
  /-- The fault that ended the loop. -/
  fault : Option Fault := none

/-- How many turns led here. -/
def Progress.turns (p : Progress) : Nat :=
  2 * p.polls + if p.finding.isSome then 1 else 0

/-- A graph shared by two loops. -/
@[ext] structure Shared where
  /-- The graph. -/
  graph : Graph
  /-- How far each loop has come. -/
  progress : Loop → Progress

namespace Shared

/-- The graph before any loop has begun. -/
def start (g : Graph) : Shared := ⟨g, fun _ => {}⟩

/-- A loop has come further. -/
def put (st : Shared) (l : Loop) (p : Progress) : Shared :=
  { st with progress := fun l' => if l' = l then p else st.progress l' }

@[simp] theorem graph_put (st : Shared) (l : Loop) (p : Progress) : (st.put l p).graph = st.graph :=
  rfl

@[simp] theorem progress_put_self (st : Shared) (l : Loop) (p : Progress) :
    (st.put l p).progress l = p :=
  if_pos rfl

theorem progress_put_of_ne (st : Shared) {l l' : Loop} (h : l' ≠ l) (p : Progress) :
    (st.put l p).progress l' = st.progress l' :=
  if_neg h

theorem put_with_graph_put (st : Shared) (g : Graph) (l : Loop) (p q : Progress) :
    { st.put l p with graph := g }.put l q = { st with graph := g }.put l q := by
  refine Shared.ext rfl (funext fun l' => ?_)
  by_cases h : l' = l
  · simp [put, h]
  · simp [put, h]

variable (s : Loop → Settings) (r : Rounding) (earth : Earth)

/-- A poll begins: the loop looks at its sources. -/
def look (st : Shared) (t : Turn) : Shared :=
  st.put t.loop
    { st.progress t.loop with finding := some ((s t.loop).finding r earth t.loop t.sources) }

/-- A poll ends: what it found is carried out. -/
def commit (st : Shared) (t : Turn) (x : Finding) : Shared :=
  let p := st.progress t.loop
  let name := (t.loop.updater (s t.loop) r earth).name
  let done := (x.updater name).guarded ⟨st.graph, t.sources⟩
  { st with graph := done.state.graph }.put t.loop
    { polls := p.polls + 1, notices := p.notices ++ done.notices, fault := done.fault }

/-- A loop takes a turn.  A loop that a fault has ended takes no more. -/
def turn (st : Shared) (t : Turn) : Shared :=
  if (st.progress t.loop).fault.isSome then st
  else
    match (st.progress t.loop).finding with
    | none => st.look s r earth t
    | some x => st.commit s r earth t x

/-- The loops take their turns. -/
def run (st : Shared) (turns : List Turn) : Shared :=
  turns.foldl (turn s r earth) st

/-- No loop was ended by a fault, and what the polls under way have found belongs to their
loops. -/
structure IsSound (st : Shared) : Prop where
  /-- No loop was ended. -/
  fault_eq : ∀ l, (st.progress l).fault = none
  /-- The findings belong to their loops. -/
  isOf : ∀ l x, (st.progress l).finding = some x → x.IsOf l

variable {s r earth} {st : Shared} {l : Loop} {t : Turn} {x : Finding}

theorem isSound_start (g : Graph) : (start g).IsSound where
  fault_eq _ := rfl
  isOf _ _ h := nomatch h

theorem IsSound.put (h : st.IsSound) (g : Graph) {p : Progress} (hfault : p.fault = none)
    (hfinding : ∀ x, p.finding = some x → x.IsOf l) :
    ({ st with graph := g }.put l p).IsSound := by
  refine ⟨fun l' => ?_, fun l' x hx => ?_⟩
  · by_cases hl : l' = l
    · subst hl
      rw [progress_put_self, hfault]
    · rw [progress_put_of_ne _ hl]
      exact h.fault_eq l'
  · by_cases hl : l' = l
    · subst hl
      rw [progress_put_self] at hx
      exact hfinding x hx
    · rw [progress_put_of_ne _ hl] at hx
      exact h.isOf l' x hx

theorem IsSound.look (h : st.IsSound) (t : Turn) : (st.look s r earth t).IsSound := by
  refine h.put st.graph (h.fault_eq t.loop) fun x hx => ?_
  obtain rfl := Option.some.inj hx
  exact (s t.loop).isOf_finding r earth t.loop t.sources

theorem turn_of_idle (h : st.IsSound) (hidle : (st.progress t.loop).finding = none) :
    st.turn s r earth t = st.look s r earth t := by
  simp [turn, h.fault_eq, hidle]

theorem turn_of_finding (h : st.IsSound) (hx : (st.progress t.loop).finding = some x) :
    st.turn s r earth t =
      { st with graph := (x.carriedOut st.graph).graph }.put t.loop
        { polls := (st.progress t.loop).polls + 1
          notices := (st.progress t.loop).notices ++
            x.noted (t.loop.updater (s t.loop) r earth).name st.graph } := by
  have hpoll : (x.updater (t.loop.updater (s t.loop) r earth).name).poll ⟨st.graph, t.sources⟩ =
      .ofOutcome t.sources (x.carriedOut st.graph) := rfl
  simp only [turn, h.fault_eq, hx, commit, Finding.guarded_eq (h.isOf _ _ hx) hpoll,
    Option.isSome_none, Bool.false_eq_true, ↓reduceIte]
  rfl

/-- **With nothing in between, two turns of a loop are one poll of its updater.** -/
theorem turn_turn (h : st.IsSound) (hidle : (st.progress l).finding = none) (src src' : Sources) :
    (st.turn s r earth ⟨l, src⟩).turn s r earth ⟨l, src'⟩ =
      let done := (l.updater (s l) r earth).guarded ⟨st.graph, src⟩
      { st with graph := done.state.graph }.put l
        { polls := (st.progress l).polls + 1
          notices := (st.progress l).notices ++ done.notices
          fault := done.fault } := by
  obtain ⟨left, hpoll⟩ := l.poll_updater (s l) r earth ⟨st.graph, src⟩
  have hisOf : ((s l).finding r earth l src).IsOf l := (s l).isOf_finding r earth l src
  have hlook : ((st.look s r earth ⟨l, src⟩).progress l).finding =
      some ((s l).finding r earth l src) := by
    rw [look, progress_put_self]
  rw [turn_of_idle h hidle, turn_of_finding (t := ⟨l, src'⟩) (h.look ⟨l, src⟩) hlook,
    Finding.guarded_eq hisOf hpoll, look, put_with_graph_put, progress_put_self, graph_put]

/-! ### What a turn keeps -/

theorem IsSound.turn (h : st.IsSound) (t : Turn) : (st.turn s r earth t).IsSound := by
  cases hx : (st.progress t.loop).finding with
  | none =>
    rw [turn_of_idle h hx]
    exact h.look t
  | some x =>
    rw [turn_of_finding h hx]
    exact h.put _ rfl fun _ hnone => nomatch hnone

theorem progress_turn_of_ne (hl : l ≠ t.loop) :
    (st.turn s r earth t).progress l = st.progress l := by
  unfold turn
  split
  · rfl
  · split
    · exact progress_put_of_ne st hl _
    · exact progress_put_of_ne _ hl _

theorem own_turn_of_ne (h : st.IsSound) (hl : l ≠ t.loop) :
    (st.turn s r earth t).graph.map l.own = st.graph.map l.own := by
  cases hx : (st.progress t.loop).finding with
  | none =>
    rw [turn_of_idle h hx]
    rfl
  | some x =>
    -- the view of the other loop is what the finding leaves alone
    rw [turn_of_finding h hx, graph_put, Loop.eq_other_of_ne hl]
    exact (h.isOf _ _ hx).keepsTo.rest_eq st.graph

theorem turns_turn (h : st.IsSound) (t : Turn) (l : Loop) :
    ((st.turn s r earth t).progress l).turns =
      (st.progress l).turns + if t.loop = l then 1 else 0 := by
  by_cases hl : t.loop = l
  · subst hl
    cases hx : (st.progress t.loop).finding with
    | none => simp [turn_of_idle h hx, look, Progress.turns, hx]
    | some x => simp [turn_of_finding h hx, Progress.turns, hx]; omega
  · rw [progress_turn_of_ne (Ne.symm hl), if_neg hl, Nat.add_zero]

/-- Two states are alike for a loop: they look the same in its view, and it has come equally far. -/
structure Alike (l : Loop) (a b : Shared) : Prop where
  /-- The graphs look the same. -/
  own_eq : a.graph.map l.own = b.graph.map l.own
  /-- The loop has come equally far. -/
  progress_eq : a.progress l = b.progress l

variable {a b : Shared}

theorem Alike.turn (ha : a.IsSound) (hb : b.IsSound) (h : Alike t.loop a b) :
    Alike t.loop (a.turn s r earth t) (b.turn s r earth t) := by
  cases hx : (a.progress t.loop).finding with
  | none =>
    have hx' : (b.progress t.loop).finding = none := by rw [← h.progress_eq, hx]
    rw [turn_of_idle ha hx, turn_of_idle hb hx']
    exact ⟨h.own_eq, by simp [look, h.progress_eq]⟩
  | some x =>
    have hx' : (b.progress t.loop).finding = some x := by rw [← h.progress_eq, hx]
    -- the finding keeps to the view of the loop, in which the graphs are the same
    obtain ⟨hgraph, hnoted⟩ := (ha.isOf _ _ hx).congr h.own_eq
      (t.loop.updater (s t.loop) r earth).name
    rw [turn_of_finding ha hx, turn_of_finding hb hx']
    exact ⟨hgraph, by simp [h.progress_eq, hnoted]⟩

theorem Alike.turn_of_ne (ha : a.IsSound) (h : Alike l a b) (hl : l ≠ t.loop) :
    Alike l (a.turn s r earth t) b :=
  ⟨(own_turn_of_ne ha hl).trans h.own_eq, (progress_turn_of_ne hl).trans h.progress_eq⟩

/-- Two states leave the same work to some loops: the graph is the same, and so is what the polls
under way have found. -/
structure SameWork (among : Loop → Prop) (a b : Shared) : Prop where
  /-- The graph is the same. -/
  graph_eq : a.graph = b.graph
  /-- The findings are the same. -/
  finding_eq : ∀ l, among l → (a.progress l).finding = (b.progress l).finding

theorem SameWork.turn {among : Loop → Prop} (ha : a.IsSound) (hb : b.IsSound)
    (h : SameWork among a b) (ht : among t.loop) :
    SameWork among (a.turn s r earth t) (b.turn s r earth t) := by
  cases hx : (a.progress t.loop).finding with
  | none =>
    have hx' : (b.progress t.loop).finding = none := by rw [← h.finding_eq _ ht, hx]
    rw [turn_of_idle ha hx, turn_of_idle hb hx']
    refine ⟨h.graph_eq, fun l hl => ?_⟩
    by_cases hlt : l = t.loop
    · simp [look, put, hlt]
    · simp [look, put, hlt, h.finding_eq l hl]
  | some x =>
    have hx' : (b.progress t.loop).finding = some x := by rw [← h.finding_eq _ ht, hx]
    rw [turn_of_finding ha hx, turn_of_finding hb hx']
    refine ⟨by simp [h.graph_eq], fun l hl => ?_⟩
    by_cases hlt : l = t.loop
    · simp [put, hlt]
    · simp [put, hlt, h.finding_eq l hl]

end Shared

end StreetEnv
