import StreetEnv.Proofs.Polling.Turns

/-!
# Loops that do not interfere

Two loops take turns on a shared graph.  Each turn is seen by its own loop alone, so each loop does
the same whether the other takes turns or not, and a poll that ends early could as well be left out.

* `Shared.alike_run`: in its own view, a loop does the same whether the other takes turns or not;
* `Shared.sameWork_run_of_endsEarly`: a poll that ends early leaves the same work to both loops;
* `Shared.loops_do_not_interfere` puts this together.
-/

namespace StreetEnv

namespace Shared

variable {s : Loop → Settings} {r : Rounding} {earth : Earth} {st a b : Shared} {l : Loop}
  {t : Turn}

/-! ### What a run keeps -/

theorem IsSound.run (h : st.IsSound) (turns : List Turn) : (st.run s r earth turns).IsSound := by
  induction turns generalizing st with
  | nil => exact h
  | cons t turns ih => exact ih (h.turn t)

/-- **A loop does the same, in its own view, whether the other takes turns or not.** -/
theorem alike_run (ha : a.IsSound) (hb : b.IsSound) (h : Alike l a b) (turns : List Turn) :
    Alike l (a.run s r earth turns) (b.run s r earth (turns.filter (·.loop = l))) := by
  induction turns generalizing a b with
  | nil => exact h
  | cons t turns ih =>
    by_cases hl : t.loop = l
    · subst hl
      rw [List.filter_cons_of_pos (by simp)]
      exact ih (ha.turn t) (hb.turn t) (h.turn ha hb)
    · -- the other run does without this turn, and stays alike
      rw [List.filter_cons_of_neg (by simpa using hl)]
      exact ih (ha.turn t) hb (h.turn_of_ne ha (Ne.symm hl))

theorem turns_run (h : st.IsSound) (turns : List Turn) (l : Loop) :
    ((st.run s r earth turns).progress l).turns =
      (st.progress l).turns + turns.countP (·.loop = l) := by
  induction turns generalizing st with
  | nil => rfl
  | cons t turns ih =>
    have hturn : (st.turn s r earth t).IsSound := h.turn t
    have hrest := ih hturn
    rw [turns_turn h t l] at hrest
    simp only [run, List.foldl_cons, List.countP_cons, decide_eq_true_eq] at hrest ⊢
    omega

theorem polls_run_start (g : Graph) (turns : List Turn) (l : Loop) :
    (((start g).run s r earth turns).progress l).polls = turns.countP (·.loop = l) / 2 := by
  have hcount : (((start g).run s r earth turns).progress l).turns = _ :=
    turns_run (isSound_start g) turns l
  have hnone : ((start g).progress l).turns = 0 := rfl
  rw [hnone, Nat.zero_add, Progress.turns] at hcount
  split at hcount
  · omega
  · omega

theorem alike_run_of_ne (h : st.IsSound) {turns : List Turn} (hl : ∀ t ∈ turns, t.loop ≠ l) :
    Alike l (st.run s r earth turns) st := by
  have hrun : Alike l (st.run s r earth turns) (st.run s r earth (turns.filter (·.loop = l))) :=
    alike_run h h ⟨rfl, rfl⟩ turns
  rwa [List.filter_eq_nil_iff.2 (by simpa using hl)] at hrun

theorem SameWork.run {among : Loop → Prop} (ha : a.IsSound) (hb : b.IsSound)
    (h : SameWork among a b) {turns : List Turn} (ht : ∀ t ∈ turns, among t.loop) :
    SameWork among (a.run s r earth turns) (b.run s r earth turns) := by
  induction turns generalizing a b with
  | nil => exact h
  | cons t turns ih =>
    obtain ⟨ht, hturns⟩ := List.forall_mem_cons.1 ht
    exact ih (ha.turn t) (hb.turn t) (h.turn ha hb ht) hturns

theorem run_append (turns more : List Turn) :
    st.run s r earth (turns ++ more) = (st.run s r earth turns).run s r earth more :=
  List.foldl_append

/-! ### Polls that end early -/

theorem graph_turn_of_idle (h : st.IsSound) (hidle : (st.progress t.loop).finding = none) :
    (st.turn s r earth t).graph = st.graph := by
  rw [turn_of_idle h hidle]
  rfl

section EndsEarly

variable (h : st.IsSound) (hidle : (st.progress t.loop).finding = none)
  (hends : (s t.loop).EndsEarly earth t.sources t.loop) {between : List Turn} {t' : Turn}
  (hbetween : ∀ u ∈ between, u.loop ≠ t.loop) (ht' : t'.loop = t.loop)

include h hidle hbetween ht'

theorem finding_before_commit :
    ((st.run s r earth (t :: between)).progress t'.loop).finding =
      some ((s t.loop).finding r earth t.loop t.sources) := by
  change (((st.turn s r earth t).run s r earth between).progress t'.loop).finding = _
  rw [ht', (alike_run_of_ne (h.turn t) hbetween).progress_eq, turn_of_idle h hidle, look,
    progress_put_self]

include hends

theorem graph_commit_of_endsEarly :
    (st.run s r earth (t :: between ++ [t'])).graph = (st.run s r earth (t :: between)).graph := by
  have hsound : (st.run s r earth (t :: between)).IsSound := h.run (t :: between)
  have hx : ((st.run s r earth (t :: between)).progress t'.loop).finding =
      some ((s t.loop).finding r earth t.loop t.sources) :=
    finding_before_commit h hidle hbetween ht'
  rw [run_append]
  change ((st.run s r earth (t :: between)).turn s r earth t').graph = _
  rw [turn_of_finding hsound hx]
  exact Finding.graph_carriedOut (Settings.EndsEarly.change_ne r earth hends) _

/-- **A poll that ends early could as well be left out**, whatever the other loop does meanwhile. -/
theorem sameWork_run_of_endsEarly :
    SameWork (fun _ => True) (st.run s r earth (t :: between ++ [t']))
      (st.run s r earth between) := by
  -- meanwhile, the other loop has the same work to do
  have hmeanwhile : SameWork (· ≠ t.loop) (st.run s r earth (t :: between))
      (st.run s r earth between) := by
    refine SameWork.run (h.turn t) h ⟨graph_turn_of_idle h hidle, fun l hl => ?_⟩ hbetween
    rw [progress_turn_of_ne hl]
  have hsound : (st.run s r earth (t :: between)).IsSound := h.run (t :: between)
  have hx : ((st.run s r earth (t :: between)).progress t'.loop).finding =
      some ((s t.loop).finding r earth t.loop t.sources) :=
    finding_before_commit h hidle hbetween ht'
  refine ⟨(graph_commit_of_endsEarly h hidle hends hbetween ht').trans hmeanwhile.graph_eq,
    fun l _ => ?_⟩
  rw [run_append]
  change (((st.run s r earth (t :: between)).turn s r earth t').progress l).finding = _
  by_cases hl : l = t'.loop
  · -- the loop of the poll is idle, as it was before the poll
    subst hl
    rw [turn_of_finding hsound hx, progress_put_self, ht',
      (alike_run_of_ne h hbetween).progress_eq, hidle]
  · rw [progress_turn_of_ne hl]
    exact hmeanwhile.finding_eq l (ht' ▸ hl)

theorem graph_run_of_endsEarly (rest : List Turn) :
    (st.run s r earth (t :: between ++ [t'] ++ rest)).graph =
      (st.run s r earth (between ++ rest)).graph := by
  have hsame : SameWork (fun _ => True) (st.run s r earth (t :: between ++ [t']))
      (st.run s r earth between) := sameWork_run_of_endsEarly h hidle hends hbetween ht'
  rw [run_append _ rest, run_append between rest]
  exact (hsame.run (h.run _) (h.run _) fun _ _ => trivial).graph_eq

end EndsEarly

/-! ### Non-interference -/

/-- **The loops do not interfere.**  Whatever turns they take on a shared graph, and whatever they
see of their sources:

* the air quality is that of the run in which the loop of the noise takes no turn;
* the noise is that of the run in which the loop of the air quality takes no turn;
* names, ends and lines of the edges stay, and so does their order;
* each loop comes as far, and notes the same, as if it were alone;
* no loop is ended by a fault, and every two turns are a poll;
* a poll that ends early leaves the graph as it is, and what follows is as if it were left out. -/
theorem loops_do_not_interfere (s : Loop → Settings) (r : Rounding) (earth : Earth) (g : Graph)
    (turns : List Turn) :
    let after (ts : List Turn) := (start g).run s r earth ts
    let alone (l : Loop) := after (turns.filter (·.loop = l))
    ((after turns).graph.edges.map (fun e => (e.airQuality, e.airQualityTime)) =
      (alone .airQuality).graph.edges.map fun e => (e.airQuality, e.airQualityTime)) ∧
    (after turns).graph.edges.map (·.noise) = (alone .noise).graph.edges.map (·.noise) ∧
    ((after turns).graph.edges.map (fun e => (e.id, e.origin, e.destination, e.line)) =
      g.edges.map fun e => (e.id, e.origin, e.destination, e.line)) ∧
    (∀ l, (after turns).progress l = (alone l).progress l) ∧
    (∀ l, ((after turns).progress l).fault = none ∧
      ((after turns).progress l).polls = turns.countP (·.loop = l) / 2) ∧
    ∀ before t between t' rest, turns = before ++ (t :: between ++ [t']) ++ rest →
      ((after before).progress t.loop).finding = none →
      (∀ u ∈ between, u.loop ≠ t.loop) → t'.loop = t.loop →
      (s t.loop).EndsEarly earth t.sources t.loop →
      (after (before ++ [t])).graph = (after before).graph ∧
      (after (before ++ (t :: between ++ [t']))).graph =
        (after (before ++ (t :: between))).graph ∧
      (after turns).graph = (after (before ++ between ++ rest)).graph := by
  intro after alone
  have hstart : (start g).IsSound := isSound_start g
  have hafter (ts : List Turn) : (after ts).IsSound := hstart.run ts
  have halike (l : Loop) : Alike l (after turns) (alone l) :=
    alike_run hstart hstart ⟨rfl, rfl⟩ turns
  -- alone, the loop of the air quality does nothing in the view of the noise
  have hquiet : Alike .noise (alone .airQuality) (start g) :=
    alike_run_of_ne hstart fun t ht => by
      have hloop : t.loop = .airQuality := by simpa using (List.mem_filter.1 ht).2
      simp [hloop]
  refine ⟨?air, ?noise, ?street, fun l => (halike l).progress_eq,
    fun l => ⟨(hafter turns).fault_eq l, polls_run_start g turns l⟩, ?early⟩
  case air => exact Graph.map_edges_congr (halike .airQuality).own_eq fun _ => rfl
  case noise => exact Graph.map_edges_congr (halike .noise).own_eq fun _ => rfl
  case street =>
    calc (after turns).graph.edges.map (fun e => (e.id, e.origin, e.destination, e.line))
      _ = (alone .airQuality).graph.edges.map fun e => (e.id, e.origin, e.destination, e.line) :=
        Graph.map_edges_congr (halike .airQuality).own_eq fun _ => rfl
      _ = g.edges.map fun e => (e.id, e.origin, e.destination, e.line) :=
        Graph.map_edges_congr hquiet.own_eq fun _ => rfl
  case early =>
    intro before t between t' rest hturns hidle hbetween ht' hends
    have happend (ts more : List Turn) : after (ts ++ more) = (after ts).run s r earth more :=
      run_append ts more
    refine ⟨?_, ?_, ?_⟩
    · rw [happend]
      exact graph_turn_of_idle (hafter before) hidle
    · rw [happend, happend]
      exact graph_commit_of_endsEarly (hafter before) hidle hends hbetween ht'
    · rw [hturns, List.append_assoc before, List.append_assoc before, happend, happend]
      exact graph_run_of_endsEarly (hafter before) hidle hends hbetween ht' rest

end Shared

namespace Strip

/-- One file and a broker. -/
def settings : Settings :=
  let standard := Settings.standard (.ofText ".") (some "http://sensors")
  { standard with
    paths := { standard.paths with airQuality := [.ofText "strip.nc"] }
    pass := { margin := .rational (1 / 4096) } }

/-- The sources when the file is there. -/
def stored : Sources :=
  { files := ⟨[(["strip.nc"],
      .file (.dataset (.variableSet (variableSet (.text "hours since 1970-01-01")))))]⟩ }

/-- The sources when the broker has a reply. -/
def replying (reply : Reply) : Sources := { broker := ⟨[reply], []⟩ }

/-- A sensor at the west end of the strip reports fifty decibels. -/
def fifty : Reply :=
  .answer 200 ("[\x7b\"location\": \x7b\"value\": \x7b\"coordinates\": [0.0, 0.0]\x7d\x7d, " ++
    "\"LAmax\": \x7b\"value\": 50\x7d\x7d]")

/-- A poll of the broker. -/
def noisePoll : List Turn := [⟨.noise, replying fifty⟩, ⟨.noise, {}⟩]

/-- The file has come meanwhile, but the broker is busy. -/
def rest : List Turn :=
  [⟨.airQuality, stored⟩, ⟨.noise, replying (.answer 503 "busy")⟩, ⟨.airQuality, {}⟩, ⟨.noise, {}⟩]

/-- While a poll finds that the file is missing, the other loop makes a poll. -/
def turns : List Turn :=
  ⟨.airQuality, {}⟩ :: noisePoll ++ [⟨.airQuality, {}⟩] ++ rest

end Strip

namespace Shared

/-- Each loop writes its own in one of two polls, as if it were alone, and the poll that misses the
file could as well be left out. -/
theorem loops_do_not_interfere_strip :
    let after (ts : List Turn) :=
      (start Strip.streets).run (fun _ => Strip.settings) .binary64 Strip.earth ts
    let alone (l : Loop) := after (Strip.turns.filter (·.loop = l))
    (after Strip.turns).graph.edges.map (fun e => (e.airQuality, e.airQualityTime, e.noise)) =
      [(some ⟨.int16, [1, 3]⟩, some 21600000, some 50), (none, none, some 50), (none, none, none),
        (none, none, none)] ∧
    ((after Strip.turns).graph.edges.map (fun e => (e.airQuality, e.airQualityTime)) =
      (alone .airQuality).graph.edges.map fun e => (e.airQuality, e.airQualityTime)) ∧
    (after Strip.turns).graph.edges.map (·.noise) = (alone .noise).graph.edges.map (·.noise) ∧
    (∀ l, ((after Strip.turns).progress l).fault = none ∧
      ((after Strip.turns).progress l).polls = Strip.turns.countP (·.loop = l) / 2) ∧
    Strip.settings.EndsEarly Strip.earth {} .airQuality ∧
    (after Strip.turns).graph = (after (Strip.noisePoll ++ Strip.rest)).graph := by
  have hloops := loops_do_not_interfere (fun _ => Strip.settings) .binary64 Strip.earth
    Strip.streets Strip.turns
  dsimp only at hloops ⊢
  obtain ⟨hair, hnoise, -, -, hpolls, hearly⟩ := hloops
  have hmissing : Strip.settings.EndsEarly Strip.earth {} .airQuality :=
    Settings.FilesEndEarly.missingFile (List.mem_singleton.2 rfl) (by decide +kernel)
  obtain ⟨-, -, hleft⟩ := hearly [] ⟨.airQuality, {}⟩ Strip.noisePoll ⟨.airQuality, {}⟩ Strip.rest
    rfl rfl (by simp [Strip.noisePoll]) rfl hmissing
  rw [List.nil_append] at hleft
  exact ⟨by decide +kernel, hair, hnoise, hpolls, hmissing, hleft⟩

end Shared

end StreetEnv
