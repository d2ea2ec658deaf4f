import Mathlib.Data.List.Induction
import StreetEnv.Street.Graph

/-!
# Operations that work edge by edge

A pass selects the edges inside an envelope, works on each of them alone and puts them back.  Such
an operation is a map over the edges of the graph, and so is a sequence of them.

* `Graph.edges_replaceIn_map`: selecting, mapping and putting back is a map with a condition;
* `Outcome.inTurn` carries out operations one after the other, until a fault;
* `Outcome.inTurn_of_edgewise`: if every operation is a map over the edges, so is the sequence.

Jobs pass by a record one after the other, and each may overwrite one part of it.  What a job offers
depends only on the rest of the record, so what is left in the end is what the last job with an
offer wrote.

* `Overwrite.apply_run`: what does not depend on the part stays as it is;
* `Overwrite.run_of_no_offer`: without an offer the record stays as it is;
* `Overwrite.run_of_last_offer`: the last offer is the one that stays;
* `Overwrite.run_run`: the same jobs once more change nothing.
-/

namespace StreetEnv

/-! ### Records that are overwritten -/

/-- Jobs of type `ι` that overwrite a part of type `ν` of records of type `ε`. -/
structure Overwrite (ε ι ν : Type) where
  /-- What a job writes on a record, if it writes anything. -/
  offer : ι → ε → Option ν
  /-- The record with another part. -/
  put : ε → ν → ε
  /-- Offers do not depend on the part. -/
  offer_put : ∀ j e v, offer j (put e v) = offer j e
  /-- Of two parts written the second stays. -/
  put_put : ∀ e v w, put (put e v) w = put e w

namespace Overwrite

variable {ε ι ν : Type} (W : Overwrite ε ι ν)

/-- The record after one job. -/
def step (e : ε) (j : ι) : ε := (W.offer j e).elim e (W.put e)

/-- The record after several jobs. -/
def run (jobs : List ι) (e : ε) : ε := jobs.foldl W.step e

theorem run_cons (j : ι) (jobs : List ι) (e : ε) : W.run (j :: jobs) e = W.run jobs (W.step e j) :=
  rfl

theorem run_append (jobs jobs' : List ι) (e : ε) :
    W.run (jobs ++ jobs') e = W.run jobs' (W.run jobs e) :=
  List.foldl_append

theorem run_flatMap {κ : Type} (f : κ → List ι) (ks : List κ) (e : ε) :
    W.run (ks.flatMap f) e = ks.foldl (fun e k => W.run (f k) e) e :=
  List.foldl_flatMap

variable {W}

theorem step_of_offer {j : ι} {e : ε} {v : ν} (h : W.offer j e = some v) :
    W.step e j = W.put e v := by
  simp [step, h]

theorem step_of_no_offer {j : ι} {e : ε} (h : W.offer j e = none) : W.step e j = e := by
  simp [step, h]

/-- Whatever jobs did to a record, at most its part was written. -/
theorem run_eq_or_put (jobs : List ι) (e : ε) :
    W.run jobs e = e ∨ ∃ v, W.run jobs e = W.put e v := by
  induction jobs generalizing e with
  | nil => exact .inl rfl
  | cons j jobs ih =>
    rw [run_cons]
    cases h : W.offer j e with
    | none =>
      rw [step_of_no_offer h]
      exact ih e
    | some v =>
      rw [step_of_offer h]
      rcases ih (W.put e v) with hrun | ⟨w, hrun⟩
      · exact .inr ⟨v, hrun⟩
      · exact .inr ⟨w, by rw [hrun, W.put_put]⟩

variable (W) in
/-- Whatever does not depend on the part is the same after jobs as before them. -/
theorem apply_run {β : Type} (f : ε → β) (hf : ∀ e v, f (W.put e v) = f e) (jobs : List ι)
    (e : ε) : f (W.run jobs e) = f e := by
  rcases W.run_eq_or_put jobs e with h | ⟨v, h⟩
  · rw [h]
  · rw [h, hf]

theorem offer_run (jobs : List ι) (k : ι) (e : ε) : W.offer k (W.run jobs e) = W.offer k e :=
  W.apply_run (W.offer k) (W.offer_put k) jobs e

theorem put_run (jobs : List ι) (e : ε) (v : ν) : W.put (W.run jobs e) v = W.put e v :=
  W.apply_run (W.put · v) (fun e w => W.put_put e w v) jobs e

theorem run_of_no_offer {jobs : List ι} {e : ε} (h : ∀ j ∈ jobs, W.offer j e = none) :
    W.run jobs e = e := by
  induction jobs with
  | nil => rfl
  | cons j jobs ih =>
    rw [run_cons, step_of_no_offer (h j List.mem_cons_self)]
    exact ih fun k hk => h k (List.mem_cons_of_mem j hk)

/-- **The last offer stays**, whatever was written before it. -/
theorem run_of_last_offer {before after : List ι} {j : ι} {e : ε} {v : ν}
    (hj : W.offer j e = some v) (hafter : ∀ k ∈ after, W.offer k e = none) :
    W.run (before ++ j :: after) e = W.put e v := by
  -- the offer is the same as before the earlier jobs, and what they wrote is lost
  have hstep : W.step (W.run before e) j = W.put e v := by
    rw [step_of_offer (v := v) (by rw [offer_run, hj]), put_run]
  rw [run_append, run_cons, hstep]
  refine run_of_no_offer fun k hk => ?_
  rw [W.offer_put]
  exact hafter k hk

/-- **The same jobs once more change nothing.** -/
theorem run_run (jobs : List ι) (e : ε) : W.run jobs (W.run jobs e) = W.run jobs e := by
  induction jobs using List.reverseRecOn with
  | nil => rfl
  | append_singleton jobs j ih =>
    have hsnoc (e : ε) : W.run (jobs ++ [j]) e = W.step (W.run jobs e) j :=
      run_append W jobs [j] e
    cases h : W.offer j e with
    | none =>
      -- the last job writes nothing, so the earlier ones are left
      have hnone : W.run (jobs ++ [j]) e = W.run jobs e := by
        rw [hsnoc, step_of_no_offer ((offer_run jobs j e).trans h)]
      rw [hnone, hsnoc, ih, ← hsnoc, hnone]
    | some v =>
      -- the last job overwrites whatever the earlier ones wrote
      have hput : W.run (jobs ++ [j]) e = W.put e v := by
        rw [hsnoc, step_of_offer ((offer_run jobs j e).trans h), put_run]
      have hagain : W.offer j (W.run jobs (W.put e v)) = some v := by
        rw [offer_run, W.offer_put, h]
      rw [hput, hsnoc, step_of_offer hagain, put_run, W.put_put]

end Overwrite

/-! ### Operations on a graph -/

namespace Graph

theorem merge_map_filter (p : Edge → Bool) (f : Edge → Edge) (es : List Edge) :
    merge p es ((es.filter p).map f) = es.map fun e => if p e = true then f e else e := by
  induction es with
  | nil => rfl
  | cons e es ih =>
    by_cases h : p e = true
    · simp [merge, h, ih]
    · simp [merge, h, ih]

/-- Selecting the edges inside an envelope, mapping them and putting them back is a map over all
edges. -/
theorem edges_replaceIn_map (g : Graph) (box : Envelope) (f : Edge → Edge) :
    (g.replaceIn box ((g.edgesIn box).map f)).edges =
      g.edges.map fun e => if box.contains e.envelope = true then f e else e :=
  merge_map_filter _ f g.edges

end Graph

namespace Outcome

variable {α ι : Type}

/-- Operations on a graph, one after the other, until a fault. -/
def inTurn : List (Graph → Outcome α) → Graph → Outcome (List α)
  | [], g => ⟨g, [], .ok []⟩
  | op :: ops, g =>
    let first := op g
    match first.result with
    | .error f => ⟨first.graph, first.notices, .error f⟩
    | .ok a => ((inTurn ops first.graph).map (a :: ·)).noting first.notices

theorem inTurn_cons_of_ok {op : Graph → Outcome α} {g : Graph} {a : α}
    (h : (op g).result = .ok a) (ops : List (Graph → Outcome α)) :
    inTurn (op :: ops) g =
      ((inTurn ops (op g).graph).map (a :: ·)).noting (op g).notices := by
  simp only [inTurn, h]

theorem inTurn_cons_of_error {op : Graph → Outcome α} {g : Graph} {f : Fault}
    (h : (op g).result = .error f) (ops : List (Graph → Outcome α)) :
    inTurn (op :: ops) g = ⟨(op g).graph, (op g).notices, .error f⟩ := by
  simp only [inTurn, h]

theorem result_inTurn_cons {op : Graph → Outcome α} {ops : List (Graph → Outcome α)} {g : Graph}
    {as : List α} (h : (inTurn (op :: ops) g).result = .ok as) :
    ∃ a rest, as = a :: rest ∧ (op g).result = .ok a ∧
      (inTurn ops (op g).graph).result = .ok rest ∧
      (inTurn (op :: ops) g).graph = (inTurn ops (op g).graph).graph := by
  cases ha : (op g).result with
  | error f =>
    rw [inTurn_cons_of_error ha] at h
    cases h
  | ok a =>
    rw [inTurn_cons_of_ok ha] at h ⊢
    change (inTurn ops (op g).graph).result.map (a :: ·) = .ok as at h
    cases hrest : (inTurn ops (op g).graph).result with
    | error f =>
      rw [hrest] at h
      cases h
    | ok rest =>
      rw [hrest] at h
      exact ⟨a, rest, (Except.ok.inj h).symm, rfl, rfl, rfl⟩

/-- If every operation that succeeds is a map over the edges, then so is a sequence that succeeds.
What an operation answers, and what else its success shows, must not depend on what the others
did. -/
theorem inTurn_of_edgewise {run : ι → Graph → Outcome α} (F : ι → Edge → Edge)
    (answer : ι → List Edge → α) (Shown : ι → List Edge → Prop) {js : List ι}
    (hrun : ∀ j ∈ js, ∀ g a, (run j g).result = .ok a →
      (run j g).graph.edges = g.edges.map (F j) ∧ a = answer j g.edges ∧ Shown j g.edges)
    (hanswer : ∀ j k es, answer k (es.map (F j)) = answer k es)
    (hshown : ∀ j k es, Shown k (es.map (F j)) → Shown k es)
    {g : Graph} {as : List α} (h : (inTurn (js.map run) g).result = .ok as) :
    (inTurn (js.map run) g).graph.edges = g.edges.map (fun e => js.foldl (fun e j => F j e) e) ∧
      as = js.map (fun j => answer j g.edges) ∧ ∀ j ∈ js, Shown j g.edges := by
  induction js generalizing g as with
  | nil =>
    refine ⟨by simp [inTurn], ?_, by simp⟩
    simpa [inTurn] using (Except.ok.inj h).symm
  | cons j js ih =>
    obtain ⟨a, rest, rfl, ha, hrest, hgraph⟩ := result_inTurn_cons h
    obtain ⟨hedges, rfl, hj⟩ := hrun j List.mem_cons_self g a ha
    obtain ⟨ihEdges, rfl, ihShown⟩ :=
      ih (fun k hk => hrun k (List.mem_cons_of_mem j hk)) hrest
    -- the others work on mapped edges, and what they answer there they answer on the given ones
    rw [hedges] at ihShown
    refine ⟨?_, ?_, ?_⟩
    · rw [List.map_cons, hgraph, ihEdges, hedges, List.map_map]
      rfl
    · simp [hedges, hanswer]
    · exact List.forall_mem_cons.2 ⟨hj, fun k hk => hshown j k _ (ihShown k hk)⟩

theorem inTurn_isOk {ops : List (Graph → Outcome α)}
    (h : ∀ op ∈ ops, ∀ g, ∃ a, (op g).result = .ok a) (g : Graph) :
    ∃ as, (inTurn ops g).result = .ok as := by
  induction ops generalizing g with
  | nil => exact ⟨[], rfl⟩
  | cons op ops ih =>
    obtain ⟨a, ha⟩ := h op List.mem_cons_self g
    obtain ⟨rest, hrest⟩ := ih (fun op' hop' => h op' (List.mem_cons_of_mem op hop')) (op g).graph
    refine ⟨a :: rest, ?_⟩
    rw [inTurn_cons_of_ok ha]
    show (inTurn ops (op g).graph).result.map (a :: ·) = _
    rw [hrest]
    rfl

end Outcome

end StreetEnv
