import StreetEnv.Street.Graph

/-!
# Footprints of operations on a graph

What an operation sees and writes of an edge is given by a view that erases everything else.  An
operation keeps to a footprint if it does the same to edges that look the same in its own view, and
leaves every edge as it was in the view of the rest.

* `Edge.muted` and `Edge.unaired` are the views without the noise and without the air quality;
* `Outcome.KeepsTo` says that an operation keeps to a footprint;
* `Outcome.KeepsTo.congr`: on graphs that look the same such an operation does the same;
* `Outcome.keepsTo_inside`: to work on the edges inside an envelope and put them back keeps to a
  footprint if the work on the selected edges does.

An operation is repeatable on a graph if, carried out again on what it left there, it leaves the
same graph with the same notices and the same answer.

* `Outcome.IsRepeatable` says that an operation is repeatable;
* `Outcome.isRepeatable_inside`: to work on the edges inside an envelope and put them back is
  repeatable if the work is;
* `Outcome.AnswersBy` says that an operation answers by a view of the edges alone;
* `Outcome.again_after`: an operation that sees no noise is not disturbed by one that writes
  nothing else.
-/

namespace StreetEnv

/-! ### Views -/

namespace Edge

/-- The edge without its noise. -/
def muted (e : Edge) : Edge := { e with noise := none }

/-- The edge without its air quality. -/
def unaired (e : Edge) : Edge := { e with airQuality := none, airQualityTime := none }

@[simp] theorem envelope_muted (e : Edge) : e.muted.envelope = e.envelope := rfl

@[simp] theorem envelope_unaired (e : Edge) : e.unaired.envelope = e.envelope := rfl

@[simp] theorem muted_withNoise (e : Edge) (x : Number) : (e.withNoise x).muted = e.muted := rfl

@[simp] theorem unaired_withAirQuality (e : Edge) (s : Series) (time : Int) :
    (e.withAirQuality s time).unaired = e.unaired := rfl

end Edge

namespace Graph

/-- The graph with all edges changed. -/
def map (f : Edge → Edge) (g : Graph) : Graph := ⟨g.edges.map f⟩

theorem map_edges_congr {β : Type} {view : Edge → Edge} {g g' : Graph}
    (h : g.map view = g'.map view) {f : Edge → β} (hf : ∀ e, f (view e) = f e) :
    g.edges.map f = g'.edges.map f := by
  have hview (g : Graph) : g.edges.map f = (g.map view).edges.map f := by
    rw [map, List.map_map]
    exact List.map_congr_left fun e _ => (hf e).symm
  rw [hview, h, ← hview]

theorem edgesIn_map {f : Edge → Edge} (hf : ∀ e, (f e).envelope = e.envelope) (g : Graph)
    (box : Envelope) : (g.map f).edgesIn box = (g.edgesIn box).map f := by
  have hsame : (fun e => box.contains e.envelope) ∘ f = fun e => box.contains e.envelope :=
    funext fun e => congrArg box.contains (hf e)
  rw [edgesIn, map, List.filter_map, hsame]
  rfl

theorem merge_map {p : Edge → Bool} {f : Edge → Edge} (hf : ∀ e, p (f e) = p e)
    (es us : List Edge) : merge p (es.map f) (us.map f) = (merge p es us).map f := by
  induction es generalizing us with
  | nil => rfl
  | cons e es ih =>
    by_cases h : p e = true
    · cases us with
      | nil =>
        have hrest := ih []
        rw [List.map_nil] at hrest
        simp [merge, hf, h, hrest]
      | cons u us => simp [merge, hf, h, ih]
    · simp [merge, hf, h, ih]

theorem replaceIn_map {f : Edge → Edge} (hf : ∀ e, (f e).envelope = e.envelope) (g : Graph)
    (box : Envelope) (updated : List Edge) :
    (g.map f).replaceIn box (updated.map f) = (g.replaceIn box updated).map f := by
  have hsame (e : Edge) : box.contains (f e).envelope = box.contains e.envelope := by rw [hf]
  rw [replaceIn, replaceIn, map, map, merge_map hsame]

theorem map_merge {β : Type} {p : Edge → Bool} {f : Edge → β} {es us : List Edge}
    (h : us.map f = (es.filter p).map f) : (merge p es us).map f = es.map f := by
  induction es generalizing us with
  | nil => rfl
  | cons e es ih =>
    by_cases he : p e = true
    · rw [List.filter_cons_of_pos he, List.map_cons] at h
      obtain ⟨u, us, rfl, hu, hus⟩ := List.map_eq_cons_iff.1 h
      simp [merge, he, hu, ih hus]
    · rw [List.filter_cons_of_neg he] at h
      simp [merge, he, ih h]

end Graph

/-! ### Operations -/

namespace Outcome

variable {α β : Type} {own rest : Edge → Edge} {op : Graph → Outcome α}

/-- An operation keeps to a footprint: it sees and writes edges in its own view alone, and leaves
the rest. -/
structure KeepsTo (own rest : Edge → Edge) (op : Graph → Outcome α) : Prop where
  /-- What it does in its own view depends on that view alone. -/
  own_eq : ∀ g, op (g.map own) = { op g with graph := (op g).graph.map own }
  /-- In the other view it changes nothing. -/
  rest_eq : ∀ g, (op g).graph.map rest = g.map rest

namespace KeepsTo

/-- On graphs that look the same, an operation leaves the same in its own view, and answers the
same. -/
theorem congr (h : KeepsTo own rest op) {g g' : Graph} (hg : g.map own = g'.map own) :
    (op g).graph.map own = (op g').graph.map own ∧ (op g).notices = (op g').notices ∧
      (op g).result = (op g').result := by
  have hsame := h.own_eq g
  rw [hg, h.own_eq g'] at hsame
  obtain ⟨hgraph, hnotices, hresult⟩ := Outcome.mk.inj hsame
  exact ⟨hgraph.symm, hnotices.symm, hresult.symm⟩

theorem const (notices : List Notice) (result : Except Fault α) :
    KeepsTo own rest fun g => ⟨g, notices, result⟩ where
  own_eq _ := rfl
  rest_eq _ := rfl

theorem noting (h : KeepsTo own rest op) (notices : List Notice) :
    KeepsTo own rest fun g => (op g).noting notices where
  own_eq g := by rw [h.own_eq g]; rfl
  rest_eq := h.rest_eq

theorem map (h : KeepsTo own rest op) (f : α → β) : KeepsTo own rest fun g => (op g).map f where
  own_eq g := by rw [h.own_eq g]; rfl
  rest_eq := h.rest_eq

end KeepsTo

/-- Work on the edges inside an envelope: the edges are put back, with notices and an answer. -/
def inside (box : Envelope) (work : List Edge → List Edge × List Notice × Except Fault α)
    (g : Graph) : Outcome α :=
  let done := work (g.edgesIn box)
  ⟨g.replaceIn box done.1, done.2.1, done.2.2⟩

theorem keepsTo_inside (hown : ∀ e, (own e).envelope = e.envelope) (box : Envelope)
    {work : List Edge → List Edge × List Notice × Except Fault α}
    (hwork : ∀ es, work (es.map own) = ((work es).1.map own, (work es).2))
    (hrest : ∀ es, (work es).1.map rest = es.map rest) :
    KeepsTo own rest (inside box work) where
  own_eq g := by
    simp only [inside, Graph.edgesIn_map hown, hwork, Graph.replaceIn_map hown]
  rest_eq g := congrArg Graph.mk (Graph.map_merge (hrest (g.edgesIn box)))

end Outcome

/-! ### Operations carried out again -/

theorem Edge.eq_of_views {e e' : Edge} (hmuted : e.muted = e'.muted)
    (hunaired : e.unaired = e'.unaired) : e = e' := by
  obtain ⟨id, origin, destination, line, airQuality, time, noise⟩ := e
  obtain ⟨id', origin', destination', line', airQuality', time', noise'⟩ := e'
  simp only [muted, Edge.mk.injEq, and_true] at hmuted
  simp only [unaired, Edge.mk.injEq] at hunaired
  obtain ⟨rfl, rfl, rfl, rfl, rfl, rfl⟩ := hmuted
  obtain ⟨-, -, -, -, -, -, rfl⟩ := hunaired
  rfl

namespace Graph

theorem eq_of_views {g g' : Graph} (hmuted : g.map Edge.muted = g'.map Edge.muted)
    (hunaired : g.map Edge.unaired = g'.map Edge.unaired) : g = g' := by
  have hviews (g : Graph) : g.edges.map (fun e => (e.muted, e.unaired)) =
      (g.map Edge.muted).edges.zip (g.map Edge.unaired).edges :=
    List.zip_map'.symm
  have hedges : g.edges.map (fun e => (e.muted, e.unaired)) =
      g'.edges.map (fun e => (e.muted, e.unaired)) := by
    rw [hviews, hmuted, hunaired, ← hviews]
  refine congrArg Graph.mk ((List.map_inj_right fun e e' h => ?_).1 hedges)
  obtain ⟨h, h'⟩ := Prod.mk.inj h
  exact Edge.eq_of_views h h'

theorem filter_merge {p : Edge → Bool} {es us : List Edge}
    (h : us.map p = (es.filter p).map p) : (merge p es us).filter p = us := by
  induction es generalizing us with
  | nil =>
    rw [List.filter_nil, List.map_nil, List.map_eq_nil_iff] at h
    rw [h]
    rfl
  | cons e es ih =>
    by_cases he : p e = true
    · rw [List.filter_cons_of_pos he, List.map_cons] at h
      obtain ⟨u, us, rfl, hu, hus⟩ := List.map_eq_cons_iff.1 h
      rw [he] at hu
      simp [merge, he, hu, ih hus]
    · rw [List.filter_cons_of_neg he] at h
      simp [merge, he, ih h]

theorem edgesIn_replaceIn {g : Graph} {box : Envelope} {us : List Edge}
    (h : us.map Edge.envelope = (g.edgesIn box).map Edge.envelope) :
    (g.replaceIn box us).edgesIn box = us := by
  apply filter_merge
  have hcontains := congrArg (List.map box.contains) h
  rw [List.map_map, List.map_map] at hcontains
  exact hcontains

end Graph

namespace Outcome

variable {α β : Type} {op : Graph → Outcome α} {g : Graph}

theorem result_map_eq_ok_iff {o : Outcome α} {f : α → β} {b : β} :
    (o.map f).result = .ok b ↔ ∃ a, o.result = .ok a ∧ f a = b := by
  obtain ⟨g, notices, result⟩ := o
  cases result with
  | error fault => simp [Outcome.map, Except.map]
  | ok a => simp [Outcome.map, Except.map]

/-! ### Repeatable operations -/

/-- Carried out again on what it left of a graph, the operation leaves the same graph with the same
notices and the same answer. -/
def IsRepeatable (op : Graph → Outcome α) (g : Graph) : Prop := op (op g).graph = op g

theorem isRepeatable_const (notices : List Notice) (result : Except Fault α) :
    IsRepeatable (fun g => ⟨g, notices, result⟩) g :=
  rfl

theorem IsRepeatable.noting (h : IsRepeatable op g) (notices : List Notice) :
    IsRepeatable (fun g => (op g).noting notices) g :=
  congrArg (Outcome.noting notices) h

theorem IsRepeatable.map (h : IsRepeatable op g) (f : α → β) :
    IsRepeatable (fun g => (op g).map f) g :=
  congrArg (Outcome.map f) h

theorem isRepeatable_inside {box : Envelope}
    {work : List Edge → List Edge × List Notice × Except Fault α}
    (henvelope : (work (g.edgesIn box)).1.map Edge.envelope =
      (g.edgesIn box).map Edge.envelope)
    (hwork : work (work (g.edgesIn box)).1 = work (g.edgesIn box)) :
    IsRepeatable (inside box work) g := by
  have hselected : (inside box work g).graph.edgesIn box = (work (g.edgesIn box)).1 :=
    Graph.edgesIn_replaceIn henvelope
  -- the work leaves what it is given, and to put that back changes nothing
  have hback : (inside box work g).graph.replaceIn box (work (g.edgesIn box)).1 =
      (inside box work g).graph := by
    rw [← hselected, Graph.replaceIn_edgesIn]
  show inside box work (inside box work g).graph = inside box work g
  unfold inside at hselected hback ⊢
  dsimp only at hselected hback ⊢
  rw [hselected, hwork, hback]

/-! ### What an operation answers -/

/-- On graphs that look the same in a view the operation gives the same notices and answers the
same. -/
def AnswersBy (view : Edge → Edge) (op : Graph → Outcome α) : Prop :=
  ∀ g g', g.map view = g'.map view →
    (op g).notices = (op g').notices ∧ (op g).result = (op g').result

namespace AnswersBy

variable {view : Edge → Edge}

theorem const (notices : List Notice) (result : Except Fault α) :
    AnswersBy view fun g => ⟨g, notices, result⟩ :=
  fun _ _ _ => ⟨rfl, rfl⟩

theorem inside (hview : ∀ e, (view e).envelope = e.envelope) (box : Envelope)
    {work : List Edge → List Edge × List Notice × Except Fault α}
    (hwork : ∀ es, (work (es.map view)).2 = (work es).2) :
    AnswersBy view (Outcome.inside box work) := by
  intro g g' hg
  have hanswer : (work (g.edgesIn box)).2 = (work (g'.edgesIn box)).2 := by
    rw [← hwork, ← Graph.edgesIn_map hview, hg, Graph.edgesIn_map hview, hwork]
  exact ⟨congrArg Prod.fst hanswer, congrArg Prod.snd hanswer⟩

theorem isRepeatable (h : AnswersBy view op) (hview : (op g).graph.map view = g.map view)
    (hgraph : (op (op g).graph).graph = (op g).graph) : IsRepeatable op g := by
  obtain ⟨hnotices, hresult⟩ := h _ _ hview
  calc op (op g).graph
    _ = ⟨(op (op g).graph).graph, (op (op g).graph).notices, (op (op g).graph).result⟩ := rfl
    _ = op g := by rw [hgraph, hnotices, hresult]

end AnswersBy

/-! ### Two footprints -/

/-- **An operation that sees no noise is not disturbed by one that writes nothing else.**  After
both, the first one once more leaves the graph as it is, with the notices and the answer it had. -/
theorem again_after {first : Graph → Outcome α} {second : Graph → Outcome β}
    (hfirst : KeepsTo Edge.muted Edge.unaired first)
    (hsecond : ∀ g, (second g).graph.map Edge.muted = g.map Edge.muted)
    (h : IsRepeatable first g) :
    first (second (first g).graph).graph =
      { first g with graph := (second (first g).graph).graph } := by
  -- the first operation does what it did when it was alone
  have hsame := hfirst.congr (hsecond (first g).graph)
  rw [show first (first g).graph = first g from h] at hsame
  obtain ⟨hmuted, hnotices, hresult⟩ := hsame
  have hgraph : (first (second (first g).graph).graph).graph = (second (first g).graph).graph :=
    Graph.eq_of_views (hmuted.trans (hsecond _).symm) (hfirst.rest_eq _)
  calc first (second (first g).graph).graph
    _ = ⟨(first (second (first g).graph).graph).graph,
          (first (second (first g).graph).graph).notices,
          (first (second (first g).graph).graph).result⟩ := rfl
    _ = _ := by rw [hgraph, hnotices, hresult]

end Outcome

end StreetEnv
