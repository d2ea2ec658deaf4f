import Mathlib.Data.List.Forall2
import StreetEnv.Proofs.Decimal.Integer
import StreetEnv.Proofs.Feature.Courses
import StreetEnv.Proofs.Grid.SampleRange

/-!
# Series as cells of a table

An export has a row per edge, in which the air quality is a text.  A series of integers is kept by
this text: what stands between its commas are the integers, in order.  So only equal series have
equal texts, and the missing cell stands for a missing series alone.

* `Series.numbersOf?`: the whole numbers between the commas of a text;
* `Series.numbersOf?_text`: those of the text of a series of integers;
* `Feature.KeepsSeriesOf`: a row from which the series of an edge is read back;
* `Graph.toTable_rowsOf`: the rows of an export and the edges that they tell of;
* `Graph.toTable_keepsSeries`: what an export keeps of integer series.
-/

namespace StreetEnv

/-! ### Integer series and their texts -/

namespace Series

/-- The cells are integers of the type of the series. -/
structure IsWhole (s : Series) : Prop where
  /-- The type is an integer type. -/
  not_isFloating : s.type.isFloating = false
  /-- The cells are values of it. -/
  holds : ∀ x ∈ s.values, s.type.Holds x

/-- The whole numbers between the commas of a text. -/
def numbersOf? (text : String) : Option (List Int) :=
  (text.toList.splitOn ',').mapM fun piece => Integer.read? (String.ofList piece)

variable {s : Series}

theorem exists_eq_ofInt {type : CellType} (htype : type.isFloating = false) {x : Number}
    (h : type.Holds x) : ∃ n : Int, x = .ofInt n ∧ type.HoldsInt n := by
  cases hrange : type.range? with
  | none =>
    rw [CellType.range?, Option.map_eq_none_iff] at hrange
    simp [CellType.isFloating, hrange] at htype
  | some ends =>
    cases x with
    | rational q =>
      simp only [CellType.Holds, hrange] at h
      obtain ⟨hden, hint⟩ := h
      exact ⟨q.num, congrArg Number.rational (Rat.coe_int_num_of_den_eq_one hden).symm, hint⟩
    | _ => simp only [CellType.Holds, hrange] at h

theorem IsWhole.exists_integers (h : s.IsWhole) :
    ∃ ns : List Int, s.values = ns.map Number.ofInt ∧ ∀ n ∈ ns, s.type.HoldsInt n := by
  have hvalues := h.holds
  revert hvalues
  induction s.values with
  | nil => exact fun _ => ⟨[], rfl, by simp⟩
  | cons x xs ih =>
    intro hvalues
    obtain ⟨n, rfl, hn⟩ := exists_eq_ofInt h.not_isFloating (hvalues x List.mem_cons_self)
    obtain ⟨ns, rfl, hns⟩ := ih fun y hy => hvalues y (List.mem_cons_of_mem _ hy)
    exact ⟨n :: ns, rfl, List.forall_mem_cons.2 ⟨hn, hns⟩⟩

theorem isWhole_map_ofInt {type : CellType} {ns : List Int} (htype : type.isFloating = false)
    (h : ∀ n ∈ ns, type.HoldsInt n) : IsWhole ⟨type, ns.map Number.ofInt⟩ where
  not_isFloating := htype
  holds := by
    refine List.forall_mem_map.2 fun n hn => ?_
    have hint := h n hn
    cases hrange : type.range? with
    | none => simp [CellType.HoldsInt, hrange] at hint
    | some ends => simpa [CellType.Holds, hrange, Number.ofInt] using hint

theorem natAbs_lt_of_holdsInt {type : CellType} {n : Int} (h : type.HoldsInt n) :
    n.natAbs < 10 ^ Integer.maxDigits := by
  cases hrange : type.range? with
  | none => simp [CellType.HoldsInt, hrange] at h
  | some ends =>
    obtain ⟨bits, hhi, hlo, hbits⟩ := CellType.range?_eq_some hrange
    have habs := CellType.abs_le_of_holdsInt hrange hhi hlo h
    have hbits' : bits ≤ 64 := by omega
    calc n.natAbs ≤ 2 ^ bits := by
          rw [← Int.ofNat_le, Int.natCast_natAbs]
          exact_mod_cast habs
      _ ≤ 2 ^ 64 := Nat.pow_le_pow_right (by decide) hbits'
      _ < 10 ^ 20 := by decide
      _ ≤ 10 ^ Integer.maxDigits := Nat.pow_le_pow_right (by decide) (by decide)

theorem numbersOf?_intercalate {ns : List Int} (hne : ns ≠ [])
    (h : ∀ n ∈ ns, n.natAbs < 10 ^ Integer.maxDigits) :
    numbersOf? (",".intercalate (ns.map toString)) = some ns := by
  have hpieces : ((",".intercalate (ns.map toString)).toList).splitOn ',' =
      ns.map fun n => (toString n).toList := by
    rw [String.toList_intercalate, List.map_map]
    refine List.splitOn_intercalate ',' (fun piece hpiece => ?_) (by simpa using hne)
    obtain ⟨n, -, rfl⟩ := List.mem_map.1 hpiece
    exact Integer.comma_notMem_toString n
  rw [numbersOf?, hpieces, List.mapM_map]
  clear hne hpieces
  induction ns with
  | nil => rfl
  | cons n ns ih =>
    obtain ⟨hn, hns⟩ := List.forall_mem_cons.1 h
    rw [List.mapM_cons, Function.comp_apply, String.ofList_toList, Integer.read?_toString hn,
      ih hns]
    rfl

/-- **The text of a series of integers keeps all of them**, in order. -/
theorem numbersOf?_text (h : s.IsWhole) (hne : s.values ≠ []) :
    ∃ ns : List Int, numbersOf? s.text = some ns ∧ s.values = ns.map Number.ofInt := by
  obtain ⟨ns, hvalues, hns⟩ := h.exists_integers
  have htext : s.text = ",".intercalate (ns.map toString) := by
    rw [text, hvalues, List.map_map]
    congr 1
    refine List.map_congr_left fun n _ => ?_
    simp [CellType.cellText, h.not_isFloating, Number.ofInt]
  refine ⟨ns, ?_, hvalues⟩
  rw [htext]
  refine numbersOf?_intercalate ?_ fun n hn => natAbs_lt_of_holdsInt (hns n hn)
  rintro rfl
  exact hne hvalues

end Series

/-! ### Rows -/

namespace Identifier

/-- A cell of a column that names what an identifier does; a whole number may be a double in it. -/
def Names (cell id : Identifier) : Prop :=
  cell = id ∨ ∃ n, id = .integer n ∧ cell = .real (Rounding.binary64.round n)

theorem forall₂_names_column (cells : List Identifier) :
    List.Forall₂ (fun id cell => Names cell id) cells (column cells) := by
  simp only [column]
  split
  · rw [List.forall₂_map_right_iff, List.forall₂_same]
    intro id _
    cases id with
    | integer n => exact .inr ⟨n, rfl, rfl⟩
    | _ => exact .inl rfl
  · exact List.forall₂_same.2 fun id _ => .inl rfl

end Identifier

namespace Feature

/-- The row tells of an edge: its name, its line, and its air quality as text. -/
structure TellsOf (f : Feature) (e : Edge) : Prop where
  /-- It has the name. -/
  names : f.id.Names e.id
  /-- It has the line. -/
  geometry_eq : f.geometry = some (.line e.vertices)
  /-- It has the text. -/
  airQuality_eq : f.airQuality = e.airQuality.map Series.text

/-- The series of the edge is read back from the row, and missing only if there is none. -/
structure KeepsSeriesOf (f : Feature) (e : Edge) : Prop where
  /-- The cell is missing if and only if the series is. -/
  missing_iff : f.airQuality = none ↔ e.airQuality = none
  /-- Otherwise the integers of the series stand between the commas of the cell. -/
  reads : ∀ s, e.airQuality = some s → ∃ text ns, f.airQuality = some text ∧
    Series.numbersOf? text = some ns ∧ s.values = ns.map Number.ofInt

variable {f f' : Feature} {e e' : Edge}

theorem TellsOf.keepsSeriesOf (h : f.TellsOf e)
    (he : ∀ s, e.airQuality = some s → s.IsWhole ∧ s.values ≠ []) : f.KeepsSeriesOf e where
  missing_iff := by rw [h.airQuality_eq, Option.map_eq_none_iff]
  reads s hs := by
    obtain ⟨hwhole, hne⟩ := he s hs
    obtain ⟨ns, hread, hvalues⟩ := Series.numbersOf?_text hwhole hne
    exact ⟨s.text, ns, by rw [h.airQuality_eq, hs, Option.map_some], hread, hvalues⟩

theorem KeepsSeriesOf.values_eq (h : f.KeepsSeriesOf e) (h' : f'.KeepsSeriesOf e')
    (heq : f.airQuality = f'.airQuality) :
    e.airQuality.map Series.values = e'.airQuality.map Series.values := by
  cases hs : e.airQuality with
  | none =>
    have hmissing : f'.airQuality = none := heq ▸ h.missing_iff.2 hs
    rw [h'.missing_iff.1 hmissing]
  | some s =>
    obtain ⟨text, ns, htext, hread, hvalues⟩ := h.reads s hs
    cases hs' : e'.airQuality with
    | none => rw [heq, h'.missing_iff.2 hs'] at htext; cases htext
    | some s' =>
      obtain ⟨text', ns', htext', hread', hvalues'⟩ := h'.reads s' hs'
      obtain rfl : text = text' := Option.some.inj (htext.symm.trans (heq.trans htext'))
      obtain rfl : ns = ns' := Option.some.inj (hread.symm.trans hread')
      rw [Option.map_some, Option.map_some, hvalues, hvalues']

end Feature

namespace Graph

theorem forall₂_tellsOf {edges : List Edge} {cells : List Identifier}
    (h : List.Forall₂ (fun e (cell : Identifier) => cell.Names e.id) edges cells) :
    List.Forall₂ (fun e (f : Feature) => f.TellsOf e) edges
      (((edges.map Edge.toFeature).zip cells).map fun (f, id) => { f with id := id }) := by
  induction h with
  | nil => exact .nil
  | cons hname _ ih => exact .cons ⟨hname, rfl, rfl⟩ ih

theorem toTable_rowsOf (g : Graph) :
    List.Forall₂ (fun e (f : Feature) => f.TellsOf e) g.edges g.toTable.rows := by
  have hcolumn := Identifier.forall₂_names_column ((g.edges.map Edge.toFeature).map (·.id))
  rw [List.forall₂_map_left_iff, List.forall₂_map_left_iff] at hcolumn
  exact forall₂_tellsOf hcolumn

/-- **An export keeps every series of integers.**  It has one row per edge, in order, with the name
and the line of the edge; the cell of the air quality is missing exactly if the edge has none, and
otherwise the integers of the series are read back between its commas.  So the rows of different
series differ. -/
theorem toTable_keepsSeries (g : Graph)
    (h : ∀ e ∈ g.edges, ∀ s, e.airQuality = some s → s.IsWhole ∧ s.values ≠ []) :
    List.Forall₂ (fun e (f : Feature) => f.TellsOf e ∧ f.KeepsSeriesOf e) g.edges g.toTable.rows ∧
    ∀ (i j : Nat) e e' f f', g.edges[i]? = some e → g.edges[j]? = some e' →
      g.toTable.rows[i]? = some f → g.toTable.rows[j]? = some f' →
      e.airQuality.map Series.values ≠ e'.airQuality.map Series.values →
      f.airQuality ≠ f'.airQuality := by
  have hrows : List.Forall₂ (fun e (f : Feature) => f.TellsOf e ∧ f.KeepsSeriesOf e) g.edges
      g.toTable.rows :=
    ((List.forall₂_and_left _ _).2 ⟨h, g.toTable_rowsOf⟩).imp
      fun e f hef => ⟨hef.2, hef.2.keepsSeriesOf hef.1⟩
  have hkeeps (i : Nat) {e f} (he : g.edges[i]? = some e) (hf : g.toTable.rows[i]? = some f) :
      f.KeepsSeriesOf e :=
    (List.forall₂_zip hrows (List.mem_of_getElem? (List.getElem?_zip_eq_some.2 ⟨he, hf⟩))).2
  refine ⟨hrows, fun i j e e' f f' he he' hf hf' hne heq => hne ?_⟩
  exact (hkeeps i he hf).values_eq (hkeeps j he' hf') heq

/-- A street from a point of the equator to another, with an air quality. -/
def equatorStreet (id : Identifier) (a b : Nat) (airQuality : Option Series) : Edge :=
  { id := id, origin := ⟨.natural a, 0⟩, destination := ⟨.natural b, 0⟩, airQuality := airQuality }

/-- A negative number, the largest number of the widest type, and a street without a series; the
whole numbers that name the streets become doubles beside a missing name. -/
theorem toTable_keepsSeries_extremes :
    let g : Graph := ⟨[equatorStreet (.integer 7) 0 1 (some ⟨.int8, [-128, 12].map Number.ofInt⟩),
      equatorStreet .missing 1 2 (some ⟨.uint64, [2 ^ 64 - 1, 0].map Number.ofInt⟩),
      equatorStreet (.integer 8) 2 3 none]⟩
    (∀ e ∈ g.edges, ∀ s, e.airQuality = some s → s.IsWhole ∧ s.values ≠ []) ∧
      g.toTable.rows.map (·.airQuality) =
        [some "-128,12", some "18446744073709551615,0", none] ∧
      Series.numbersOf? "-128,12" = some [-128, 12] ∧
      List.Forall₂ (fun e (f : Feature) => f.TellsOf e ∧ f.KeepsSeriesOf e) g.edges
        g.toTable.rows := by
  intro g
  have h : ∀ e ∈ g.edges, ∀ s, e.airQuality = some s → s.IsWhole ∧ s.values ≠ [] := by
    simp only [g, equatorStreet, List.forall_mem_cons, Option.some.injEq, forall_eq']
    refine ⟨⟨Series.isWhole_map_ofInt rfl (by decide), List.cons_ne_nil _ _⟩,
      ⟨Series.isWhole_map_ofInt rfl (by decide), List.cons_ne_nil _ _⟩, by simp⟩
  have hcells : g.toTable.rows.map (·.airQuality) =
      [some "-128,12", some "18446744073709551615,0", none] := by decide +kernel
  exact ⟨h, hcells, by decide +kernel, (toTable_keepsSeries g h).1⟩

end Graph

end StreetEnv
