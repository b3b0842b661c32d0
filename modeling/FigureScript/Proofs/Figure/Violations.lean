import FigureScript.Proofs.Figure.Accepted

/-!
# Violations of the format

What the format asks of a figure is a list of conditions, each at a path of the figure.  The
check of a figure succeeds when all of them hold.  When it fails, it names the path of the
first one in the list that does not hold.

## Main Definitions

* `Condition` — what has to hold at a path
* `Figure.conditions` — the conditions of a figure, in the order in which they are reported
* `Figure.Valid` — the same without paths and without an order
* `FirstViolation` — the path of the first condition that does not hold

## Main Results

* `Reports` — a check finds the first violation of some conditions, with its lemmas for
  single checks, sequences, traversals and parts
* `Figure.forall_conditions` — a figure is valid when all its conditions hold
* `Figure.check_reports_first` — what the check of a figure says

## Design Notes

Conditions are given with the paths that a reader sees, `plots[0][1].series[2].x`, and do not
mention how a location is stored.  A part of a figure has conditions of its own, and the whole
puts the path of the part in front of them.
-/

namespace FigureScript

open Outcome

/-! ### Conditions -/

/-- **A condition of the format**: what has to hold at a path of a figure. -/
structure Condition where
  path : String
  Holds : Prop

/-- The same condition of a part of a figure, whose paths begin with `start`. -/
def Condition.under (start : String) (c : Condition) : Condition :=
  ⟨start ++ c.path, c.Holds⟩

/-- **The first violation** of some conditions is at a path: the conditions in front of it
hold, and it does not. -/
def FirstViolation (conditions : List Condition) (path : String) : Prop :=
  ∃ before c after, conditions = before ++ c :: after ∧ (∀ b ∈ before, b.Holds) ∧ ¬ c.Holds ∧
    c.path = path

namespace FirstViolation

variable {first second : List Condition} {path : String}

theorem singleton {Holds : Prop} (h : ¬ Holds) : FirstViolation [⟨path, Holds⟩] path :=
  ⟨[], _, [], rfl, List.forall_mem_nil _, h, rfl⟩

/-- Conditions behind the first violation do not matter. -/
theorem append_left (h : FirstViolation first path) (second : List Condition) :
    FirstViolation (first ++ second) path := by
  obtain ⟨before, c, after, rfl, hbefore, hc, hpath⟩ := h
  refine ⟨before, c, after ++ second, ?_, hbefore, hc, hpath⟩
  rw [List.append_assoc, List.cons_append]

/-- Conditions that hold can stand in front of the first violation. -/
theorem append_right (hfirst : ∀ c ∈ first, c.Holds) (h : FirstViolation second path) :
    FirstViolation (first ++ second) path := by
  obtain ⟨before, c, after, rfl, hbefore, hc, hpath⟩ := h
  refine ⟨first ++ before, c, after, (List.append_assoc ..).symm, ?_, hc, hpath⟩
  rw [List.forall_mem_append]
  exact ⟨hfirst, hbefore⟩

theorem under (h : FirstViolation first path) (start : String) :
    FirstViolation (first.map (.under start)) (start ++ path) := by
  obtain ⟨before, c, after, rfl, hbefore, hc, rfl⟩ := h
  refine ⟨before.map (.under start), c.under start, after.map (.under start), ?_, ?_, hc, rfl⟩
  · rw [List.map_append, List.map_cons]
  · intro b hb
    obtain ⟨b, hmem, rfl⟩ := List.mem_map.mp hb
    exact hbefore b hmem

/-- The first violation is one. -/
theorem not_forall (h : FirstViolation first path) : ¬ ∀ c ∈ first, c.Holds := by
  obtain ⟨before, c, after, rfl, -, hc, -⟩ := h
  intro hall
  exact hc (hall c (List.mem_append_right before List.mem_cons_self))

end FirstViolation

theorem forall_under {start : String} {conditions : List Condition} :
    (∀ c ∈ conditions.map (Condition.under start), c.Holds) ↔ ∀ c ∈ conditions, c.Holds := by
  rw [List.forall_mem_map]
  rfl

/-! ### The conditions of a figure -/

/-- **The conditions of a rectangle**: it has a first row with something in it, and each row
is as long as that one. -/
def rectangleConditions {α : Type} (name : String) (cols : Nat) (rows : List (List α)) :
    List Condition :=
  ⟨name, rows ≠ [] ∧ cols ≠ 0⟩ ::
    rows.zipIdx.map fun (row, i) => ⟨name ++ s!"[{i}]", row.length = cols⟩

/-- A list of values has one for each point; a single value is one for all of them. -/
def Values.CoverPoints (points : Nat) (values : Option Values) : Prop :=
  ∀ list, values = some (.points list) → list.length = points

/-- **The conditions of a series**, field by field. -/
def Series.conditions (s : Series) : List Condition :=
  let points := s.y.length
  [⟨"y", s.y ≠ []⟩,
    ⟨"x", ∀ xs, s.x = some xs → xs.length = points⟩,
    ⟨"xerr", Values.CoverPoints points s.xerr⟩,
    ⟨"yerr", Values.CoverPoints points s.yerr⟩,
    ⟨"xmin", Values.CoverPoints points s.xmin⟩,
    ⟨"xmax", Values.CoverPoints points s.xmax⟩,
    ⟨"ymin", Values.CoverPoints points s.ymin⟩,
    ⟨"ymax", Values.CoverPoints points s.ymax⟩,
    ⟨"color", ∀ n, s.color = some n → 1 ≤ n⟩,
    ⟨"line", ∀ n, s.line = some n → 1 ≤ n⟩]

/-- The conditions of a chart: a series, then those of each series. -/
def Plot.conditions (p : Plot) : List Condition :=
  ⟨"series", p.series ≠ []⟩ ::
    p.series.zipIdx.flatMap fun (s, k) => s.conditions.map (.under s!"series[{k}].")

/-- Coordinates are one for each cell, or one more. -/
def FitCells (cells : Nat) (coordinates : Option (List Float)) : Prop :=
  ∀ values, coordinates = some values → values.length = cells ∨ values.length = cells + 1

/-- The conditions of a scalar field: the rectangle, then the coordinates. -/
def Colorplot.conditions (c : Colorplot) : List Condition :=
  rectangleConditions "z" c.cols c.z ++ [⟨"x", FitCells c.cols c.x⟩, ⟨"y", FitCells c.z.length c.y⟩]

def Cell.conditions : Cell → List Condition
  | plot p => p.conditions
  | colorplot c => c.conditions

/-- **The conditions of a grid**: the rectangle, then those of the cells, row by row. -/
def Multiplot.conditions (m : Multiplot) : List Condition :=
  rectangleConditions "plots" m.cols m.plots ++
    m.plots.zipIdx.flatMap fun (row, i) => row.zipIdx.flatMap fun (cell, j) =>
      cell.conditions.map (.under s!"plots[{i}][{j}].")

/-- **The conditions of a figure**, in the order in which they are reported. -/
def Figure.conditions : Figure → List Condition
  | plot p => p.conditions
  | colorplot c => c.conditions
  | multiplot m => m.conditions

/-! ### Valid figures -/

/-- **A rectangle** of rows, with something in it. -/
structure IsRectangle {α : Type} (grid : List (List α)) (rows cols : Nat) : Prop where
  rows_pos : 0 < rows
  cols_pos : 0 < cols
  length : grid.length = rows
  length_row : ∀ row ∈ grid, row.length = cols

def Plot.Valid (p : Plot) : Prop :=
  p.series ≠ [] ∧ ∀ s ∈ p.series, s.Valid

def Colorplot.Valid (c : Colorplot) : Prop :=
  ∃ rows cols, IsRectangle c.z rows cols ∧ FitCells cols c.x ∧ FitCells rows c.y

def Cell.Valid : Cell → Prop
  | plot p => p.Valid
  | colorplot c => c.Valid

def Multiplot.Valid (m : Multiplot) : Prop :=
  (∃ rows cols, IsRectangle m.plots rows cols) ∧ ∀ row ∈ m.plots, ∀ cell ∈ row, cell.Valid

/-- **A valid figure**: everything that the format asks for, in no order. -/
def Figure.Valid : Figure → Prop
  | plot p => p.Valid
  | colorplot c => c.Valid
  | multiplot m => m.Valid

theorem forall_mem_zipIdx {α : Type} {items : List α} {P : α → Prop} :
    (∀ entry ∈ items.zipIdx, P entry.1) ↔ ∀ a ∈ items, P a := by
  constructor
  · intro h a ha
    obtain ⟨i, hi⟩ := List.mem_iff_getElem?.mp ha
    exact h (a, i) (List.mk_mem_zipIdx_iff_getElem?.mpr hi)
  · intro h entry hentry
    exact h entry.1 (List.fst_mem_of_mem_zipIdx hentry)

/-- The number of columns is the length of the first row. -/
theorem isRectangle_iff {α : Type} {grid : List (List α)} {rows cols : Nat} :
    IsRectangle grid rows cols ↔
      grid ≠ [] ∧ cols ≠ 0 ∧ rows = grid.length ∧ ∀ row ∈ grid, row.length = cols := by
  constructor
  · intro h
    refine ⟨?_, Nat.ne_of_gt h.cols_pos, h.length.symm, h.length_row⟩
    rw [← List.length_pos_iff, h.length]
    exact h.rows_pos
  · rintro ⟨hne, hcols, rfl, hrows⟩
    exact ⟨List.length_pos_iff.mpr hne, Nat.pos_of_ne_zero hcols, rfl, hrows⟩

theorem forall_rectangleConditions {α : Type} {name : String} {cols : Nat}
    {rows : List (List α)} :
    (∀ c ∈ rectangleConditions name cols rows, c.Holds) ↔ IsRectangle rows rows.length cols := by
  rw [rectangleConditions, List.forall_mem_cons, List.forall_mem_map, isRectangle_iff]
  have hrows : (∀ entry ∈ rows.zipIdx, entry.1.length = cols) ↔ ∀ row ∈ rows, row.length = cols :=
    forall_mem_zipIdx (P := fun row : List α => row.length = cols)
  constructor
  · rintro ⟨⟨hne, hcols⟩, h⟩
    exact ⟨hne, hcols, rfl, hrows.mp h⟩
  · rintro ⟨hne, hcols, -, h⟩
    exact ⟨⟨hne, hcols⟩, hrows.mpr h⟩

/-- A rectangle is as wide as its first row. -/
theorem IsRectangle.cols_eq {α : Type} {grid : List (List α)} {rows cols : Nat}
    (h : IsRectangle grid rows cols) : (grid.head?.map List.length).getD 0 = cols := by
  obtain ⟨hne, -, -, hrows⟩ := isRectangle_iff.mp h
  cases grid with
  | nil => exact absurd rfl hne
  | cons first rest => exact hrows first List.mem_cons_self

theorem Values.coverPoints_iff {points : Nat} {values : Option Values} :
    CoverPoints points values ↔ ∀ v ∈ values, v.fits points = true := by
  cases values with
  | none => simp [CoverPoints]
  | some v => cases v <;> simp [CoverPoints, fits]

/-- A series is valid when its conditions hold. -/
theorem Series.forall_conditions {s : Series} : (∀ c ∈ s.conditions, c.Holds) ↔ s.Valid := by
  simp only [conditions, List.forall_mem_cons, Values.coverPoints_iff]
  constructor
  · rintro ⟨hy, hx, hxerr, hyerr, hxmin, hxmax, hymin, hymax, hcolor, hline, -⟩
    refine ⟨hy, hx, ?_, hcolor, hline⟩
    simp only [errorFields, List.forall_mem_cons]
    exact ⟨hxerr, hyerr, hxmin, hxmax, hymin, hymax, List.forall_mem_nil _⟩
  · intro h
    have herrors := h.errors
    simp only [errorFields, List.forall_mem_cons] at herrors
    obtain ⟨hxerr, hyerr, hxmin, hxmax, hymin, hymax, -⟩ := herrors
    exact ⟨h.nonempty, h.x, hxerr, hyerr, hxmin, hxmax, hymin, hymax, h.color, h.line,
      List.forall_mem_nil _⟩

theorem Plot.forall_conditions {p : Plot} : (∀ c ∈ p.conditions, c.Holds) ↔ p.Valid := by
  rw [conditions, List.forall_mem_cons, List.forall_mem_flatMap, Valid]
  simp only [forall_under, Series.forall_conditions]
  rw [forall_mem_zipIdx (P := Series.Valid)]

theorem Colorplot.forall_conditions {c : Colorplot} :
    (∀ b ∈ c.conditions, b.Holds) ↔ c.Valid := by
  rw [conditions, List.forall_mem_append, forall_rectangleConditions]
  simp only [List.forall_mem_cons]
  constructor
  · rintro ⟨hrectangle, hx, hy, -⟩
    exact ⟨_, _, hrectangle, hx, hy⟩
  · rintro ⟨rows, cols, hrectangle, hx, hy⟩
    have hcols : c.cols = cols := hrectangle.cols_eq
    rw [hcols, hrectangle.length]
    exact ⟨hrectangle, hx, hy, List.forall_mem_nil _⟩

theorem Cell.forall_conditions {cell : Cell} : (∀ c ∈ cell.conditions, c.Holds) ↔ cell.Valid := by
  cases cell with
  | plot p => exact Plot.forall_conditions
  | colorplot c => exact Colorplot.forall_conditions

theorem Multiplot.forall_conditions {m : Multiplot} :
    (∀ c ∈ m.conditions, c.Holds) ↔ m.Valid := by
  rw [conditions, List.forall_mem_append, forall_rectangleConditions, Valid]
  simp only [List.forall_mem_flatMap, forall_under, Cell.forall_conditions]
  have hrow (row : List Cell) : (∀ entry ∈ row.zipIdx, entry.1.Valid) ↔ ∀ cell ∈ row, cell.Valid :=
    forall_mem_zipIdx
  simp only [hrow]
  rw [forall_mem_zipIdx (P := fun row : List Cell => ∀ cell ∈ row, cell.Valid)]
  refine and_congr_left fun _ => ⟨fun h => ⟨_, _, h⟩, ?_⟩
  rintro ⟨rows, cols, hrectangle⟩
  have hcols : m.cols = cols := hrectangle.cols_eq
  rw [hcols, hrectangle.length]
  exact hrectangle

/-- **A figure is valid when its conditions hold.** -/
theorem Figure.forall_conditions {figure : Figure} :
    (∀ c ∈ figure.conditions, c.Holds) ↔ figure.Valid := by
  cases figure with
  | plot p => exact Plot.forall_conditions
  | colorplot c => exact Colorplot.forall_conditions
  | multiplot m => exact Multiplot.forall_conditions

/-! ### Paths -/

namespace Location

theorem tailText_append (first second : Location) :
    tailText (first ++ second) = tailText first ++ tailText second := by
  induction first with
  | nil => simp [tailText]
  | cons step rest ih => cases step <;> simp [tailText, ih, String.append_assoc]

/-- **The path of a part stands in front** of what is found in it. -/
theorem text_append (name : String) (inside : Location) (field : String) (rest : Location) :
    text (.field name :: inside ++ .field field :: rest) =
      text (.field name :: inside) ++ "." ++ text (.field field :: rest) := by
  rw [List.cons_append, text, text, text, tailText_append, tailText]
  simp only [String.append_assoc]

theorem text_field (name : String) : text [.field name] = name := by
  simp [text, tailText]

theorem text_index (name : String) (i : Nat) :
    text [.field name, .index i] = name ++ s!"[{i}]" := by
  simp [text, tailText]

/-- What stands in front of the paths of a series. -/
theorem text_ofSeries (k : Nat) : text (.ofSeries k) ++ "." = s!"series[{k}]." := by
  have hplace : s!"series[{k}]." = "series[" ++ k.repr ++ "]." := rfl
  have hindex : s!"[{k}]" = "[" ++ k.repr ++ "]" := rfl
  rw [ofSeries, text_index, hplace, hindex, ← String.toList_inj]
  simp [String.toList_append]

/-- What stands in front of the paths of a cell. -/
theorem text_ofCell_dot (i j : Nat) : text (.ofCell i j) ++ "." = s!"plots[{i}][{j}]." := by
  have htext : text (.ofCell i j) =
      "plots" ++ ("[" ++ i.repr ++ "]" ++ ("[" ++ j.repr ++ "]" ++ "")) := rfl
  have hplace : s!"plots[{i}][{j}]." = "plots[" ++ i.repr ++ "][" ++ j.repr ++ "]." := rfl
  rw [htext, hplace, ← String.toList_inj]
  simp [String.toList_append]

end Location

/-! ### Checks -/

/-- **A check at a location finds the first violation** of some conditions, whose paths begin
behind the location: it succeeds when they hold, and fails at the first one that does not. -/
def Reports (location : Location) (check : Except Error Unit) (conditions : List Condition) :
    Prop :=
  (check = .ok () ∧ ∀ c ∈ conditions, c.Holds) ∨
    ∃ field rest problem, check = .error (.schema (location ++ .field field :: rest) problem) ∧
      FirstViolation conditions (Location.text (.field field :: rest))

namespace Reports

variable {location : Location} {x y : Except Error Unit} {first second : List Condition}

/-- One check of one condition. -/
theorem require {condition : Bool} {Holds : Prop} (h : condition = true ↔ Holds) {path : String}
    {field : String} {rest : Location} (hpath : Location.text (.field field :: rest) = path)
    (problem : Problem) :
    Reports location (require condition (location ++ .field field :: rest) problem)
      [⟨path, Holds⟩] := by
  cases condition with
  | true =>
      refine .inl ⟨rfl, ?_⟩
      rw [List.forall_mem_singleton]
      exact h.mp rfl
  | false =>
      have hfails : ¬ Holds := fun hholds => Bool.false_ne_true (h.mpr hholds)
      refine .inr ⟨field, rest, problem, rfl, ?_⟩
      rw [hpath]
      exact .singleton hfails

/-- A sequence of checks, the second of which may rely on the conditions of the first. -/
theorem seq (hx : Reports location x first)
    (hy : (∀ c ∈ first, c.Holds) → Reports location y second) :
    Reports location (x >>= fun _ => y) (first ++ second) := by
  rcases hx with ⟨rfl, hfirst⟩ | ⟨field, rest, problem, rfl, hviolation⟩
  · rcases hy hfirst with ⟨rfl, hsecond⟩ | ⟨field, rest, problem, rfl, hviolation⟩
    · exact .inl ⟨rfl, List.forall_mem_append.mpr ⟨hfirst, hsecond⟩⟩
    · exact .inr ⟨field, rest, problem, rfl, hviolation.append_right hfirst⟩
  · exact .inr ⟨field, rest, problem, rfl, hviolation.append_left second⟩

/-- A traversal of items, each with conditions of its own. -/
theorem forM {α : Type} {check : α → Except Error Unit} {conditions : α → List Condition}
    {items : List α} (h : ∀ a ∈ items, Reports location (check a) (conditions a)) :
    Reports location (items.forM check) (items.flatMap conditions) := by
  induction items with
  | nil => exact .inl ⟨rfl, List.forall_mem_nil _⟩
  | cons a rest ih =>
      rw [List.forall_mem_cons] at h
      rw [forM_cons, List.flatMap_cons]
      exact h.1.seq fun _ => ih h.2

/-- **A part of a figure**, whose path is put in front of its conditions. -/
theorem under {name : String} {inside : Location} {start : String}
    (hstart : Location.text (.field name :: inside) ++ "." = start)
    (h : Reports (location ++ .field name :: inside) x first) :
    Reports location x (first.map (.under start)) := by
  rcases h with ⟨rfl, hfirst⟩ | ⟨field, rest, problem, rfl, hviolation⟩
  · exact .inl ⟨rfl, forall_under.mpr hfirst⟩
  · refine .inr ⟨name, inside ++ .field field :: rest, problem, ?_, ?_⟩
    · rw [List.append_assoc, List.cons_append]
    · have hpath := hviolation.under start
      rwa [← hstart, ← Location.text_append, hstart] at hpath

/-- A check of an optional value. -/
theorem checkValues (points : Nat) (field : String) (values : Option Values) :
    Reports location (checkValues points (location ++ [.field field]) values)
      [⟨field, Values.CoverPoints points values⟩] := by
  have hiff : Values.CoverPoints points values ↔ ∀ v ∈ values, v.fits points = true :=
    Values.coverPoints_iff
  cases values with
  | none =>
      refine .inl ⟨rfl, ?_⟩
      rw [List.forall_mem_singleton]
      exact hiff.mpr fun v hv => nomatch hv
  | some v =>
      refine require ?_ (Location.text_field field) _
      rw [hiff]
      simp

theorem checkIndex (field : String) (index : Option Int) :
    Reports location (checkIndex (location ++ [.field field]) index)
      [⟨field, ∀ n, index = some n → 1 ≤ n⟩] := by
  refine require ?_ (Location.text_field field) _
  rw [Option.all_eq_true]
  simp only [decide_eq_true_eq]

theorem checkCoordinates (field : String) (cells : Nat) (coordinates : Option (List Float)) :
    Reports location (Colorplot.checkCoordinates (location ++ .ofField field) cells coordinates)
      [⟨field, FitCells cells coordinates⟩] := by
  cases coordinates with
  | none =>
      refine .inl ⟨rfl, ?_⟩
      rw [List.forall_mem_singleton]
      exact fun values hvalues => nomatch hvalues
  | some values =>
      refine require ?_ (Location.text_field field) _
      simp [FitCells]

end Reports

/-! ### The parts of a figure -/

/-- The error about the first row that is not as long as the first one. -/
def uneven? {α : Type} (location : Location) (cols : Nat) (problem : Nat → Problem)
    (rows : List (List α)) : Except Error Unit :=
  (firstUneven? cols rows).elim (.ok ()) fun entry =>
    .error (.schema (location ++ [.index entry.2]) (problem entry.1.length))

namespace Reports

variable {location : Location}

/-- **Rows are looked at from the first to the last.** -/
theorem rows {α : Type} (name : String) (cols : Nat) (problem : Nat → Problem)
    (rows : List (List α)) :
    Reports location (uneven? (location ++ .ofField name) cols problem rows)
      (rows.zipIdx.map fun entry => ⟨name ++ s!"[{entry.2}]", entry.1.length = cols⟩) := by
  rw [uneven?]
  cases h : firstUneven? cols rows with
  | none =>
      refine .inl ⟨rfl, ?_⟩
      rw [List.forall_mem_map]
      exact forall_mem_zipIdx.mpr (firstUneven?_eq_none.mp h)
  | some entry =>
      obtain ⟨row, i⟩ := entry
      obtain ⟨huneven, before, after, heq, hbefore⟩ := List.find?_eq_some_iff_append.mp h
      refine .inr ⟨name, [.index i], problem row.length, ?_, ?_⟩
      · rw [Option.elim, List.append_assoc]
        rfl
      · rw [Location.text_index, heq, List.map_append, List.map_cons]
        refine ⟨_, _, _, rfl, ?_, by simpa using huneven, rfl⟩
        rw [List.forall_mem_map]
        intro entry hentry
        simpa using hbefore entry hentry

/-- **The shape of a rectangle** is checked at its name and then at its rows. -/
theorem rectangle {α : Type} {nonempty : Bool} {name : String} {cols : Nat}
    {rows : List (List α)} (hnonempty : nonempty = true ↔ rows ≠ [] ∧ cols ≠ 0)
    (missing : Problem) (problem : Nat → Problem) :
    Reports location
      (FigureScript.require nonempty (location ++ .ofField name) missing >>= fun _ =>
        uneven? (location ++ .ofField name) cols problem rows)
      (rectangleConditions name cols rows) :=
  (Reports.require hnonempty (Location.text_field name) missing).seq fun _ =>
    Reports.rows name cols problem rows

end Reports

/-- The check of the points of a series, its error bars and its style indices. -/
theorem Series.check_reports (location : Location) (s : Series) :
    Reports location (s.check location) s.conditions := by
  have hy : (!s.y.isEmpty) = true ↔ s.y ≠ [] := by simp
  have hx : s.x.all (·.length = s.y.length) = true ↔
      ∀ xs, s.x = some xs → xs.length = s.y.length := by
    rw [Option.all_eq_true]
    simp only [decide_eq_true_eq]
  have herrors : Reports location
      (s.errorFields.forM fun entry =>
        checkValues s.y.length (location ++ [.field entry.1]) entry.2)
      (s.errorFields.flatMap fun entry =>
        [⟨entry.1, Values.CoverPoints s.y.length entry.2⟩]) :=
    .forM fun entry _ => .checkValues s.y.length entry.1 entry.2
  have hcolor : Reports location (checkIndex (location ++ [.field "color"]) s.color) _ :=
    .checkIndex "color" s.color
  refine (Reports.require hy (Location.text_field "y") _).seq fun _ => ?_
  refine (Reports.require hx (Location.text_field "x") _).seq fun _ => ?_
  exact herrors.seq fun _ => hcolor.seq fun _ => .checkIndex "line" s.line

/-- The check of a chart. -/
theorem Plot.check_reports (location : Location) (p : Plot) :
    Reports location (p.check location) p.conditions := by
  have hseries : (!p.series.isEmpty) = true ↔ p.series ≠ [] := by simp
  refine (Reports.require hseries (Location.text_field "series") _).seq fun _ => ?_
  exact .forM fun entry _ =>
    .under (Location.text_ofSeries entry.2) (Series.check_reports _ entry.1)

namespace Colorplot

/-- The shape of a field is checked as that of a rectangle. -/
theorem map_shape (location : Location) (c : Colorplot) :
    (c.shape location).map (fun _ => ()) =
      require (!c.z.isEmpty && c.cols ≠ 0) (location ++ .ofField "z") .emptyMatrix >>= fun _ =>
        uneven? (location ++ .ofField "z") c.cols (.wrongCount · c.cols) c.z := by
  rw [shape, map_bind]
  refine congrArg _ (funext fun _ => ?_)
  rw [uneven?]
  cases firstUneven? c.cols c.z <;> rfl

/-- The check of a scalar field. -/
theorem check_reports (location : Location) (c : Colorplot) :
    Reports location (c.check location) c.conditions := by
  have hnonempty : (!c.z.isEmpty && decide (c.cols ≠ 0)) = true ↔ c.z ≠ [] ∧ c.cols ≠ 0 := by simp
  have hshape : Reports location ((c.shape location).map fun _ => ())
      (rectangleConditions "z" c.cols c.z) := by
    rw [map_shape]
    exact .rectangle hnonempty _ _
  have hcheck : c.check location = ((c.shape location).map fun _ => ()) >>= fun _ =>
      checkCoordinates (location ++ .ofField "x") c.cols c.x >>= fun _ =>
        checkCoordinates (location ++ .ofField "y") c.z.length c.y := by
    rw [check]
    cases h : c.shape location with
    | error e => rfl
    | ok size =>
        obtain ⟨rows, cols⟩ := size
        obtain ⟨-, -, rfl, rfl, -⟩ := shape_eq_ok.mp h
        rfl
  rw [hcheck]
  exact hshape.seq fun _ => (Reports.checkCoordinates "x" c.cols c.x).seq fun _ =>
    .checkCoordinates "y" c.z.length c.y

end Colorplot

theorem Cell.check_reports (location : Location) (cell : Cell) :
    Reports location (cell.check location) cell.conditions := by
  cases cell with
  | plot p => exact p.check_reports location
  | colorplot c => exact c.check_reports location

namespace Multiplot

theorem map_shape (m : Multiplot) :
    m.shape.map (fun _ => ()) =
      require (!m.plots.isEmpty && m.cols ≠ 0) (.ofField "plots") .noCell >>= fun _ =>
        uneven? (.ofField "plots") m.cols (.raggedGrid · m.cols) m.plots := by
  rw [shape, map_bind]
  refine congrArg _ (funext fun _ => ?_)
  rw [uneven?]
  cases firstUneven? m.cols m.plots <;> rfl

/-- The cells of a grid have the conditions of their rows. -/
theorem flatMap_cells (m : Multiplot) (conditions : Cell × Nat × Nat → List Condition) :
    m.cells.flatMap conditions =
      m.plots.zipIdx.flatMap fun row => row.1.zipIdx.flatMap fun cell =>
        conditions (cell.1, row.2, cell.2) := by
  rw [cells, List.flatMap_assoc]
  simp only [List.flatMap_map]

/-- The check of a grid. -/
theorem check_reports (m : Multiplot) : Reports [] m.check m.conditions := by
  have hnonempty : (!m.plots.isEmpty && decide (m.cols ≠ 0)) = true ↔
      m.plots ≠ [] ∧ m.cols ≠ 0 := by
    simp
  have hshape : Reports [] (m.shape.map fun _ => ())
      (rectangleConditions "plots" m.cols m.plots) := by
    rw [map_shape]
    exact .rectangle hnonempty _ _
  have hcells : Reports []
      (m.cells.forM fun entry => entry.1.check (.ofCell entry.2.1 entry.2.2))
      (m.cells.flatMap fun entry =>
        entry.1.conditions.map (.under s!"plots[{entry.2.1}][{entry.2.2}].")) :=
    .forM fun entry _ => .under (Location.text_ofCell_dot entry.2.1 entry.2.2)
      (entry.1.check_reports _)
  have hcheck : m.check = (m.shape.map fun _ => ()) >>= fun _ =>
      m.cells.forM fun entry => entry.1.check (.ofCell entry.2.1 entry.2.2) := by
    rw [check]
    cases m.shape <;> rfl
  rw [flatMap_cells] at hcells
  rw [hcheck]
  exact hshape.seq fun _ => hcells

end Multiplot

/-! ### The check of a figure -/

namespace Figure

theorem check_reports (figure : Figure) : Reports [] figure.check figure.conditions := by
  cases figure with
  | plot p => exact p.check_reports []
  | colorplot c => exact c.check_reports []
  | multiplot m => exact m.check_reports

/-- **What the check of a figure says.**  It succeeds exactly for the valid figures.  When it
fails, it is with a violation of the format at the path of the first condition of the figure
that does not hold. -/
theorem check_reports_first (figure : Figure) :
    (figure.check = .ok () ↔ figure.Valid) ∧
      (∀ e, figure.check = .error e → ∃ location problem, e = .schema location problem ∧
        FirstViolation figure.conditions location.text) ∧
      (figure.Valid ↔ ∀ c ∈ figure.conditions, c.Holds) := by
  rcases figure.check_reports with ⟨hok, hall⟩ | ⟨field, rest, problem, herror, hviolation⟩
  · rw [hok]
    exact ⟨iff_of_true rfl (forall_conditions.mp hall), fun e he => (nomatch he),
      forall_conditions.symm⟩
  · have hinvalid : ¬ figure.Valid := fun h => hviolation.not_forall (forall_conditions.mpr h)
    rw [herror]
    refine ⟨iff_of_false (fun hok => (nomatch hok)) hinvalid, ?_, forall_conditions.symm⟩
    rintro _ ⟨⟩
    exact ⟨_, problem, rfl, hviolation⟩

/-- A list of limits that is too short goes before a place in a style list. -/
example :
    let second : Series := { y := [1], line := some 0, ymin := some (.points []) }
    (Figure.plot { series := [{ y := [1] }, second] }).check =
      .error (.schema [.field "series", .index 1, .field "ymin"] (.wrongCount 0 1)) := by
  rfl

end Figure

end FigureScript
