import FigureScript.Proofs.Figure.Grid
import FigureScript.Recorder.Rows

/-!
# Recorded series

A series is recorded from columns of one length, and keeps the rows in which all of
them are finite.  So every column that it keeps has finite numbers only, and they all
have the length of the others.

## Main Definitions

* `IsColumn` — a column of so many finite numbers
* `KeepsFinite` — a choice of rows passes over the numbers of a column that are not finite
* `Series.Recorded` — what holds of a recorded series, and `Series.RecordedHere` of one
  on its own axes

## Main Results

* `keepsFinite_finiteRows` — the rows that are kept are finite in every column
* `ErrorSpec.length_columns` — the columns of an uncertainty are as long as its points
* `Series.record_recorded` — a series that is recorded is a recorded one
-/

namespace FigureScript

open Outcome

/-- **A column of `n` finite numbers.** -/
def IsColumn (n : Nat) (column : List Float) : Prop :=
  column.length = n ∧ ∀ value ∈ column, Number.isFinite value = true

/-- **A choice of rows keeps finite numbers only**, in one column. -/
def KeepsFinite (rows : List Bool) (column : List Float) : Prop :=
  List.Forall₂ (fun value kept => kept = true → Number.isFinite value = true) column rows

/-! ### Rows -/

theorem KeepsFinite.length_eq {rows : List Bool} {column : List Float}
    (h : KeepsFinite rows column) : column.length = rows.length :=
  List.Forall₂.length_eq h

/-- A column on its own keeps its finite numbers. -/
theorem keepsFinite_map (column : List Float) :
    KeepsFinite (column.map Number.isFinite) column := by
  rw [KeepsFinite, List.forall₂_map_right_iff, List.forall₂_same]
  exact fun _ _ h => h

/-- The rows that are left when one more column is looked at. -/
def narrowRows (column : List Float) (rows : List Bool) : List Bool :=
  List.zipWith (fun value finite => Number.isFinite value && finite) column rows

/-- The rows that are left keep finite numbers of the new column. -/
theorem keepsFinite_narrowRows {column : List Float} {rows : List Bool}
    (hlength : column.length = rows.length) : KeepsFinite (narrowRows column rows) column := by
  induction column generalizing rows with
  | nil => exact .nil
  | cons value column ih =>
      cases rows with
      | nil => cases hlength
      | cons kept rows =>
          have hhead : (Number.isFinite value && kept) = true → Number.isFinite value = true :=
            fun h => (Bool.and_eq_true_iff.mp h).1
          exact .cons hhead (ih (Nat.succ.inj hlength))

/-- They still keep finite numbers of the columns before it. -/
theorem KeepsFinite.narrow {rows : List Bool} {old column : List Float}
    (h : KeepsFinite rows old) (hlength : column.length = rows.length) :
    KeepsFinite (narrowRows column rows) old := by
  induction column generalizing rows old with
  | nil =>
      cases h with
      | nil => exact .nil
      | cons _ _ => cases hlength
  | cons value column ih =>
      cases h with
      | nil => cases hlength
      | @cons first kept old rows hhead h =>
          have hleft : (Number.isFinite value && kept) = true → Number.isFinite first = true :=
            fun hkept => hhead (Bool.and_eq_true_iff.mp hkept).2
          exact .cons hleft (ih h (Nat.succ.inj hlength))

/-- **The finite rows** of columns of one length keep finite numbers of each of them. -/
theorem keepsFinite_finiteRows {n : Nat} {columns : List (List Float)}
    (hlength : ∀ column ∈ columns, column.length = n) :
    ∀ column ∈ columns, KeepsFinite (finiteRows columns) column := by
  induction columns with
  | nil => exact fun column hcolumn => nomatch hcolumn
  | cons first rest ih =>
      rw [List.forall_mem_cons] at hlength
      cases rest with
      | nil =>
          intro column hcolumn
          rw [List.mem_singleton] at hcolumn
          rw [hcolumn]
          exact keepsFinite_map first
      | cons second rest =>
          have hkeeps := ih hlength.2
          -- the rows found so far are as many as the column has
          have hrows : first.length = (finiteRows (second :: rest)).length := by
            rw [← (hkeeps second List.mem_cons_self).length_eq, hlength.1,
              hlength.2 second List.mem_cons_self]
          change ∀ column ∈ first :: second :: rest,
            KeepsFinite (narrowRows first (finiteRows (second :: rest))) column
          rw [List.forall_mem_cons]
          refine ⟨keepsFinite_narrowRows hrows, fun column hcolumn => ?_⟩
          exact (hkeeps column hcolumn).narrow hrows

/-- **The numbers that are kept** are finite, and as many as the rows. -/
theorem KeepsFinite.isColumn {rows : List Bool} {column : List Float}
    (h : KeepsFinite rows column) : IsColumn (rows.count true) (keepRows rows column) := by
  induction h with
  | nil => exact ⟨rfl, fun value hvalue => nomatch hvalue⟩
  | @cons value kept column rows hfinite _ ih =>
      cases kept with
      | false => exact ih
      | true =>
          change IsColumn ((true :: rows).count true) (value :: keepRows rows column)
          rw [List.count_cons_self]
          refine ⟨congrArg Nat.succ ih.1, ?_⟩
          rw [List.forall_mem_cons]
          exact ⟨hfinite rfl, ih.2⟩

/-! ### Error bars -/

namespace ErrorColumns

theorem columns_map (f : List Float → List Float) (e : ErrorColumns) :
    (e.map f).columns = e.columns.map f := by
  cases e <;> rfl

/-- What is recorded for a part of the error bars is one of the columns. -/
theorem mem_columns_of_part {e : ErrorColumns} {values : Values}
    (h : e.distances? = some values ∨ e.lower? = some values ∨ e.upper? = some values) :
    ∃ column ∈ e.columns, values = .points column := by
  cases e with
  | distances distances =>
      rcases h with h | h | h
      · exact ⟨distances, List.mem_singleton_self distances, (Option.some.inj h).symm⟩
      · cases h
      · cases h
  | ends lower upper =>
      rcases h with h | h | h
      · cases h
      · exact ⟨lower, by simp [columns], (Option.some.inj h).symm⟩
      · exact ⟨upper, by simp [columns], (Option.some.inj h).symm⟩

end ErrorColumns

namespace ErrorSpec

theorem checkColumn_eq_ok {location : Location} {values column : List Float} {name : String} :
    columns.checkColumn location values name column = .ok () ↔ column.length = values.length := by
  rw [columns.checkColumn, require_eq_ok, decide_eq_true_eq]

/-- **The columns of an uncertainty** are as long as its points. -/
theorem length_columns {spec : ErrorSpec} {location : Location} {values : List Float}
    {e : ErrorColumns} (h : spec.columns location values = .ok e) :
    ∀ column ∈ e.columns, column.length = values.length := by
  cases spec with
  | symmetric distance =>
      cases h
      simp [ErrorColumns.columns]
  | perPoint distances =>
      rw [columns, seq_eq_ok, checkColumn_eq_ok] at h
      obtain ⟨hlength, h⟩ := h
      cases h
      simpa [ErrorColumns.columns] using hlength
  | asymmetric lower upper =>
      rw [columns, seq_eq_ok, seq_eq_ok, checkColumn_eq_ok, checkColumn_eq_ok] at h
      obtain ⟨hlower, hupper, h⟩ := h
      cases h
      simp [ErrorColumns.columns, hlower, hupper]

end ErrorSpec

/-! ### Series -/

/-- **What holds of a recorded series**: all its columns have finite numbers for the same
points, of which there is one, and it asks for no place in a style cycle. -/
structure Series.Recorded (s : Series) : Prop where
  nonempty : s.y ≠ []
  x : ∃ xs, s.x = some xs ∧ IsColumn s.y.length xs
  y : IsColumn s.y.length s.y
  errors : ∀ field ∈ s.errorFields, ∀ values ∈ field.2,
    ∃ column, values = .points column ∧ IsColumn s.y.length column
  color : s.color = none
  line : s.line = none

/-- A series that is recorded on its own axes asks for no others. -/
structure Series.RecordedHere (s : Series) : Prop extends s.Recorded where
  xadded : s.xadded = none
  yadded : s.yadded = none

namespace Series

/-- A part of the error bars of a series of rows is a column of these rows. -/
theorem isColumn_of_part {rows : List Bool} {errors : Option ErrorColumns}
    (h : ∀ e ∈ errors, ∀ column ∈ e.columns, KeepsFinite rows column)
    {part : ErrorColumns → Option Values}
    (hpart : ∀ e values, part e = some values →
      e.distances? = some values ∨ e.lower? = some values ∨ e.upper? = some values) :
    ∀ values ∈ (errors.map (·.map (keepRows rows))).bind part,
      ∃ column, values = .points column ∧ IsColumn (rows.count true) column := by
  intro values hvalues
  obtain ⟨kept, hkept, hvalues⟩ := Option.bind_eq_some_iff.mp hvalues
  obtain ⟨e, he, rfl⟩ := Option.map_eq_some_iff.mp hkept
  obtain ⟨column, hcolumn, rfl⟩ := ErrorColumns.mem_columns_of_part (hpart _ _ hvalues)
  rw [ErrorColumns.columns_map] at hcolumn
  obtain ⟨given, hgiven, rfl⟩ := List.mem_map.mp hcolumn
  exact ⟨_, rfl, (h e he given hgiven).isColumn⟩

/-- The series of rows that keep finite numbers, and of which one is kept. -/
theorem ofRows_recorded {rows : List Bool} {x y : List Float} {yerr xerr : Option ErrorColumns}
    {label : Option String} (hx : KeepsFinite rows x) (hy : KeepsFinite rows y)
    (hyerr : ∀ e ∈ yerr, ∀ column ∈ e.columns, KeepsFinite rows column)
    (hxerr : ∀ e ∈ xerr, ∀ column ∈ e.columns, KeepsFinite rows column)
    (hkept : true ∈ rows) : (ofRows rows x y yerr xerr label).Recorded := by
  -- every column is counted by the rows that are kept; `y` names that number
  have hcount : (keepRows rows y).length = rows.count true := hy.isColumn.1
  constructor
  · change keepRows rows y ≠ []
    rw [← List.length_pos_iff, hcount]
    exact List.count_pos_iff.mpr hkept
  · refine ⟨keepRows rows x, rfl, ?_⟩
    change IsColumn (keepRows rows y).length _
    rw [hcount]
    exact hx.isColumn
  · exact ⟨rfl, hy.isColumn.2⟩
  · change ∀ field ∈ (ofRows rows x y yerr xerr label).errorFields, ∀ values ∈ field.2,
      ∃ column, values = .points column ∧ IsColumn (keepRows rows y).length column
    rw [hcount]
    simp only [errorFields, ofRows, List.forall_mem_cons]
    refine ⟨?_, ?_, ?_, ?_, ?_, ?_, fun field hfield => nomatch hfield⟩
    · exact isColumn_of_part hxerr fun _ _ h => .inl h
    · exact isColumn_of_part hyerr fun _ _ h => .inl h
    · exact isColumn_of_part hxerr fun _ _ h => .inr (.inl h)
    · exact isColumn_of_part hxerr fun _ _ h => .inr (.inr h)
    · exact isColumn_of_part hyerr fun _ _ h => .inr (.inl h)
    · exact isColumn_of_part hyerr fun _ _ h => .inr (.inr h)
  · rfl
  · rfl

/-- **A series that is recorded** from columns of one length is a recorded one. -/
theorem record_recorded {location : Location} {x y : List Float}
    {yerr xerr : Option ErrorColumns} {label : Option String} (hx : x.length = y.length)
    (hyerr : ∀ e ∈ yerr, ∀ column ∈ e.columns, column.length = y.length)
    (hxerr : ∀ e ∈ xerr, ∀ column ∈ e.columns, column.length = y.length) :
    ∀ s ∈ (record location x y yerr xerr label).1, s.RecordedHere := by
  intro s hs
  unfold record at hs
  -- the columns in the order in which the rows are looked at
  have hlength : ∀ column ∈ x :: y :: (yerr.toList ++ xerr.toList).flatMap ErrorColumns.columns,
      column.length = y.length := by
    simp only [List.forall_mem_cons, List.mem_flatMap, List.mem_append, Option.mem_toList]
    refine ⟨hx, trivial, ?_⟩
    rintro column ⟨e, he | he, hcolumn⟩
    · exact hyerr e he column hcolumn
    · exact hxerr e he column hcolumn
  have hkeeps := keepsFinite_finiteRows hlength
  simp only [List.forall_mem_cons, List.mem_flatMap, List.mem_append, Option.mem_toList] at hkeeps
  obtain ⟨hkeepsx, hkeepsy, hkeeps⟩ := hkeeps
  simp only at hs
  split at hs
  next hany =>
    cases hs
    have hkept : true ∈ finiteRows (x :: y :: (yerr.toList ++ xerr.toList).flatMap
        ErrorColumns.columns) := by
      simpa using hany
    refine ⟨ofRows_recorded hkeepsx hkeepsy (fun e he column hcolumn => ?_)
      (fun e he column hcolumn => ?_) hkept, rfl, rfl⟩
    · exact hkeeps column ⟨e, .inl he, hcolumn⟩
    · exact hkeeps column ⟨e, .inr he, hcolumn⟩
  next => cases hs

end Series

end FigureScript
