import FigureScript.Proofs.Program.Rejected
import FigureScript.Proofs.Recorder.Axes

/-!
# Charts from recorded axes

The chart of axes that keep the invariant: its parts are recorded ones, its check can
only miss a series, and it asks for too many secondary axes only where series are recorded
on those of both coordinates.

## Main Definitions

* `AxesRecorder.folded` — the recorded chart with its secondary axes
* `AxesRecorder.Clashes` — series are recorded on both secondary axes of a chart

## Main Results

* `AxesRecorder.Sound.folded_uses` — which secondary axes the series of a chart use
* `AxesRecorder.Sound.check_cell` — what the check of the chart can say
* `AxesRecorder.Sound.overloaded_cell` — when the chart cannot be drawn
-/

namespace FigureScript

open Outcome

/-! ### Recorded parts are accepted -/

theorem Series.Recorded.valid {s : Series} (h : s.Recorded) : s.Valid where
  nonempty := h.nonempty
  x := by
    obtain ⟨xs, hxs, hcolumn⟩ := h.x
    rw [hxs]
    rintro _ ⟨⟩
    exact hcolumn.1
  errors := by
    intro field hfield values hvalues
    obtain ⟨column, rfl, hcolumn⟩ := h.errors field hfield values hvalues
    exact decide_eq_true hcolumn.1
  color := by
    rw [h.color]
    exact fun n hn => nomatch hn
  line := by
    rw [h.line]
    exact fun n hn => nomatch hn

theorem Colorplot.Recorded.check_eq_ok {c : Colorplot} (h : c.Recorded) (location : Location) :
    c.check location = .ok () :=
  Colorplot.check_eq_ok.mpr ⟨⟨h.nonempty, h.cols, fun row hrow => (h.z row hrow).1⟩,
    fun xs hxs => .inl (h.x xs hxs), fun ys hys => .inl (h.y ys hys)⟩

/-! ### Secondary axes are folded in -/

namespace Series

/-- The series, drawn against the secondary axis of a coordinate. -/
def against (s : Series) : Axis → Series
  | .x => { s with xadded := some 1 }
  | .y => { s with yadded := some 1 }

theorem added_against (s : Series) (adds axis : Axis) :
    (s.against adds).added axis = if axis = adds then some 1 else s.added axis := by
  cases adds <;> cases axis <;> rfl

theorem Recorded.against {s : Series} (h : s.Recorded) (adds : Axis) :
    (s.against adds).Recorded := by
  cases adds with
  | x => exact ⟨h.nonempty, h.x, h.y, h.errors, h.color, h.line⟩
  | y => exact ⟨h.nonempty, h.x, h.y, h.errors, h.color, h.line⟩

theorem RecordedHere.added {s : Series} (h : s.RecordedHere) (axis : Axis) :
    s.added axis = none := by
  cases axis with
  | x => exact h.xadded
  | y => exact h.yadded

end Series

namespace Plot

theorem Recorded.declared {p : Plot} (h : p.Recorded) (axis : Axis) : p.declared axis = [] := by
  cases axis with
  | x => exact h.xadded
  | y => exact h.yadded

theorem series_addTwin (p recorded : Plot) (adds : Axis) :
    (p.addTwin adds recorded).series = p.series ++ recorded.series.map (·.against adds) := by
  cases adds <;> rfl

theorem declared_addTwin (p recorded : Plot) (adds axis : Axis) :
    (p.addTwin adds recorded).declared axis =
      if axis = adds then [recorded.addedAxis adds] else p.declared axis := by
  cases adds <;> cases axis <;> rfl

/-- Folds charts into one, each recorded on the secondary axes of a coordinate. -/
def addTwins (p : Plot) (twins : List (Axis × AxesRecorder)) : Plot :=
  twins.foldl (fun p entry => p.addTwin entry.1 entry.2.plot) p

/-- **The series of all secondary axes** stand behind those of the primary ones. -/
theorem series_addTwins (p : Plot) (twins : List (Axis × AxesRecorder)) :
    (p.addTwins twins).series =
      p.series ++ twins.flatMap fun entry => entry.2.plot.series.map (·.against entry.1) := by
  induction twins generalizing p with
  | nil => exact (List.append_nil _).symm
  | cons entry twins ih =>
      change ((p.addTwin entry.1 entry.2.plot).addTwins twins).series = _
      rw [ih, series_addTwin, List.flatMap_cons, List.append_assoc]

/-- Secondary axes declare one axis at most for each coordinate. -/
theorem length_declared_addTwins {p : Plot} {axis : Axis} (h : (p.declared axis).length ≤ 1)
    (twins : List (Axis × AxesRecorder)) : ((p.addTwins twins).declared axis).length ≤ 1 := by
  induction twins generalizing p with
  | nil => exact h
  | cons entry twins ih =>
      refine ih (p := p.addTwin entry.1 entry.2.plot) ?_
      rw [declared_addTwin]
      split
      · exact Nat.le_refl 1
      · exact h

end Plot

namespace AxesRecorder

variable {a : AxesRecorder}

/-- **The recorded chart** with its secondary axes. -/
def folded (a : AxesRecorder) : Plot :=
  a.plot.addTwins a.twins

/-- **Series are recorded on both secondary axes** of a chart. -/
def Clashes (a : AxesRecorder) : Prop :=
  a.field = none ∧ ∀ axis, (a.twin axis).plot.series ≠ []

theorem cell_of_field_none (h : a.field = none) : a.cell = .plot a.folded := by
  rw [cell, h]
  rfl

theorem cell_of_field_some {c : Colorplot} (h : a.field = some c) :
    a.cell = .colorplot (a.decorated c) := by
  rw [cell, h]

theorem isColorplot_cell : a.cell.IsColorplot ↔ a.field.isSome := by
  cases hfield : a.field with
  | none =>
      rw [cell_of_field_none hfield]
      simp [Cell.IsColorplot]
  | some c =>
      rw [cell_of_field_some hfield]
      exact iff_of_true ⟨_, rfl⟩ rfl

namespace Sound

theorem plot (h : a.Sound) : a.plot.Recorded := by
  cases h with
  | intro plot field distinct twins => exact plot

theorem field (h : a.Sound) : ∀ c ∈ a.field, c.Recorded := by
  cases h with
  | intro plot field distinct twins => exact field

theorem twins (h : a.Sound) : ∀ entry ∈ a.twins, entry.2.Sound := by
  cases h with
  | intro plot field distinct twins => exact twins

/-- A series of the chart is one of its own or one of secondary axes. -/
theorem mem_folded {s : Series} :
    s ∈ a.folded.series ↔ s ∈ a.plot.series ∨
      ∃ entry ∈ a.twins, ∃ own ∈ entry.2.plot.series, own.against entry.1 = s := by
  simp only [folded, Plot.series_addTwins, List.mem_append, List.mem_flatMap, List.mem_map]

/-- **The series of the chart** are recorded ones. -/
theorem folded_series (h : a.Sound) : ∀ s ∈ a.folded.series, s.Recorded := by
  intro s hs
  rcases mem_folded.mp hs with hs | ⟨entry, hentry, own, hown, rfl⟩
  · exact (h.plot.series s hs).toRecorded
  · exact ((h.twins entry hentry).plot.series own hown).toRecorded.against entry.1

/-- Secondary axes are found by their coordinate, which no others have. -/
theorem twin_eq (h : a.Sound) {entry : Axis × AxesRecorder} (hentry : entry ∈ a.twins) :
    a.twin entry.1 = entry.2 := by
  obtain ⟨-, -, distinct, -⟩ := h
  unfold AxesRecorder.twin
  cases hfind : a.twins.find? (·.1 = entry.1) with
  | none =>
      rw [List.find?_eq_none] at hfind
      exact absurd (decide_eq_true rfl) (hfind entry hentry)
  | some found =>
      have hfound := List.mem_of_find?_eq_some hfind
      have haxis : found.1 = entry.1 := by simpa using List.find?_some hfind
      have heq : found = entry := List.inj_on_of_nodup_map distinct hfound hentry haxis
      rw [heq]
      rfl

/-- Secondary axes with series are among those that have been created. -/
theorem mem_twins_of_series {axis : Axis} (h : (a.twin axis).plot.series ≠ []) :
    (axis, a.twin axis) ∈ a.twins := by
  unfold AxesRecorder.twin at h ⊢
  cases hfind : a.twins.find? (·.1 = axis) with
  | none =>
      rw [hfind] at h
      exact absurd rfl h
  | some found =>
      have haxis : found.1 = axis := by simpa using List.find?_some hfind
      rw [← haxis]
      exact List.mem_of_find?_eq_some hfind

/-- What a series of the chart asks for is the axis of the coordinate on whose secondary
axes it is recorded. -/
theorem folded_added (h : a.Sound) {s : Series} (hs : s ∈ a.folded.series) (axis : Axis) :
    s.added axis = none ∨ s.added axis = some 1 := by
  rcases mem_folded.mp hs with hs | ⟨entry, hentry, own, hown, rfl⟩
  · exact .inl ((h.plot.series s hs).added axis)
  · rw [Series.added_against]
    split
    · exact .inr rfl
    · exact .inl (((h.twins entry hentry).plot.series own hown).added axis)

/-- **The series of the chart use a secondary axis** when there are series on it. -/
theorem folded_uses (h : a.Sound) (axis : Axis) :
    a.folded.uses axis = true ↔ (a.twin axis).plot.series ≠ [] := by
  rw [Plot.uses, List.any_eq_true]
  constructor
  · rintro ⟨s, hs, hadded⟩
    rw [decide_eq_true_eq] at hadded
    rcases mem_folded.mp hs with hs | ⟨entry, hentry, own, hown, rfl⟩
    · rw [(h.plot.series s hs).added axis] at hadded
      cases hadded
    · rw [Series.added_against] at hadded
      split at hadded
      next haxis =>
        rw [haxis, h.twin_eq hentry]
        exact List.ne_nil_of_mem hown
      next =>
        rw [((h.twins entry hentry).plot.series own hown).added axis] at hadded
        cases hadded
  · intro hseries
    obtain ⟨own, hown⟩ := List.exists_mem_of_ne_nil _ hseries
    refine ⟨own.against axis, ?_, ?_⟩
    · exact mem_folded.mpr (.inr ⟨_, mem_twins_of_series hseries, own, hown, rfl⟩)
    · rw [Series.added_against, if_pos rfl, decide_eq_true_eq]

/-! ### What the chart can be rejected for -/

theorem decorated_recorded (h : a.Sound) {c : Colorplot} (hfield : a.field = some c) :
    (a.decorated c).Recorded := by
  have hc := h.field c hfield
  exact ⟨hc.nonempty, hc.cols, hc.z, hc.x, hc.y⟩

theorem cell_series (h : a.Sound) : ∀ s ∈ a.cell.series, s.Recorded := by
  cases hfield : a.field with
  | none =>
      rw [cell_of_field_none hfield]
      exact h.folded_series
  | some c =>
      rw [cell_of_field_some hfield]
      exact fun s hs => nomatch hs

theorem cell_colorplots (h : a.Sound) : ∀ c ∈ a.cell.colorplots, c.Recorded := by
  cases hfield : a.field with
  | none =>
      rw [cell_of_field_none hfield]
      exact fun c hc => nomatch hc
  | some c =>
      rw [cell_of_field_some hfield]
      intro c' hc'
      rw [List.mem_singleton.mp hc']
      exact h.decorated_recorded hfield

/-- **The check of the chart** fails only where it has no series. -/
theorem check_cell (h : a.Sound) {location : Location} {e : Error}
    (hcheck : a.cell.check location = .error e) :
    (∃ p, a.cell = .plot p ∧ p.series = []) ∧
      e = .schema (location ++ .ofField "series") .noSeries := by
  cases hfield : a.field with
  | none =>
      rw [cell_of_field_none hfield] at hcheck ⊢
      by_cases hseries : a.folded.series = []
      · refine ⟨⟨a.folded, rfl, hseries⟩, ?_⟩
        rw [Cell.check, Plot.check_of_no_series hseries] at hcheck
        exact (Except.error.inj hcheck).symm
      · have hok : a.folded.check location = .ok () :=
          Plot.check_eq_ok.mpr ⟨hseries, fun s hs => (h.folded_series s hs).valid⟩
        rw [Cell.check, hok] at hcheck
        cases hcheck
  | some c =>
      rw [cell_of_field_some hfield, Cell.check,
        (h.decorated_recorded hfield).check_eq_ok] at hcheck
      cases hcheck

/-- The parts of the chart are valid, also where it has no series. -/
theorem partsValid_cell (h : a.Sound) : a.cell.PartsValid := by
  cases hfield : a.field with
  | none =>
      rw [cell_of_field_none hfield]
      exact Plot.checkSeries_eq_ok.mpr fun s hs => (h.folded_series s hs).valid
  | some c =>
      rw [cell_of_field_some hfield]
      exact (h.decorated_recorded hfield).check_eq_ok []

/-- The chart declares one axis for each coordinate at most and its series refer to it as
number 1, so only two directions are too many. -/
theorem overloaded_folded (h : a.Sound) :
    a.folded.Overloaded ↔ ∀ axis, (a.twin axis).plot.series ≠ [] := by
  simp only [← h.folded_uses, Plot.uses_eq_true]
  constructor
  · rintro (⟨axis, hmany⟩ | ⟨s, hs, axis, k, hk, hmany⟩ | hboth)
    · have hown : (a.plot.declared axis).length ≤ 1 := by
        rw [h.plot.declared axis]
        exact Nat.zero_le 1
      exact absurd hmany (Nat.not_lt.mpr (Plot.length_declared_addTwins hown a.twins))
    · rcases h.folded_added hs axis with hadded | hadded
      · rw [hadded] at hk
        cases hk
      · rw [hadded] at hk
        cases hk
        exact absurd hmany (Nat.lt_irrefl 1)
    · exact hboth
  · exact fun hboth => .inr (.inr hboth)

/-- **A chart that is recorded cannot be drawn** when there are series on both of its
secondary axes. -/
theorem overloaded_cell (h : a.Sound) : a.cell.Overloaded ↔ a.Clashes := by
  cases hfield : a.field with
  | none =>
      rw [cell_of_field_none hfield, Clashes, ← h.overloaded_folded]
      constructor
      · rintro ⟨_, ⟨⟩, hoverloaded⟩
        exact ⟨hfield, hoverloaded⟩
      · exact fun hclash => ⟨_, rfl, hclash.2⟩
  | some c =>
      rw [cell_of_field_some hfield]
      constructor
      · rintro ⟨_, ⟨⟩, -⟩
      · intro hclash
        rw [hclash.1] at hfield
        cases hfield

end Sound

end AxesRecorder

end FigureScript
