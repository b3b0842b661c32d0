import FigureScript.Proofs.Figure.Loaded
import FigureScript.Proofs.Files.Store
import FigureScript.Proofs.Json.Reread
import FigureScript.Proofs.Recorder.Figure
import FigureScript.Proofs.Session.Action
import FigureScript.Session.SavedFigure

/-!
# Saved figures

A recorded figure is checked before it is saved, and the check passes over all numbers.  The
data of a recorded figure are finite, since points that are not are dropped and fields with
such values refused.  But nothing looks at the limits of an axis, the position of a note or
the midpoints of the edges of a field, and one of these that is not finite makes a saved
figure unreadable.

## Main Definitions

* `FigureRecorder.nanLimit` — a call that records a limit which is no number

## Main Results

* `FigureRecorder.Sound.isOk_ofText_iff`, `FigureRecorder.Sound.ofText_toText_reread` — which
  recorded figures are read from their texts, and as what
* `FigureRecorder.save_writes`, `FigureRecorder.save_eq_ok` — what a figure that is saved leaves
  behind
* `FigureRecorder.save_loads_iff` — which saved figures load, and as what
* `FigureRecorder.exists_saved_unreadable` — a figure that is saved and does not load

## Design Notes

The numbers of a figure that loads are those of the recorded one as their notations are
read, which need not be the same numbers.
-/

namespace FigureScript

open Outcome

/-! ### Data -/

/-- Each of the error bars of a series has a field. -/
theorem Series.exists_mem_errorFields {s : Series} {part : Option Values}
    (h : part ∈ [s.xerr, s.yerr, s.xmin, s.xmax, s.ymin, s.ymax]) :
    ∃ name, (name, part) ∈ s.errorFields := by
  simp only [List.mem_cons, List.not_mem_nil, or_false] at h
  rcases h with rfl | rfl | rfl | rfl | rfl | rfl
  · exact ⟨"xerr", by simp [errorFields]⟩
  · exact ⟨"yerr", by simp [errorFields]⟩
  · exact ⟨"xmin", by simp [errorFields]⟩
  · exact ⟨"xmax", by simp [errorFields]⟩
  · exact ⟨"ymin", by simp [errorFields]⟩
  · exact ⟨"ymax", by simp [errorFields]⟩

/-- The data of a recorded series are finite. -/
theorem Series.Recorded.finite {s : Series} (h : s.Recorded) :
    ∀ x ∈ s.numbers, Number.isFinite x := by
  intro x hx
  obtain ⟨xs, hxs, hcolumn⟩ := h.x
  simp only [numbers, List.mem_append, List.mem_flatten, List.mem_flatMap, Option.mem_toList] at hx
  rcases hx with (⟨column, hmem, hx⟩ | hx) | ⟨part, hpart, values, hvalues, hx⟩
  · rw [hxs] at hmem
    obtain rfl := Option.some.inj hmem
    exact hcolumn.2 x hx
  · exact h.y.2 x hx
  · obtain ⟨name, hfield⟩ := exists_mem_errorFields hpart
    obtain ⟨column, rfl, hcolumn⟩ := h.errors _ hfield values hvalues
    exact hcolumn.2 x hx

namespace AxesRecorder.Sound

variable {a : AxesRecorder} {s : Series} (h : a.Sound)
include h

/-- The series of a recorded chart are drawn against the first secondary axes, if any. -/
theorem cell_added (hs : s ∈ a.cell.series) (axis : Axis) :
    s.added axis = none ∨ s.added axis = some 1 := by
  cases hfield : a.field with
  | none =>
      rw [cell_of_field_none hfield] at hs
      exact h.folded_added hs axis
  | some c =>
      rw [cell_of_field_some hfield] at hs
      cases hs

theorem cell_added_lt (hs : s ∈ a.cell.series) (axis : Axis) : ∀ k ∈ s.added axis, k < 2 ^ 32 := by
  intro k hk
  rcases h.cell_added hs axis with hnone | hsome
  · rw [hnone] at hk
    cases hk
  · rw [hsome] at hk
    cases hk
    decide

theorem inWordRange : ∀ s ∈ a.cell.series, s.InWordRange := by
  intro s hs
  have hrecorded := h.cell_series s hs
  refine ⟨?_, ?_, h.cell_added_lt hs .x, h.cell_added_lt hs .y⟩
  · rw [hrecorded.color]
    nofun
  · rw [hrecorded.line]
    nofun

end AxesRecorder.Sound

/-- Every number is read as rereading gives it. -/
theorem legible_reread (x : Float) : Legible Json.reread x :=
  fun h => (Json.reread_of_isFinite h).1

namespace FigureRecorder

variable {f : FigureRecorder}

/-! ### Texts -/

namespace Sound

theorem inWordRange (h : f.Sound) : f.figure.InWordRange := by
  intro s hs
  rw [series_figure] at hs
  obtain ⟨a, ha, hs⟩ := List.mem_flatMap.mp hs
  exact (h.axes a ha).inWordRange s hs

theorem finite_series (h : f.Sound) :
    ∀ s ∈ f.figure.series, ∀ x ∈ s.numbers, Number.isFinite x :=
  fun s hs => (h.series s hs).finite

theorem finite_fields (h : f.Sound) :
    ∀ c ∈ f.figure.colorplots, ∀ row ∈ c.z, ∀ x ∈ row, Number.isFinite x :=
  fun c hc row hrow => ((h.colorplots c hc).z row hrow).2

/-- **Which recorded figures are read from their texts**, of those that pass their check. -/
theorem isOk_ofText_iff (h : f.Sound) (hcheck : f.figure.check = .ok ()) (compact : Bool) :
    (Figure.ofText (f.figure.toText compact)).isOk ↔
      ∀ x ∈ f.figure.frame, Number.isFinite x :=
  Figure.isOk_ofText_iff Json.isFinite_reread h.inWordRange (fun x _ => legible_reread x) hcheck
    h.finite_series h.finite_fields compact

/-- **What is read** is the figure with each number as its notation is read. -/
theorem ofText_toText_reread (h : f.Sound) (hcheck : f.figure.check = .ok ())
    (hframe : ∀ x ∈ f.figure.frame, Number.isFinite x) (compact : Bool) :
    Figure.ofText (f.figure.toText compact) = .ok (f.figure.mapReal Json.reread) :=
  Figure.ofText_toText_mapReal Json.isFinite_reread h.inWordRange (fun x _ => legible_reread x)
    hcheck (Figure.finite_of_frame h.finite_series h.finite_fields hframe) compact

end Sound

/-! ### Saving -/

/-- **A figure that is saved** has passed its check, and its text is written under the path
with the extension of figure files. -/
theorem save_writes {path written : String} {s s' : Session}
    (h : (f.save path).perform s = (.ok written, s')) :
    f.figure.check = .ok () ∧ written = Path.withExtension path "vfd" ∧
      s.store.write written (.text (f.figure.toText false)) = .ok s'.store := by
  rw [save] at h
  generalize Path.withExtension path "vfd" = target at h ⊢
  obtain ⟨_, s₁, hlog, h⟩ := Action.bind_eq_ok.mp h
  cases hcheck : f.figure.check with
  | error e =>
      rw [hcheck] at h
      cases h
  | ok value =>
      rw [hcheck] at h
      obtain ⟨_, s₂, hwrite, h⟩ := Action.bind_eq_ok.mp h
      obtain ⟨_, s₃, hwrote, hpure⟩ := Action.bind_eq_ok.mp h
      obtain ⟨hwritten, hleft⟩ := Prod.mk.inj hpure
      obtain rfl := Except.ok.inj hwritten
      refine ⟨rfl, rfl, ?_⟩
      rw [← hleft, Action.logAll_eq_ok hwrote, ← Action.logAll_eq_ok hlog]
      exact Action.write_eq_ok hwrite

/-- The text of a figure that is saved is found under the path that was answered. -/
theorem save_eq_ok {path written : String} {s s' : Session}
    (h : (f.save path).perform s = (.ok written, s')) :
    f.figure.check = .ok () ∧ s'.store.readText written = .ok (f.figure.toText false) := by
  obtain ⟨hcheck, -, hwrite⟩ := save_writes h
  exact ⟨hcheck, Store.readText_of_write hwrite⟩

/-- **Which saved figures load**: of the numbers of a recorded figure those around its data
decide, and what is loaded is the figure with each number as its notation is read. -/
theorem save_loads_iff (calls : List FigureCall) (path written : String) (s s' : Session)
    (h : ((applyAll {} calls).save path).perform s = (.ok written, s')) :
    ∃ text, s'.store.readText written = .ok text ∧
      ((∃ loaded, Figure.ofText text = .ok loaded) ↔
        ∀ x ∈ (applyAll {} calls).figure.frame, Number.isFinite x = true) ∧
      ∀ loaded, Figure.ofText text = .ok loaded →
        loaded = (applyAll {} calls).figure.mapReal Json.reread := by
  have hsound : (applyAll {} calls).Sound := sound_empty.applyAll calls
  generalize applyAll {} calls = f at h hsound
  obtain ⟨hcheck, hread⟩ := save_eq_ok h
  have hloads := hsound.isOk_ofText_iff hcheck false
  rw [isOk_iff] at hloads
  refine ⟨f.figure.toText false, hread, hloads, fun loaded hloaded => ?_⟩
  have hreread := hsound.ofText_toText_reread hcheck (hloads.mp ⟨loaded, hloaded⟩) false
  exact Except.ok.inj (hloaded.symm.trans hreread)

/-- One point. -/
def onePoint : FigureCall :=
  .draw (.current []) (.plot false false none [1] none)

theorem save_loads_iff_onePoint :
    ∃ s', ((applyAll {} [onePoint]).save "a").perform ⟨{}, []⟩ = (.ok "a.vfd", s') ∧
      ∃ text, s'.store.readText "a.vfd" = .ok text ∧
        ∃ loaded, Figure.ofText text = .ok loaded := by
  refine ⟨_, rfl, ?_⟩
  obtain ⟨text, hread, hloads, -⟩ := save_loads_iff [onePoint] "a" "a.vfd" ⟨{}, []⟩ _ rfl
  exact ⟨text, hread, hloads.mpr fun x hx => nomatch hx⟩

/-- A limit that is no number. -/
def nanLimit : FigureCall :=
  .draw (.current []) (.limits .x ⟨0 / 0, 1⟩)

/-- **A figure can be saved and not load.** -/
theorem exists_saved_unreadable :
    ¬ ∀ (calls : List FigureCall) (path written : String) (s s' : Session),
      ((applyAll {} calls).save path).perform s = (.ok written, s') →
        ∀ text, s'.store.readText written = .ok text →
          ∃ loaded, Figure.ofText text = .ok loaded := by
  intro h
  have hsave : ((applyAll {} [onePoint, nanLimit]).save "a").perform ⟨{}, []⟩ =
      (.ok "a.vfd", _) := rfl
  have hsound : (applyAll {} [onePoint, nanLimit]).Sound := sound_empty.applyAll _
  obtain ⟨hcheck, hread⟩ := save_eq_ok hsave
  have hloads := (hsound.isOk_ofText_iff hcheck false).mp (isOk_iff.mpr (h _ _ _ _ _ hsave _ hread))
  have hfinite : Number.isFinite (0 / 0) = true := hloads _ (List.mem_cons_self ..)
  exact absurd hfinite (by decide +kernel)

end FigureRecorder

end FigureScript
