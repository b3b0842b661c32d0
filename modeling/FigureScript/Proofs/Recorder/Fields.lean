import FigureScript.Proofs.Figure.Accepted
import FigureScript.Proofs.Program.Compiled
import FigureScript.Proofs.Recorder.Axes
import FigureScript.Recorder.Figure

/-!
# Recorded fields compile as given

Edges become centres when a field is recorded, and also when it is compiled.  A field that
is recorded has been through both, one that stands in a figure as it was given through the
second only.  They are refused for the same reasons and have the same programs.

## Main Definitions

* `Colorplot.given` — the field of a call, with the coordinates that were given
* `Colorplot.centered` — a field with centres for edges

## Main Results

* `cellCenters_map_cellCenters` — centres are left alone
* `Colorplot.capture_of_finite` — recording is checking and centring
* `Colorplot.program_centered` — a field has the program of its centres
* `FigureRecorder.field_program_as_given` — a recorded field compiles as the given one

## Design Notes

Whether coordinates are edges is told by their number alone, here as there.  Centres are one
fewer than edges, so those that have been averaged are not taken for edges again.
-/

namespace FigureScript

/-! ### Centres -/

section Centers

variable {cells : Nat} {coordinates : Option (List Float)}
  (h : ∀ values ∈ coordinates, values.length = cells ∨ values.length = cells + 1)
include h

/-- Centres that stand in for coordinates are one for each cell. -/
theorem length_of_mem_map_cellCenters :
    ∀ values ∈ coordinates.map fun values => cellCenters cells (some values),
      values.length = cells := by
  cases coordinates with
  | none => exact fun values hvalues => nomatch hvalues
  | some given =>
      rintro values ⟨⟩
      exact length_cellCenters h

/-- **Centres are left alone**: averaging once more changes nothing. -/
theorem cellCenters_map_cellCenters :
    cellCenters cells (coordinates.map fun values => cellCenters cells (some values)) =
      cellCenters cells coordinates := by
  have hlength := length_of_mem_map_cellCenters h
  cases coordinates with
  | none => rfl
  | some values =>
      have hcenters : (cellCenters cells (some values)).length ≠ cells + 1 := by
        rw [hlength _ rfl]
        exact (Nat.succ_ne_self cells).symm
      exact if_neg hcenters

end Centers

/-- Finite coordinates are refused for their number only. -/
theorem captureCoordinates_of_finite {name : String} {cells : Nat}
    {coordinates : Option (List Float)}
    (h : ∀ values ∈ coordinates, ∀ value ∈ values, Number.isFinite value = true) :
    captureCoordinates name cells coordinates =
      (Colorplot.checkCoordinates (.ofField name) cells coordinates).map fun _ =>
        coordinates.map fun values => cellCenters cells (some values) := by
  cases coordinates with
  | none => rfl
  | some values =>
      have hall : values.all Number.isFinite = true := List.all_eq_true.mpr (h values rfl)
      rw [captureCoordinates, hall]
      cases Colorplot.checkCoordinates (.ofField name) cells (some values) <;> rfl

/-! ### Fields -/

namespace Colorplot

/-- **The field of a call**, with the coordinates that were given and the switches that its
kind stands for. -/
def given (kind : FieldKind) (x y : Option (List Float)) (z : List (List Float)) (zlog : Bool) :
    Colorplot :=
  match kind with
  | .mesh => { z, x, y, zlog }
  | .contour => { z, x, y, zlog, contour := true }
  | .filled => { z, x, y, zlog, contour := true, fillContour := true }

theorem given_eq (kind : FieldKind) (x y : Option (List Float)) (z : List (List Float))
    (zlog : Bool) :
    given kind x y z zlog =
      { z, x, y, contour := kind.isContour, fillContour := kind == .filled, zlog } := by
  cases kind <;> rfl

/-- **The field with centres for edges.** -/
def centered (c : Colorplot) : Colorplot :=
  { c with
    x := c.x.map fun xs => cellCenters c.cols (some xs)
    y := c.y.map fun ys => cellCenters c.z.length (some ys) }

/-- **Recording is checking and centring**, where all numbers are finite. -/
theorem capture_of_finite (kind : FieldKind) (zlog : Bool) {x y : Option (List Float)}
    {z : List (List Float)} (hx : ∀ xs ∈ x, ∀ value ∈ xs, Number.isFinite value = true)
    (hy : ∀ ys ∈ y, ∀ value ∈ ys, Number.isFinite value = true)
    (hz : ∀ row ∈ z, ∀ value ∈ row, Number.isFinite value = true) :
    capture kind x y z zlog =
      ((given kind x y z zlog).check []).map fun _ => (given kind x y z zlog).centered := by
  rw [given_eq, capture, check, firstNotFinite?_eq_none.mpr hz]
  -- both look at the shape, then at the columns, then at the rows
  change _ = Except.map _ ((shape [] { z }) >>= fun size => _)
  cases hshape : shape [] { z } with
  | error e => rfl
  | ok size =>
      obtain ⟨rows, cols⟩ := size
      obtain ⟨-, -, rfl, rfl, -⟩ := shape_eq_ok.mp hshape
      change (captureCoordinates "x" _ x >>= fun xs =>
        captureCoordinates "y" _ y >>= fun ys => _) = _
      rw [captureCoordinates_of_finite hx, captureCoordinates_of_finite hy]
      change _ = Except.map _ (checkCoordinates (.ofField "x") _ x >>= fun _ =>
        checkCoordinates (.ofField "y") _ y)
      cases checkCoordinates (.ofField "x") (cols { z }) x with
      | error e => rfl
      | ok => cases checkCoordinates (.ofField "y") z.length y <;> rfl

/-- A field is drawn over its centres, also where it has them already. -/
theorem field_centered {c : Colorplot}
    (hx : ∀ xs ∈ c.x, xs.length = c.cols ∨ xs.length = c.cols + 1)
    (hy : ∀ ys ∈ c.y, ys.length = c.z.length ∨ ys.length = c.z.length + 1) (axes : Axes) :
    c.centered.field axes c.z.length c.cols = c.field axes c.z.length c.cols := by
  have hgiven : c.centered.hasCoordinates = c.hasCoordinates := by
    rw [hasCoordinates, centered, Option.isSome_map, Option.isSome_map, hasCoordinates]
  unfold field
  rw [hgiven, centered, cellCenters_map_cellCenters hx, cellCenters_map_cellCenters hy]
  rfl

/-- **A field has the program of its centres**, where it is accepted. -/
theorem program_centered {c : Colorplot} (h : c.check [] = .ok ()) (axes : Axes) :
    c.centered.program axes = c.program axes := by
  obtain ⟨hrectangle, hx, hy⟩ := check_eq_ok.mp h
  have hshape : c.shape [] = .ok (c.z.length, c.cols) :=
    shape_eq_ok.mpr ⟨hrectangle.1, hrectangle.2.1, rfl, rfl, hrectangle.2.2⟩
  have hcheck : c.centered.check [] = .ok () :=
    check_eq_ok.mpr ⟨hrectangle, fun xs hxs => .inl (length_of_mem_map_cellCenters hx xs hxs),
      fun ys hys => .inl (length_of_mem_map_cellCenters hy ys hys)⟩
  have hfield := field_centered hx hy axes
  have hstatements : c.centered.statements axes c.z.length c.cols =
      c.statements axes c.z.length c.cols := by
    rw [statements, hfield]
    rfl
  rw [program, program, hcheck, h]
  change (c.shape [] >>= fun size => _) = (c.shape [] >>= fun size => _)
  rw [hshape]
  exact congrArg Except.ok hstatements

end Colorplot

/-! ### Recorded figures -/

section Recorded

variable (kind : FieldKind) (zlog : Bool) {x y : Option (List Float)} {z : List (List Float)}

/-- A field on axes without decorations stays as it is. -/
theorem AxesRecorder.decorated_given :
    ({} : AxesRecorder).decorated (Colorplot.given kind x y z zlog).centered =
      (Colorplot.given kind x y z zlog).centered := by
  cases kind <;> rfl

variable (hx : ∀ xs ∈ x, ∀ value ∈ xs, Number.isFinite value = true)
  (hy : ∀ ys ∈ y, ∀ value ∈ ys, Number.isFinite value = true)
  (hz : ∀ row ∈ z, ∀ value ∈ row, Number.isFinite value = true)
include hx hy hz

/-- **A call on fresh axes** records the given field with centres, or fails with its check. -/
theorem AxesRecorder.apply_field :
    ({} : AxesRecorder).apply (.field kind x y z zlog) =
      ({} : AxesRecorder).attempt (((Colorplot.given kind x y z zlog).check []).map fun _ =>
        ({ field := some (Colorplot.given kind x y z zlog).centered }, [])) := by
  rw [AxesRecorder.apply, setField, Colorplot.capture_of_finite kind zlog hx hy hz]
  cases (Colorplot.given kind x y z zlog).check [] <;> rfl

/-- **A recorded field compiles as the given one**: the call answers what the check of the
given field says, and when it succeeds the two have the same programs. -/
theorem FigureRecorder.field_program_as_given :
    let given := Colorplot.given kind x y z zlog
    let step := ({} : FigureRecorder).apply (.draw (.current []) (.field kind x y z zlog))
    step.2.result = (Figure.colorplot given).check ∧
      (step.2.result = .ok () → ∀ name options,
        step.1.figure.program name options = (Figure.colorplot given).program name options) := by
  intro given step
  have hstep : step = ({ current := (({} : AxesRecorder).apply (.field kind x y z zlog)).1 },
      (({} : AxesRecorder).apply (.field kind x y z zlog)).2) := rfl
  rw [AxesRecorder.apply_field kind zlog hx hy hz] at hstep
  rw [Figure.check]
  cases hcheck : given.check [] with
  | error e =>
      rw [hstep, hcheck]
      exact ⟨rfl, fun hok => nomatch hok⟩
  | ok =>
      rw [hstep, hcheck]
      refine ⟨rfl, fun _ name options => ?_⟩
      have hfigure : ({ current := { field := some given.centered } } : FigureRecorder).figure =
          .colorplot given.centered :=
        congrArg Figure.colorplot (AxesRecorder.decorated_given kind zlog)
      exact (congrArg (·.program name options) hfigure).trans
        (Figure.program_colorplot_congr (Colorplot.program_centered hcheck .current) name options)

end Recorded

namespace FigureRecorder

/-- Edges of the columns, and no coordinates of the rows. -/
theorem field_program_as_given_edges :
    let given := Colorplot.given .contour (some [0, 1, 2]) none [[1, 2]] true
    let step := ({} : FigureRecorder).apply
      (.draw (.current []) (.field .contour (some [0, 1, 2]) none [[1, 2]] true))
    step.2.result = .ok () ∧
      step.1.figure.program "fig" {} = (Figure.colorplot given).program "fig" {} := by
  intro given step
  obtain ⟨-, hprogram⟩ := field_program_as_given .contour true
    (x := some [0, 1, 2]) (y := none) (z := [[1, 2]]) (by decide) (by decide) (by decide)
  have hok : step.2.result = .ok () := rfl
  exact ⟨hok, hprogram hok "fig" {}⟩

end FigureRecorder

end FigureScript
