import FigureScript.Figure.Check
import FigureScript.Proofs.Outcome

/-!
# Checks at a place

A part of a figure can be checked with its place handed down, or for itself with the place
put in front of what was found.  Both find the same.  And a check finds violations of the
format only, each of them below the place that it looks at.

## Main Definitions

* `FailsBelow` — an operation that finds violations only, at a place or below it

## Main Results

* `Series.check_inCell`, `Plot.check_inCell` — the checks of a chart in a cell
* `Location.text_inCell` — how a place in a cell is written
* `Plot.check_failsBelow`, `Figure.check_failsBelow` — where the check of a chart and of a
  figure finds what
-/

namespace FigureScript

open Outcome

/-! ### In a cell -/

section InCell

variable (i j : Nat) (location : Location)

theorem require_inCell (condition : Bool) (problem : Problem) :
    require condition (.ofCell i j ++ location) problem =
      (require condition location problem).mapError (Error.inCell i j) := by
  cases condition <;> rfl

theorem checkValues_inCell (count : Nat) (values : Option Values) :
    checkValues count (.ofCell i j ++ location) values =
      (checkValues count location values).mapError (Error.inCell i j) := by
  cases values with
  | none => rfl
  | some values => exact require_inCell i j location _ _

theorem checkIndex_inCell (index : Option Int) :
    checkIndex (.ofCell i j ++ location) index =
      (checkIndex location index).mapError (Error.inCell i j) :=
  require_inCell i j location _ _

/-- **A series is checked in a cell** as it is for itself. -/
theorem Series.check_inCell (s : Series) :
    s.check (.ofCell i j ++ location) = (s.check location).mapError (Error.inCell i j) := by
  simp only [check, mapError_bind, mapError_forM, List.append_assoc, require_inCell,
    checkValues_inCell, checkIndex_inCell]

theorem Plot.checkSeries_inCell (p : Plot) :
    p.checkSeries (.ofCell i j ++ location) =
      (p.checkSeries location).mapError (Error.inCell i j) := by
  simp only [checkSeries, mapError_forM, List.append_assoc, Series.check_inCell]

/-- **A chart is checked in a cell** as it is for itself. -/
theorem Plot.check_inCell (p : Plot) :
    p.check (.ofCell i j ++ location) = (p.check location).mapError (Error.inCell i j) := by
  simp only [check, mapError_bind, List.append_assoc, require_inCell, checkSeries_inCell]

end InCell

/-- **A place in a cell**, as it is written. -/
theorem Location.text_inCell (i j : Nat) (name : String) (rest : Location) :
    Location.text (.ofCell i j ++ .field name :: rest) =
      s!"plots[{i}][{j}]." ++ Location.text (.field name :: rest) := by
  have htext : Location.text (.ofCell i j ++ .field name :: rest) =
      "plots" ++ ("[" ++ i.repr ++ "]" ++ ("[" ++ j.repr ++ "]" ++
        ("." ++ name ++ tailText rest))) := rfl
  have hplace : s!"plots[{i}][{j}]." = "plots[" ++ i.repr ++ "][" ++ j.repr ++ "]." := rfl
  rw [htext, hplace, text, ← String.toList_inj]
  simp [String.toList_append]

/-! ### Below a place -/

/-- **An operation that finds violations only**, all of them at a place or below it. -/
def FailsBelow {α : Type} (location : Location) (x : Except Error α) : Prop :=
  ∀ e, x = .error e → ∃ rest problem, e = .schema (location ++ rest) problem

namespace FailsBelow

variable {α β : Type} {location : Location}

theorem ok (a : α) : FailsBelow location (.ok a) :=
  nofun

theorem schema (rest : Location) (problem : Problem) :
    FailsBelow location (.error (.schema (location ++ rest) problem) : Except Error α) := by
  rintro _ ⟨⟩
  exact ⟨rest, problem, rfl⟩

/-- What is found below a place inside another one is below that one. -/
theorem outer {inside : Location} {x : Except Error α} (h : FailsBelow (location ++ inside) x) :
    FailsBelow location x := by
  intro e he
  obtain ⟨rest, problem, rfl⟩ := h e he
  exact ⟨inside ++ rest, problem, by rw [List.append_assoc]⟩

theorem bind {x : Except Error α} {f : α → Except Error β} (hx : FailsBelow location x)
    (hf : ∀ a, FailsBelow location (f a)) : FailsBelow location (x >>= f) := by
  intro e h
  rcases bind_eq_error.mp h with h | ⟨a, -, h⟩
  · exact hx e h
  · exact hf a e h

theorem forM {check : α → Except Error Unit} {items : List α}
    (h : ∀ a, FailsBelow location (check a)) : FailsBelow location (items.forM check) := by
  intro e he
  obtain ⟨a, -, hcheck⟩ := exists_of_forM_eq_error he
  exact h a e hcheck

end FailsBelow

section Checks

variable (location : Location)

theorem require_failsBelow (condition : Bool) (problem : Problem) :
    FailsBelow location (require condition location problem) := by
  cases condition with
  | true => exact .ok ()
  | false =>
      have h : FailsBelow location
          (.error (.schema (location ++ []) problem) : Except Error Unit) := .schema [] problem
      rwa [List.append_nil] at h

theorem checkValues_failsBelow (count : Nat) (values : Option Values) :
    FailsBelow location (checkValues count location values) := by
  cases values with
  | none => exact .ok ()
  | some values => exact require_failsBelow location _ _

theorem Series.check_failsBelow (s : Series) : FailsBelow location (s.check location) := by
  refine .bind (require_failsBelow _ _ _).outer fun _ => ?_
  refine .bind (require_failsBelow _ _ _).outer fun _ => ?_
  refine .bind (.forM fun _ => (checkValues_failsBelow _ _ _).outer) fun _ => ?_
  exact .bind (require_failsBelow _ _ _).outer fun _ => (require_failsBelow _ _ _).outer

/-- What is wrong with a chart of series is wrong with its series. -/
theorem Plot.check_failsBelow (p : Plot) :
    FailsBelow (location ++ .ofField "series") (p.check location) := by
  refine .bind (require_failsBelow _ _ _) fun _ => .forM fun entry => ?_
  have hseries : FailsBelow (location ++ (Location.ofField "series" ++ [.index entry.2]))
      (entry.1.check (location ++ .ofSeries entry.2)) := entry.1.check_failsBelow _
  rw [← List.append_assoc] at hseries
  exact hseries.outer

namespace Colorplot

theorem shape_failsBelow (c : Colorplot) : FailsBelow location (c.shape location) := by
  refine .bind (require_failsBelow _ _ _).outer fun _ => ?_
  split
  · rw [List.append_assoc]
    exact .schema _ _
  · exact .ok _

theorem checkCoordinates_failsBelow (cells : Nat) (coordinates : Option (List Float)) :
    FailsBelow location (checkCoordinates location cells coordinates) := by
  cases coordinates with
  | none => exact .ok ()
  | some values => exact require_failsBelow location _ _

theorem check_failsBelow (c : Colorplot) : FailsBelow location (c.check location) := by
  refine .bind (c.shape_failsBelow location) fun _ => ?_
  exact .bind (checkCoordinates_failsBelow _ _ _).outer fun _ =>
    (checkCoordinates_failsBelow _ _ _).outer

end Colorplot

theorem Cell.check_failsBelow (cell : Cell) : FailsBelow location (cell.check location) := by
  cases cell with
  | plot p => exact (p.check_failsBelow location).outer
  | colorplot c => exact c.check_failsBelow location

end Checks

/-- What is wrong with the shape of a grid is wrong with its cells as a whole. -/
theorem Multiplot.shape_failsBelow (m : Multiplot) : FailsBelow (.ofField "plots") m.shape := by
  refine .bind (require_failsBelow _ _ _) fun _ => ?_
  split
  next i _ => exact .schema [.index i] _
  next => exact .ok _

/-- **The check of a figure** finds violations of the format only. -/
theorem Figure.check_failsBelow (figure : Figure) : FailsBelow [] figure.check := by
  cases figure with
  | plot p => exact (p.check_failsBelow []).outer
  | colorplot c => exact c.check_failsBelow []
  | multiplot m =>
      exact .bind m.shape_failsBelow.outer fun _ => .forM fun _ =>
        (Cell.check_failsBelow _ _).outer

end FigureScript
