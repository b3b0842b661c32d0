import FigureScript.Files.Expand

/-!
# The pattern that fits all names

A star alone names everything in the working directory, in the order of the names.

## Main Results

* `Store.expand_star` — the paths that a star expands to
-/

namespace FigureScript

namespace Pattern

/-- When nothing is left of a pattern, it fits the end of every name. -/
theorem matchesTail_nil (name : List Char) : matchesName.matchesTail [] name = true := by
  induction name with
  | nil =>
      rw [matchesName.matchesTail, matchesName]
      rfl
  | cons c rest ih => rw [matchesName.matchesTail, ih, Bool.or_true]

theorem partFits_anyText (name : String) : partFits [.anyText] name = true := by
  rw [partFits, matchesName, matchesTail_nil]

end Pattern

namespace Store

theorem visit_anyText (s : Store) (fuel : Nat) (path name : String) :
    s.visit false (fuel + 2) path name [[.anyText]] = [path] := by
  have hdepth : Pattern.isAnyDepth [.anyText] = false := rfl
  rw [visit]
  simp only [hdepth, Pattern.partFits_anyText]
  rw [expandAt]
  rfl

theorem expandIn_anyText (s : Store) (fuel : Nat) (h : s.isDirectory "." = true) :
    s.expandIn false (fuel + 3) "." [[.anyText]] = s.list "." := by
  have hbelow (name : String) : below "." name = name := rfl
  have hliteral : Pattern.literal? [.anyText] = none := rfl
  rw [expandIn, hliteral]
  simp only [h, visit_anyText, hbelow]
  simp

/-- **A star expands to the names in the working directory.** -/
theorem expand_star (s : Store) (h : s.isDirectory "." = true) :
    s.expand "*" = .ok (s.list ".") := by
  have hwalk : s.expand "*" =
      .ok (s.expandIn false (3 * 2 * (s.entries.length + 2)) "." [[.anyText]]) := rfl
  have hfuel : 3 * 2 * (s.entries.length + 2) = 6 * s.entries.length + 9 + 3 := by omega
  rw [hwalk, hfuel, expandIn_anyText s _ h]

end Store

end FigureScript
