import FigureScript.Proofs.Session.Conversion
import FigureScript.Proofs.Workbook.Worksheet
import Mathlib.Data.List.TakeWhile

/-!
# The titles of a chart in a workbook

The title of a chart and the names of its axes are handed on as they are.  A text that has the
form of a reference to cells is then taken as one: the workbook shows what is in these cells, or
cannot be stored if they are on another worksheet.  Every other text is shown as it is.

## Main Definitions

* `Workbook.IsCorners`, `Workbook.RefersTo`, `Workbook.IsReference` — texts that have the form of
  a reference
* `Workbook.ShownAs` — what a chart in a workbook shows for a text

## Main Results

* `Workbook.isSome_ofReference?_iff` — these texts are taken as references, and no others
* `Workbook.shownAs_ofString?` — every other text is shown as it is
* `Workbook.writeSpreadsheet_titles` — the titles in the spreadsheet of a chart
* `Workbook.exists_title_not_shown` — a title that is not shown

## Design Notes

Names of series do not have this problem: they are put into cells, and the chart refers to these.
-/

namespace FigureScript.Workbook

open Outcome

/-- **The corners of a range**, without dollar signs: from a capital letter to a digit, with
letters, digits and colons between them. -/
def IsCorners (plain : List Char) : Prop :=
  ∃ letter between digit, plain = letter :: (between ++ [digit]) ∧
    CellRange.isCapital letter = true ∧ digit.isDigit = true ∧
    ∀ c ∈ between, CellRange.isCapital c = true ∨ c.isDigit = true ∨ c = ':'

/-- **A text refers to cells**: it has the name of a worksheet, an exclamation mark and the
corners of a range, perhaps behind an equals sign. -/
structure RefersTo (text : String) (sheet corners : List Char) : Prop where
  split : text.toList = '=' :: (sheet ++ '!' :: corners) ∨
    text.toList = sheet ++ '!' :: corners ∧ text.toList.head? ≠ some '='
  mark_notMem : '!' ∉ sheet
  /-- A pair of quotes with nothing between them names no worksheet. -/
  named : sheet ≠ [] ∧ sheet ≠ ['\'', '\'']
  corners : IsCorners (corners.filter (· ≠ '$'))

/-- The text has the form of a reference. -/
def IsReference (text : String) : Prop :=
  ∃ sheet corners, RefersTo text sheet corners

/-- **What a chart shows for an optional text**: nothing for an empty one, a range of the
worksheet for one that has the form of a reference, and otherwise the text itself. -/
inductive ShownAs : Option String → Option ChartText → Prop where
  | absent : ShownAs none none
  | empty : ShownAs (some "") none
  | literal {text : String} (hne : text ≠ "") (hplain : ¬ IsReference text) :
      ShownAs (some text) (some (.literal text))
  | reference {text : String} {range : CellRange} (h : IsReference text)
      (hrange : CellRange.ofReference? text = some range) (hsheet : range.sheet = sheetName) :
      ShownAs (some text) (some (.reference range))

/-! ### The form of a reference -/

theorem isDigit_of_isCapital {c : Char} (h : CellRange.isCapital c = true) :
    c.isDigit = false := by
  have hA : 'A'.val.toNat = 65 := rfl
  have h9 : '9'.val.toNat = 57 := rfl
  simp only [CellRange.isCapital, Bool.and_eq_true, decide_eq_true_eq, Char.le_def,
    UInt32.le_iff_toNat_le] at h
  rw [Char.isDigit, Bool.and_eq_false_iff, decide_eq_false_iff_not, decide_eq_false_iff_not,
    UInt32.le_iff_toNat_le]
  omega

/-- The form of corners is found out by looking at both ends and at all characters. -/
theorem hasForm_iff {plain : List Char} : CellRange.hasForm plain = true ↔ IsCorners plain := by
  simp only [CellRange.hasForm, Bool.and_eq_true, List.all_eq_true, Bool.or_eq_true,
    decide_eq_true_eq, or_assoc]
  constructor
  · rintro ⟨⟨hfirst, hlast⟩, hchars⟩
    cases plain with
    | nil => cases hfirst
    | cons letter rest =>
        rcases List.eq_nil_or_concat' rest with rfl | ⟨between, digit, rfl⟩
        · -- a single character is no letter and digit at once
          have hletter : letter.isDigit = true := hlast
          rw [isDigit_of_isCapital hfirst] at hletter
          cases hletter
        · rw [← List.cons_append, List.getLast?_concat] at hlast
          refine ⟨letter, between, digit, rfl, hfirst, hlast, fun c hc => hchars c ?_⟩
          exact List.mem_cons_of_mem _ (List.mem_append_left _ hc)
  · rintro ⟨letter, between, digit, rfl, hletter, hdigit, hbetween⟩
    refine ⟨⟨hletter, ?_⟩, ?_⟩
    · rw [← List.cons_append, List.getLast?_concat]
      exact hdigit
    · intro c hc
      rcases List.mem_cons.mp hc with rfl | hc
      · exact .inl hletter
      rcases List.mem_append.mp hc with hc | hc
      · exact hbetween c hc
      · rw [List.mem_singleton.mp hc]
        exact .inr (.inl hdigit)

theorem singleQuotes_eq_nil {name : List Char} : singleQuotes name = [] ↔ name = [] := by
  fun_cases singleQuotes name <;> simp

/-- Only nothing at all, or a pair of quotes, names no worksheet. -/
theorem unquotedSheetName_eq_nil {sheet : List Char} :
    unquotedSheetName sheet = [] ↔ sheet = [] ∨ sheet = ['\'', '\''] := by
  unfold unquotedSheetName
  split
  next rest =>
    split
    next hquote =>
      obtain ⟨inner, rfl⟩ := List.getLast?_eq_some_iff.mp hquote
      rw [List.dropLast_concat, singleQuotes_eq_nil]
      simp
    next hquote =>
      refine iff_of_false (List.cons_ne_nil _ _) ?_
      rintro (h | h)
      · cases h
      · cases h
        exact hquote rfl
  next hplain =>
    constructor
    · exact .inl
    · rintro (h | h)
      · exact h
      · exact absurd h (hplain _)

/-- The range that a formula without an equals sign refers to. -/
def rangeOf? (formula : List Char) : Option CellRange :=
  let sheet := formula.takeWhile (· ≠ '!')
  let behind := ((formula.drop sheet.length).drop 1).filter (· ≠ '$')
  if (unquotedSheetName sheet).isEmpty || !CellRange.hasForm behind then none
  else some ⟨String.ofList (unquotedSheetName sheet),
    CellRange.cornerPlace (CellRange.corners behind).1,
    CellRange.cornerPlace (CellRange.corners behind).2⟩

theorem ofReference?_of_equals {text : String} {formula : List Char}
    (h : text.toList = '=' :: formula) : CellRange.ofReference? text = rangeOf? formula := by
  unfold CellRange.ofReference? rangeOf?
  rw [h]
  rfl

theorem ofReference?_of_plain {text : String} (h : text.toList.head? ≠ some '=') :
    CellRange.ofReference? text = rangeOf? text.toList := by
  unfold CellRange.ofReference? rangeOf?
  split
  next rest hrest =>
    rw [hrest] at h
    exact absurd rfl h
  next => rfl

theorem rangeOf?_of_notMem {formula : List Char} (h : '!' ∉ formula) :
    rangeOf? formula = none := by
  have hsheet : formula.takeWhile (· ≠ '!') = formula := by
    rw [List.takeWhile_eq_self_iff]
    intro c hc
    exact decide_eq_true (ne_of_mem_of_not_mem hc h)
  have hform : CellRange.hasForm [] = false := rfl
  rw [rangeOf?, hsheet, List.drop_length, List.drop_nil, List.filter_nil, hform, Bool.not_false,
    Bool.or_true, if_pos rfl]

/-- A formula with an exclamation mark refers to a range when both sides of it have their
forms. -/
theorem isSome_rangeOf?_append {sheet corners : List Char} (h : '!' ∉ sheet) :
    (rangeOf? (sheet ++ '!' :: corners)).isSome = true ↔
      (sheet ≠ [] ∧ sheet ≠ ['\'', '\'']) ∧ IsCorners (corners.filter (· ≠ '$')) := by
  have hsheet : (sheet ++ '!' :: corners).takeWhile (· ≠ '!') = sheet := by
    rw [List.takeWhile_append_of_pos fun c hc => decide_eq_true (ne_of_mem_of_not_mem hc h)]
    simp
  have hnamed : (unquotedSheetName sheet).isEmpty = false ↔
      sheet ≠ [] ∧ sheet ≠ ['\'', '\''] := by
    rw [List.isEmpty_eq_false_iff, Ne, unquotedSheetName_eq_nil, not_or]
  rw [rangeOf?, hsheet, List.drop_left, List.drop_one, List.tail_cons, ← hnamed, ← hasForm_iff]
  cases (unquotedSheetName sheet).isEmpty <;>
    cases CellRange.hasForm (corners.filter (· ≠ '$')) <;> simp

/-- **The texts that are taken as references** are those that have the form of one. -/
theorem isSome_ofReference?_iff {text : String} :
    (CellRange.ofReference? text).isSome = true ↔ IsReference text := by
  -- an equals sign in front is left out, and the first exclamation mark ends the worksheet
  have hformula {formula : List Char} (h : (rangeOf? formula).isSome = true) :
      ∃ sheet corners, formula = sheet ++ '!' :: corners ∧ '!' ∉ sheet ∧
        (sheet ≠ [] ∧ sheet ≠ ['\'', '\'']) ∧ IsCorners (corners.filter (· ≠ '$')) := by
    by_cases hmark : '!' ∈ formula
    · obtain ⟨sheet, corners, rfl, hsheet⟩ := List.eq_append_cons_of_mem hmark
      exact ⟨sheet, corners, rfl, hsheet, (isSome_rangeOf?_append hsheet).mp h⟩
    · rw [rangeOf?_of_notMem hmark] at h
      cases h
  constructor
  · intro h
    by_cases hequals : text.toList.head? = some '='
    · obtain ⟨formula, htext⟩ := List.head?_eq_some_iff.mp hequals
      rw [ofReference?_of_equals htext] at h
      obtain ⟨sheet, corners, rfl, hsheet, hnamed, hcorners⟩ := hformula h
      exact ⟨sheet, corners, .inl htext, hsheet, hnamed, hcorners⟩
    · rw [ofReference?_of_plain hequals] at h
      obtain ⟨sheet, corners, htext, hsheet, hnamed, hcorners⟩ := hformula h
      exact ⟨sheet, corners, .inr ⟨htext, hequals⟩, hsheet, hnamed, hcorners⟩
  · rintro ⟨sheet, corners, htext | ⟨htext, hequals⟩, hsheet, hnamed, hcorners⟩
    · rw [ofReference?_of_equals htext]
      exact (isSome_rangeOf?_append hsheet).mpr ⟨hnamed, hcorners⟩
    · rw [ofReference?_of_plain hequals, htext]
      exact (isSome_rangeOf?_append hsheet).mpr ⟨hnamed, hcorners⟩

/-! ### Titles -/

/-- **A title from a text** is what is to be shown for it, when a range that it refers to is on
the worksheet. -/
theorem shownAs_ofString? {text : Option String}
    (hsheet : ∀ range, text.bind ChartText.ofString? = some (.reference range) →
      range.sheet = sheetName) : ShownAs text (text.bind ChartText.ofString?) := by
  cases text with
  | none => exact .absent
  | some text =>
      rw [Option.bind_some] at hsheet ⊢
      rw [ChartText.ofString?] at hsheet ⊢
      cases hrange : CellRange.ofReference? text with
      | some range =>
          rw [hrange] at hsheet
          exact .reference (isSome_ofReference?_iff.mp (Option.isSome_of_mem hrange)) hrange
            (hsheet range rfl)
      | none =>
          have hplain : ¬ IsReference text := by
            rw [← isSome_ofReference?_iff, hrange]
            exact Bool.false_ne_true
          dsimp only
          split
          next hempty =>
            rw [hempty]
            exact .empty
          next hne => exact .literal hne hplain

/-- A finished workbook refers to its own worksheet only. -/
theorem sheet_of_finish {w : Workbook} (h : w.finish = .ok w) {title : Option ChartText}
    (htitle : title ∈ [w.chart.title, w.chart.x.name, w.chart.y.name]) {range : CellRange}
    (hrange : title = some (.reference range)) : range.sheet = w.sheet := by
  have hforeign := (finish_eq_ok h).2 (.reference range)
    (List.mem_filterMap.mpr ⟨title, htitle, hrange⟩)
  rw [foreign?] at hforeign
  by_contra hsheet
  rw [if_neg hsheet] at hforeign
  cases hforeign

/-- **The titles in the spreadsheet of a chart**: when it has been written, the title and the
names of the axes are shown, each as its text is. -/
theorem writeSpreadsheet_titles {p : Plot} {input : String} {written : Option String}
    {s s' : Session} (h : (writeSpreadsheet input (.plot p)).perform s = (.ok written, s')) :
    ∃ w, s'.store.read (Path.withExtension input "xlsx") = .ok (.workbook w) ∧
      ShownAs p.title w.chart.title ∧ ShownAs p.xlabel w.chart.x.name ∧
      ShownAs p.ylabel w.chart.y.name := by
  obtain ⟨w, hworkbook, hfinish, -, hread⟩ := writeSpreadsheet_plot_eq_ok h
  obtain rfl := ofPlot_eq_ok hworkbook
  have hown {text : Option String} (htext : text.bind ChartText.ofString? ∈
      [(chartOf p).title, (chartOf p).x.name, (chartOf p).y.name]) :
      ShownAs text (text.bind ChartText.ofString?) :=
    shownAs_ofString? fun range => sheet_of_finish hfinish htext
  exact ⟨_, hread, hown (.head _), hown (.tail _ (.head _)), hown (.tail _ (.tail _ (.head _)))⟩

/-- A chart with a title, a text that refers to a cell and an empty text. -/
def titledChart : Plot where
  series := [{ y := [1] }]
  title := some "growth"
  xlabel := some "=Data!$A$1"
  ylabel := some ""

theorem writeSpreadsheet_titles_titledChart :
    ∃ s', (writeSpreadsheet "a.json" (.plot titledChart)).perform ⟨{}, []⟩ =
        (.ok (some "a.xlsx"), s') ∧
      ∃ w, s'.store.read "a.xlsx" = .ok (.workbook w) ∧
        ShownAs (some "growth") w.chart.title ∧ ShownAs (some "=Data!$A$1") w.chart.x.name ∧
        ShownAs (some "") w.chart.y.name := by
  have hwrite : (writeSpreadsheet "a.json" (.plot titledChart)).perform ⟨{}, []⟩ =
      (.ok (some "a.xlsx"), _) := rfl
  obtain ⟨w, hread, htitle, hx, hy⟩ := writeSpreadsheet_titles hwrite
  exact ⟨_, hwrite, w, hread, htitle, hx, hy⟩

/-- A chart whose title has the form of a reference. -/
def referringChart : Plot where
  series := [{ y := [1] }]
  title := some "=Data!$A$1"

/-- **A title that is not shown**: the workbook shows what is in the cell that it refers to. -/
theorem exists_title_not_shown :
    ¬ ∀ (p : Plot) (input : String) (written : Option String) (s s' : Session),
      (Figure.plot p).check = .ok () →
      (writeSpreadsheet input (.plot p)).perform s = (.ok written, s') →
      ∀ w, s'.store.read (Path.withExtension input "xlsx") = .ok (.workbook w) →
      ∀ text, text ≠ "" →
        (p.title = some text → w.chart.title = some (.literal text)) ∧
        (p.xlabel = some text → w.chart.x.name = some (.literal text)) ∧
        (p.ylabel = some text → w.chart.y.name = some (.literal text)) := by
  intro hshown
  have hwrite : (writeSpreadsheet "a.json" (.plot referringChart)).perform ⟨{}, []⟩ =
      (.ok (some "a.xlsx"), _) := rfl
  obtain ⟨w, hworkbook, -, -, hread⟩ := writeSpreadsheet_plot_eq_ok hwrite
  obtain rfl := ofPlot_eq_ok hworkbook
  have htitle := (hshown referringChart "a.json" _ _ _ rfl hwrite _ hread "=Data!$A$1"
    (by decide)).1 rfl
  cases htitle

end FigureScript.Workbook
