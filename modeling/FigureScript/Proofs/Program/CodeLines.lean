import FigureScript.Proofs.Program.Blank
import FigureScript.Proofs.Text.OneLine

/-!
# The lines of statements

Texts of a figure reach the code of a statement inside literals, which break no line.  What
else could do so are the names that go into the code as they are.  So if these are names, each
line of code is one line, and begins at its indentation.

## Main Definitions

* `Axes.names`, `Statement.rawNames` — the names that go into the code as they are
* `OneLines` — pieces of code that break no line

## Main Results

* `Axes.isName_expression` — axes are denoted by a name
* `Statement.lineText_code` — each line of a statement stands on a line of its own
* `Statement.code_ne_nil` — and there is one
-/

namespace FigureScript

open Text (IsName LineText OneLine Solid Quoted.literal)
open Number (scriptText fixedText)

/-! ### Names -/

/-- The names in axes: a name they are bound to, or that of the axes under a twin. -/
def Axes.names : Axes → List String
  | named name => [name]
  | twin parent _ => parent.names
  | _ => []

/-- **The names that a statement puts into the code as they are**: those of its own and those
of its axes. -/
def Statement.rawNames (s : Statement) : List String :=
  s.names ++ s.axes?.toList.flatMap Axes.names

namespace Axes

theorem isName_cellExpression (row col rows cols : Nat) :
    IsName (cellExpression row col rows cols) := by
  have hopen : IsName "axarr[" := by decide
  have hclose : Solid "]" := by decide
  have hnext : Solid "][" := by decide
  have hrow := hopen.append (.toString_nat row)
  unfold cellExpression
  split
  · decide
  · split
    · exact (hopen.append (.toString_nat col)).append hclose
    · split
      · exact hrow.append hclose
      · exact ((hrow.append hnext).append (.toString_nat col)).append hclose

theorem solid_flatten {expression : String} (h : Solid expression) :
    Solid (flatten expression) := by
  rw [Solid, flatten, String.toList_ofList]
  intro c hc
  obtain ⟨given, hgiven, hc⟩ := List.mem_filterMap.mp hc
  split_ifs at hc
  · rw [← Option.some.inj hc]
    rfl
  · rw [← Option.some.inj hc]
    exact h given hgiven

theorem solid_twinMethod (adds : Axis) : Solid (twinMethod adds) := by
  cases adds <;> decide

/-- The name of a twin is made of that of its parent. -/
theorem isName_twin {parent : Axes} (h : IsName parent.expression) (adds : Axis) :
    IsName (parent.twin adds).expression := by
  -- the expression of the parent may have nothing but brackets
  have hmark : IsName "_" := by decide
  exact (hmark.behind (solid_flatten h.solid)).append (solid_twinMethod adds)

/-- **Axes are denoted by a name** if the names in them are. -/
theorem isName_expression {a : Axes} (h : ∀ name ∈ a.names, IsName name) :
    IsName a.expression := by
  induction a with
  | current => decide
  | named name => exact h name (List.mem_singleton_self name)
  | cell row col rows cols => exact isName_cellExpression row col rows cols
  | twin parent adds ih => exact isName_twin (ih h) adds

end Axes

/-! ### Pieces of code -/

namespace Source

/-- **Pieces of code that break no line.** -/
def OneLines (pieces : List String) : Prop :=
  ∀ piece ∈ pieces, OneLine piece

namespace OneLines

variable {piece : String} {pieces pieces' : List String}

theorem nil : OneLines [] :=
  List.forall_mem_nil _

theorem cons (h : OneLine piece) (h' : OneLines pieces) : OneLines (piece :: pieces) :=
  List.forall_mem_cons.mpr ⟨h, h'⟩

theorem single (h : OneLine piece) : OneLines [piece] :=
  cons h nil

theorem append (h : OneLines pieces) (h' : OneLines pieces') : OneLines (pieces ++ pieces') :=
  List.forall_mem_append.mpr ⟨h, h'⟩

theorem map {α : Type} {f : α → String} (h : ∀ a, OneLine (f a)) (items : List α) :
    OneLines (items.map f) := by
  intro piece hpiece
  obtain ⟨a, -, rfl⟩ := List.mem_map.mp hpiece
  exact h a

/-- A piece that is there or not. -/
theorem optional {α : Type} {f : α → String} (h : ∀ a, OneLine (f a)) (part : Option α) :
    OneLines (part.map f).toList := by
  cases part with
  | none => exact nil
  | some a => exact single (h a)

theorem ite (h : OneLine piece) (condition : Bool) :
    OneLines (if condition then [piece] else []) := by
  split
  · exact single h
  · exact nil

end OneLines

theorem oneLine_commaSeparated {items : List String} (h : OneLines items) :
    OneLine (commaSeparated items) :=
  .intercalate (by decide) h

/-- A call is a line when its function can begin one. -/
theorem lineText_call {function : String} (hfunction : LineText function)
    {arguments : List String} (h : OneLines arguments) : LineText (call function arguments) :=
  ((hfunction.append (by decide)).append (oneLine_commaSeparated h)).append (by decide)

theorem oneLine_brackets {items : List String} (h : OneLines items) :
    OneLine ("[" ++ commaSeparated items ++ "]") :=
  (OneLine.append (by decide) (oneLine_commaSeparated h)).append (by decide)

/-! ### Numbers -/

theorem oneLine_specialText (value : Float) :
    OneLine (String.ofList (Number.specialText value)) := by
  unfold Number.specialText
  split
  · decide
  · split <;> decide

theorem oneLine_scriptText (value : Float) : OneLine (scriptText value) := by
  unfold scriptText
  split
  · exact (Solid.of_numberChars (Number.finiteScriptText_chars _)).oneLine
  · exact oneLine_specialText value

theorem oneLine_fixedText (value : Float) : OneLine (fixedText value) := by
  unfold fixedText
  split
  · exact (Solid.of_numberChars (Number.finiteFixedText_chars _)).oneLine
  · exact oneLine_specialText value

theorem oneLine_numbers (values : List Float) : OneLine (numbers values) :=
  oneLine_brackets (.map oneLine_scriptText values)

theorem oneLine_matrix (rows : List (List Float)) : OneLine (matrix rows) :=
  oneLine_brackets (.map oneLine_numbers rows)

theorem oneLine_errorBounds (bounds : ErrorBounds) : OneLine (errorBounds bounds) :=
  (((OneLine.append (by decide) (oneLine_numbers bounds.lower)).append (by decide)).append
    (oneLine_numbers bounds.upper)).append (by decide)

/-! ### Arguments -/

theorem oneLines_textArgument {keyword : String} (hkeyword : OneLine keyword)
    (text : Option String) : OneLines (textArgument keyword text) :=
  .optional (fun text => (hkeyword.append (by decide)).append (.literal text)) text

theorem oneLine_presets (texts : List String) : OneLine (presets texts) := by
  unfold presets
  split
  · exact .literal _
  · exact oneLine_brackets (.map .literal texts)

theorem oneLines_styleArguments (style : SeriesStyle) : OneLines (styleArguments style) :=
  ((oneLines_textArgument (by decide) style.label).append
    (oneLines_textArgument (by decide) style.color)).append
    (oneLines_textArgument (by decide) style.linestyle)

theorem oneLines_normArguments (norm : ColorNorm) : OneLines (normArguments norm) := by
  match norm with
  | .auto => exact .nil
  | .log none => exact .single (by decide)
  | .log (some bounds) =>
      exact .single ((((OneLine.append (by decide) (oneLine_scriptText bounds.first)).append
        (by decide)).append (oneLine_scriptText bounds.last)).append (by decide))
  | .linear bounds =>
      exact .cons (OneLine.append (by decide) (oneLine_scriptText bounds.first))
        (.single (OneLine.append (by decide) (oneLine_scriptText bounds.last)))

theorem oneLines_points (x y : List Float) : OneLines [numbers x, numbers y] :=
  .cons (oneLine_numbers x) (.single (oneLine_numbers y))

theorem oneLines_coordinateArguments (x y : Option (List Float)) :
    OneLines (coordinateArguments x y) := by
  unfold coordinateArguments
  split
  next x y => exact oneLines_points x y
  next => exact .nil

theorem oneLines_boundsArgument {keyword : String} (hkeyword : OneLine keyword)
    (bounds : Option ErrorBounds) :
    OneLines (bounds.map fun bounds => keyword ++ errorBounds bounds).toList :=
  .optional (fun bounds => hkeyword.append (oneLine_errorBounds bounds)) bounds

/-! ### Functions -/

theorem oneLine_axisName (axis : Axis) : OneLine axis.name := by
  cases axis <;> decide

section Functions

variable {axes : Axes} (haxes : IsName axes.expression)
include haxes

theorem lineText_method {name : String} (hname : OneLine name) : LineText (method axes name) :=
  (haxes.lineText.append (by decide)).append hname

theorem lineText_setter {property : String} (hproperty : OneLine property) :
    LineText (setter axes property) := by
  unfold setter
  split
  · exact LineText.append (by decide) hproperty
  · exact (haxes.lineText.append (by decide)).append hproperty

/-- A call of a method of axes is a line. -/
theorem lineText_methodCall {name : String} (hname : OneLine name) {arguments : List String}
    (h : OneLines arguments) : LineText (call (method axes name) arguments) :=
  lineText_call (lineText_method haxes hname) h

/-- So is a call that sets a property of one of its axes. -/
theorem lineText_axisCall (axis : Axis) {property : String} (hproperty : OneLine property)
    {arguments : List String} (h : OneLines arguments) :
    LineText (call (setter axes (axis.name ++ property)) arguments) :=
  lineText_call (lineText_setter haxes ((oneLine_axisName axis).append hproperty)) h

theorem lineText_titleCode (text : String) (placement : TitlePlacement) :
    LineText (titleCode axes text placement) := by
  cases placement with
  | above => exact lineText_call (lineText_setter haxes (by decide)) (.single (.literal text))
  | inside =>
      have htitleAxes : OneLine (titleAxes axes) := by
        unfold titleAxes
        split
        · decide
        · exact haxes.solid.oneLine
      refine lineText_methodCall haxes (by decide) ?_
      refine .cons (by decide) (.cons (by decide) (.cons (.literal text) (.cons (by decide) ?_)))
      exact .single ((OneLine.append (by decide) htitleAxes).append (by decide))

end Functions

/-! ### Statements of several lines -/

/-- **Lines of code**, each of which stands on a line of its own. -/
def LineTexts (lines : List String) : Prop :=
  ∀ line ∈ lines, LineText line

namespace LineTexts

variable {line : String}

theorem single (h : LineText line) : LineTexts [line] :=
  List.forall_mem_singleton.mpr h

theorem ite (h : LineText line) (condition : Bool) :
    LineTexts (if condition then [line] else []) := by
  split
  · exact single h
  · exact List.forall_mem_nil _

end LineTexts

theorem lineTexts_fieldCode {field : FieldDrawing} (haxes : IsName field.axes.expression) :
    LineTexts (fieldCode field) := by
  have hfunction : OneLine (fieldFunction field.kind) := by
    cases field.kind <;> decide
  have hlevels := OneLines.optional (f := fun levels => "levels=" ++ numbers levels)
    (fun levels => OneLine.append (by decide) (oneLine_numbers levels)) field.levels
  have harguments := (((oneLines_coordinateArguments field.x field.y).append
    (.single (oneLine_matrix field.z))).append hlevels).append
    (oneLines_normArguments field.norm)
  unfold fieldCode
  dsimp only
  split
  · refine List.forall_mem_cons.mpr ⟨?_, ?_⟩
    · exact LineText.append (by decide) (lineText_methodCall haxes hfunction harguments).oneLine
    · exact LineTexts.ite (by decide) field.rasterized
  · exact .single (lineText_methodCall haxes hfunction
      (harguments.append (.ite (by decide) field.rasterized)))

theorem lineTexts_gridCode (rows cols : Nat) (xshared yshared : Option Sharing) (scaled : Bool) :
    LineTexts (gridCode rows cols xshared yshared scaled) := by
  have hrows := (Solid.toString_nat rows).oneLine
  have hcols := (Solid.toString_nat cols).oneLine
  have hsize : OneLine s!"figsize=({cols} * size_x, {rows} * size_y)" :=
    (((OneLine.append (by decide) hcols).append (by decide)).append hrows).append (by decide)
  have hsharex := oneLines_textArgument (by decide : OneLine "sharex")
    (xshared.map Sharing.keyword)
  have hsharey := oneLines_textArgument (by decide : OneLine "sharey")
    (yshared.map Sharing.keyword)
  have hcells : OneLines [toString rows, toString cols] := .cons hrows (.single hcols)
  have harguments := ((hcells.append hsharex).append hsharey).append (.ite hsize scaled)
  unfold gridCode
  refine List.forall_mem_append.mpr ⟨LineTexts.ite (by decide) scaled, LineTexts.single ?_⟩
  have hcall : LineText (call "plt.subplots" _) := lineText_call (by decide) harguments
  exact LineText.append (by decide) hcall.oneLine

end Source

/-! ### Code -/

namespace Statement

variable {s : Statement}

/-- **A statement has a line**, if it is no style scope. -/
theorem code_ne_nil (h : s.isScope = false) : s.code ≠ [] := by
  cases s with
  | styleScope presets body => cases h
  | createAxes rows cols xshared yshared scaled => simp [code, Source.gridCode]
  | drawField field =>
      rw [code, Source.fieldCode]
      split <;> exact List.cons_ne_nil _ _
  | collapseSpacing between => cases between <;> exact List.cons_ne_nil _ _
  | _ => exact List.cons_ne_nil _ _

open Source in
/-- **Each line of a statement stands on a line of its own**, if the names in it are names. -/
theorem lineText_code (h : ∀ name ∈ s.rawNames, IsName name) : LineTexts s.code := by
  rw [rawNames, List.forall_mem_append] at h
  obtain ⟨hnames, haxesNames⟩ := h
  have haxes : ∀ a, s.axes? = some a → IsName a.expression := by
    intro a ha
    rw [ha] at haxesNames
    exact Axes.isName_expression fun name hname =>
      haxesNames name (List.mem_flatMap.mpr ⟨a, List.mem_singleton_self a, hname⟩)
  cases s with
  | importName module name =>
      have hmodule := hnames module List.mem_cons_self
      have hname := hnames name (List.mem_cons_of_mem _ (List.mem_singleton_self name))
      exact .single (((LineText.append (by decide) hmodule.solid.oneLine).append
        (by decide)).append hname.solid.oneLine)
  | styleScope presets body => exact List.forall_mem_nil _
  | createAxes rows cols xshared yshared scaled =>
      exact lineTexts_gridCode rows cols xshared yshared scaled
  | bindAxes name =>
      exact .single ((hnames name (List.mem_singleton_self name)).lineText.append (by decide))
  | createTwin parent adds =>
      have hparent := haxes parent rfl
      have hcall := lineText_methodCall hparent (Axes.solid_twinMethod adds).oneLine .nil
      have htwin := Axes.isName_twin hparent adds
      exact .single ((htwin.lineText.append (by decide)).append hcall.oneLine)
  | drawLine trace =>
      have hmarker := OneLines.optional OneLine.literal trace.marker
      exact .single (lineText_methodCall (haxes trace.axes rfl) (by decide)
        (((oneLines_points trace.x trace.y).append hmarker).append
          (oneLines_styleArguments trace.style)))
  | drawErrorBar trace xerr yerr =>
      have hyerr := oneLines_boundsArgument (by decide : OneLine "yerr=") yerr
      have hxerr := oneLines_boundsArgument (by decide : OneLine "xerr=") xerr
      have hfmt := oneLines_textArgument (by decide : OneLine "fmt") trace.marker
      exact .single (lineText_methodCall (haxes trace.axes rfl) (by decide)
        (((((oneLines_points trace.x trace.y).append hyerr).append hxerr).append hfmt).append
          (oneLines_styleArguments trace.style)))
  | drawField field => exact lineTexts_fieldCode (haxes field.axes rfl)
  | setLimits axes axis range =>
      exact .single (lineText_axisCall (haxes axes rfl) axis (by decide)
        (.cons (oneLine_fixedText range.first) (.single (oneLine_fixedText range.last))))
  | setLogScale axes axis =>
      exact .single (lineText_axisCall (haxes axes rfl) axis (by decide)
        (.single (.literal "log")))
  | setLegend axes loc title =>
      have hloc := oneLines_textArgument (by decide : OneLine "loc") (loc.map LegendLoc.keyword)
      have htitle := oneLines_textArgument (by decide : OneLine "title") title
      exact .single (lineText_methodCall (haxes axes rfl) (by decide)
        (hloc.append htitle))
  | setLabel axes axis text =>
      exact .single (lineText_axisCall (haxes axes rfl) axis (by decide)
        (.single (.literal text)))
  | setTitle axes text placement =>
      exact .single (lineText_titleCode (haxes axes rfl) text placement)
  | annotate axes note =>
      exact .single (lineText_methodCall (haxes axes rfl) (by decide)
        (.cons (oneLine_fixedText note.x) (.cons (oneLine_fixedText note.y)
          (.single (.literal note.text)))))
  | supTitle text => exact .single (lineText_call (by decide) (.single (.literal text)))
  | collapseSpacing between => cases between <;> exact LineTexts.single (by decide)
  | setWindowTitle text => exact .single (lineText_call (by decide) (.single (.literal text)))
  | saveFigure path => exact .single (lineText_call (by decide) (.single (.literal path)))
  | colorbar => exact .single (by decide)
  | contourLabels => exact .single (by decide)
  | tightLayout => exact .single (by decide)
  | showFigure => exact .single (by decide)

end Statement

end FigureScript
