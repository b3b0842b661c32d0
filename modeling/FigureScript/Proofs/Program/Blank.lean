import FigureScript.Program.Source
import FigureScript.Proofs.Number.Spelling
import FigureScript.Proofs.Program.Declaration
import FigureScript.Proofs.Text.Outline

/-!
# Blank programs

A blank program has all its texts removed: labels, titles, notes, style tokens, presets
and names of files.  The code of a program has the same outline as the code of its blank
form, since every text stands in a literal of its own.

## Main Definitions

* `Statement.blanked`, `blankedAll` — statements without their texts
* `Statement.NamesQuoteFree` — the names that go into the code as they are hold no quote

## Main Results

* `Statement.sameOutlines_code` — each line of a statement keeps its outline
* `outline_source_blankedAll` — the script of a program keeps its outline
-/

namespace FigureScript

open Text (Outlines QuoteFree SameOutline outline Quoted.literal)
open Number (scriptText fixedText)

/-! ### Removing texts -/

/-- A text that is there or not, without its characters. -/
def blankText (text : Option String) : Option String :=
  text.map fun _ => ""

/-- A trace without its texts. -/
def Trace.blanked (t : Trace) : Trace :=
  { t with
    marker := blankText t.marker
    style :=
      { label := blankText t.style.label, color := blankText t.style.color
        linestyle := blankText t.style.linestyle } }

mutual

/-- **A statement without its texts.** -/
def Statement.blanked : Statement → Statement
  | .styleScope presets body => .styleScope (presets.map fun _ => "") (blankedAll body)
  | .drawLine trace => .drawLine trace.blanked
  | .drawErrorBar trace xerr yerr => .drawErrorBar trace.blanked xerr yerr
  | .setLegend axes loc title => .setLegend axes loc (blankText title)
  | .setLabel axes axis _ => .setLabel axes axis ""
  | .setTitle axes _ placement => .setTitle axes "" placement
  | .annotate axes note => .annotate axes { note with text := "" }
  | .supTitle _ => .supTitle ""
  | .setWindowTitle _ => .setWindowTitle ""
  | .saveFigure _ => .saveFigure ""
  | statement => statement

/-- Statements without their texts. -/
def blankedAll : List Statement → List Statement
  | [] => []
  | statement :: rest => statement.blanked :: blankedAll rest

end

theorem blankedAll_eq_map (statements : List Statement) :
    blankedAll statements = statements.map Statement.blanked := by
  induction statements with
  | nil => rw [blankedAll, List.map_nil]
  | cons s rest ih => rw [blankedAll, ih, List.map_cons]

/-! ### Names -/

/-- The names that a statement puts into the code as they are. -/
def Statement.names : Statement → List String
  | importName module name => [module, name]
  | bindAxes name => [name]
  | _ => []

/-- **What a statement puts into the code as it is** holds no quote: the expression of
its axes and its names. -/
structure Statement.NamesQuoteFree (s : Statement) : Prop where
  axes : ∀ a, s.axes? = some a → QuoteFree a.expression
  names : ∀ name ∈ s.names, QuoteFree name

theorem quoteFree_toString (n : Nat) : QuoteFree (toString n) := by
  rw [QuoteFree, Nat.toString_eq_repr, Nat.toList_repr]
  exact (Number.NumberChars.toDigits n).quote_notMem

namespace Axes

theorem quoteFree_cellExpression (row col rows cols : Nat) :
    QuoteFree (cellExpression row col rows cols) := by
  have hopen : QuoteFree "axarr[" := by decide
  have hclose : QuoteFree "]" := by decide
  have hnext : QuoteFree "][" := by decide
  unfold cellExpression
  split
  · decide
  · split
    · exact (hopen.append (quoteFree_toString col)).append hclose
    · split
      · exact (hopen.append (quoteFree_toString row)).append hclose
      · exact (((hopen.append (quoteFree_toString row)).append hnext).append
          (quoteFree_toString col)).append hclose

/-- The name of a twin is made of the expression of its parent. -/
theorem quoteFree_twin {parent : Axes} (h : QuoteFree parent.expression) (adds : Axis) :
    QuoteFree (parent.twin adds).expression := by
  have hflat : QuoteFree (flatten parent.expression) := by
    rw [QuoteFree, flatten, String.toList_ofList, List.mem_filterMap]
    rintro ⟨c, hc, heq⟩
    split_ifs at heq with hopen hclose
    · cases heq
    · exact h (Option.some_inj.mp heq ▸ hc)
  have hmethod : QuoteFree (twinMethod adds) := by
    cases adds <;> decide
  rw [expression]
  exact (hflat.append (by decide)).append hmethod

end Axes

/-! ### Pieces of code -/

namespace Source

/-- A number that is not finite is written with a literal of its own. -/
theorem sameOutline_specialText (value : Float) :
    SameOutline (String.ofList (Number.specialText value))
      (String.ofList (Number.specialText value)) := by
  have hplus : Outlines "float(\"inf\")" "float(\"\")".toList := fun rest => rfl
  have hminus : Outlines "-float(\"inf\")" "-float(\"\")".toList := fun rest => rfl
  have hnan : Outlines "float(\"nan\")" "float(\"\")".toList := fun rest => rfl
  unfold Number.specialText
  split
  · exact ⟨_, hnan, hnan⟩
  · split
    · exact ⟨_, hplus, hplus⟩
    · exact ⟨_, hminus, hminus⟩

/-- A number in a script begins and ends outside of literals. -/
theorem sameOutline_scriptText (value : Float) :
    SameOutline (scriptText value) (scriptText value) := by
  unfold scriptText
  split
  · refine .of_quoteFree ?_
    rw [QuoteFree, String.toList_ofList]
    exact (Number.finiteScriptText_chars _).quote_notMem
  · exact sameOutline_specialText value

theorem sameOutline_fixedText (value : Float) :
    SameOutline (fixedText value) (fixedText value) := by
  unfold fixedText
  split
  · refine .of_quoteFree ?_
    rw [QuoteFree, String.toList_ofList]
    exact (Number.finiteFixedText_chars _).quote_notMem
  · exact sameOutline_specialText value

/-- Lists of pieces with the same outlines, item by item. -/
abbrev SameOutlines (pieces pieces' : List String) : Prop :=
  List.Forall₂ SameOutline pieces pieces'

theorem SameOutlines.single {a a' : String} (h : SameOutline a a') : SameOutlines [a] [a'] :=
  .cons h .nil

theorem SameOutlines.map {α : Type} {f : α → String} (h : ∀ a, SameOutline (f a) (f a))
    (items : List α) : SameOutlines (items.map f) (items.map f) := by
  rw [SameOutlines, List.forall₂_same]
  intro piece hpiece
  obtain ⟨a, -, rfl⟩ := List.mem_map.mp hpiece
  exact h a

theorem SameOutlines.append {a a' b b' : List String} (h : SameOutlines a a')
    (h' : SameOutlines b b') : SameOutlines (a ++ b) (a' ++ b') :=
  List.rel_append h h'

/-- Literals of blank texts. -/
theorem SameOutlines.literals (texts : List String) :
    SameOutlines (texts.map Quoted.literal) ((texts.map fun _ => "").map Quoted.literal) := by
  induction texts with
  | nil => exact .nil
  | cons text rest ih => exact .cons (.literal text "") ih

theorem sameOutline_commaSeparated {items items' : List String} (h : SameOutlines items items') :
    SameOutline (commaSeparated items) (commaSeparated items') :=
  .intercalate (by decide) h

/-- A call of a function that is named without a quote. -/
theorem sameOutline_call {function : String} {arguments arguments' : List String}
    (hfunction : QuoteFree function) (h : SameOutlines arguments arguments') :
    SameOutline (call function arguments) (call function arguments') :=
  (((SameOutline.of_quoteFree hfunction).append (.of_quoteFree (by decide))).append
    (sameOutline_commaSeparated h)).append (.of_quoteFree (by decide))

/-- A list in brackets. -/
theorem sameOutline_brackets {items items' : List String} (h : SameOutlines items items') :
    SameOutline ("[" ++ commaSeparated items ++ "]") ("[" ++ commaSeparated items' ++ "]") :=
  ((SameOutline.of_quoteFree (by decide)).append (sameOutline_commaSeparated h)).append
    (.of_quoteFree (by decide))

theorem sameOutline_numbers (values : List Float) :
    SameOutline (numbers values) (numbers values) :=
  sameOutline_brackets (.map sameOutline_scriptText values)

theorem sameOutline_matrix (rows : List (List Float)) :
    SameOutline (matrix rows) (matrix rows) :=
  sameOutline_brackets (.map sameOutline_numbers rows)

theorem sameOutline_errorBounds (bounds : ErrorBounds) :
    SameOutline (errorBounds bounds) (errorBounds bounds) :=
  ((((SameOutline.of_quoteFree (by decide)).append (sameOutline_numbers bounds.lower)).append
    (.of_quoteFree (by decide))).append (sameOutline_numbers bounds.upper)).append
    (.of_quoteFree (by decide))

/-- The value of a keyword argument does not show in the outline, only its presence. -/
theorem sameOutlines_textArgument {keyword : String} (hkeyword : QuoteFree keyword)
    {text text' : Option String} (h : text.isSome = text'.isSome) :
    SameOutlines (textArgument keyword text) (textArgument keyword text') := by
  cases text with
  | none =>
      cases text' with
      | none => exact .nil
      | some t' => simp at h
  | some t =>
      cases text' with
      | none => simp at h
      | some t' =>
          exact .single (((SameOutline.of_quoteFree hkeyword).append
            (.of_quoteFree (by decide))).append (.literal t t'))

theorem isSome_blankText (text : Option String) : text.isSome = (blankText text).isSome := by
  cases text <;> rfl

/-- The presets of a style scope show in the outline by their number only. -/
theorem sameOutline_presets (texts : List String) :
    SameOutline (presets texts) (presets (texts.map fun _ => "")) := by
  match texts with
  | [single] => exact .literal single ""
  | [] => exact .of_quoteFree (by decide)
  | first :: second :: rest =>
      exact sameOutline_brackets (.literals (first :: second :: rest))

theorem quoteFree_method {axes : Axes} (haxes : QuoteFree axes.expression) {name : String}
    (hname : QuoteFree name) : QuoteFree (method axes name) :=
  (haxes.append (by decide)).append hname

theorem quoteFree_setter {axes : Axes} (haxes : QuoteFree axes.expression) {property : String}
    (hproperty : QuoteFree property) : QuoteFree (setter axes property) := by
  unfold setter
  split
  · exact QuoteFree.append (by decide) hproperty
  · exact (haxes.append (by decide)).append hproperty

theorem quoteFree_axisName (axis : Axis) : QuoteFree axis.name := by
  cases axis <;> decide

/-- A call of a method of axes. -/
theorem sameOutline_methodCall {axes : Axes} (haxes : QuoteFree axes.expression) {name : String}
    (hname : QuoteFree name) {arguments arguments' : List String}
    (h : SameOutlines arguments arguments') :
    SameOutline (call (method axes name) arguments) (call (method axes name) arguments') :=
  sameOutline_call (quoteFree_method haxes hname) h

/-- A call that sets a property of one of the axes. -/
theorem sameOutline_axisCall {axes : Axes} (haxes : QuoteFree axes.expression) (axis : Axis)
    {property : String} (hproperty : QuoteFree property) {arguments arguments' : List String}
    (h : SameOutlines arguments arguments') :
    SameOutline (call (setter axes (axis.name ++ property)) arguments)
      (call (setter axes (axis.name ++ property)) arguments') :=
  sameOutline_call (quoteFree_setter haxes ((quoteFree_axisName axis).append hproperty)) h

theorem sameOutlines_styleArguments (style : SeriesStyle) :
    SameOutlines (styleArguments style)
      (styleArguments
        { label := blankText style.label, color := blankText style.color
          linestyle := blankText style.linestyle }) := by
  have hlabel := sameOutlines_textArgument (by decide : QuoteFree "label")
    (isSome_blankText style.label)
  have hcolor := sameOutlines_textArgument (by decide : QuoteFree "color")
    (isSome_blankText style.color)
  have hlinestyle := sameOutlines_textArgument (by decide : QuoteFree "linestyle")
    (isSome_blankText style.linestyle)
  exact (hlabel.append hcolor).append hlinestyle

theorem sameOutlines_marker (marker : Option String) :
    SameOutlines (marker.map Quoted.literal).toList
      ((blankText marker).map Quoted.literal).toList := by
  cases marker with
  | none => exact .nil
  | some text => exact .single (.literal text "")

/-- An optional piece that holds no text. -/
theorem SameOutlines.optional {α : Type} {f : α → String} (h : ∀ a, SameOutline (f a) (f a))
    (part : Option α) : SameOutlines (part.map f).toList (part.map f).toList := by
  cases part with
  | none => exact .nil
  | some a => exact .single (h a)

theorem sameOutlines_normArguments (norm : ColorNorm) :
    SameOutlines (normArguments norm) (normArguments norm) := by
  match norm with
  | .auto => exact .nil
  | .log none => exact .single (.of_quoteFree (by decide))
  | .log (some bounds) =>
      exact .single (((((SameOutline.of_quoteFree (by decide)).append
        (sameOutline_scriptText bounds.first)).append (.of_quoteFree (by decide))).append
        (sameOutline_scriptText bounds.last)).append (.of_quoteFree (by decide)))
  | .linear bounds =>
      exact .cons ((SameOutline.of_quoteFree (by decide)).append
        (sameOutline_scriptText bounds.first))
        (SameOutlines.single ((SameOutline.of_quoteFree (by decide)).append
          (sameOutline_scriptText bounds.last)))

theorem sameOutlines_coordinateArguments (x y : Option (List Float)) :
    SameOutlines (coordinateArguments x y) (coordinateArguments x y) := by
  unfold coordinateArguments
  split
  next x y => exact .cons (sameOutline_numbers x) (SameOutlines.single (sameOutline_numbers y))
  next => exact .nil

/-- A piece of code that is there or not. -/
theorem SameOutlines.ite {piece : String} (h : QuoteFree piece) (condition : Bool) :
    SameOutlines (if condition then [piece] else []) (if condition then [piece] else []) := by
  split
  · exact .single (.of_quoteFree h)
  · exact .nil

/-- The code of a scalar field holds no text at all. -/
theorem sameOutlines_fieldCode {field : FieldDrawing} (haxes : QuoteFree field.axes.expression) :
    SameOutlines (fieldCode field) (fieldCode field) := by
  have hfunction : QuoteFree (fieldFunction field.kind) := by
    cases field.kind <;> decide
  have hlevels := SameOutlines.optional (f := fun levels => "levels=" ++ numbers levels)
    (fun levels => (SameOutline.of_quoteFree (by decide)).append (sameOutline_numbers levels))
    field.levels
  have harguments := (((sameOutlines_coordinateArguments field.x field.y).append
    (SameOutlines.single (sameOutline_matrix field.z))).append hlevels).append
    (sameOutlines_normArguments field.norm)
  unfold fieldCode
  dsimp only
  split
  · exact .cons ((SameOutline.of_quoteFree (by decide)).append
      (sameOutline_methodCall haxes hfunction harguments))
      (SameOutlines.ite (by decide) field.rasterized)
  · have hrasterized := SameOutlines.ite (by decide : QuoteFree "rasterized=True") field.rasterized
    exact .single (sameOutline_methodCall haxes hfunction (harguments.append hrasterized))

/-- The code that creates a grid holds no text of a figure. -/
theorem sameOutlines_gridCode (rows cols : Nat) (xshared yshared : Option Sharing)
    (scaled : Bool) :
    SameOutlines (gridCode rows cols xshared yshared scaled)
      (gridCode rows cols xshared yshared scaled) := by
  have hrows := quoteFree_toString rows
  have hcols := quoteFree_toString cols
  have hsize : QuoteFree s!"figsize=({cols} * size_x, {rows} * size_y)" :=
    ((((QuoteFree.append (by decide) hcols).append (by decide)).append hrows).append (by decide))
  have hsharex : SameOutlines (textArgument "sharex" (xshared.map Sharing.keyword)) _ :=
    sameOutlines_textArgument (by decide) rfl
  have hsharey : SameOutlines (textArgument "sharey" (yshared.map Sharing.keyword)) _ :=
    sameOutlines_textArgument (by decide) rfl
  have hcells : SameOutlines [toString rows, toString cols] [toString rows, toString cols] :=
    .cons (.of_quoteFree hrows) (SameOutlines.single (.of_quoteFree hcols))
  have harguments := (hcells.append hsharex).append hsharey
  unfold gridCode
  refine (SameOutlines.ite (by decide) scaled).append (.single ?_)
  refine (SameOutline.of_quoteFree (by decide)).append (sameOutline_call (by decide) ?_)
  exact harguments.append (.ite hsize scaled)

theorem sameOutline_titleCode {axes : Axes} (haxes : QuoteFree axes.expression)
    (text text' : String) (placement : TitlePlacement) :
    SameOutline (titleCode axes text placement) (titleCode axes text' placement) := by
  cases placement with
  | above =>
      exact sameOutline_call (quoteFree_setter haxes (by decide))
        (SameOutlines.single (.literal text text'))
  | inside =>
      have htitleAxes : QuoteFree (titleAxes axes) := by
        unfold titleAxes
        split
        · decide
        · exact haxes
      have htransform := ((QuoteFree.append (by decide : QuoteFree "transform=")
        htitleAxes).append (by decide : QuoteFree ".transAxes"))
      -- the one literal of the compiler itself
      have halignment : Outlines "horizontalalignment=\"center\""
          "horizontalalignment=\"\"".toList := fun rest => rfl
      refine sameOutline_methodCall haxes (by decide) ?_
      refine .cons (.of_quoteFree (by decide)) (.cons (.of_quoteFree (by decide)) ?_)
      refine .cons (.literal text text') (.cons ⟨_, halignment, halignment⟩ ?_)
      exact SameOutlines.single (.of_quoteFree htransform)

/-- The numbers of the points of a series. -/
theorem sameOutlines_points (x y : List Float) :
    SameOutlines [numbers x, numbers y] [numbers x, numbers y] :=
  .cons (sameOutline_numbers x) (SameOutlines.single (sameOutline_numbers y))

/-- A keyword argument for error bars. -/
theorem sameOutlines_boundsArgument {keyword : String} (hkeyword : QuoteFree keyword)
    (bounds : Option ErrorBounds) :
    SameOutlines (bounds.map fun bounds => keyword ++ errorBounds bounds).toList
      (bounds.map fun bounds => keyword ++ errorBounds bounds).toList :=
  SameOutlines.optional (fun bounds => (SameOutline.of_quoteFree hkeyword).append
    (sameOutline_errorBounds bounds)) bounds

end Source

/-! ### Code -/

open Source in
/-- **The code of a statement has the outline of its blank form**, line by line. -/
theorem Statement.sameOutlines_code {s : Statement} (h : s.NamesQuoteFree) :
    SameOutlines s.code s.blanked.code := by
  obtain ⟨haxes, hnames⟩ := h
  cases s with
  | importName module name =>
      have hmodule := hnames module (List.mem_cons_self)
      have hname := hnames name (List.mem_cons_of_mem _ (List.mem_singleton_self name))
      exact .single (.of_quoteFree
        (((QuoteFree.append (by decide) hmodule).append (by decide)).append hname))
  | styleScope presets body => exact .nil
  | createAxes rows cols xshared yshared scaled =>
      exact sameOutlines_gridCode rows cols xshared yshared scaled
  | bindAxes name =>
      have hname := hnames name (List.mem_singleton_self name)
      exact .single (.of_quoteFree (QuoteFree.append hname (by decide)))
  | createTwin parent adds =>
      have hparent := haxes parent rfl
      have hmethod : QuoteFree (Axes.twinMethod adds) := by
        cases adds <;> decide
      exact .single (((SameOutline.of_quoteFree (Axes.quoteFree_twin hparent adds)).append
        (.of_quoteFree (by decide))).append
        (sameOutline_methodCall hparent hmethod .nil))
  | drawLine trace =>
      have htrace := haxes trace.axes rfl
      exact .single (sameOutline_methodCall htrace (by decide)
        (((sameOutlines_points trace.x trace.y).append
          (sameOutlines_marker trace.marker)).append (sameOutlines_styleArguments trace.style)))
  | drawErrorBar trace xerr yerr =>
      have htrace := haxes trace.axes rfl
      have hyerr := sameOutlines_boundsArgument (by decide : QuoteFree "yerr=") yerr
      have hxerr := sameOutlines_boundsArgument (by decide : QuoteFree "xerr=") xerr
      have hfmt := sameOutlines_textArgument (by decide : QuoteFree "fmt")
        (isSome_blankText trace.marker)
      exact .single (sameOutline_methodCall htrace (by decide)
        (((((sameOutlines_points trace.x trace.y).append hyerr).append hxerr).append
          hfmt).append (sameOutlines_styleArguments trace.style)))
  | drawField field => exact sameOutlines_fieldCode (haxes field.axes rfl)
  | setLimits axes axis range =>
      exact .single (sameOutline_axisCall (haxes axes rfl) axis (by decide)
        (.cons (sameOutline_fixedText range.first)
          (SameOutlines.single (sameOutline_fixedText range.last))))
  | setLogScale axes axis =>
      exact .single (sameOutline_axisCall (haxes axes rfl) axis (by decide)
        (SameOutlines.single (.literal "log" "log")))
  | setLegend axes loc title =>
      have hloc : SameOutlines (textArgument "loc" (loc.map LegendLoc.keyword)) _ :=
        sameOutlines_textArgument (by decide) rfl
      have htitle := sameOutlines_textArgument (by decide : QuoteFree "title")
        (isSome_blankText title)
      exact .single (sameOutline_methodCall (haxes axes rfl) (by decide)
        (hloc.append htitle))
  | setLabel axes axis text =>
      exact .single (sameOutline_axisCall (haxes axes rfl) axis (by decide)
        (SameOutlines.single (.literal text "")))
  | setTitle axes text placement =>
      exact .single (sameOutline_titleCode (haxes axes rfl) text "" placement)
  | annotate axes note =>
      exact .single (sameOutline_methodCall (haxes axes rfl) (by decide)
        (.cons (sameOutline_fixedText note.x) (.cons (sameOutline_fixedText note.y)
          (SameOutlines.single (.literal note.text "")))))
  | supTitle text =>
      exact .single (sameOutline_call (by decide) (SameOutlines.single (.literal text "")))
  | collapseSpacing between => cases between <;> exact .single (.of_quoteFree (by decide))
  | setWindowTitle text =>
      exact .single (sameOutline_call (by decide) (SameOutlines.single (.literal text "")))
  | saveFigure path =>
      exact .single (sameOutline_call (by decide) (SameOutlines.single (.literal path "")))
  | colorbar => exact .single (.of_quoteFree (by decide))
  | contourLabels => exact .single (.of_quoteFree (by decide))
  | tightLayout => exact .single (.of_quoteFree (by decide))
  | showFigure => exact .single (.of_quoteFree (by decide))

/-! ### Lines -/

/-- Lines at the same depth whose texts have the same outline. -/
def Line.Alike (line line' : Line) : Prop :=
  line.depth = line'.depth ∧ Text.SameOutline line.text line'.text

theorem Line.Alike.render {line line' : Line} (h : line.Alike line') :
    Text.SameOutline line.render line'.render := by
  obtain ⟨hdepth, htext⟩ := h
  have hindent : QuoteFree (String.ofList (List.replicate (4 * line.depth) ' ')) := by
    rw [QuoteFree, String.toList_ofList]
    intro hmem
    exact absurd (List.eq_of_mem_replicate hmem) (by decide)
  rw [Line.render, Line.render, ← hdepth]
  exact ((SameOutline.of_quoteFree hindent).append htext).append (.of_quoteFree (by decide))

/-- A statement that is no style scope is laid out as its own code. -/
theorem statementLines_of_isScope {s : Statement} (h : s.isScope = false) (depth : Nat) :
    statementLines depth s = s.code.map fun text => ⟨depth, text⟩ := by
  cases s <;> first | rfl | simp [Statement.isScope] at h

theorem Statement.isScope_blanked (s : Statement) : s.blanked.isScope = s.isScope := by
  cases s <;> rfl

mutual

/-- The lines of a statement are alike those of its blank form. -/
theorem statementLines_alike (depth : Nat) (s : Statement)
    (h : ∀ step ∈ s.steps, step.NamesQuoteFree) :
    List.Forall₂ Line.Alike (statementLines depth s) (statementLines depth s.blanked) := by
  cases hscope : s.isScope with
  | false =>
      have hcode := s.sameOutlines_code (h s (by simp [Statement.steps_eq_self hscope]))
      rw [statementLines_of_isScope hscope,
        statementLines_of_isScope (s.isScope_blanked.trans hscope),
        List.forall₂_map_left_iff, List.forall₂_map_right_iff]
      exact hcode.imp fun _ _ htext => ⟨rfl, htext⟩
  | true =>
      match s with
      | .styleScope presets body =>
          have hbody := sourceLines_alike (depth + 1) body h
          have hhead := ((SameOutline.of_quoteFree (by decide : QuoteFree "with ")).append
            (Source.sameOutline_call (by decide : QuoteFree "plt.style.context")
              (Source.SameOutlines.single (Source.sameOutline_presets presets)))).append
            (.of_quoteFree (by decide : QuoteFree ":"))
          have hempty : (blankedAll body).isEmpty = body.isEmpty := by
            rw [blankedAll_eq_map, List.isEmpty_map]
          rw [Statement.blanked, statementLines, statementLines, hempty]
          refine .cons ⟨rfl, hhead⟩ (List.rel_append ?_ hbody)
          split
          · exact .cons ⟨rfl, .of_quoteFree (by decide : QuoteFree "pass")⟩ .nil
          · exact .nil

/-- **The lines of statements are alike those of their blank forms.** -/
theorem sourceLines_alike (depth : Nat) (statements : List Statement)
    (h : ∀ step ∈ stepsOf statements, step.NamesQuoteFree) :
    List.Forall₂ Line.Alike (sourceLines depth statements)
      (sourceLines depth (blankedAll statements)) := by
  match statements with
  | [] => exact .nil
  | s :: rest =>
      simp only [stepsOf, List.mem_append, or_imp, forall_and] at h
      rw [blankedAll, sourceLines, sourceLines]
      exact List.rel_append (statementLines_alike depth s h.1) (sourceLines_alike depth rest h.2)

end

/-- **A program and its blank form have scripts with the same outline**, if the names in
it hold no quote. -/
theorem outline_source_blankedAll {program : List Statement}
    (h : ∀ s ∈ stepsOf program, s.NamesQuoteFree) :
    outline (source program) = outline (source (blankedAll program)) := by
  have hlines := sourceLines_alike 0 program h
  have htexts : Source.SameOutlines ((sourceLines 0 program).map Line.render)
      ((sourceLines 0 (blankedAll program)).map Line.render) := by
    rw [Source.SameOutlines, List.forall₂_map_left_iff, List.forall₂_map_right_iff]
    exact hlines.imp fun _ _ hline => hline.render
  have hheader : QuoteFree sourceHeader := by decide
  exact ((SameOutline.of_quoteFree hheader).append (.join htexts)).outline_eq

end FigureScript
