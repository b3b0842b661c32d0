import FigureScript.Proofs.Program.CodeLines
import Mathlib.Data.List.TakeWhile

/-!
# The block structure of a script

Indentation is the only thing in a script that tells which statements stand in which style
scopes.  Here the text of a script is read back: cut into lines at its line breaks, each with a
depth of a quarter of its leading blanks, and the lines into blocks, each with the deeper lines
behind it.  The blocks are those of the statements.

## Main Definitions

* `readLines` — the lines of a text
* `Block`, `group` — lines with the deeper lines behind them
* `Statement.Inside` — a statement stands inside so many scopes
* `blocksAt` — the blocks of statements

## Main Results

* `readLines_join` — lines that can be told from their indentation are read back
* `group_sourceLines` — so are the blocks of statements
* `source_blocks` — both, for the text of a script

## Design Notes

Lines are grouped from the last to the first: a line takes the blocks behind it that are deeper
than itself.  So the blocks of statements can be put before any others that are not deeper.
-/

namespace FigureScript

open Text (IsName LineText OneLine)

/-! ### Reading lines -/

/-- The line that some characters are, four leading blanks for each level. -/
def Line.ofChars (chars : List Char) : Line where
  depth := (chars.takeWhile (· = ' ')).length / 4
  text := String.ofList (chars.dropWhile (· = ' '))

/-- **The lines of a text**, each of which ends with a line break. -/
def readLines (text : String) : List Line :=
  (text.toList.splitOn '\n').dropLast.map Line.ofChars

/-- A line is read back without its line break. -/
theorem Line.ofChars_eq {line : Line} (h : LineText line.text) :
    Line.ofChars (List.replicate (4 * line.depth) ' ' ++ line.text.toList) = line := by
  have hblank : ∀ c ∈ List.replicate (4 * line.depth) ' ', decide (c = ' ') = true := by
    intro c hc
    exact decide_eq_true (List.eq_of_mem_replicate hc)
  have hne : line.text.toList ≠ [] := mt String.toList_eq_nil_iff.mp h.nonempty
  obtain ⟨first, rest, htext⟩ := List.exists_cons_of_ne_nil hne
  have hfirst : first ≠ ' ' := by
    have hunindented := h.unindented
    rw [htext, List.head?_cons] at hunindented
    exact fun heq => hunindented (congrArg some heq)
  have htake : line.text.toList.takeWhile (· = ' ') = [] := by
    simp [htext, hfirst]
  have hdrop : line.text.toList.dropWhile (· = ' ') = line.text.toList := by
    simp [htext, hfirst]
  rw [ofChars, List.takeWhile_append_of_pos hblank, List.dropWhile_append_of_pos hblank, htake,
    hdrop, List.append_nil, List.length_replicate, Nat.mul_div_cancel_left _ (by decide),
    String.ofList_toList]

theorem Line.toList_render (line : Line) :
    line.render.toList =
      (List.replicate (4 * line.depth) ' ' ++ line.text.toList) ++ ['\n'] := by
  rw [render, String.toList_append, String.toList_append, String.toList_ofList]
  rfl

/-- Neither the indentation of a line nor its text has a line break. -/
theorem Line.newline_notMem {line : Line} (h : LineText line.text) :
    '\n' ∉ List.replicate (4 * line.depth) ' ' ++ line.text.toList := by
  rw [List.mem_append, not_or]
  constructor
  · intro hmem
    cases List.eq_of_mem_replicate hmem
  · intro hmem
    cases h.oneLine '\n' hmem

/-- **Lines are read back** from their text. -/
theorem readLines_join {lines : List Line} (h : ∀ line ∈ lines, LineText line.text) :
    readLines (String.join (lines.map Line.render)) = lines := by
  induction lines with
  | nil => rfl
  | cons line lines ih =>
      rw [List.forall_mem_cons] at h
      have hrest := ih h.2
      rw [readLines] at hrest
      rw [List.map_cons, String.join_cons, readLines, String.toList_append, line.toList_render,
        List.append_assoc, List.singleton_append,
        List.splitOn_append_cons_self_of_not_mem (Line.newline_notMem h.1),
        List.dropLast_cons_of_ne_nil (List.splitOn_ne_nil _ _), List.map_cons, hrest,
        Line.ofChars_eq h.1]

/-! ### Reading blocks -/

/-- **A line with the blocks inside it.** -/
inductive Block where
  | node (line : Line) (inner : List Block)

namespace Block

/-- The line that a block begins with. -/
def line : Block → Line
  | node line _ => line

/-- Puts a line before blocks, of which it takes the deeper ones up to the first that is not. -/
def put (line : Line) (blocks : List Block) : List Block :=
  .node line (blocks.takeWhile (line.depth < ·.line.depth)) ::
    blocks.dropWhile (line.depth < ·.line.depth)

/-- The first of some blocks, if there is one, is not deeper than a level. -/
def NotDeeper (depth : Nat) (blocks : List Block) : Prop :=
  ∀ block ∈ blocks.head?, block.line.depth ≤ depth

theorem notDeeper_nil (depth : Nat) : NotDeeper depth [] :=
  fun _ h => nomatch h

theorem NotDeeper.succ {depth : Nat} {blocks : List Block} (h : NotDeeper depth blocks) :
    NotDeeper (depth + 1) blocks :=
  fun block hblock => Nat.le_succ_of_le (h block hblock)

theorem NotDeeper.append {depth : Nat} {first second : List Block}
    (h : ∀ block ∈ first, block.line.depth = depth) (h' : NotDeeper depth second) :
    NotDeeper depth (first ++ second) := by
  cases first with
  | nil => exact h'
  | cons block first =>
      rintro _ ⟨⟩
      exact (h block List.mem_cons_self).le

/-- A line takes the blocks of the next level that are put before others. -/
theorem put_append {line : Line} {inner blocks : List Block}
    (hinner : ∀ block ∈ inner, block.line.depth = line.depth + 1)
    (hblocks : NotDeeper line.depth blocks) :
    put line (inner ++ blocks) = .node line inner :: blocks := by
  have hdeeper : ∀ block ∈ inner, decide (line.depth < block.line.depth) = true := by
    intro block hblock
    exact decide_eq_true (by rw [hinner block hblock]; exact Nat.lt_succ_self _)
  have hrest : blocks.takeWhile (line.depth < ·.line.depth) = [] ∧
      blocks.dropWhile (line.depth < ·.line.depth) = blocks := by
    cases blocks with
    | nil => exact ⟨rfl, rfl⟩
    | cons block blocks =>
        have hblock : ¬ line.depth < block.line.depth := Nat.not_lt.mpr (hblocks block rfl)
        simp [hblock]
  rw [put, List.takeWhile_append_of_pos hdeeper, List.dropWhile_append_of_pos hdeeper, hrest.1,
    hrest.2, List.append_nil]

/-- A line before blocks that are not deeper has none inside. -/
theorem put_eq {line : Line} {blocks : List Block} (h : NotDeeper line.depth blocks) :
    put line blocks = .node line [] :: blocks :=
  put_append (List.forall_mem_nil _) h

end Block

/-- **The blocks of lines**, by their depths alone. -/
def group (lines : List Line) : List Block :=
  lines.foldr Block.put []

/-! ### The blocks of statements -/

/-- The line of a style scope. -/
def scopeHead (presets : List String) : String :=
  "with " ++ Source.call "plt.style.context" [Source.presets presets] ++ ":"

mutual

/-- The blocks of a statement at a level.  A style scope is one block, which has those of its
body inside, or a line that does nothing. -/
def Statement.blocks (depth : Nat) : Statement → List Block
  | .styleScope presets body =>
    [.node ⟨depth, scopeHead presets⟩
      ((if body.isEmpty then [.node ⟨depth + 1, "pass"⟩ []] else []) ++
        blocksAt (depth + 1) body)]
  | statement => statement.code.map fun text => .node ⟨depth, text⟩ []

/-- **The blocks of statements** at a level, in their order. -/
def blocksAt (depth : Nat) : List Statement → List Block
  | [] => []
  | statement :: rest => statement.blocks depth ++ blocksAt depth rest

end

theorem Statement.blocks_of_isScope {s : Statement} (h : s.isScope = false) (depth : Nat) :
    s.blocks depth = s.code.map fun text => .node ⟨depth, text⟩ [] := by
  cases s <;> first | rfl | simp [isScope] at h

theorem Statement.depth_of_mem_blocks {s : Statement} {depth : Nat} {block : Block}
    (h : block ∈ s.blocks depth) : block.line.depth = depth := by
  cases hscope : s.isScope with
  | false =>
      rw [blocks_of_isScope hscope] at h
      obtain ⟨text, -, rfl⟩ := List.mem_map.mp h
      rfl
  | true =>
      cases s with
      | styleScope presets body =>
          rw [blocks] at h
          rw [List.mem_singleton.mp h]
          rfl
      | _ => cases hscope

theorem depth_of_mem_blocksAt {statements : List Statement} {depth : Nat} {block : Block}
    (h : block ∈ blocksAt depth statements) : block.line.depth = depth := by
  induction statements with
  | nil =>
      rw [blocksAt] at h
      cases h
  | cons s rest ih =>
      rw [blocksAt, List.mem_append] at h
      exact h.elim Statement.depth_of_mem_blocks ih

/-! ### Reading back -/

/-- Lines of one level are blocks of their own before others that are not deeper. -/
theorem foldr_put_map {depth : Nat} {blocks : List Block} (texts : List String)
    (h : Block.NotDeeper depth blocks) :
    (texts.map (Line.mk depth)).foldr Block.put blocks =
      (texts.map fun text => .node ⟨depth, text⟩ []) ++ blocks := by
  induction texts with
  | nil => rfl
  | cons text texts ih =>
      have hlevel : ∀ block ∈ texts.map fun text => Block.node ⟨depth, text⟩ [],
          block.line.depth = depth := by
        simp [Block.line]
      rw [List.map_cons, List.foldr_cons, ih, List.map_cons, List.cons_append]
      exact Block.put_eq (.append hlevel h)

mutual

/-- The lines of a statement give its blocks before any others that are not deeper. -/
theorem foldr_statementLines (depth : Nat) (s : Statement) {blocks : List Block}
    (h : Block.NotDeeper depth blocks) :
    (statementLines depth s).foldr Block.put blocks = s.blocks depth ++ blocks := by
  cases hscope : s.isScope with
  | false =>
      rw [statementLines_of_isScope hscope, Statement.blocks_of_isScope hscope]
      exact foldr_put_map s.code h
  | true =>
      match s with
      | .styleScope presets body =>
          have hbody := foldr_sourceLines (depth + 1) body h.succ
          have hinner : (if body.isEmpty then [⟨depth + 1, "pass"⟩] else []).foldr Block.put
              (blocksAt (depth + 1) body ++ blocks) =
                ((if body.isEmpty then [.node ⟨depth + 1, "pass"⟩ []] else []) ++
                  blocksAt (depth + 1) body) ++ blocks := by
            cases body with
            | nil => exact Block.put_eq h.succ
            | cons first rest => rfl
          rw [statementLines, Statement.blocks, List.foldr_cons, List.foldr_append, hbody, hinner]
          refine Block.put_append (fun block hblock => ?_) h
          rcases List.mem_append.mp hblock with hpass | hblock
          · rw [List.mem_ite_nil_right, List.mem_singleton] at hpass
            rw [hpass.2]
            rfl
          · exact depth_of_mem_blocksAt hblock

/-- **The lines of statements give their blocks** before any others that are not deeper. -/
theorem foldr_sourceLines (depth : Nat) (statements : List Statement) {blocks : List Block}
    (h : Block.NotDeeper depth blocks) :
    (sourceLines depth statements).foldr Block.put blocks =
      blocksAt depth statements ++ blocks := by
  match statements with
  | [] =>
      rw [sourceLines, blocksAt]
      rfl
  | s :: rest =>
      have hrest := foldr_sourceLines depth rest h
      have hlevel : Block.NotDeeper depth (blocksAt depth rest ++ blocks) :=
        .append (fun _ => depth_of_mem_blocksAt) h
      rw [sourceLines, blocksAt, List.foldr_append, hrest, foldr_statementLines depth s hlevel,
        List.append_assoc]

end

theorem group_sourceLines (statements : List Statement) :
    group (sourceLines 0 statements) = blocksAt 0 statements := by
  rw [group, foldr_sourceLines 0 statements (Block.notDeeper_nil 0), List.append_nil]

/-! ### Lines of statements -/

theorem lineText_scopeHead (presets : List String) : LineText (scopeHead presets) := by
  have hcall : LineText (Source.call "plt.style.context" [Source.presets presets]) :=
    Source.lineText_call (by decide) (.single (Source.oneLine_presets presets))
  exact (LineText.append (by decide) hcall.oneLine).append (by decide)

mutual

/-- Each line of a statement can be told from its indentation. -/
theorem lineText_statementLines (depth : Nat) (s : Statement)
    (h : ∀ step ∈ s.steps, ∀ name ∈ step.rawNames, IsName name) :
    ∀ line ∈ statementLines depth s, LineText line.text := by
  cases hscope : s.isScope with
  | false =>
      rw [statementLines_of_isScope hscope, List.forall_mem_map]
      exact s.lineText_code (h s (by simp [Statement.steps_eq_self hscope]))
  | true =>
      match s with
      | .styleScope presets body =>
          rw [statementLines, List.forall_mem_cons, List.forall_mem_append]
          refine ⟨lineText_scopeHead presets, fun line hline => ?_,
            lineText_sourceLines (depth + 1) body h⟩
          rw [List.mem_ite_nil_right, List.mem_singleton] at hline
          have hpass : LineText "pass" := by decide
          rw [hline.2]
          exact hpass

/-- **Each line of statements** can be told from its indentation. -/
theorem lineText_sourceLines (depth : Nat) (statements : List Statement)
    (h : ∀ step ∈ stepsOf statements, ∀ name ∈ step.rawNames, IsName name) :
    ∀ line ∈ sourceLines depth statements, LineText line.text := by
  match statements with
  | [] => exact List.forall_mem_nil _
  | s :: rest =>
      rw [stepsOf, List.forall_mem_append] at h
      rw [sourceLines, List.forall_mem_append]
      exact ⟨lineText_statementLines depth s h.1, lineText_sourceLines depth rest h.2⟩

end

/-- **A statement stands inside so many scopes** of a list of statements. -/
inductive Statement.Inside (s : Statement) : Nat → List Statement → Prop where
  | here {statements : List Statement} (h : s ∈ statements) : s.Inside 0 statements
  | within {scopes : Nat} {presets : List String} {body statements : List Statement}
      (hscope : .styleScope presets body ∈ statements) (h : s.Inside scopes body) :
      s.Inside (scopes + 1) statements

theorem sourceLines_eq_flatMap (depth : Nat) (statements : List Statement) :
    sourceLines depth statements = statements.flatMap (statementLines depth) := by
  induction statements with
  | nil => rw [sourceLines, List.flatMap_nil]
  | cons s rest ih => rw [sourceLines, ih, List.flatMap_cons]

/-- The lines of one of the statements stand together. -/
theorem statementLines_isInfix {s : Statement} {statements : List Statement}
    (h : s ∈ statements) (depth : Nat) :
    statementLines depth s <:+: sourceLines depth statements := by
  obtain ⟨before, after, rfl⟩ := List.append_of_mem h
  rw [sourceLines_eq_flatMap, List.flatMap_append, List.flatMap_cons, ← List.append_assoc]
  exact List.infix_append _ _ _

/-- So do those of a statement in scopes, as deep as it stands in them. -/
theorem Statement.Inside.isInfix {s : Statement} {scopes : Nat} {statements : List Statement}
    (h : s.Inside scopes statements) (depth : Nat) :
    statementLines (depth + scopes) s <:+: sourceLines depth statements := by
  induction h generalizing depth with
  | here h => exact statementLines_isInfix h depth
  | @within scopes presets body statements hscope _ ih =>
      have hbody := ih (depth + 1)
      rw [Nat.add_right_comm, Nat.add_assoc] at hbody
      refine hbody.trans (List.IsInfix.trans ?_ (statementLines_isInfix hscope depth))
      rw [statementLines, ← List.cons_append]
      exact (List.suffix_append _ _).isInfix

/-- A statement begins with a line at its level. -/
theorem exists_statementLines_eq_cons (depth : Nat) (s : Statement) :
    ∃ text rest, statementLines depth s = ⟨depth, text⟩ :: rest := by
  cases hscope : s.isScope with
  | false =>
      obtain ⟨text, rest, hcode⟩ := List.exists_cons_of_ne_nil (Statement.code_ne_nil hscope)
      rw [statementLines_of_isScope hscope, hcode]
      exact ⟨text, _, rfl⟩
  | true =>
      cases s with
      | styleScope presets body =>
          rw [statementLines]
          exact ⟨_, _, rfl⟩
      | _ => cases hscope

/-- **A scope begins with its own line and one of the next level.** -/
theorem exists_scopeLines_eq_cons (depth : Nat) (presets : List String) (body : List Statement) :
    ∃ text rest, statementLines depth (.styleScope presets body) =
      ⟨depth, scopeHead presets⟩ :: ⟨depth + 1, text⟩ :: rest ∧ (body = [] → text = "pass") := by
  cases body with
  | nil =>
      rw [statementLines, sourceLines]
      exact ⟨"pass", [], rfl, fun _ => rfl⟩
  | cons s rest =>
      obtain ⟨text, later, hlines⟩ := exists_statementLines_eq_cons (depth + 1) s
      rw [statementLines, sourceLines, hlines]
      exact ⟨text, later ++ sourceLines (depth + 1) rest, rfl, fun h => nomatch h⟩

/-! ### Scripts -/

/-- **The text of a script has the block structure of its statements.**  Behind the header it is
a sequence of lines, each with four blanks for every scope around it and then a text that is on
one line and begins with something else.  Every statement has a line as deep as it stands in
scopes, and the lines of one statement stand together.  The line of a scope is followed by one
that is a level deeper.  Read back by their indentation, the lines are grouped as the
statements are. -/
theorem source_blocks {statements : List Statement}
    (hnames : ∀ s ∈ stepsOf statements, ∀ name ∈ s.rawNames, IsName name) :
    ∃ body, source statements = sourceHeader ++ body ∧
      body = String.join ((readLines body).map Line.render) ∧
      (∀ line ∈ readLines body, LineText line.text) ∧
      (∀ (scopes : Nat) (s : Statement), s.Inside scopes statements → s.isScope = false →
        s.code ≠ [] ∧ s.code.map (Line.mk scopes) <:+: readLines body) ∧
      (∀ scopes presets inner, Statement.Inside (.styleScope presets inner) scopes statements →
        ∃ text, [⟨scopes, scopeHead presets⟩, ⟨scopes + 1, text⟩] <:+: readLines body ∧
          (inner = [] → text = "pass")) ∧
      group (readLines body) = blocksAt 0 statements := by
  have hlines := lineText_sourceLines 0 statements hnames
  refine ⟨_, rfl, ?_⟩
  rw [readLines_join hlines]
  refine ⟨rfl, hlines, ?_, ?_, group_sourceLines statements⟩
  · intro scopes s hinside hscope
    have hinfix := hinside.isInfix 0
    rw [Nat.zero_add, statementLines_of_isScope hscope] at hinfix
    exact ⟨Statement.code_ne_nil hscope, hinfix⟩
  · intro scopes presets inner hinside
    obtain ⟨text, rest, hcons, hpass⟩ := exists_scopeLines_eq_cons scopes presets inner
    have hinfix := hinside.isInfix 0
    rw [Nat.zero_add, hcons] at hinfix
    have hprefix : [⟨scopes, scopeHead presets⟩, ⟨scopes + 1, text⟩] <+:
        ⟨scopes, scopeHead presets⟩ :: ⟨scopes + 1, text⟩ :: rest :=
      ⟨rest, rfl⟩
    exact ⟨text, hprefix.isInfix.trans hinfix, hpass⟩

/-- Scopes inside a scope, one of them empty, with texts of several lines and names of names. -/
def nestedScopes : List Statement :=
  [.importName "matplotlib.colors" "LogNorm",
    .styleScope ["a\nb"]
      [.bindAxes "ax", .styleScope [] [],
        .setTitle (.twin (.named "ax") .y) "two\r\n  lines" .above],
    .showFigure]

theorem source_blocks_nestedScopes :
    ∃ body, source nestedScopes = sourceHeader ++ body ∧
      group (readLines body) =
        [.node ⟨0, "from matplotlib.colors import LogNorm"⟩ [],
          .node ⟨0, "with plt.style.context(\"a\\nb\"):"⟩
            [.node ⟨1, "ax = plt.gca()"⟩ [],
              .node ⟨1, "with plt.style.context([]):"⟩ [.node ⟨2, "pass"⟩ []],
              .node ⟨1, "ax_twinx.set_title(\"two\\r\\n  lines\")"⟩ []],
          .node ⟨0, "plt.show()"⟩ []] := by
  have hnames : ∀ s ∈ stepsOf nestedScopes, ∀ name ∈ s.rawNames, IsName name := by
    intro s hs name hname
    have hmem : name ∈ (stepsOf nestedScopes).flatMap Statement.rawNames :=
      List.mem_flatMap.mpr ⟨s, hs, hname⟩
    have hall : (stepsOf nestedScopes).flatMap Statement.rawNames =
        ["matplotlib.colors", "LogNorm", "ax", "ax"] := rfl
    simp only [hall, List.mem_cons, List.not_mem_nil, or_false] at hmem
    rcases hmem with rfl | rfl | rfl | rfl <;> decide
  obtain ⟨body, hsource, -, -, -, -, hgroup⟩ := source_blocks hnames
  refine ⟨body, hsource, hgroup.trans ?_⟩
  rfl

end FigureScript
