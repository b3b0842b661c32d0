import FigureScript.Files.Path
import Mathlib.Data.List.Basic
import Mathlib.Data.List.TakeWhile

/-!
# The last name of a path

A path is followed name by name, and where it leads to is decided by the last of them.  A
path that was given an extension ends in a name with that extension, unless what is left of
the old name without its extension is a single dot.

## Main Definitions

* `Path.IsLastName` — a name that a path can end with
* `Path.LiesBeside` — a file in the same directory, under another name

## Main Results

* `Path.parts_append` — the names of a path, with one more behind its last slash
* `Path.exists_trimmed_eq_append` — a path ends with its last name
* `Path.splitName_cases` — the stem and the extension of a name
* `Path.parts_withExtension` — the last name of a path with another extension
* `Path.liesBeside_withExtension` — such a path lies beside the old one

## Design Notes

A name can be as odd as `..txt`, which is a dot with an extension.  Such a path ends in `..`
after its extension was replaced, and so it names a directory.
-/

namespace FigureScript.Path

/-! ### Splitting -/

theorem splitSlashes_ne_nil (chars : List Char) : splitSlashes chars ≠ [] := by
  cases chars with
  | nil => exact List.cons_ne_nil _ _
  | cons c rest =>
      rw [splitSlashes]
      split
      · exact List.cons_ne_nil _ _
      · split <;> exact List.cons_ne_nil _ _

/-- A text without a slash is one part. -/
theorem splitSlashes_of_not_mem {chars : List Char} (h : '/' ∉ chars) :
    splitSlashes chars = [chars] := by
  induction chars with
  | nil => rfl
  | cons c rest ih =>
      rw [List.mem_cons, not_or] at h
      rw [splitSlashes, if_neg (Ne.symm h.1), ih h.2]

/-- A slash separates the parts in front of it from those behind. -/
theorem splitSlashes_append (chars rest : List Char) :
    splitSlashes (chars ++ '/' :: rest) = splitSlashes chars ++ splitSlashes rest := by
  induction chars with
  | nil => simp [splitSlashes]
  | cons c chars ih =>
      rw [List.cons_append, splitSlashes, splitSlashes, ih]
      split
      next => rfl
      next =>
        cases h : splitSlashes chars with
        | nil => exact absurd h (splitSlashes_ne_nil chars)
        | cons first more => rfl

/-- **A text is cut at the last place of a character**, if it has it. -/
theorem exists_last (c : Char) (chars : List Char) :
    c ∉ chars ∨ ∃ before behind, chars = before ++ c :: behind ∧ c ∉ behind := by
  by_cases h : c ∈ chars
  · obtain ⟨behind, before, hsplit, hbehind⟩ :=
      List.eq_append_cons_of_mem (List.mem_reverse.mpr h)
    refine .inr ⟨before.reverse, behind.reverse, ?_, fun hmem => hbehind (List.mem_reverse.mp hmem)⟩
    rw [← List.reverse_reverse chars, hsplit]
    simp
  · exact .inl h

/-- **A text ends at a name** that can be put there: it is empty or ends with a slash. -/
def EndsOpen (before : List Char) : Prop :=
  before = [] ∨ ∃ rest, before = rest ++ ['/']

/-- A relative path has a name. -/
theorem parts_ne_nil {path : String} (hne : path ≠ "") (hrelative : isAbsolute path = false) :
    parts path ≠ [] := by
  obtain ⟨c, rest, hpath⟩ := List.exists_cons_of_ne_nil (mt String.toList_eq_nil_iff.mp hne)
  have hc : c ≠ '/' := by
    rintro rfl
    rw [isAbsolute, hpath] at hrelative
    cases hrelative
  rw [parts, hpath, splitSlashes, if_neg hc]
  split <;> simp

/-- The names of a path, with one more behind its last slash. -/
theorem parts_append {before : List Char} (hbefore : EndsOpen before) :
    ∃ names, ∀ name, name ≠ [] → '/' ∉ name →
      parts (String.ofList (before ++ name)) = names ++ [String.ofList name] := by
  have hkeep {name : List Char} (hne : name ≠ []) : [name].filter (!·.isEmpty) = [name] := by
    simp [hne]
  rcases hbefore with rfl | ⟨rest, rfl⟩
  · refine ⟨[], fun name hne hname => ?_⟩
    rw [parts, String.toList_ofList, List.nil_append, splitSlashes_of_not_mem hname,
      hkeep hne]
    rfl
  · refine ⟨parts (String.ofList rest), fun name hne hname => ?_⟩
    rw [parts, parts, String.toList_ofList, String.toList_ofList, List.append_assoc,
      List.singleton_append, splitSlashes_append, splitSlashes_of_not_mem hname,
      List.filter_append, hkeep hne, List.map_append]
    rfl

theorem exists_endsOpen (chars : List Char) :
    ∃ before name, chars = before ++ name ∧ EndsOpen before ∧ '/' ∉ name := by
  rcases exists_last '/' chars with h | ⟨before, name, rfl, hname⟩
  · exact ⟨[], chars, rfl, .inl rfl, h⟩
  · exact ⟨before ++ ['/'], name, by simp, .inr ⟨before, rfl⟩, hname⟩

/-! ### The last name -/

/-- **A name that a path can end with.** -/
structure IsLastName (name : List Char) : Prop where
  nonempty : name ≠ []
  slash_notMem : '/' ∉ name
  ne_dot : name ≠ ['.']
  ne_dots : name ≠ ['.', '.']

/-- A path that ends with a name has it as its last name. -/
theorem fileName?_append {before name : List Char} (hbefore : EndsOpen before)
    (hname : IsLastName name) :
    fileName? (String.ofList (before ++ name)) = some (String.ofList name) := by
  have hne {other : List Char} (h : name ≠ other) : String.ofList name ≠ String.ofList other :=
    fun heq => h (String.ofList_injective heq)
  have hdot : String.ofList name ≠ "." := hne hname.ne_dot
  have hdots : String.ofList name ≠ ".." := hne hname.ne_dots
  obtain ⟨names, hnames⟩ := parts_append hbefore
  rw [fileName?, hnames name hname.nonempty hname.slash_notMem, List.filter_append]
  simp [hdot, hdots]

/-- A slash at the end names nothing. -/
theorem parts_concat_slash (chars : List Char) :
    parts (String.ofList (chars ++ ['/'])) = parts (String.ofList chars) := by
  rw [parts, parts, String.toList_ofList, String.toList_ofList, splitSlashes_append,
    List.filter_append]
  simp [splitSlashes]

theorem parts_concat_slash_dot (chars : List Char) :
    parts (String.ofList (chars ++ ['/', '.'])) = parts (String.ofList chars) ++ ["."] := by
  rw [parts, parts, String.toList_ofList, String.toList_ofList, splitSlashes_append,
    List.filter_append, List.map_append]
  rfl

/-- What is cut off behind the last name of a path names nothing. -/
theorem fileName?_trimReversed (reversed : List Char) :
    fileName? (String.ofList (trimReversed reversed).reverse) =
      fileName? (String.ofList reversed.reverse) := by
  fun_induction trimReversed reversed with
  | case1 rest ih =>
      rw [ih, List.reverse_cons, fileName?, fileName?, parts_concat_slash]
  | case2 rest ih =>
      rw [ih, List.reverse_cons, List.reverse_cons, List.append_assoc, List.singleton_append,
        fileName?, fileName?, parts_concat_slash_dot, List.filter_append]
      simp
  | case3 => rfl

theorem trimReversed_trimReversed (chars : List Char) :
    trimReversed (trimReversed chars) = trimReversed chars := by
  fun_induction trimReversed chars with
  | case1 rest ih => exact ih
  | case2 rest ih => exact ih
  | case3 chars hslash hdot => rw [trimReversed.eq_3 chars hslash hdot]

theorem length_trimReversed_le (chars : List Char) :
    (trimReversed chars).length ≤ chars.length := by
  fun_induction trimReversed chars with
  | case1 rest ih => exact Nat.le_succ_of_le ih
  | case2 rest ih => exact Nat.le_trans ih (by simp only [List.length_cons]; omega)
  | case3 => exact Nat.le_refl _

/-- **A path ends with its last name**, once what names nothing has been cut off. -/
theorem exists_trimmed_eq_append {path name : String} (hname : fileName? path = some name) :
    ∃ before, trimmed path = before ++ name.toList ∧ EndsOpen before ∧
      IsLastName name.toList := by
  obtain ⟨before, last, hsplit, hbefore, hlast⟩ := exists_endsOpen (trimmed path)
  have htrimmed : fileName? (String.ofList (before ++ last)) = some name := by
    rw [← hsplit, trimmed, fileName?_trimReversed, List.reverse_reverse, String.ofList_toList,
      hname]
  have hfixed : trimReversed (before ++ last).reverse = (before ++ last).reverse := by
    rw [← hsplit, trimmed, List.reverse_reverse, trimReversed_trimReversed]
  -- a slash at the end, or a slash and a dot, would have been cut off
  have hopen (tail : List Char) (htail : tail = [] ∨ tail = ['.']) (hlast : last = tail) :
      before = [] := by
    rcases hbefore with hbefore | ⟨rest, rfl⟩
    · exact hbefore
    · have hshort := length_trimReversed_le rest.reverse
      have hlength := congrArg List.length hfixed
      rw [hlast] at hlength
      rcases htail with rfl | rfl <;> simp [trimReversed] at hlength hshort <;> omega
  have hempty : last ≠ [] := by
    intro hempty
    rw [hopen [] (.inl rfl) hempty, hempty] at htrimmed
    cases htrimmed
  have hdot : last ≠ ['.'] := by
    intro hdot
    rw [hopen ['.'] (.inr rfl) hdot, hdot] at htrimmed
    cases htrimmed
  have hdots : last ≠ ['.', '.'] := by
    rintro rfl
    obtain ⟨names, hnames⟩ := parts_append hbefore
    rw [fileName?, hnames _ hempty hlast, List.filter_append] at htrimmed
    simp at htrimmed
    exact htrimmed.2 htrimmed.1.symm
  have hlast : IsLastName last := ⟨hempty, hlast, hdot, hdots⟩
  rw [fileName?_append hbefore hlast, Option.some.injEq] at htrimmed
  rw [← htrimmed, String.toList_ofList]
  exact ⟨before, hsplit, hbefore, hlast⟩

/-- From a path that ends with a name nothing is cut off. -/
theorem trimmed_append {before name : List Char} (hname : IsLastName name) :
    trimmed (String.ofList (before ++ name)) = before ++ name := by
  have hfixed : trimReversed (name.reverse ++ before.reverse) =
      name.reverse ++ before.reverse := by
    cases hreverse : name.reverse with
    | nil => exact absurd (List.reverse_eq_nil_iff.mp hreverse) hname.nonempty
    | cons c rest =>
        have hslash : '/' ∉ c :: rest := by
          rw [← hreverse, List.mem_reverse]
          exact hname.slash_notMem
        refine trimReversed.eq_3 _ ?_ ?_
        · intro others hcons
          obtain ⟨rfl, -⟩ := List.cons.inj hcons
          exact hslash List.mem_cons_self
        · intro others hcons
          obtain ⟨rfl, hbehind⟩ := List.cons.inj hcons
          cases rest with
          | nil => exact hname.ne_dot (List.reverse_eq_cons_iff.mp hreverse)
          | cons d rest =>
              obtain ⟨rfl, -⟩ := List.cons.inj hbehind
              exact hslash (.tail _ List.mem_cons_self)
  rw [trimmed, String.toList_ofList, List.reverse_append, hfixed, List.reverse_append,
    List.reverse_reverse, List.reverse_reverse]

theorem trimReversed_suffix (chars : List Char) : trimReversed chars <:+ chars := by
  fun_induction trimReversed chars with
  | case1 rest ih => exact ih.trans (List.suffix_cons _ _)
  | case2 rest ih => exact ih.trans ((List.suffix_cons _ _).trans (List.suffix_cons _ _))
  | case3 => exact List.suffix_refl _

/-- **What is above the last name of a path** is told from what stands before it. -/
theorem parent_eq {path : String} {before name : List Char}
    (hpath : trimmed path = before ++ name) (hbefore : EndsOpen before)
    (hname : IsLastName name) :
    parent path =
      if (trimReversed before.reverse).isEmpty && before.head? = some '/' then "/"
      else String.ofList (trimReversed before.reverse).reverse := by
  have hlast : (before ++ name).reverse.takeWhile (· ≠ '/') = name.reverse := by
    rw [List.reverse_append, List.takeWhile_append_of_pos]
    · rcases hbefore with rfl | ⟨rest, rfl⟩ <;> simp
    · intro c hc
      exact decide_eq_true (ne_of_mem_of_not_mem (List.mem_reverse.mp hc) hname.slash_notMem)
  have hprefix : before ++ name <+: path.toList := by
    rw [← hpath, ← List.reverse_suffix, trimmed, List.reverse_reverse]
    exact trimReversed_suffix _
  have habsolute : isAbsolute path = decide (before.head? = some '/') := by
    obtain ⟨behind, hbehind⟩ := hprefix
    rw [isAbsolute, ← hbehind]
    cases before with
    | cons c rest => rfl
    | nil =>
        obtain ⟨c, rest, rfl⟩ := List.exists_cons_of_ne_nil hname.nonempty
        have hc : c ≠ '/' := fun h => hname.slash_notMem (h ▸ List.mem_cons_self)
        simp [hc]
  rw [parent, hpath, hlast, List.reverse_append, List.drop_left, habsolute, List.isEmpty_reverse]

/-! ### Stems and extensions -/

/-- A name is split at its last dot, unless this is at its start. -/
theorem splitName_append (stem : List Char) {ext : List Char} (hext : '.' ∉ ext) :
    splitName (stem ++ '.' :: ext) =
      if stem = [] then (stem ++ '.' :: ext, none) else (stem, some ext) := by
  have hafter : ((stem ++ '.' :: ext).reverse.takeWhile (· ≠ '.')).reverse = ext := by
    rw [List.reverse_append, List.reverse_cons, List.append_assoc, List.takeWhile_append_of_pos]
    · simp
    · intro c hc
      exact decide_eq_true (ne_of_mem_of_not_mem (List.mem_reverse.mp hc) hext)
  have hlength : (stem ++ '.' :: ext).length - ext.length - 1 = stem.length := by
    rw [List.length_append, List.length_cons]
    omega
  have hlonger : ext.length ≠ (stem ++ '.' :: ext).length := by
    rw [List.length_append, List.length_cons]
    omega
  rw [splitName, hafter, hlength, List.take_left]
  simp only [hlonger, false_or, List.isEmpty_iff]

/-- **A name has no extension**, or it is its stem, a dot and its extension. -/
theorem splitName_cases (name : List Char) :
    splitName name = (name, none) ∨ ∃ stem ext, stem ≠ [] ∧ name = stem ++ '.' :: ext ∧
      '.' ∉ ext ∧ splitName name = (stem, some ext) := by
  rcases exists_last '.' name with hdot | ⟨stem, ext, rfl, hext⟩
  · have hafter : name.reverse.takeWhile (· ≠ '.') = name.reverse := by
      rw [List.takeWhile_eq_self_iff]
      intro c hc
      exact decide_eq_true (ne_of_mem_of_not_mem (List.mem_reverse.mp hc) hdot)
    rw [splitName, hafter, List.reverse_reverse, if_pos (.inl rfl)]
    exact .inl rfl
  · have hsplit := splitName_append stem hext
    split at hsplit
    next => exact .inl hsplit
    next hne => exact .inr ⟨stem, ext, hne, rfl, hext, hsplit⟩

/-- A name starts with its stem. -/
theorem prefix_splitName (name : List Char) : (splitName name).1 <+: name := by
  rcases splitName_cases name with h | ⟨stem, ext, -, rfl, -, h⟩
  · simp [h]
  · simp [h]

theorem splitName_ne_nil {name : List Char} (hne : name ≠ []) : (splitName name).1 ≠ [] := by
  rcases splitName_cases name with h | ⟨stem, ext, hstem, -, -, h⟩
  · rw [h]
    exact hne
  · rw [h]
    exact hstem

/-- **A last name with an extension** is its stem, a dot and the extension. -/
theorem fileName?_of_extension? {path stem ext : String} (hstem : fileStem? path = some stem)
    (hext : extension? path = some ext) : fileName? path = some (stem ++ "." ++ ext) := by
  obtain ⟨name, hname, rfl⟩ := Option.map_eq_some_iff.mp hstem
  rw [extension?, hname, Option.bind_some] at hext
  rcases splitName_cases name.toList with h | ⟨stem, tail, -, hjoined, -, h⟩
  · rw [h] at hext
    cases hext
  · rw [h] at hext ⊢
    obtain rfl : String.ofList tail = ext := Option.some.inj hext
    rw [hname, Option.some.injEq, ← String.toList_inj]
    simpa using hjoined

/-- **An extension**: some characters other than dots and slashes. -/
def IsExtension (ext : String) : Prop :=
  ext ≠ "" ∧ '/' ∉ ext.toList ∧ '.' ∉ ext.toList

instance (ext : String) : Decidable (IsExtension ext) :=
  inferInstanceAs (Decidable (ext ≠ "" ∧ '/' ∉ ext.toList ∧ '.' ∉ ext.toList))

/-- A name with an extension is neither `.` nor `..`. -/
theorem IsExtension.isLastName {ext : String} (hext : IsExtension ext) {stem : List Char}
    (hstem : '/' ∉ stem) : IsLastName (stem ++ '.' :: ext.toList) := by
  obtain ⟨hne, hslash, hdot⟩ := hext
  have hends : (stem ++ '.' :: ext.toList).getLast? ≠ some '.' := by
    rw [List.append_cons, List.getLast?_append_of_ne_nil _ (mt String.toList_eq_nil_iff.mp hne)]
    exact fun h => hdot (List.mem_of_getLast? h)
  refine ⟨by simp, by simp [hstem, hslash], ?_, ?_⟩
  · intro h
    exact hends (by rw [h]; rfl)
  · intro h
    exact hends (by rw [h]; rfl)

/-! ### Another extension -/

/-- A path with another extension ends with the stem of its name and this extension, unless
the stem is a dot. -/
theorem toList_withExtension {path name : String} {before : List Char} (ext : String)
    (hname : fileName? path = some name) (hpath : trimmed path = before ++ name.toList) :
    (withExtension path ext).toList =
        before ++ ((splitName name.toList).1 ++ '.' :: ext.toList) ∨
      (withExtension path ext).toList = before ++ ['.', '.'] := by
  have hbare : (before ++ name.toList).take ((before ++ name.toList).length - name.length +
      (splitName name.toList).1.length) = before ++ (splitName name.toList).1 := by
    obtain ⟨rest, hrest⟩ := prefix_splitName name.toList
    rw [List.length_append, String.length_toList, Nat.add_sub_cancel, List.take_length_add_append,
      ← List.prefix_iff_eq_take.mp (prefix_splitName name.toList)]
  rw [withExtension, hname]
  dsimp only
  rw [hpath, hbare]
  split
  next hquirk =>
    rw [String.toList_ofList, hquirk.1, List.append_assoc]
    exact .inr rfl
  next =>
    rw [String.toList_ofList, List.append_assoc]
    exact .inl rfl

/-- **The last name of a path with another extension** has that extension, or is `..`. -/
theorem parts_withExtension {path stem ext : String} (hstem : fileStem? path = some stem)
    (hext : '/' ∉ ext.toList) :
    ∃ names last, parts (withExtension path ext) = names ++ [last] ∧
      (last = ".." ∨ ∃ tail, last.toList = tail ++ '.' :: ext.toList) ∧
      (withExtension path ext).toList.getLast? ≠ some '/' := by
  obtain ⟨name, hname, -⟩ := Option.map_eq_some_iff.mp hstem
  obtain ⟨before, hpath, hbefore, hlast⟩ := exists_trimmed_eq_append hname
  have hslash : '/' ∉ (splitName name.toList).1 :=
    fun h => hlast.slash_notMem ((prefix_splitName name.toList).subset h)
  obtain ⟨names, hnames⟩ := parts_append hbefore
  -- what is behind the last slash is no slash
  have hends {last : List Char} (h : (withExtension path ext).toList = before ++ last)
      (hne : last ≠ []) (hlast : '/' ∉ last) :
      parts (withExtension path ext) = names ++ [String.ofList last] ∧
        (withExtension path ext).toList.getLast? ≠ some '/' := by
    constructor
    · rw [← hnames last hne hlast, ← h, String.ofList_toList]
    · rw [h, List.getLast?_append_of_ne_nil _ hne]
      exact fun hlast' => hlast (List.mem_of_getLast? hlast')
  rcases toList_withExtension ext hname hpath with h | h
  · obtain ⟨hparts, hgetLast⟩ := hends h (by simp) (by simp [hslash, hext])
    exact ⟨names, _, hparts, .inr ⟨_, String.toList_ofList⟩, hgetLast⟩
  · obtain ⟨hparts, hgetLast⟩ := hends h (by simp) (by decide)
    exact ⟨names, _, hparts, .inl rfl, hgetLast⟩

/-! ### Beside a path -/

/-- **A file lies beside a path** under a name: both lead through the same directories. -/
structure LiesBeside (path name file : String) : Prop where
  fileName : fileName? file = some name
  parent : Path.parent file = Path.parent path

theorem LiesBeside.trans {path name file name' file' : String} (h : LiesBeside path name file)
    (h' : LiesBeside file name' file') : LiesBeside path name' file' :=
  ⟨h'.fileName, h'.parent.trans h.parent⟩

/-- A file that lies beside a path under its stem and an extension has this stem. -/
theorem LiesBeside.fileStem? {path stem ext file : String}
    (h : LiesBeside path (stem ++ "." ++ ext) file) (hstem : Path.fileStem? path = some stem)
    (hext : IsExtension ext) : Path.fileStem? file = some stem := by
  have hchars : stem.toList ≠ [] := by
    obtain ⟨name, hname, rfl⟩ := Option.map_eq_some_iff.mp hstem
    obtain ⟨-, -, -, hlast⟩ := exists_trimmed_eq_append hname
    rw [String.toList_ofList]
    exact splitName_ne_nil hlast.nonempty
  have hname : (stem ++ "." ++ ext).toList = stem.toList ++ '.' :: ext.toList := by simp
  rw [Path.fileStem?, h.fileName, Option.map_some, hname, splitName_append _ hext.2.2,
    if_neg hchars, String.ofList_toList]

/-- A path that has a last name with another extension has one without it. -/
theorem exists_fileStem? {path ext stem : String}
    (h : fileStem? (withExtension path ext) = some stem) : ∃ stem, fileStem? path = some stem := by
  cases hname : fileName? path with
  | some name => exact ⟨_, by rw [fileStem?, hname, Option.map_some]⟩
  | none =>
      rw [withExtension, hname] at h
      exact ⟨stem, h⟩

/-- **A path with another extension** lies beside the path, under its stem and this extension,
unless it ends in `..`. -/
theorem liesBeside_withExtension {path stem ext : String} (hstem : fileStem? path = some stem)
    (hext : IsExtension ext) (hdots : (parts (withExtension path ext)).getLast? ≠ some "..") :
    LiesBeside path (stem ++ "." ++ ext) (withExtension path ext) := by
  obtain ⟨name, hname, rfl⟩ := Option.map_eq_some_iff.mp hstem
  obtain ⟨before, hpath, hbefore, hlast⟩ := exists_trimmed_eq_append hname
  rcases toList_withExtension ext hname hpath with h | h
  · have hne : String.ofList (splitName name.toList).1 ++ "." ++ ext =
        String.ofList ((splitName name.toList).1 ++ '.' :: ext.toList) := by
      rw [← String.toList_inj]
      simp
    have hlast' : IsLastName ((splitName name.toList).1 ++ '.' :: ext.toList) :=
      hext.isLastName fun h => hlast.slash_notMem ((prefix_splitName name.toList).subset h)
    have hwith : withExtension path ext = String.ofList
        (before ++ ((splitName name.toList).1 ++ '.' :: ext.toList)) := by
      rw [← h, String.ofList_toList]
    constructor
    · rw [hwith, fileName?_append hbefore hlast', hne]
    · rw [parent_eq hpath hbefore hlast, hwith, parent_eq (trimmed_append hlast') hbefore hlast']
  · obtain ⟨names, hnames⟩ := parts_append hbefore
    have hparts := hnames ['.', '.'] (List.cons_ne_nil _ _) (by decide)
    rw [← h, String.ofList_toList] at hparts
    rw [hparts, List.getLast?_concat] at hdots
    exact absurd rfl hdots

end FigureScript.Path
