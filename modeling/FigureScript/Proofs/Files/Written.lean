import FigureScript.Proofs.Files.Names
import FigureScript.Proofs.Files.Store

/-!
# Stores after some writes

Several files are written one after the other, each at the place that its path names at
that time.  Since writing leaves the directories, the path names this place all the time,
and what stands there in the end is what stood there at first or one of the contents that
were written to it.

## Main Definitions

* `Store.Written` — a store that comes from another one by some writes
* `Store.IsTree` — every entry lies in a directory

## Main Results

* `Store.Written.get?_cases` — what stands at a place after some writes
* `Store.IsTree.name_of_resolve` — the place of a path that was given an extension
* `Store.IsTree.resolve_ne_of_extensions` — paths with different extensions do not meet
* `Store.Written.read_of_extensions` — a file is kept where others have other extensions
* `Store.IsTree.liesBeside_of_write` — a file with another extension lies beside the old one
* `Store.Written.isTree` — writing keeps a tree
-/

namespace FigureScript.Store

open Outcome

variable {output output' : String → FileContent → Prop} {s t u : Store}

/-- **Some writes** of outputs, one after the other. -/
inductive Written (output : String → FileContent → Prop) : Store → Store → Prop where
  | refl (s : Store) : Written output s s
  | step {s t u : Store} {path : String} {content : FileContent} (houtput : output path content)
      (hwrite : s.write path content = .ok t) (hrest : Written output t u) : Written output s u

namespace Written

theorem single {path : String} {content : FileContent} (houtput : output path content)
    (hwrite : s.write path content = .ok t) : Written output s t :=
  .step houtput hwrite (.refl t)

theorem trans (h : Written output s t) (h' : Written output t u) : Written output s u := by
  induction h with
  | refl => exact h'
  | step houtput hwrite _ ih => exact .step houtput hwrite (ih h')

theorem mono (h : Written output s t)
    (hmono : ∀ path content, output path content → output' path content) : Written output' s t := by
  induction h with
  | refl => exact .refl _
  | step houtput hwrite _ ih => exact .step (hmono _ _ houtput) hwrite ih

/-- Writing leaves the directories. -/
theorem sameDirectories (h : Written output s t) : SameDirectories s t := by
  induction h with
  | refl => exact .refl _
  | step _ hwrite _ ih => exact (sameDirectories_write hwrite).trans ih

/-- **What stands at a place after some writes** stood there before, or is an output that
has this place. -/
theorem get?_cases (h : Written output s t) (place : Place) :
    t.get? place = s.get? place ∨
      ∃ path content executable, output path content ∧ s.resolve path = .ok place ∧
        t.get? place = some (.file content executable) := by
  induction h with
  | refl => exact .inl rfl
  | @step s₀ s₁ s₂ path content houtput hwrite _ ih =>
      -- later writes come first: the last one to a place counts
      rcases ih with hsame | ⟨path', content', executable', houtput', hresolve', hget'⟩
      · obtain ⟨written, executable, hresolve, hget, hother⟩ := get?_of_write hwrite
        by_cases hplace : place = written
        · subst hplace
          exact .inr ⟨path, content, executable, houtput, hresolve, hsame.trans hget⟩
        · exact .inl (hsame.trans (hother place hplace))
      · exact .inr ⟨path', content', executable', houtput',
          (sameDirectories_write hwrite).symm.resolve hresolve', hget'⟩

/-- **What is read after some writes** was there before, or is an output at the same
place. -/
theorem read_cases (h : Written output s t) {path : String} {content : FileContent}
    (hread : t.read path = .ok content) :
    s.read path = .ok content ∨
      ∃ path', output path' content ∧ ∃ place, s.resolve path' = .ok place ∧
        s.resolve path = .ok place := by
  obtain ⟨place, executable, hresolve, hget⟩ := read_eq_ok.mp hread
  have hresolve := h.sameDirectories.symm.resolve hresolve
  rcases h.get?_cases place with hsame | ⟨path', content', executable', houtput, hplace, hfile⟩
  · exact .inl (read_eq_ok.mpr ⟨place, executable, hresolve, hsame ▸ hget⟩)
  · rw [hfile, Option.some.injEq, StoreEntry.file.injEq] at hget
    exact .inr ⟨path', hget.1 ▸ houtput, place, hplace, hresolve⟩

/-- A file is still there after some writes, with its content or with an output that has
its place. -/
theorem read_of_read (h : Written output s t) {path : String} {content : FileContent}
    (hread : s.read path = .ok content) :
    t.read path = .ok content ∨
      ∃ path' content', output path' content' ∧ t.read path = .ok content' ∧
        ∃ place, s.resolve path' = .ok place ∧ s.resolve path = .ok place := by
  obtain ⟨place, executable, hresolve, hget⟩ := read_eq_ok.mp hread
  have hresolve' := h.sameDirectories.resolve hresolve
  rcases h.get?_cases place with hsame | ⟨path', content', executable', houtput, hplace, hfile⟩
  · exact .inl (read_eq_ok.mpr ⟨place, executable, hresolve', hsame.trans hget⟩)
  · exact .inr ⟨path', content', houtput,
      read_eq_ok.mpr ⟨place, executable', hresolve', hfile⟩, place, hplace, hresolve⟩

end Written

/-! ### Trees -/

/-- **Every entry lies in a directory.** -/
def IsTree (s : Store) : Prop :=
  ∀ place entry, s.get? place = some entry → s.get? place.dropLast = some .directory

/-- The places that have entries are those listed. -/
theorem isTree_of_entries (h : ∀ entry ∈ s.entries, s.get? entry.1.dropLast = some .directory) :
    s.IsTree := by
  intro place entry hget
  unfold get? at hget
  split at hget
  next hroot =>
    rw [List.isEmpty_iff.mp hroot]
    rfl
  next =>
    obtain ⟨found, hfound, -⟩ := Option.map_eq_some_iff.mp hget
    have hplace : found.1 = place := by simpa using List.find?_some hfound
    rw [← hplace]
    exact h found (List.mem_of_find?_eq_some hfound)

theorem follow_append (s : Store) (here : Place) (names rest : List String) :
    s.follow here (names ++ rest) = (do s.follow (← s.follow here names) rest) := by
  induction names generalizing here with
  | nil => rfl
  | cons name names ih =>
      rw [List.cons_append, follow, follow]
      split
      next => rfl
      next => rfl
      next =>
        split
        next => exact ih here
        next =>
          split
          next => exact ih here.dropLast
          next =>
            split
            next => rfl
            next => exact ih (here ++ [name])

/-- **The last step of a path** starts in a directory, and leads to it, to the one above
it, or to a place inside it. -/
theorem follow_concat_eq_ok {here target : Place} {names : List String} {name : String}
    (h : s.follow here (names ++ [name]) = .ok target) :
    ∃ directory, s.get? directory = some .directory ∧
      (name = "." ∧ target = directory ∨ name = ".." ∧ target = directory.dropLast ∨
        (name ≠ "." ∧ name ≠ "..") ∧ target = directory ++ [name]) := by
  rw [follow_append, bind_eq_ok] at h
  obtain ⟨directory, -, h⟩ := h
  rw [follow] at h
  split at h
  next => cases h
  next => cases h
  next hdirectory =>
    refine ⟨directory, hdirectory, ?_⟩
    split at h
    next hself => exact .inl ⟨hself, (Except.ok.inj h).symm⟩
    next hself =>
      split at h
      next hparent => exact .inr (.inl ⟨hparent, (Except.ok.inj h).symm⟩)
      next hparent =>
        split at h
        next => cases h
        next => exact .inr (.inr ⟨⟨hself, hparent⟩, (Except.ok.inj h).symm⟩)

/-- A path that names a place has been followed, and it has names unless it starts at the
root. -/
theorem follow_of_resolve {path : String} {place : Place} (h : s.resolve path = .ok place) :
    ∃ start, s.follow start (Path.parts path ++
        if path.toList.getLast? = some '/' then ["."] else []) = .ok place ∧
      (start = [] ∨ Path.parts path ≠ []) := by
  unfold resolve at h
  split at h
  next => cases h
  next =>
    split at h
    next => cases h
    next hne =>
      split at h
      next => cases h
      next =>
        refine ⟨_, h, ?_⟩
        split
        next => exact .inl rfl
        next hrelative => exact .inr (Path.parts_ne_nil hne (Bool.eq_false_iff.mpr hrelative))

/-- **What is no directory lies in one**, when a path leads to it. -/
theorem IsTree.parent_of_resolve (hs : s.IsTree) {path : String} {place : Place}
    (hresolve : s.resolve path = .ok place) (hplace : s.get? place ≠ some .directory) :
    s.get? place.dropLast = some .directory := by
  obtain ⟨start, hfollow, hstart⟩ := follow_of_resolve hresolve
  rcases List.eq_nil_or_concat' (Path.parts path ++
      if path.toList.getLast? = some '/' then ["."] else []) with hnames | ⟨names, name, hnames⟩
  · rw [hnames] at hfollow
    rcases hstart with rfl | hparts
    · cases hfollow
      exact absurd rfl hplace
    · exact absurd (List.append_eq_nil_iff.mp hnames).1 hparts
  · rw [hnames] at hfollow
    obtain ⟨directory, hdirectory, ⟨-, rfl⟩ | ⟨-, rfl⟩ | ⟨-, rfl⟩⟩ := follow_concat_eq_ok hfollow
    · exact absurd hdirectory hplace
    · exact absurd (hs _ _ hdirectory) hplace
    · rw [List.dropLast_concat]
      exact hdirectory

/-- **A path that leads to no directory** leads to its last name, and this is not `..`. -/
theorem IsTree.last_of_resolve (hs : s.IsTree) {path last : String} {names : List String}
    (hparts : Path.parts path = names ++ [last]) (hslash : path.toList.getLast? ≠ some '/')
    {place : Place} (hresolve : s.resolve path = .ok place)
    (hplace : s.get? place ≠ some .directory) :
    last ≠ ".." ∧ place.getLast? = some last := by
  obtain ⟨start, hfollow, -⟩ := follow_of_resolve hresolve
  rw [if_neg hslash, List.append_nil, hparts] at hfollow
  obtain ⟨directory, hdirectory, ⟨-, rfl⟩ | ⟨-, rfl⟩ | ⟨⟨-, hparent⟩, rfl⟩⟩ :=
    follow_concat_eq_ok hfollow
  · exact absurd hdirectory hplace
  · -- from a directory `..` leads to a directory again
    exact absurd (hs _ _ hdirectory) hplace
  · exact ⟨hparent, List.getLast?_concat⟩

/-- **A path with another extension** leads to a directory or to a name with that
extension. -/
theorem IsTree.name_of_resolve (hs : s.IsTree) {path stem ext : String}
    (hstem : Path.fileStem? path = some stem) (hext : Path.IsExtension ext) {place : Place}
    (hresolve : s.resolve (Path.withExtension path ext) = .ok place)
    (hplace : s.get? place ≠ some .directory) :
    ∃ name tail, place.getLast? = some name ∧ name.toList = tail ++ '.' :: ext.toList := by
  obtain ⟨names, last, hparts, hlast, hslash⟩ := Path.parts_withExtension hstem hext.2.1
  obtain ⟨hdots, hplace⟩ := hs.last_of_resolve hparts hslash hresolve hplace
  rcases hlast with rfl | ⟨tail, htail⟩
  · exact absurd rfl hdots
  · exact ⟨last, tail, hplace, htail⟩

/-- **Paths with different extensions** never meet at a place that is no directory. -/
theorem IsTree.resolve_ne_of_extensions (hs : s.IsTree) {path path' stem stem' ext ext' : String}
    (hstem : Path.fileStem? path = some stem) (hstem' : Path.fileStem? path' = some stem')
    (hext : Path.IsExtension ext) (hext' : Path.IsExtension ext')
    (hends : ext.toList.getLast? ≠ ext'.toList.getLast?) {place : Place}
    (hplace : s.get? place ≠ some .directory)
    (hresolve : s.resolve (Path.withExtension path ext) = .ok place) :
    s.resolve (Path.withExtension path' ext') ≠ .ok place := by
  have hgetLast {name ext : String} {tail : List Char} (hext : Path.IsExtension ext)
      (hname : name.toList = tail ++ '.' :: ext.toList) :
      name.toList.getLast? = ext.toList.getLast? := by
    rw [hname, List.append_cons,
      List.getLast?_append_of_ne_nil _ (mt String.toList_eq_nil_iff.mp hext.1)]
  intro hresolve'
  obtain ⟨name, tail, hlast, hname⟩ := hs.name_of_resolve hstem hext hresolve hplace
  obtain ⟨name', tail', hlast', hname'⟩ := hs.name_of_resolve hstem' hext' hresolve' hplace
  rw [hlast, Option.some.injEq] at hlast'
  subst hlast'
  exact hends ((hgetLast hext hname).symm.trans (hgetLast hext' hname'))

/-- **A file is kept** where only files with other extensions are written. -/
theorem Written.read_of_extensions (h : Written output s t) (hs : s.IsTree)
    {path stem ext : String} (hstem : Path.fileStem? path = some stem)
    (hext : Path.IsExtension ext) {content : FileContent}
    (hothers : ∀ path' content', output path' content' → ∃ other stem' ext',
      path' = Path.withExtension other ext' ∧ Path.fileStem? other = some stem' ∧
        Path.IsExtension ext' ∧ ext.toList.getLast? ≠ ext'.toList.getLast?)
    (hread : s.read (Path.withExtension path ext) = .ok content) :
    t.read (Path.withExtension path ext) = .ok content := by
  rcases h.read_of_read hread with hkept | ⟨path', content', houtput, -, place, hplace', hplace⟩
  · exact hkept
  · obtain ⟨other, stem', ext', rfl, hstem', hext', hends⟩ := hothers path' content' houtput
    obtain ⟨found, executable, hfound, hget⟩ := read_eq_ok.mp hread
    obtain rfl := Except.ok.inj (hplace.symm.trans hfound)
    have hfile : s.get? place ≠ some .directory := by
      rw [hget]
      exact nofun
    exact absurd hplace'
      (hs.resolve_ne_of_extensions hstem hstem' hext hext' hends hfile hplace)

/-- **A file that was written under another extension** lies beside the path. -/
theorem IsTree.liesBeside_of_write (hs : s.IsTree) {path stem ext : String}
    (hstem : Path.fileStem? path = some stem) (hext : Path.IsExtension ext)
    {content : FileContent} (hwrite : s.write (Path.withExtension path ext) content = .ok t) :
    Path.LiesBeside path (stem ++ "." ++ ext) (Path.withExtension path ext) := by
  obtain ⟨place, -, hresolve, hplace, -⟩ := write_eq_ok hwrite
  refine Path.liesBeside_withExtension hstem hext fun hdots => ?_
  obtain ⟨names, last, hparts, -, hslash⟩ := Path.parts_withExtension hstem hext.2.1
  rw [hparts, List.getLast?_concat, Option.some.injEq] at hdots
  exact (hs.last_of_resolve hparts hslash hresolve hplace).1 hdots

/-- Writing a file keeps a tree. -/
theorem IsTree.write (hs : s.IsTree) {path : String} {content : FileContent}
    (h : s.write path content = .ok t) : t.IsTree := by
  have hsame := sameDirectories_write h
  obtain ⟨written, -, hresolve, hdirectory, -⟩ := write_eq_ok h
  obtain ⟨_, _, hresolve', -, hother⟩ := get?_of_write h
  intro place entry hentry
  rw [← hsame.directory]
  by_cases hplace : place = written
  · -- the place may be new, but its directory is not
    rw [hplace]
    exact hs.parent_of_resolve hresolve hdirectory
  · rw [hresolve, Except.ok.injEq] at hresolve'
    rw [hother place (hresolve' ▸ hplace)] at hentry
    exact hs place entry hentry

/-- **Writing keeps a tree.** -/
theorem Written.isTree (h : Written output s t) (hs : s.IsTree) : t.IsTree := by
  induction h with
  | refl => exact hs
  | step _ hwrite _ ih => exact ih (hs.write hwrite)

end FigureScript.Store
