import FigureScript.Files.Store
import FigureScript.Proofs.Keyed
import FigureScript.Proofs.Outcome

/-!
# Files read back

A file that has been written is found under the path that it was written to.  The path is
followed through directories only, and writing a file leaves every directory as it is.

## Main Definitions

* `Store.SameDirectories` — stores with the same directories

## Main Results

* `Store.get?_put` — what stands at a place after an entry was put at one
* `Store.SameDirectories.resolve` — a path names the same place where the directories are the
  same
* `Store.read_eq_ok`, `Store.write_eq_ok` — reading and writing by place
* `Store.read_of_write`, `Store.readText_of_write` — what is written is read back
-/

namespace FigureScript.Store

open Outcome

variable {s : Store} {place : Place} {entry : StoreEntry}

theorem entries_put (s : Store) (place : Place) (entry : StoreEntry) :
    (s.put place entry).entries =
      if s.entries.any (·.1 = place) then
        s.entries.map fun (p, old) => (p, if p = place then entry else old)
      else s.entries ++ [(place, entry)] := by
  rw [put]
  split <;> rfl

/-- **What stands at a place** after an entry was put at one other than the root. -/
theorem get?_put (hplace : place ≠ []) (q : Place) :
    (s.put place entry).get? q = if q = place then some entry else s.get? q := by
  rw [get?, get?, entries_put, find?_replaced]
  cases q with
  | nil => rw [if_neg (Ne.symm hplace), if_neg (Ne.symm hplace)]
  | cons name names => rfl

theorem cwd_put : (s.put place entry).cwd = s.cwd := by
  unfold put
  split <;> rfl

/-- The root is a directory, so what is none stands elsewhere. -/
theorem ne_root_of_get? (h : s.get? place ≠ some .directory) : place ≠ [] := by
  rintro rfl
  exact h rfl

/-! ### Paths -/

/-- **The same directories**, seen from the same one. -/
structure SameDirectories (s t : Store) : Prop where
  cwd : s.cwd = t.cwd
  directory : ∀ place, s.get? place = some .directory ↔ t.get? place = some .directory

namespace SameDirectories

variable {t u : Store}

theorem refl (s : Store) : SameDirectories s s :=
  ⟨rfl, fun _ => .rfl⟩

theorem symm (h : SameDirectories s t) : SameDirectories t s :=
  ⟨h.cwd.symm, fun place => (h.directory place).symm⟩

theorem trans (h : SameDirectories s t) (h' : SameDirectories t u) : SameDirectories s u :=
  ⟨h.cwd.trans h'.cwd, fun place => (h.directory place).trans (h'.directory place)⟩

/-- A path is followed through directories only. -/
theorem follow (h : SameDirectories s t) {here target : Place} {names : List String}
    (hfollow : s.follow here names = .ok target) : t.follow here names = .ok target := by
  induction names generalizing here with
  | nil => exact hfollow
  | cons name rest ih =>
      rw [Store.follow] at hfollow ⊢
      split at hfollow
      next => cases hfollow
      next => cases hfollow
      next hdirectory =>
        rw [(h.directory here).mp hdirectory]
        dsimp only
        split
        next hself =>
          rw [if_pos hself] at hfollow
          exact ih hfollow
        next hself =>
          rw [if_neg hself] at hfollow
          split
          next hparent =>
            rw [if_pos hparent] at hfollow
            exact ih hfollow
          next hparent =>
            rw [if_neg hparent] at hfollow
            split
            next hlong =>
              rw [if_pos hlong] at hfollow
              cases hfollow
            next hlong =>
              rw [if_neg hlong] at hfollow
              exact ih hfollow

/-- **A path names the same place** in stores with the same directories. -/
theorem resolve (h : SameDirectories s t) {path : String} {target : Place}
    (hresolve : s.resolve path = .ok target) : t.resolve path = .ok target := by
  unfold Store.resolve at hresolve ⊢
  rw [← h.cwd]
  split
  next hnul =>
    rw [if_pos hnul] at hresolve
    cases hresolve
  next hnul =>
    rw [if_neg hnul] at hresolve
    split
    next hempty =>
      rw [if_pos hempty] at hresolve
      cases hresolve
    next hempty =>
      rw [if_neg hempty] at hresolve
      split
      next hlong =>
        rw [if_pos hlong] at hresolve
        cases hresolve
      next hlong =>
        rw [if_neg hlong] at hresolve
        exact h.follow hresolve

end SameDirectories

/-- A file that is put where no directory is leaves the directories. -/
theorem sameDirectories_put (h : s.get? place ≠ some .directory) (content : FileContent)
    (executable : Bool) : SameDirectories s (s.put place (.file content executable)) := by
  refine ⟨cwd_put.symm, fun q => ?_⟩
  rw [get?_put (ne_root_of_get? h)]
  split
  next hq =>
    rw [hq]
    exact iff_of_false h nofun
  next => exact .rfl

/-! ### Reading and writing -/

/-- What is read is the content of the file at the place that the path names. -/
theorem read_eq_ok {path : String} {content : FileContent} :
    s.read path = .ok content ↔
      ∃ place executable, s.resolve path = .ok place ∧
        s.get? place = some (.file content executable) := by
  simp only [read, lookup, bind_eq_ok]
  constructor
  · rintro ⟨found, ⟨place, hplace, hfound⟩, hcontent⟩
    split at hfound
    next hget =>
      cases hfound
      split at hcontent
      next => cases hcontent
      next =>
        cases hcontent
        exact ⟨place, _, hplace, hget⟩
    next => cases hfound
  · rintro ⟨place, executable, hplace, hget⟩
    refine ⟨.file content executable, ⟨place, hplace, ?_⟩, rfl⟩
    rw [hget]

theorem readText_eq_ok {path text : String} :
    s.readText path = .ok text ↔ s.read path = .ok (.text text) := by
  simp only [readText, bind_eq_ok]
  constructor
  · rintro ⟨content, hread, hcontent⟩
    split at hcontent
    next =>
      cases hcontent
      exact hread
    next => cases hcontent
  · intro hread
    exact ⟨_, hread, rfl⟩

/-- Writing puts a file at the place that the path names. -/
theorem write_eq_ok {path : String} {content : FileContent} {s' : Store}
    (h : s.write path content = .ok s') :
    ∃ place executable, s.resolve path = .ok place ∧ s.get? place ≠ some .directory ∧
      s' = s.put place (.file content executable) := by
  obtain ⟨place, hplace, h⟩ := bind_eq_ok.mp h
  split at h
  next => cases h
  next executable hfile =>
    exact ⟨place, executable, hplace, by rw [hfile]; nofun, (Except.ok.inj h).symm⟩
  next hfile => exact ⟨place, false, hplace, by rw [hfile]; nofun, (Except.ok.inj h).symm⟩

/-- What has been written stands at the place of its path. -/
theorem get?_of_write {path : String} {content : FileContent} {s' : Store}
    (h : s.write path content = .ok s') :
    ∃ place executable, s.resolve path = .ok place ∧
      s'.get? place = some (.file content executable) ∧
      ∀ q, q ≠ place → s'.get? q = s.get? q := by
  obtain ⟨place, executable, hresolve, hdirectory, rfl⟩ := write_eq_ok h
  have hput (q : Place) : (s.put place (.file content executable)).get? q =
      if q = place then some (.file content executable) else s.get? q :=
    get?_put (ne_root_of_get? hdirectory) q
  refine ⟨place, executable, hresolve, ?_, fun q hq => ?_⟩
  · rw [hput, if_pos rfl]
  · rw [hput, if_neg hq]

theorem sameDirectories_write {path : String} {content : FileContent} {s' : Store}
    (h : s.write path content = .ok s') : SameDirectories s s' := by
  obtain ⟨place, executable, -, hdirectory, rfl⟩ := write_eq_ok h
  exact sameDirectories_put hdirectory content executable

/-- **What is written is read back.** -/
theorem read_of_write {path : String} {content : FileContent} {s' : Store}
    (h : s.write path content = .ok s') : s'.read path = .ok content := by
  obtain ⟨place, executable, hresolve, hget, -⟩ := get?_of_write h
  exact read_eq_ok.mpr ⟨place, executable, (sameDirectories_write h).resolve hresolve, hget⟩

/-- A text that is written is read back. -/
theorem readText_of_write {path text : String} {s' : Store}
    (h : s.write path (.text text) = .ok s') : s'.readText path = .ok text :=
  readText_eq_ok.mpr (read_of_write h)

end FigureScript.Store
