import Mathlib.Data.List.Nodup

/-!
# Entries by key

Secondary axes and stored files are lists of entries with a key each, in which an entry is
replaced where it stands or is put behind the others.  Programs are made section by section,
and the key of a statement tells from which section it comes; so do the cells of a worksheet.

## Main Results

* `find?_replaced` — what is found in a list after an entry was replaced or added
* `find?_of_mem` — what is found in a list without a key that occurs twice
* `nodup_flatMap_zipIdx` — sections that do not meet
* `filter_flatMap_of_label`, `filter_flatMap_of_keys` — a section is found again in the whole
-/

namespace FigureScript

variable {κ α : Type} [DecidableEq κ]

/-- Replacing the value of a key leaves the keys, so an entry is found where the old one
was. -/
theorem find?_map_replaced (entries : List (κ × α)) (key sought : κ) (value : α) :
    ((entries.map fun (k, old) => (k, if k = key then value else old)).find?
        (·.1 = sought)).map (·.2) =
      (entries.find? (·.1 = sought)).map fun entry =>
        if sought = key then value else entry.2 := by
  rw [List.find?_map, Option.map_map]
  change Option.map _ (entries.find? fun entry => entry.1 = sought) = _
  refine Option.map_congr fun entry hentry => ?_
  have hkey : entry.1 = sought := by simpa using List.find?_some hentry
  change (if entry.1 = key then value else entry.2) = _
  rw [hkey]

/-- **What is found under a key** after the entry of a key was replaced, or was added behind
the others if there was none. -/
theorem find?_replaced (entries : List (κ × α)) (key sought : κ) (value : α) :
    ((if entries.any (·.1 = key) then
        entries.map fun (k, old) => (k, if k = key then value else old)
      else entries ++ [(key, value)]).find? (·.1 = sought)).map (·.2) =
      if sought = key then some value else (entries.find? (·.1 = sought)).map (·.2) := by
  have hany : entries.any (·.1 = key) = (entries.find? (·.1 = key)).isSome := by
    rw [Bool.eq_iff_iff, List.any_eq_true, List.find?_isSome]
  rw [hany]
  split
  next hpresent =>
    rw [find?_map_replaced]
    by_cases hkey : sought = key
    · obtain ⟨entry, hentry⟩ := Option.isSome_iff_exists.mp hpresent
      rw [hkey, hentry, if_pos rfl]
      simp
    · simp only [hkey, if_false]
  next hfresh =>
    rw [List.find?_append]
    by_cases hkey : sought = key
    · rw [hkey, Option.not_isSome_iff_eq_none.mp hfresh, if_pos rfl]
      simp
    · have hother : [(key, value)].find? (·.1 = sought) = none := by
        simpa using fun h => hkey h.symm
      rw [hother, Option.or_none, if_neg hkey]

/-- **An entry is found under its key** when no two entries have the same key. -/
theorem find?_of_mem {entries : List (κ × α)} (hkeys : (entries.map (·.1)).Nodup) {key : κ}
    {value : α} (hmem : (key, value) ∈ entries) :
    (entries.find? (·.1 = key)).map (·.2) = some value := by
  cases hfind : entries.find? (·.1 = key) with
  | none =>
      have hnone := List.find?_eq_none.mp hfind _ hmem
      simp at hnone
  | some entry =>
      have hkey : entry.1 = key := by simpa using List.find?_some hfind
      have hsame : entry = (key, value) :=
        List.inj_on_of_nodup_map hkeys (List.mem_of_find?_eq_some hfind) hmem hkey
      rw [hsame]
      rfl

/-- **Numbered sections do not meet** when the number of a section can be told from each of its
items. -/
theorem nodup_flatMap_zipIdx {ι : Type} {items : List ι} {content : ι × Nat → List α}
    (number : α → Nat) (hnumber : ∀ item, ∀ a ∈ content item, number a = item.2)
    (hcontent : ∀ item, (content item).Nodup) : (items.zipIdx.flatMap content).Nodup := by
  have hdistinct : (items.zipIdx.map (·.2)).Nodup := by
    rw [List.zipIdx_map_snd]
    exact List.nodup_range'
  rw [List.nodup_flatMap]
  refine ⟨fun item _ => hcontent item, (List.pairwise_map.mp hdistinct).imp fun hne => ?_⟩
  intro a hleft hright
  exact hne ((hnumber _ a hleft).symm.trans (hnumber _ a hright))

section Sections

variable {ι : Type} {items : List ι} {label : ι → κ} {content : ι → List α} {key : α → Option κ}
  (hcontent : ∀ i ∈ items, ∀ a ∈ content i, key a = some (label i))
include hcontent

/-- What has a key is what the items with that label contribute. -/
theorem filter_flatMap_of_label (k : κ) :
    (items.flatMap content).filter (key · = some k) =
      items.flatMap fun i => if label i = k then content i else [] := by
  rw [List.filter_flatMap]
  refine List.flatMap_congr fun i hi => ?_
  -- the content of an item is kept as a whole or left out as a whole
  split
  next hsame =>
    rw [List.filter_eq_self]
    intro a ha
    rw [hcontent i hi a ha, hsame, decide_eq_true rfl]
  next hother =>
    rw [List.filter_eq_nil_iff]
    intro a ha
    rw [hcontent i hi a ha]
    simpa using hother

/-- **A section is found again in the whole** by its key, when no two sections have the same
key. -/
theorem filter_flatMap_of_keys (hdistinct : (items.map label).Nodup) {item : ι}
    (hitem : item ∈ items) :
    (items.flatMap content).filter (key · = some (label item)) = content item := by
  rw [filter_flatMap_of_label hcontent]
  clear hcontent
  induction items with
  | nil => cases hitem
  | cons first rest ih =>
      rw [List.map_cons, List.nodup_cons] at hdistinct
      rw [List.flatMap_cons]
      rcases List.mem_cons.mp hitem with rfl | hitem
      · have hnone :
            (rest.flatMap fun i => if label i = label item then content i else []) = [] := by
          rw [List.flatMap_eq_nil_iff]
          intro i hi
          have hne : label i ≠ label item := fun hsame =>
            hdistinct.1 (hsame ▸ List.mem_map_of_mem hi)
          exact if_neg hne
        rw [if_pos rfl, hnone, List.append_nil]
      · have hne : label first ≠ label item := fun hsame =>
          hdistinct.1 (hsame ▸ List.mem_map_of_mem hitem)
        rw [if_neg hne, List.nil_append]
        exact ih hdistinct.2 hitem

end Sections

end FigureScript
