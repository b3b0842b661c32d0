import Mathlib.Data.List.Forall2

/-!
# Outcomes

When an operation that may fail succeeds, and when it fails.  Checks and compilations are
written as sequences and traversals in `Except`; these lemmas take one apart into its
steps, so that no later proof has to open the monad.

## Main Results

* `bind_eq_ok`, `map_eq_ok`, `mapError_eq_ok` — single steps
* `forM_eq_ok` — a list of checks succeeds when each of them does
* `mapM_eq_ok` — a list of results is made item by item
* `exists_of_forM_eq_error` — a traversal fails with the error of one of its steps
* `exists_append_of_mapM_eq_error` — and this is the first step that fails
* `map_mapM_unit` — a list of results whose items do not matter is a list of checks
-/

namespace FigureScript.Outcome

variable {ε ε' α β : Type}

/-- A sequence succeeds when its first step does and then its second. -/
theorem bind_eq_ok {x : Except ε α} {f : α → Except ε β} {b : β} :
    (x >>= f) = .ok b ↔ ∃ a, x = .ok a ∧ f a = .ok b := by
  cases x <;> simp [bind, Except.bind]

/-- A sequence of checks succeeds when both do. -/
theorem seq_eq_ok {x : Except ε Unit} {y : Except ε β} {b : β} :
    (x >>= fun _ => y) = .ok b ↔ x = .ok () ∧ y = .ok b := by
  cases x <;> simp [bind, Except.bind]

theorem map_eq_ok {x : Except ε α} {f : α → β} {b : β} :
    x.map f = .ok b ↔ ∃ a, x = .ok a ∧ f a = b := by
  cases x <;> simp [Except.map]

theorem mapError_eq_ok {x : Except ε α} {f : ε → ε'} {a : α} :
    x.mapError f = .ok a ↔ x = .ok a := by
  cases x <;> simp [Except.mapError]

/-- A sequence fails when its first step does or, behind it, its second. -/
theorem bind_eq_error {x : Except ε α} {f : α → Except ε β} {e : ε} :
    (x >>= f) = .error e ↔ x = .error e ∨ ∃ a, x = .ok a ∧ f a = .error e := by
  cases x <;> simp [bind, Except.bind]

theorem mapError_eq_error {x : Except ε α} {f : ε → ε'} {e : ε'} :
    x.mapError f = .error e ↔ ∃ cause, x = .error cause ∧ f cause = e := by
  cases x <;> simp [Except.mapError]

/-- A change of the result of a sequence is one of its last step. -/
theorem map_bind {γ : Type} (x : Except ε α) (f : α → Except ε β) (g : β → γ) :
    (x >>= f).map g = x >>= fun a => (f a).map g := by
  cases x <;> rfl

/-- Sequences agree up to a change of their results when their first steps agree up to
one, and their second steps do behind results that agree. -/
theorem map_bind_congr {γ δ : Type} {x x' : Except ε α} {f f' : α → Except ε β} {pick : α → γ}
    {change : β → δ} (hx : x.map pick = x'.map pick)
    (hf : ∀ a a', pick a = pick a' → (f a).map change = (f' a').map change) :
    (x >>= f).map change = (x' >>= f').map change := by
  cases x with
  | error e =>
      cases x' with
      | error e' =>
          have he : e = e' := Except.error.inj hx
          rw [he]
          rfl
      | ok a' => cases hx
  | ok a =>
      cases x' with
      | error e' => cases hx
      | ok a' => exact hf a a' (Except.ok.inj hx)

/-- Sequences with the same first step agree up to a change of their results when their
second steps do. -/
theorem map_bind_right {δ : Type} {x : Except ε α} {f f' : α → Except ε β} {change : β → δ}
    (hf : ∀ a, (f a).map change = (f' a).map change) :
    (x >>= f).map change = (x >>= f').map change := by
  cases x with
  | error e => rfl
  | ok a => exact hf a

theorem bind_map_left {γ : Type} (x : Except ε α) (g : α → γ) (f : γ → Except ε β) :
    (x.map g >>= f) = x >>= fun a => f (g a) := by
  cases x <;> rfl

/-- What is made of a result at the end does not matter where the result does not. -/
theorem map_unit_bind_pure (x : Except ε α) (f : α → β) :
    (x >>= fun a => pure (f a)).map (fun _ => ()) = x.map fun _ => () := by
  cases x <;> rfl

theorem map_mapError (x : Except ε α) (f : ε → ε') (g : α → β) :
    (x.mapError f).map g = (x.map g).mapError f := by
  cases x <;> rfl

/-- A change of the errors of a sequence is one of the errors of its steps. -/
theorem mapError_bind (x : Except ε α) (f : α → Except ε β) (g : ε → ε') :
    (x >>= f).mapError g = x.mapError g >>= fun a => (f a).mapError g := by
  cases x <;> rfl

theorem forM_cons (check : α → Except ε Unit) (a : α) (rest : List α) :
    (a :: rest).forM check = check a >>= fun _ => rest.forM check :=
  rfl

/-- **A list of checks** succeeds when each of them does. -/
theorem forM_eq_ok {check : α → Except ε Unit} {items : List α} :
    items.forM check = .ok () ↔ ∀ a ∈ items, check a = .ok () := by
  induction items with
  | nil => simp [pure, Except.pure]
  | cons a rest ih =>
      rw [forM_cons, seq_eq_ok, ih, List.forall_mem_cons]

/-- Lists of checks agree when the checks of each item do. -/
theorem forM_congr {check check' : α → Except ε Unit} {items : List α}
    (h : ∀ a ∈ items, check a = check' a) : items.forM check = items.forM check' := by
  induction items with
  | nil => rfl
  | cons a rest ih =>
      rw [List.forall_mem_cons] at h
      rw [forM_cons, forM_cons, h.1, ih h.2]

theorem mapError_forM (check : α → Except ε Unit) (items : List α) (g : ε → ε') :
    (items.forM check).mapError g = items.forM fun a => (check a).mapError g := by
  induction items with
  | nil => rfl
  | cons a rest ih => rw [forM_cons, forM_cons, mapError_bind, ih]

/-- **A list of results** is made item by item. -/
theorem mapM_eq_ok {f : α → Except ε β} {items : List α} {results : List β} :
    items.mapM f = .ok results ↔ List.Forall₂ (fun a b => f a = .ok b) items results := by
  induction items generalizing results with
  | nil => cases results <;> simp [pure, Except.pure]
  | cons a rest ih =>
      rw [List.mapM_cons, bind_eq_ok]
      simp only [bind_eq_ok, ih]
      cases results with
      | nil => simp [pure, Except.pure]
      | cons b results => simp [pure, Except.pure]

/-- A list of results that can be told from their items. -/
theorem mapM_eq_ok_map {f : α → Except ε β} {get : α → β} {items : List α} {results : List β}
    (hget : ∀ a b, f a = .ok b → get a = b) :
    items.mapM f = .ok results ↔ (∀ a ∈ items, ∃ b, f a = .ok b) ∧ results = items.map get := by
  rw [mapM_eq_ok]
  constructor
  · intro h
    induction h with
    | nil => exact ⟨List.forall_mem_nil _, rfl⟩
    | cons ha _ ih =>
        refine ⟨List.forall_mem_cons.mpr ⟨⟨_, ha⟩, ih.1⟩, ?_⟩
        rw [List.map_cons, hget _ _ ha, ih.2]
  · rintro ⟨h, rfl⟩
    rw [List.forall₂_map_right_iff, List.forall₂_same]
    intro a ha
    obtain ⟨b, hb⟩ := h a ha
    rw [hb, hget a b hb]

theorem isOk_iff {x : Except ε α} : x.isOk ↔ ∃ a, x = .ok a := by
  cases x <;> simp [Except.isOk, Except.toBool]

theorem toOption_eq_some {x : Except ε α} {a : α} : x.toOption = some a ↔ x = .ok a := by
  cases x <;> simp [Except.toOption]

theorem isOk_mapError {x : Except ε α} {f : ε → ε'} : (x.mapError f).isOk = x.isOk := by
  cases x <;> rfl

/-- A list of results is made only when each of them is. -/
theorem isOk_of_mapM {f : α → Except ε β} {items : List α} (h : (items.mapM f).isOk) :
    ∀ a ∈ items, (f a).isOk := by
  induction items with
  | nil => exact List.forall_mem_nil _
  | cons a rest ih =>
      obtain ⟨results, h⟩ := isOk_iff.mp h
      rw [List.mapM_cons] at h
      obtain ⟨b, hb, h⟩ := bind_eq_ok.mp h
      obtain ⟨bs, hbs, -⟩ := bind_eq_ok.mp h
      exact List.forall_mem_cons.mpr ⟨isOk_iff.mpr ⟨b, hb⟩, ih (isOk_iff.mpr ⟨bs, hbs⟩)⟩

/-- A list of checks that fails does so with the error of one of them. -/
theorem exists_of_forM_eq_error {check : α → Except ε Unit} {items : List α} {e : ε}
    (h : items.forM check = .error e) : ∃ a ∈ items, check a = .error e := by
  induction items with
  | nil => cases h
  | cons a rest ih =>
      rw [forM_cons] at h
      rcases bind_eq_error.mp h with h | ⟨_, -, h⟩
      · exact ⟨a, List.mem_cons_self, h⟩
      · obtain ⟨b, hb, hcheck⟩ := ih h
        exact ⟨b, List.mem_cons_of_mem a hb, hcheck⟩

/-- **A list of results that is not made** fails with the error of one of them, before
which all are made. -/
theorem exists_append_of_mapM_eq_error {f : α → Except ε β} {items : List α} {e : ε}
    (h : items.mapM f = .error e) :
    ∃ before a after, items = before ++ a :: after ∧ (∀ b ∈ before, ∃ result, f b = .ok result) ∧
      f a = .error e := by
  induction items with
  | nil => cases h
  | cons a rest ih =>
      rw [List.mapM_cons] at h
      rcases bind_eq_error.mp h with h | ⟨result, ha, h⟩
      · exact ⟨[], a, rest, rfl, List.forall_mem_nil _, h⟩
      · rcases bind_eq_error.mp h with h | ⟨_, -, h⟩
        · obtain ⟨before, b, after, rfl, hbefore, hb⟩ := ih h
          exact ⟨a :: before, b, after, rfl, List.forall_mem_cons.mpr ⟨⟨result, ha⟩, hbefore⟩, hb⟩
        · cases h

/-- A list of results whose items do not matter is a list of checks. -/
theorem map_mapM_unit {f : α → Except ε β} (items : List α) :
    (items.mapM f).map (fun _ => ()) = items.forM fun a => (f a).map fun _ => () := by
  induction items with
  | nil => rfl
  | cons a rest ih =>
      rw [forM_cons, ← ih, List.mapM_cons]
      cases f a <;> cases rest.mapM f <;> rfl

/-- Traversals whose steps agree up to a change of their results agree up to it. -/
theorem map_mapM_congr {γ : Type} {f g : α → Except ε β} {change : β → γ} {items : List α}
    (h : ∀ a ∈ items, (f a).map change = (g a).map change) :
    (items.mapM f).map (·.map change) = (items.mapM g).map (·.map change) := by
  induction items with
  | nil => rfl
  | cons a rest ih =>
      rw [List.forall_mem_cons] at h
      have hcons (k : α → Except ε β) : ((a :: rest).mapM k).map (·.map change) =
          (k a).map change >>= fun c => ((rest.mapM k).map (·.map change)).map (c :: ·) := by
        rw [List.mapM_cons]
        cases k a <;> cases rest.mapM k <;> rfl
      rw [hcons f, hcons g, h.1, ih h.2]

end FigureScript.Outcome
