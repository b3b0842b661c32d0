import FigureScript.Session.Basic

/-!
# Outcomes of actions

An action that succeeds is taken apart into its steps, each of which succeeded in the
session that the ones before it left.  Where an action can fail in its middle, what holds
after it is said for both outcomes.

## Main Definitions

* `Action.Yields` — what holds after an action that succeeds, and after one that fails

## Main Results

* `Action.bind_eq_ok` — two actions in a row
* `Action.onFiles_eq_ok`, `Action.write_eq_ok` — operations on the files
* `Action.logAll_eq_ok` — reports
* `Action.Yields.foldlM` — a loop that stops at its first failure
-/

namespace FigureScript.Action

variable {α β : Type} {s s' : Session}

theorem perform_bind_ok {action : Action α} {a : α} {s₁ : Session}
    (h : action.perform s = (.ok a, s₁)) (next : α → Action β) :
    (action >>= next).perform s = (next a).perform s₁ := by
  change (ExceptT.bindCont next (action.perform s).1) (action.perform s).2 = _
  rw [h]
  rfl

theorem perform_bind_error {action : Action α} {e : Error} {s₁ : Session}
    (h : action.perform s = (.error e, s₁)) (next : α → Action β) :
    (action >>= next).perform s = (.error e, s₁) := by
  change (ExceptT.bindCont next (action.perform s).1) (action.perform s).2 = _
  rw [h]
  rfl

/-- **Two actions in a row succeed** if the first one does, and then the second one in the
session that it left. -/
theorem bind_eq_ok {action : Action α} {next : α → Action β} {b : β} :
    (action >>= next).perform s = (.ok b, s') ↔
      ∃ a s₁, action.perform s = (.ok a, s₁) ∧ (next a).perform s₁ = (.ok b, s') := by
  rcases haction : action.perform s with ⟨_ | a, s₁⟩
  · rw [perform_bind_error haction]
    constructor
    · intro h
      cases h
    · rintro ⟨_, _, h, -⟩
      cases h
  · rw [perform_bind_ok haction]
    constructor
    · intro h
      exact ⟨a, s₁, rfl, h⟩
    · rintro ⟨_, _, h, hnext⟩
      cases h
      exact hnext

theorem perform_pure (a : α) : (pure a : Action α).perform s = (.ok a, s) :=
  rfl

theorem perform_throw (e : Error) : (throw e : Action α).perform s = (.error e, s) :=
  rfl

theorem perform_logAll (log : Log) (s : Session) :
    ∃ s₁, s₁.store = s.store ∧ (logAll log).perform s = (.ok (), s₁) :=
  ⟨{ s with reports := s.reports ++ log.map .entry }, rfl, rfl⟩

theorem perform_log (level : LogLevel) (target message : String) (s : Session) :
    ∃ s₁, s₁.store = s.store ∧ (log level target message).perform s = (.ok (), s₁) :=
  perform_logAll [⟨level, target, message⟩] s

theorem perform_attempt (action : Action α) :
    (attempt action).perform s = (.ok (action.perform s).1, (action.perform s).2) :=
  rfl

/-- Reports leave the files alone. -/
theorem logAll_eq_ok {log : Log} (h : (logAll log).perform s = (.ok (), s')) :
    s'.store = s.store := by
  cases h
  rfl

/-- **An operation on the files** succeeds with its own result, and leaves the session
alone. -/
theorem onFiles_eq_ok {path : String} {operation : Store → Except OsError α} {a : α} :
    (onFiles path operation).perform s = (.ok a, s') ↔ operation s.store = .ok a ∧ s' = s := by
  have hget : (get : Action Session).perform s = (.ok s, s) := rfl
  rw [onFiles, perform_bind_ok hget]
  cases operation s.store with
  | error e =>
      constructor
      · intro h
        cases h
      · rintro ⟨h, -⟩
        cases h
  | ok result =>
      constructor
      · intro h
        cases h
        exact ⟨rfl, rfl⟩
      · rintro ⟨h, rfl⟩
        cases h
        rfl

/-- An operation on the files has the outcome that it has on them. -/
theorem perform_onFiles_eq (path : String) (operation : Store → Except OsError α) (s : Session) :
    (onFiles path operation).perform s = ((operation s.store).mapError (.io path), s) := by
  have hget : (get : Action Session).perform s = (.ok s, s) := rfl
  rw [onFiles, perform_bind_ok hget]
  cases operation s.store <;> rfl

/-- An operation on the files leaves the session alone, also where it fails. -/
theorem perform_onFiles (path : String) (operation : Store → Except OsError α) :
    ((onFiles path operation).perform s).2 = s := by
  rw [perform_onFiles_eq]

/-- **What is written** is in the files afterwards. -/
theorem write_eq_ok {path : String} {content : FileContent}
    (h : (write path content).perform s = (.ok (), s')) :
    s.store.write path content = .ok s'.store := by
  obtain ⟨store, s₁, hwrite, hmodify⟩ := bind_eq_ok.mp h
  obtain ⟨hwrite, rfl⟩ := onFiles_eq_ok.mp hwrite
  obtain ⟨-, rfl⟩ := Prod.mk.inj hmodify
  exact hwrite

/-! ### Both outcomes -/

/-- **What holds after an action**, whether it succeeds or fails. -/
structure Yields (action : Action α) (s : Session) (good : α → Session → Prop)
    (bad : Error → Session → Prop) : Prop where
  ok : ∀ a s', action.perform s = (.ok a, s') → good a s'
  error : ∀ e s', action.perform s = (.error e, s') → bad e s'

namespace Yields

variable {action : Action α} {bad : Error → Session → Prop}

/-- Two actions in a row. -/
theorem bind {middle : α → Session → Prop} {good : β → Session → Prop} {next : α → Action β}
    (h : Yields action s middle bad) (hnext : ∀ a s₁, middle a s₁ → Yields (next a) s₁ good bad) :
    Yields (action >>= next) s good bad := by
  rcases haction : action.perform s with ⟨e | a, s₁⟩
  · constructor
    · intro b s' hperform
      rw [perform_bind_error haction] at hperform
      cases hperform
    · intro e' s' hperform
      rw [perform_bind_error haction] at hperform
      cases hperform
      exact h.error e s₁ haction
  · obtain ⟨hok, herror⟩ := hnext a s₁ (h.ok a s₁ haction)
    rw [← perform_bind_ok haction next] at hok herror
    exact ⟨hok, herror⟩

/-- An action whose run is known to succeed. -/
theorem of_perform_ok {a : α} {good : α → Session → Prop}
    (h : action.perform s = (.ok a, s')) (hgood : good a s') : Yields action s good bad := by
  constructor
  · intro a' s'' hperform
    rw [h] at hperform
    cases hperform
    exact hgood
  · intro e s'' hperform
    rw [h] at hperform
    cases hperform

/-- **A loop that stops at its first failure** keeps what each of its rounds keeps. -/
theorem foldlM {step : β → α → Action β} {good : List α → β → Session → Prop} {items : List α}
    (hstep : ∀ done item b s, item ∈ items → good done b s →
      Yields (step b item) s (good (done ++ [item])) bad)
    {done : List α} {b : β} (h : good done b s) :
    Yields (items.foldlM step b) s (good (done ++ items)) bad := by
  induction items generalizing done b s with
  | nil =>
      rw [List.append_nil]
      exact of_perform_ok (perform_pure b) h
  | cons item rest ih =>
      rw [List.foldlM_cons]
      refine bind (hstep done item b s List.mem_cons_self h) fun b' s₁ hmiddle => ?_
      rw [List.append_cons]
      exact ih (fun done other b s hother => hstep done other b s (.tail _ hother)) hmiddle

end Yields

end FigureScript.Action
