import Mathlib
import Reconciler.Client.Batch
/-!
The same work for several items, one after another.  It is done for all of them, or it stops at the
first item for which it fails; a batch tells which of the two it was, and names that item.
-/
namespace Reconciler

variable {σ ι α : Type} {work : ι → Action σ α} {before middle after : σ} {items : List ι}
  {answers : List α}

/-- The work succeeds for every item, each time in the state that the item before it left. -/
inductive Runs (work : ι → Action σ α) : σ → List ι → List α → σ → Prop
  | nil {state : σ} : Runs work state [] [] state
  | cons {before middle after : σ} {item : ι} {items : List ι} {answer : α} {answers : List α}
      (head : (work item).on before = (.ok answer, middle))
      (tail : Runs work middle items answers after) :
      Runs work before (item :: items) (answer :: answers) after

/-- The work succeeds for the items at the front, and fails for the one that comes next. -/
structure StopsAt (work : ι → Action σ α) (before : σ) (items front : List ι) (answers : List α)
    (middle : σ) (item : ι) (error : ClientError) (after : σ) : Prop where
  position : ∃ back, items = front ++ item :: back
  runs : Runs work before front answers middle
  fails : (work item).on middle = (.error error, after)

variable {front : List ι} {item : ι} {error : ClientError}

theorem StopsAt.cons {first : ι} {answer : α} {start : σ}
    (head : (work first).on start = (.ok answer, before))
    (tail : StopsAt work before items front answers middle item error after) :
    StopsAt work start (first :: items) (first :: front) (answer :: answers) middle item error
      after := by
  obtain ⟨back, hitems⟩ := tail.position
  exact ⟨⟨back, by rw [hitems, List.cons_append]⟩, .cons head tail.runs, tail.fails⟩

/-- There is no third way for a list of items to end. -/
theorem runs_or_stopsAt (work : ι → Action σ α) (before : σ) (items : List ι) :
    (∃ answers after, Runs work before items answers after) ∨
      ∃ front answers middle item error after,
        StopsAt work before items front answers middle item error after := by
  induction items generalizing before with
  | nil => exact .inl ⟨[], before, .nil⟩
  | cons first rest ih =>
      rcases hfirst : (work first).on before with ⟨error | answer, next⟩
      · exact .inr ⟨[], [], before, first, error, next, ⟨⟨rest, rfl⟩, .nil, hfirst⟩⟩
      · rcases ih next with
          ⟨answers, after, hruns⟩ | ⟨front, answers, middle, item, error, after, hstops⟩
        · exact .inl ⟨answer :: answers, after, .cons hfirst hruns⟩
        · exact .inr ⟨first :: front, answer :: answers, middle, item, error, after,
            hstops.cons hfirst⟩

variable (what : String) (key : ι → ObjectKey)

/-- A batch whose work succeeds for every item answers all that was answered. -/
theorem Runs.on_mapM (h : Runs work before items answers after) :
    (items.mapM fun item => (work item).forObject what (key item)).on before =
      (.ok answers, after) := by
  induction h with
  | nil => rfl
  | cons head _ ih =>
      rw [List.mapM_cons, Attempt.on_bind, Action.on_forObject, head]
      simp only [Except.mapError]
      rw [Attempt.on_bind, ih]
      rfl

/-- A batch that stops fails with the error of the work, which it gives the name of the item. -/
theorem StopsAt.on_mapM (h : StopsAt work before items front answers middle item error after) :
    (items.mapM fun item => (work item).forObject what (key item)).on before =
      (.error (.object what (key item) error), after) := by
  obtain ⟨⟨back, rfl⟩, hruns, hfails⟩ := h
  induction hruns with
  | nil =>
      rw [List.nil_append, List.mapM_cons, Attempt.on_bind, Action.on_forObject, hfails]
      rfl
  | cons head _ ih =>
      rw [List.cons_append, List.mapM_cons, Attempt.on_bind, Action.on_forObject, head]
      simp only [Except.mapError]
      rw [Attempt.on_bind, ih hfails]

/-- Work whose answers do not matter ends as work with answers does. -/
theorem Attempt.on_forM {ε : Type} (act : ι → Attempt ε σ Unit) (items : List ι) (state : σ) :
    (items.forM act).on state =
      (((items.mapM act).on state).1.map fun _ => (), ((items.mapM act).on state).2) := by
  induction items generalizing state with
  | nil => rfl
  | cons item rest ih =>
      rw [List.forM_eq_forM, List.forM_cons, Attempt.on_bind, List.mapM_cons, Attempt.on_bind]
      rcases (act item).on state with ⟨error | _, next⟩
      · rfl
      · have hrest := ih next
        rw [List.forM_eq_forM] at hrest
        simp only [hrest]
        rw [Attempt.on_bind]
        rcases (rest.mapM act).on next with ⟨error | _, last⟩ <;> rfl

variable {act : ι → Action σ Unit} {units : List Unit}

theorem Runs.on_forM (h : Runs act before items units after) :
    (items.forM fun item => (act item).forObject what (key item)).on before = (.ok (), after) := by
  rw [Attempt.on_forM, h.on_mapM]
  rfl

theorem StopsAt.on_forM (h : StopsAt act before items front units middle item error after) :
    (items.forM fun item => (act item).forObject what (key item)).on before =
      (.error (.object what (key item) error), after) := by
  rw [Attempt.on_forM, h.on_mapM]
  rfl

end Reconciler
