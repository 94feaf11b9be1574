/-!
Computations that work on a state and may fail.  What a computation changed before it failed stays
changed.
-/
namespace Reconciler

/-- A result that depends on another one is there if both are. -/
theorem Except.bind_eq_ok_iff {ε α β : Type} {first : Except ε α} {next : α → Except ε β}
    {value : β} :
    first >>= next = .ok value ↔ ∃ found, first = .ok found ∧ next found = .ok value := by
  cases first with
  | error error => simp [bind, Except.bind]
  | ok found => simp [bind, Except.bind]

theorem Except.map_eq_ok_iff {ε α β : Type} {change : α → β} {result : Except ε α} {value : β} :
    result.map change = .ok value ↔ ∃ found, result = .ok found ∧ change found = value := by
  cases result <;> simp [Except.map]

theorem Except.map_eq_error_iff {ε α β : Type} {change : α → β} {result : Except ε α} {error : ε} :
    result.map change = .error error ↔ result = .error error := by
  cases result <;> simp [Except.map]

theorem Except.toOption_eq_some_iff {ε α : Type} {result : Except ε α} {value : α} :
    result.toOption = some value ↔ result = .ok value := by
  cases result <;> simp [Except.toOption]

/-- Another error changes no success. -/
theorem Except.mapError_eq_ok_iff {ε ε' α : Type} {change : ε → ε'} {result : Except ε α}
    {value : α} : result.mapError change = .ok value ↔ result = .ok value := by
  constructor
  · intro h
    cases result with
    | error error => cases h
    | ok found => exact congrArg Except.ok (Except.ok.inj h)
  · rintro rfl
    rfl

theorem Except.mapM_cons_eq_ok_iff {ε α β : Type} {change : α → Except ε β} {first : α}
    {rest : List α} {values : List β} :
    (first :: rest).mapM change = .ok values ↔
      ∃ value others, change first = .ok value ∧ rest.mapM change = .ok others ∧
        values = value :: others := by
  rw [List.mapM_cons, Except.bind_eq_ok_iff]
  constructor
  · rintro ⟨value, hfirst, hrest⟩
    obtain ⟨others, hothers, hvalues⟩ := Except.bind_eq_ok_iff.1 hrest
    exact ⟨value, others, hfirst, hothers, (Except.ok.inj hvalues).symm⟩
  · rintro ⟨value, others, hfirst, hothers, rfl⟩
    exact ⟨value, hfirst, Except.bind_eq_ok_iff.2 ⟨others, hothers, rfl⟩⟩

/-- What is made of the items of a list, one after another, is what is made of each of them. -/
theorem Except.mem_iff_of_mapM {ε α β : Type} {change : α → Except ε β} {items : List α}
    {values : List β} (hvalues : items.mapM change = .ok values) {value : β} :
    value ∈ values ↔ ∃ item ∈ items, change item = .ok value := by
  induction items generalizing values with
  | nil =>
    obtain rfl : [] = values := Except.ok.inj hvalues
    simp
  | cons first rest ih =>
    obtain ⟨found, others, hfirst, hrest, rfl⟩ := Except.mapM_cons_eq_ok_iff.1 hvalues
    have hhead : value = found ↔ change first = .ok value := by
      rw [hfirst, Except.ok.injEq, eq_comm]
    rw [List.mem_cons, hhead, ih hrest]
    simp only [List.mem_cons, exists_eq_or_imp]

/-- Something is made of all items of a list if it is of each. -/
theorem Except.exists_mapM_iff {ε α β : Type} {change : α → Except ε β} {items : List α} :
    (∃ values, items.mapM change = .ok values) ↔
      ∀ item ∈ items, ∃ value, change item = .ok value := by
  constructor
  · rintro ⟨values, hvalues⟩
    induction items generalizing values with
    | nil => simp
    | cons first rest ih =>
      obtain ⟨found, others, hfirst, hrest, rfl⟩ := Except.mapM_cons_eq_ok_iff.1 hvalues
      exact List.forall_mem_cons.2 ⟨⟨found, hfirst⟩, ih others hrest⟩
  · intro hall
    induction items with
    | nil => exact ⟨[], rfl⟩
    | cons first rest ih =>
      obtain ⟨⟨found, hfirst⟩, hrest⟩ := List.forall_mem_cons.1 hall
      obtain ⟨others, hothers⟩ := ih hrest
      exact ⟨_, Except.mapM_cons_eq_ok_iff.2 ⟨found, others, hfirst, hothers, rfl⟩⟩

/-- What is made of what is made of items is made of the items at once. -/
theorem Except.map_mapM {ε α β γ : Type} (change : α → Except ε β) (next : β → γ)
    (items : List α) :
    (items.mapM change).map (List.map next) = items.mapM fun item => (change item).map next := by
  induction items with
  | nil => rfl
  | cons first rest ih =>
    rw [List.mapM_cons, List.mapM_cons, ← ih]
    cases change first with
    | error error => rfl
    | ok found => cases rest.mapM change <;> rfl

/-- Reading on from a known value. -/
theorem Option.bind_eq_of_eq_some {α β : Type} {first : Option α} {value : α}
    (next : α → Option β) {result : Option β} (hfirst : first = some value)
    (hnext : next value = result) : first >>= next = result := by
  rw [hfirst]
  exact hnext

/-- A computation that works on a state and may fail. -/
abbrev Attempt (ε σ α : Type) := ExceptT ε (StateM σ) α

namespace Attempt

variable {ε σ α β : Type}

/-- The result of a computation and the state afterwards. -/
def on (attempt : Attempt ε σ α) (state : σ) : Except ε α × σ :=
  (ExceptT.run attempt).run state

/-- The computation that has a result and changes nothing. -/
def ofExcept (result : Except ε α) : Attempt ε σ α :=
  ExceptT.mk (pure result)

@[simp] theorem on_ofExcept (result : Except ε α) (state : σ) :
    (ofExcept result).on state = (result, state) := rfl

@[simp] theorem on_pure (value : α) (state : σ) :
    (pure value : Attempt ε σ α).on state = (.ok value, state) := rfl

@[simp] theorem on_throw (error : ε) (state : σ) :
    (throw error : Attempt ε σ α).on state = (.error error, state) := rfl

@[simp] theorem on_get (state : σ) : (get : Attempt ε σ σ).on state = (.ok state, state) := rfl

@[simp] theorem on_set (new state : σ) :
    (set new : Attempt ε σ PUnit).on state = (.ok ⟨⟩, new) := rfl

@[simp] theorem on_modify (change : σ → σ) (state : σ) :
    (modify change : Attempt ε σ PUnit).on state = (.ok ⟨⟩, change state) := rfl

/-- The first failure ends a computation. -/
theorem on_bind (attempt : Attempt ε σ α) (next : α → Attempt ε σ β) (state : σ) :
    (attempt >>= next).on state =
      match attempt.on state with
      | (.ok value, changed) => (next value).on changed
      | (.error error, changed) => (.error error, changed) := by
  change (ExceptT.run (attempt >>= next)).run state = _
  rw [ExceptT.run_bind]
  cases hrun : attempt.on state with
  | mk result changed =>
      have hrun : (ExceptT.run attempt).run state = (result, changed) := hrun
      cases result <;> simp [StateT.run_bind, hrun, on] <;> rfl

theorem on_map (change : α → β) (attempt : Attempt ε σ α) (state : σ) :
    (change <$> attempt).on state =
      ((attempt.on state).1.map change, (attempt.on state).2) := by
  rw [← bind_pure_comp, on_bind]
  cases attempt.on state with
  | mk result changed => cases result <;> rfl

/-- A sequence succeeds if both of its parts do, the second where the first ended. -/
theorem on_bind_eq_ok {attempt : Attempt ε σ α} {next : α → Attempt ε σ β} {state after : σ}
    {answer : β} :
    (attempt >>= next).on state = (.ok answer, after) ↔
      ∃ value changed, attempt.on state = (.ok value, changed) ∧
        (next value).on changed = (.ok answer, after) := by
  rw [on_bind]
  cases attempt.on state with
  | mk result changed => cases result <;> simp [and_assoc]

theorem on_map_eq_ok {change : α → β} {attempt : Attempt ε σ α} {state after : σ} {answer : β} :
    (change <$> attempt).on state = (.ok answer, after) ↔
      ∃ value, attempt.on state = (.ok value, after) ∧ change value = answer := by
  rw [on_map]
  cases attempt.on state with
  | mk result changed => cases result <;> simp [Except.map, and_comm, and_assoc]

theorem on_map_eq_error {change : α → β} {attempt : Attempt ε σ α} {state after : σ} {error : ε} :
    (change <$> attempt).on state = (.error error, after) ↔
      attempt.on state = (.error error, after) := by
  rw [on_map]
  cases attempt.on state with
  | mk result changed => cases result <;> simp [Except.map]

end Attempt

end Reconciler
