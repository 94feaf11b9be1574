import Reconciler.FieldIndex
/-!
What one call does to shared indexes: whether it succeeds, what the indexer behind them is asked to
build, and what is known of the index afterwards.
-/
namespace Reconciler

namespace IndexTarget

/-- What tells the index of a field from all others: the type of its objects, or how else they are
seen, their kind, and the field.  There is none if the kind of the type is not known. -/
def key? (scheme : Scheme) (field : String) : IndexTarget → Option IndexKey
  | .typed type => (scheme.registered type).map fun gvk => ⟨.typed type.path, gvk, field⟩
  | .dynamic gvk => some ⟨.dynamic, gvk, field⟩
  | .metadata gvk => some ⟨.metadata, gvk, field⟩

/-- The index under a key, with a function that extracts its values. -/
def under (target : IndexTarget) (key : IndexKey)
    (extract : target.representation.Item → List String) : Index :=
  ⟨⟨target.representation, key.gvk, key.field⟩, extract⟩

variable {scheme : Scheme} {target : IndexTarget} {field : String} {key : IndexKey}
  {extract : target.representation.Item → List String}

theorem key_under (hkey : target.key? scheme field = some key) :
    (target.under key extract).id.key = key := by
  cases target with
  | typed type =>
      obtain ⟨gvk, -, rfl⟩ := Option.map_eq_some_iff.1 hkey
      rfl
  | dynamic gvk | metadata gvk =>
      cases hkey
      rfl

theorem id_of_key? (hkey : target.key? scheme field = some key) :
    target.id scheme field = .ok (target.under key extract).id := by
  cases target with
  | typed type =>
      obtain ⟨known, hknown, rfl⟩ := Option.map_eq_some_iff.1 hkey
      rw [id, IndexId.typed, Scheme.gvk, hknown]
      rfl
  | dynamic gvk | metadata gvk =>
      cases hkey
      rfl

theorem index_of_key? (hkey : target.key? scheme field = some key) :
    target.index scheme field extract = .ok (target.under key extract) := by
  cases target with
  | typed type =>
      obtain ⟨known, hknown, rfl⟩ := Option.map_eq_some_iff.1 hkey
      rw [index, gvk, Scheme.gvk, hknown]
      rfl
  | dynamic gvk | metadata gvk =>
      cases hkey
      rfl

theorem exists_id (hkey : target.key? scheme field = some key) :
    ∃ id, target.id scheme field = .ok id ∧ id.key = key := by
  have extract : target.representation.Item → List String := fun _ => []
  exact ⟨_, id_of_key? hkey, @key_under scheme target field key extract hkey⟩

/-- Without a key it is not known which index is meant. -/
theorem exists_error (hkey : target.key? scheme field = none) :
    ∃ error, target.id scheme field = .error error ∧
      ∀ extract, target.index scheme field extract = .error error := by
  cases target with
  | typed type =>
      have hgvk := Option.map_eq_none_iff.1 hkey
      refine ⟨.scheme (.notRegistered type.path), ?_, fun extract => ?_⟩
      · rw [id, IndexId.typed, Scheme.gvk, hgvk]
        rfl
      · rw [index, gvk, Scheme.gvk, hgvk]
        rfl
  | dynamic gvk | metadata gvk => cases hkey

end IndexTarget

/-- What tells the index that a call is about from all others. -/
def IndexCall.key? (scheme : Scheme) : IndexCall → Option IndexKey
  | .register target field _ | .index target field => target.key? scheme field

namespace SharedIndexes

variable {σ : Type} {scheme : Scheme} {build : Index → StateM σ (Except String Unit)}
  {shared : SharedIndexes} {id : IndexId} {index : Index} {key : IndexKey} {built : Bool}

/-- What is known of an index: how it was registered, and whether it is built. -/
def find? (shared : SharedIndexes) (key : IndexKey) : Option (Index × Bool) :=
  (shared.entries key).map fun entry => (entry.index, entry.built)

theorem find?_put (shared : SharedIndexes) (index : Index) (built : Bool) (key : IndexKey) :
    (shared.put index built).find? key =
      if index.id.key = key then some (index, built) else shared.find? key := by
  rw [find?, put]
  by_cases hsame : index.id.key = key <;> simp [hsame, find?]

theorem key_of_find? (hfind : shared.find? key = some (index, built)) : index.id.key = key := by
  obtain ⟨entry, -, hentry⟩ := Option.map_eq_some_iff.1 hfind
  rw [← (Prod.mk.inj hentry).1, entry.same]

theorem register_of_find?_none (hfind : shared.find? index.id.key = none) :
    shared.register index = .ok (shared.put index false) := by
  rw [register, Option.map_eq_none_iff.1 hfind]
  rfl

theorem register_of_find?_some {found : Index × Bool}
    (hfind : shared.find? index.id.key = some found) :
    shared.register index = .error (.alreadyRegistered index.id.key) := by
  obtain ⟨entry, hentry, -⟩ := Option.map_eq_some_iff.1 hfind
  rw [register, hentry]
  rfl

theorem ensure_of_find?_none (hfind : shared.find? id.key = none) :
    shared.ensure build id = pure (.error (.unknownField id.key), shared) := by
  rw [ensure, Option.map_eq_none_iff.1 hfind]

theorem ensure_of_built (hfind : shared.find? id.key = some (index, true)) :
    shared.ensure build id = pure (.ok (), shared) := by
  obtain ⟨entry, hentry, hfound⟩ := Option.map_eq_some_iff.1 hfind
  obtain ⟨-, hbuilt⟩ := Prod.mk.inj hfound
  simp only [ensure, hentry, hbuilt, if_true]

/-- An index that is not built yet is built as it was registered. -/
theorem ensure_of_not_built (hfind : shared.find? id.key = some (index, false)) :
    shared.ensure build id = do
      match ← build index with
      | .ok () => return (.ok (), shared.put index true)
      | .error source => return (.error (.indexer id.key source), shared) := by
  obtain ⟨entry, hentry, hfound⟩ := Option.map_eq_some_iff.1 hfind
  obtain ⟨rfl, hbuilt⟩ := Prod.mk.inj hfound
  rw [ensure, hentry]
  exact if_neg (by rw [hbuilt]; decide)

/-- What happened during a call. -/
structure Event where
  call : IndexCall
  outcome : Except IndexError Unit
  /-- What the indexer was asked to build, and what it answered. -/
  built : List (Index × Except String Unit)

/-- Shared indexes with the state of the indexer behind them. -/
structure Setup (σ : Type) where
  shared : SharedIndexes
  indexer : σ

/-- An indexer that records what it is asked to build and what it answers. -/
def recording (build : Index → StateM σ (Except String Unit)) (index : Index) :
    StateM (σ × List (Index × Except String Unit)) (Except String Unit) := do
  let (indexer, built) ← get
  let (answer, indexer) := (build index).run indexer
  set (indexer, built ++ [(index, answer)])
  return answer

theorem run_recording {index : Index} {before after : σ} {answer : Except String Unit}
    (hbuild : (build index).run before = (answer, after))
    (built : List (Index × Except String Unit)) :
    (recording build index).run (before, built) =
      (answer, after, built ++ [(index, answer)]) := by
  simp only [recording, StateT.run_bind, StateT.run_get, hbuild, StateT.run_set, StateT.run_pure,
    pure_bind]
  rfl

/-- Perform a call and tell what happened. -/
def record (scheme : Scheme) (build : Index → StateM σ (Except String Unit)) (call : IndexCall)
    (setup : Setup σ) : Event × Setup σ :=
  let ((outcome, shared), indexer, built) :=
    (setup.shared.perform scheme (recording build) call).run (setup.indexer, [])
  (⟨call, outcome, built⟩, ⟨shared, indexer⟩)

/-- Perform calls one after the other. -/
def run (scheme : Scheme) (build : Index → StateM σ (Except String Unit)) :
    List IndexCall → Setup σ → List Event × Setup σ
  | [], setup => ([], setup)
  | call :: rest, setup =>
    let (event, next) := record scheme build call setup
    let (events, final) := run scheme build rest next
    (event :: events, final)

/-- All that a call can do. -/
inductive Step (scheme : Scheme) (build : Index → StateM σ (Except String Unit))
    (setup : Setup σ) : IndexCall → Event → Setup σ → Prop where
  | unresolved {call : IndexCall} {error : IndexError} (hkey : call.key? scheme = none)
      (hid : call.id scheme = .error error) :
      Step scheme build setup call ⟨call, .error error, []⟩ setup
  | taken {target : IndexTarget} {field : String}
      {extract : target.representation.Item → List String} {key : IndexKey}
      {found : Index × Bool} (hkey : target.key? scheme field = some key)
      (hfind : setup.shared.find? key = some found) :
      Step scheme build setup (.register target field extract)
        ⟨.register target field extract, .error (.alreadyRegistered key), []⟩ setup
  | registered {target : IndexTarget} {field : String}
      {extract : target.representation.Item → List String} {key : IndexKey}
      (hkey : target.key? scheme field = some key) (hfind : setup.shared.find? key = none) :
      Step scheme build setup (.register target field extract)
        ⟨.register target field extract, .ok (), []⟩
        ⟨setup.shared.put (target.under key extract) false, setup.indexer⟩
  | unknown {target : IndexTarget} {field : String} {key : IndexKey}
      (hkey : target.key? scheme field = some key) (hfind : setup.shared.find? key = none) :
      Step scheme build setup (.index target field)
        ⟨.index target field, .error (.unknownField key), []⟩ setup
  | built {target : IndexTarget} {field : String} {key : IndexKey} {index : Index}
      (hkey : target.key? scheme field = some key)
      (hfind : setup.shared.find? key = some (index, true)) :
      Step scheme build setup (.index target field) ⟨.index target field, .ok (), []⟩ setup
  | builds {target : IndexTarget} {field : String} {key : IndexKey} {index : Index} {indexer : σ}
      (hkey : target.key? scheme field = some key)
      (hfind : setup.shared.find? key = some (index, false))
      (hbuild : (build index).run setup.indexer = (.ok (), indexer)) :
      Step scheme build setup (.index target field)
        ⟨.index target field, .ok (), [(index, .ok ())]⟩ ⟨setup.shared.put index true, indexer⟩
  | fails {target : IndexTarget} {field : String} {key : IndexKey} {index : Index} {indexer : σ}
      {source : String} (hkey : target.key? scheme field = some key)
      (hfind : setup.shared.find? key = some (index, false))
      (hbuild : (build index).run setup.indexer = (.error source, indexer)) :
      Step scheme build setup (.index target field)
        ⟨.index target field, .error (.indexer key source), [(index, .error source)]⟩
        ⟨setup.shared, indexer⟩

/-- A call that registers an index does so under its key. -/
theorem perform_register {target : IndexTarget} {field : String}
    {extract : target.representation.Item → List String}
    (hkey : target.key? scheme field = some key) :
    shared.perform scheme build (.register target field extract) =
      match shared.register (target.under key extract) with
      | .ok changed => return (.ok (), changed)
      | .error error => return (.error error, shared) := by
  rw [perform, IndexTarget.index_of_key? hkey]
  rfl

theorem perform_index {target : IndexTarget} {field : String}
    (hid : target.id scheme field = .ok id) :
    shared.perform scheme build (.index target field) = shared.ensure build id := by
  rw [perform, hid]

theorem perform_unresolved {call : IndexCall} {error : IndexError} (hkey : call.key? scheme = none)
    (hid : call.id scheme = .error error) :
    shared.perform scheme build call = pure (.error error, shared) := by
  cases call with
  | register target field extract =>
      obtain ⟨unknown, hunknown, hindex⟩ := IndexTarget.exists_error hkey
      obtain rfl : unknown = error := Except.error.inj (hunknown.symm.trans hid)
      rw [perform, hindex]
      rfl
  | index target field =>
      have hid : target.id scheme field = .error error := hid
      rw [perform, hid]

/-- Each step is what some call does. -/
theorem Step.record_eq {setup after : Setup σ} {call : IndexCall} {event : Event}
    (h : Step scheme build setup call event after) :
    record scheme build call setup = (event, after) := by
  cases h with
  | unresolved hkey hid => rw [record, perform_unresolved hkey hid]; rfl
  | taken hkey hfind =>
      rw [← IndexTarget.key_under hkey] at hfind
      rw [record, perform_register hkey, register_of_find?_some hfind, IndexTarget.key_under hkey]
      rfl
  | registered hkey hfind =>
      rw [← IndexTarget.key_under hkey] at hfind
      rw [record, perform_register hkey, register_of_find?_none hfind]
      rfl
  | unknown hkey hfind =>
      obtain ⟨id, hid, rfl⟩ := IndexTarget.exists_id hkey
      rw [record, perform_index hid, ensure_of_find?_none hfind]
      rfl
  | built hkey hfind =>
      obtain ⟨id, hid, rfl⟩ := IndexTarget.exists_id hkey
      rw [record, perform_index hid, ensure_of_built hfind]
      rfl
  | builds hkey hfind hbuild | fails hkey hfind hbuild =>
      obtain ⟨id, hid, rfl⟩ := IndexTarget.exists_id hkey
      simp only [record, perform_index hid, ensure_of_not_built hfind, StateT.run_bind,
        run_recording hbuild]
      rfl

/-- Each call does something. -/
theorem exists_step (scheme : Scheme) (build : Index → StateM σ (Except String Unit))
    (call : IndexCall) (setup : Setup σ) :
    ∃ event after, Step scheme build setup call event after := by
  cases hkey : call.key? scheme with
  | none =>
      obtain ⟨error, hid⟩ : ∃ error, call.id scheme = .error error := by
        cases call <;> exact (IndexTarget.exists_error hkey).imp fun _ h => h.1
      exact ⟨_, _, .unresolved hkey hid⟩
  | some key =>
      cases call with
      | register target field extract =>
          cases hfind : setup.shared.find? key with
          | none => exact ⟨_, _, .registered hkey hfind⟩
          | some found => exact ⟨_, _, .taken hkey hfind⟩
      | index target field =>
          cases hfind : setup.shared.find? key with
          | none => exact ⟨_, _, .unknown hkey hfind⟩
          | some found =>
              obtain ⟨index, built⟩ := found
              cases built with
              | true => exact ⟨_, _, .built hkey hfind⟩
              | false =>
                  cases hbuild : (build index).run setup.indexer with
                  | mk answer indexer =>
                      cases answer with
                      | ok done => exact ⟨_, _, .builds hkey hfind hbuild⟩
                      | error source => exact ⟨_, _, .fails hkey hfind hbuild⟩

/-- What a call does is a step. -/
theorem step_record (scheme : Scheme) (build : Index → StateM σ (Except String Unit))
    (call : IndexCall) (setup : Setup σ) :
    Step scheme build setup call (record scheme build call setup).1
      (record scheme build call setup).2 := by
  obtain ⟨event, after, hstep⟩ := exists_step scheme build call setup
  rw [hstep.record_eq]
  exact hstep

end SharedIndexes

end Reconciler
