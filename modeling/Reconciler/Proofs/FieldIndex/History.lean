import Reconciler.Proofs.FieldIndex.Step
/-!
What shared indexes do over a history of calls.  The indexer behind them may succeed and fail as it
likes.  All that matters to a call is who registered its index first, and whether the index was
built since; so no call on another index matters to it.
-/
namespace Reconciler.SharedIndexes

variable {σ : Type} {scheme : Scheme} {build : Index → StateM σ (Except String Unit)}
  {history : List Event} {event : Event} {call : IndexCall} {before after : Setup σ}
  {key : IndexKey}

namespace Event

/-- The index that a call registered under a key, with the function that it was given. -/
def registers? (scheme : Scheme) (key : IndexKey) (event : Event) : Option Index :=
  match event.call, event.outcome with
  | .register target field extract, .ok () =>
    if target.key? scheme field = some key then some (target.under key extract) else none
  | _, _ => none

/-- Whether an index was built during a call for it. -/
def completes (scheme : Scheme) (key : IndexKey) (event : Event) : Bool :=
  decide (event.call.key? scheme = some key) && event.built.any (·.2.isOk)

theorem registers?_eq_some_iff {index : Index} :
    event.registers? scheme key = some index ↔ ∃ target field extract,
      event.call = .register target field extract ∧ event.outcome = .ok () ∧
      target.key? scheme field = some key ∧ index = target.under key extract := by
  obtain ⟨call, outcome, built⟩ := event
  constructor
  · intro h
    cases call with
    | index target field => cases h
    | register target field extract =>
        cases outcome with
        | error error => cases h
        | ok done =>
            obtain ⟨hkey, hindex⟩ := Option.ite_none_right_eq_some.1 h
            exact ⟨target, field, extract, rfl, rfl, hkey, (Option.some.inj hindex).symm⟩
  · rintro ⟨target, field, extract, rfl, rfl, hkey, rfl⟩
    exact if_pos hkey

end Event

/-- The first registration under a key. -/
def first? (scheme : Scheme) (key : IndexKey) (history : List Event) : Option Index :=
  history.findSome? (Event.registers? scheme key)

/-- Whether an index was built during some call for it. -/
def completed (scheme : Scheme) (key : IndexKey) (history : List Event) : Bool :=
  history.any (Event.completes scheme key)

theorem first?_concat (scheme : Scheme) (key : IndexKey) (history : List Event) (event : Event) :
    first? scheme key (history ++ [event]) =
      (first? scheme key history).or (event.registers? scheme key) := by
  rw [first?, List.findSome?_append, ← first?]
  congr 1
  cases hregisters : event.registers? scheme key <;> simp [hregisters]

theorem completed_concat (scheme : Scheme) (key : IndexKey) (history : List Event) (event : Event) :
    completed scheme key (history ++ [event]) =
      (completed scheme key history || event.completes scheme key) := by
  simp [completed]

/-- An index was registered under a key by a call, with the function that the call was given, and
by no call before it. -/
def FirstRegistered (scheme : Scheme) (key : IndexKey) (history : List Event) (index : Index) :
    Prop :=
  ∃ front registration back target field extract, history = front ++ registration :: back ∧
    registration.call = .register target field extract ∧ registration.outcome = .ok () ∧
    target.key? scheme field = some key ∧ index = target.under key extract ∧
    ∀ earlier ∈ front, earlier.registers? scheme key = none

theorem firstRegistered_iff {index : Index} :
    FirstRegistered scheme key history index ↔ first? scheme key history = some index := by
  rw [first?, List.findSome?_eq_some_iff]
  constructor
  · rintro ⟨front, registration, back, target, field, extract, hsplit, hcall, houtcome, hkey,
      hindex, hfront⟩
    exact ⟨front, registration, back, hsplit,
      Event.registers?_eq_some_iff.2 ⟨target, field, extract, hcall, houtcome, hkey, hindex⟩,
      hfront⟩
  · rintro ⟨front, registration, back, hsplit, hregisters, hfront⟩
    obtain ⟨target, field, extract, hcall, houtcome, hkey, hindex⟩ :=
      Event.registers?_eq_some_iff.1 hregisters
    exact ⟨front, registration, back, target, field, extract, hsplit, hcall, houtcome, hkey,
      hindex, hfront⟩

/-- Shared indexes know of each index its first registration and whether it was built since. -/
structure Tracks (scheme : Scheme) (history : List Event) (shared : SharedIndexes) : Prop where
  find?_eq : ∀ key, shared.find? key =
    (first? scheme key history).map fun index => (index, completed scheme key history)
  registered : ∀ key, completed scheme key history = true → (first? scheme key history).isSome

theorem tracks_empty (scheme : Scheme) : Tracks scheme [] empty where
  find?_eq _ := rfl
  registered _ hcompleted := by cases hcompleted

namespace Tracks

variable {shared : SharedIndexes} {index : Index} {built : Bool}

theorem first?_eq_none (h : Tracks scheme history shared) (hfind : shared.find? key = none) :
    first? scheme key history = none := by
  rw [h.find?_eq] at hfind
  exact Option.map_eq_none_iff.1 hfind

theorem first?_eq_some (h : Tracks scheme history shared)
    (hfind : shared.find? key = some (index, built)) :
    first? scheme key history = some index ∧ completed scheme key history = built := by
  rw [h.find?_eq] at hfind
  obtain ⟨first, hfirst, hfound⟩ := Option.map_eq_some_iff.1 hfind
  obtain ⟨rfl, hbuilt⟩ := Prod.mk.inj hfound
  exact ⟨hfirst, hbuilt⟩

theorem completed_eq_false (h : Tracks scheme history shared)
    (hfirst : first? scheme key history = none) : completed scheme key history = false := by
  cases hcompleted : completed scheme key history with
  | false => rfl
  | true =>
      have hsome := h.registered key hcompleted
      rw [hfirst] at hsome
      cases hsome

/-- Nothing is known anew if nothing was registered or built. -/
theorem concat_of_quiet (h : Tracks scheme history shared)
    (hregisters : ∀ key, event.registers? scheme key = none)
    (hbuilt : ∀ key, event.completes scheme key = false) :
    Tracks scheme (history ++ [event]) shared where
  find?_eq key := by
    rw [first?_concat, completed_concat, hregisters, hbuilt, Option.or_none, Bool.or_false]
    exact h.find?_eq key
  registered key hcompleted := by
    rw [completed_concat, hbuilt, Bool.or_false] at hcompleted
    rw [first?_concat, hregisters, Option.or_none]
    exact h.registered key hcompleted

/-- A registered index is known as it was registered.  It cannot have been built before. -/
theorem concat_of_registered (h : Tracks scheme history shared)
    (hfind : shared.find? index.id.key = none)
    (hregisters : ∀ key, event.registers? scheme key =
      if index.id.key = key then some index else none)
    (hbuilt : event.built = []) :
    Tracks scheme (history ++ [event]) (shared.put index false) where
  find?_eq key := by
    have hfirst := h.first?_eq_none hfind
    rw [find?_put, first?_concat, completed_concat, hregisters, h.find?_eq]
    by_cases hsame : index.id.key = key
    · subst hsame
      have hcompleted := h.completed_eq_false hfirst
      simp [hfirst, hcompleted, hbuilt, Event.completes]
    · simp [hsame, hbuilt, Event.completes]
  registered key hcompleted := by
    rw [completed_concat] at hcompleted
    have hbefore := h.registered key (by simpa [Event.completes, hbuilt] using hcompleted)
    rw [first?_concat, Option.isSome_or, hbefore, Bool.true_or]

/-- An index that was built is known to be built, and registered as before. -/
theorem concat_of_built (h : Tracks scheme history shared)
    (hfind : shared.find? index.id.key = some (index, false))
    (hregisters : ∀ key, event.registers? scheme key = none)
    (hkey : event.call.key? scheme = some index.id.key) (hbuilt : event.built = [(index, .ok ())]) :
    Tracks scheme (history ++ [event]) (shared.put index true) := by
  obtain ⟨hfirst, -⟩ := h.first?_eq_some hfind
  have hkept : ∀ key, first? scheme key (history ++ [event]) = first? scheme key history := by
    intro key
    rw [first?_concat, hregisters, Option.or_none]
  have hcompletes : ∀ key, event.completes scheme key = decide (index.id.key = key) := by
    intro key
    simp [Event.completes, hkey, hbuilt, Except.isOk, Except.toBool]
  constructor
  · intro key
    rw [find?_put, hkept, completed_concat, hcompletes, h.find?_eq]
    by_cases hsame : index.id.key = key
    · subst hsame
      simp [hfirst]
    · simp [hsame]
  · intro key hcompleted
    rw [hkept]
    by_cases hsame : index.id.key = key
    · rw [← hsame, hfirst]
      rfl
    · rw [completed_concat, hcompletes] at hcompleted
      exact h.registered key (by simpa [hsame] using hcompleted)

end Tracks

/-- What is known stays true with each call. -/
theorem Step.tracks (hstep : Step scheme build before call event after)
    (h : Tracks scheme history before.shared) :
    Tracks scheme (history ++ [event]) after.shared := by
  cases hstep with
  | unresolved hkey hid =>
      refine h.concat_of_quiet (fun _ => ?_) fun _ => ?_
      · cases call <;> rfl
      · simp [Event.completes]
  | taken | unknown | built =>
      exact h.concat_of_quiet (fun _ => rfl) fun _ => by simp [Event.completes]
  | @registered target field extract key hkey hfind =>
      have hown : (target.under key extract).id.key = key := IndexTarget.key_under hkey
      refine h.concat_of_registered (hown.symm ▸ hfind) (fun other => ?_) rfl
      simp only [hown, Event.registers?, hkey, Option.some.injEq]
      by_cases hsame : key = other
      · rw [if_pos hsame, if_pos hsame, hsame]
      · rw [if_neg hsame, if_neg hsame]
  | builds hkey hfind hbuild =>
      have hown := key_of_find? hfind
      subst hown
      exact h.concat_of_built hfind (fun _ => rfl) hkey rfl
  | fails hkey hfind hbuild =>
      -- A build that fails was tried, but nothing came of it.
      refine h.concat_of_quiet (fun _ => rfl) fun other => ?_
      simp [Event.completes, Except.isOk, Except.toBool]

/-- What is known stays true over a run, by induction on its calls. -/
theorem run_tracks (calls : List IndexCall) (h : Tracks scheme history before.shared) :
    Tracks scheme (history ++ (run scheme build calls before).1)
      (run scheme build calls before).2.shared := by
  induction calls generalizing history before with
  | nil => simpa [run] using h
  | cons call rest ih =>
      have hnext := (step_record scheme build call before).tracks h
      simpa [run] using ih hnext

/-- What a call does after a history of calls: it depends on who registered the index first, and on
whether the index was built since. -/
structure Obeys (scheme : Scheme) (history : List Event) (event : Event)
    (before after : Setup σ) : Prop where
  /-- Nothing is built but the index that is asked for, with the function of its first registration,
  and this only once and not again after it succeeded. -/
  builds : ∀ build ∈ event.built, event.built = [build] ∧ ∃ target field key,
    event.call = .index target field ∧ target.key? scheme field = some key ∧
      FirstRegistered scheme key history build.1 ∧ completed scheme key history = false
  /-- An index that is not built yet, also one that could not be built before, is built when it is
  asked for. -/
  tries : ∀ target field key index, event.call = .index target field →
    target.key? scheme field = some key → FirstRegistered scheme key history index →
    completed scheme key history = false → ∃ answer, event.built = [(index, answer)]
  /-- Who asks for an index gets it if it is registered, and was built before or is built now. -/
  indexed : ∀ target field, event.call = .index target field →
    (event.outcome = .ok () ↔ ∃ key, target.key? scheme field = some key ∧
      (∃ index, FirstRegistered scheme key history index) ∧
      (completed scheme key history = true ∨ ∃ index, (index, .ok ()) ∈ event.built))
  /-- An index is registered if it is known which one it is, and it was not registered before. -/
  registered : ∀ target field extract, event.call = .register target field extract →
    (event.outcome = .ok () ↔ ∃ key, target.key? scheme field = some key ∧
      ∀ index, ¬ FirstRegistered scheme key history index)
  /-- A failing call changes nothing, save what the indexer makes of a failing build. -/
  failed : ∀ error, event.outcome = .error error →
    after.shared = before.shared ∧ (event.built = [] → after = before)
  /-- An error tells what is wrong with the index that the call is about. -/
  reason : ∀ error, event.outcome = .error error →
    event.call.key? scheme = none ∧ event.call.id scheme = .error error ∨
    ∃ key, event.call.key? scheme = some key ∧
      (error = .alreadyRegistered key ∨ error = .unknownField key ∨
        ∃ index source, (index, .error source) ∈ event.built ∧ error = .indexer key source)

namespace Tracks

variable {shared : SharedIndexes} {index : Index} {built : Bool}

theorem firstRegistered (h : Tracks scheme history shared)
    (hfind : shared.find? key = some (index, built)) : FirstRegistered scheme key history index :=
  firstRegistered_iff.2 (h.first?_eq_some hfind).1

theorem not_firstRegistered (h : Tracks scheme history shared) (hfind : shared.find? key = none)
    (index : Index) : ¬ FirstRegistered scheme key history index := by
  rw [firstRegistered_iff, h.first?_eq_none hfind]
  exact nofun

theorem find?_eq_of_firstRegistered (h : Tracks scheme history shared)
    (hfirst : FirstRegistered scheme key history index) :
    shared.find? key = some (index, completed scheme key history) := by
  rw [h.find?_eq, firstRegistered_iff.1 hfirst, Option.map_some]

end Tracks

namespace Step

variable {target : IndexTarget} {field : String}

theorem builds_once (hstep : Step scheme build before call event after)
    (h : Tracks scheme history before.shared) : ∀ build ∈ event.built, event.built = [build] ∧
      ∃ target field key, event.call = .index target field ∧
        target.key? scheme field = some key ∧ FirstRegistered scheme key history build.1 ∧
        completed scheme key history = false := by
  cases hstep with
  | builds hkey hfind hbuild | fails hkey hfind hbuild =>
      intro build hmem
      obtain rfl := List.mem_singleton.1 hmem
      exact ⟨rfl, _, _, _, rfl, hkey, h.firstRegistered hfind, (h.first?_eq_some hfind).2⟩
  | _ => exact nofun

theorem exists_built {index : Index} (hstep : Step scheme build before call event after)
    (h : Tracks scheme history before.shared) (hcall : event.call = .index target field)
    (hkey : target.key? scheme field = some key)
    (hfirst : FirstRegistered scheme key history index)
    (hcompleted : completed scheme key history = false) :
    ∃ answer, event.built = [(index, answer)] := by
  have hknown := h.find?_eq_of_firstRegistered hfirst
  rw [hcompleted] at hknown
  cases hstep with
  | unresolved hnone =>
      subst hcall
      cases hnone.symm.trans hkey
  | taken | registered => cases hcall
  | unknown hsame hfind | built hsame hfind =>
      cases hcall
      obtain rfl := Option.some.inj (hkey.symm.trans hsame)
      cases hknown.symm.trans hfind
  | builds hsame hfind hbuild | fails hsame hfind hbuild =>
      cases hcall
      obtain rfl := Option.some.inj (hkey.symm.trans hsame)
      cases hknown.symm.trans hfind
      exact ⟨_, rfl⟩

theorem indexed_iff (hstep : Step scheme build before call event after)
    (h : Tracks scheme history before.shared) (hcall : event.call = .index target field) :
    event.outcome = .ok () ↔ ∃ key, target.key? scheme field = some key ∧
      (∃ index, FirstRegistered scheme key history index) ∧
      (completed scheme key history = true ∨ ∃ index, (index, .ok ()) ∈ event.built) := by
  cases hstep with
  | unresolved hnone =>
      subst hcall
      refine ⟨nofun, ?_⟩
      rintro ⟨key, hkey, -⟩
      cases hnone.symm.trans hkey
  | taken | registered => cases hcall
  | unknown hsame hfind =>
      cases hcall
      refine ⟨nofun, ?_⟩
      rintro ⟨key, hkey, ⟨index, hfirst⟩, -⟩
      obtain rfl := Option.some.inj (hkey.symm.trans hsame)
      exact absurd hfirst (h.not_firstRegistered hfind index)
  | built hkey hfind =>
      cases hcall
      exact ⟨fun _ => ⟨_, hkey, ⟨_, h.firstRegistered hfind⟩, .inl (h.first?_eq_some hfind).2⟩,
        fun _ => rfl⟩
  | builds hkey hfind hbuild =>
      cases hcall
      exact ⟨fun _ => ⟨_, hkey, ⟨_, h.firstRegistered hfind⟩, .inr ⟨_, List.mem_cons_self⟩⟩,
        fun _ => rfl⟩
  | fails hsame hfind hbuild =>
      cases hcall
      refine ⟨nofun, ?_⟩
      rintro ⟨key, hkey, -, hcompleted | ⟨index, hmem⟩⟩
      · rw [Option.some.inj (hkey.symm.trans hsame), (h.first?_eq_some hfind).2] at hcompleted
        cases hcompleted
      · cases List.mem_singleton.1 hmem

theorem registered_iff {extract : target.representation.Item → List String}
    (hstep : Step scheme build before call event after)
    (h : Tracks scheme history before.shared)
    (hcall : event.call = .register target field extract) :
    event.outcome = .ok () ↔ ∃ key, target.key? scheme field = some key ∧
      ∀ index, ¬ FirstRegistered scheme key history index := by
  cases hstep with
  | unresolved hnone =>
      subst hcall
      refine ⟨nofun, ?_⟩
      rintro ⟨key, hkey, -⟩
      cases hnone.symm.trans hkey
  | @taken _ _ _ _ found hsame hfind =>
      cases hcall
      refine ⟨nofun, ?_⟩
      rintro ⟨key, hkey, hnone⟩
      obtain rfl := Option.some.inj (hkey.symm.trans hsame)
      exact absurd (h.firstRegistered hfind) (hnone found.1)
  | registered hkey hfind =>
      cases hcall
      exact ⟨fun _ => ⟨_, hkey, h.not_firstRegistered hfind⟩, fun _ => rfl⟩
  | unknown | built | builds | fails => cases hcall

theorem failed {error : IndexError} (hstep : Step scheme build before call event after)
    (herror : event.outcome = .error error) :
    after.shared = before.shared ∧ (event.built = [] → after = before) := by
  cases hstep with
  | unresolved | taken | unknown => exact ⟨rfl, fun _ => rfl⟩
  | registered | built | builds => cases herror
  | fails => exact ⟨rfl, nofun⟩

theorem reason {error : IndexError} (hstep : Step scheme build before call event after)
    (herror : event.outcome = .error error) :
    event.call.key? scheme = none ∧ event.call.id scheme = .error error ∨
    ∃ key, event.call.key? scheme = some key ∧
      (error = .alreadyRegistered key ∨ error = .unknownField key ∨
        ∃ index source, (index, .error source) ∈ event.built ∧ error = .indexer key source) := by
  cases hstep with
  | unresolved hkey hid =>
      obtain rfl := Except.error.inj herror
      exact .inl ⟨hkey, hid⟩
  | taken hkey hfind =>
      obtain rfl := Except.error.inj herror
      exact .inr ⟨_, hkey, .inl rfl⟩
  | unknown hkey hfind =>
      obtain rfl := Except.error.inj herror
      exact .inr ⟨_, hkey, .inr (.inl rfl)⟩
  | fails hkey hfind hbuild =>
      obtain rfl := Except.error.inj herror
      exact .inr ⟨_, hkey, .inr (.inr ⟨_, _, List.mem_cons_self, rfl⟩)⟩
  | registered | built | builds => cases herror

/-- No index is built that was built before. -/
theorem completed_eq_false (hstep : Step scheme build before call event after)
    (h : Tracks scheme history before.shared) (hcompletes : event.completes scheme key = true) :
    completed scheme key history = false := by
  rw [Event.completes, Bool.and_eq_true, decide_eq_true_iff] at hcompletes
  obtain ⟨hkey, hbuilt⟩ := hcompletes
  obtain ⟨build, hmem, -⟩ := List.any_eq_true.1 hbuilt
  obtain ⟨-, target, field, found, hcall, hfound, -, hcompleted⟩ := hstep.builds_once h _ hmem
  rw [hcall] at hkey
  rwa [Option.some.inj (hfound.symm.trans hkey)] at hcompleted

theorem obeys (hstep : Step scheme build before call event after)
    (h : Tracks scheme history before.shared) : Obeys scheme history event before after where
  builds := hstep.builds_once h
  tries _ _ _ _ := hstep.exists_built h
  indexed _ _ := hstep.indexed_iff h
  registered _ _ _ := hstep.registered_iff h
  failed _ := hstep.failed
  reason _ := hstep.reason

end Step

/-! Calls on different indexes. -/

/-- Whether a call is about an index. -/
def concerns (scheme : Scheme) (key : IndexKey) (call : IndexCall) : Bool :=
  call.key? scheme = some key

theorem concerns_iff : concerns scheme key call = true ↔ call.key? scheme = some key :=
  decide_eq_true_iff

/-- An indexer that gives the answers it is told to give. -/
def scripted (_ : Index) : StateM (List (Except String Unit)) (Except String Unit) := do
  match ← get with
  -- It is not asked more often than it was told what to answer.
  | [] => return .error ""
  | answer :: rest =>
    set rest
    return answer

/-- The answers of the indexer during some calls. -/
def answers (events : List Event) : List (Except String Unit) :=
  events.flatMap fun event => event.built.map (·.2)

/-- The events about an index. -/
def about (scheme : Scheme) (key : IndexKey) (events : List Event) : List Event :=
  events.filter fun event => concerns scheme key event.call

namespace Step

theorem call_eq (hstep : Step scheme build before call event after) : event.call = call := by
  cases hstep <;> rfl

/-- What is known of an index changes only by calls about it. -/
theorem find?_of_ne (hstep : Step scheme build before call event after)
    (hother : concerns scheme key call = false) :
    after.shared.find? key = before.shared.find? key := by
  have hne : call.key? scheme ≠ some key := fun hkey => by
    rw [concerns_iff.2 hkey] at hother
    cases hother
  cases hstep with
  | registered hkey hfind =>
      rw [find?_put, IndexTarget.key_under hkey, if_neg]
      rintro rfl
      exact hne hkey
  | builds hkey hfind hbuild =>
      rw [find?_put, key_of_find? hfind, if_neg]
      rintro rfl
      exact hne hkey
  | _ => rfl

/-- A call does the same where the same is known of its index and the indexer answers the same. -/
theorem scripted {other : Setup (List (Except String Unit))} {rest : List (Except String Unit)}
    (hstep : Step scheme build before call event after) (hkey : call.key? scheme = some key)
    (hfind : other.shared.find? key = before.shared.find? key)
    (hanswers : other.indexer = event.built.map (·.2) ++ rest) :
    ∃ next, Step scheme SharedIndexes.scripted other call event next ∧
      next.shared.find? key = after.shared.find? key ∧ next.indexer = rest := by
  cases hstep with
  | unresolved hnone => cases hnone.symm.trans hkey
  | taken hsame hfound =>
      obtain rfl := Option.some.inj (hsame.symm.trans hkey)
      exact ⟨other, .taken hsame (hfind.trans hfound), hfind, hanswers⟩
  | registered hsame hfound =>
      obtain rfl := Option.some.inj (hsame.symm.trans hkey)
      refine ⟨_, .registered hsame (hfind.trans hfound), ?_, hanswers⟩
      rw [find?_put, find?_put, IndexTarget.key_under hsame, if_pos rfl, if_pos rfl]
  | unknown hsame hfound =>
      obtain rfl := Option.some.inj (hsame.symm.trans hkey)
      exact ⟨other, .unknown hsame (hfind.trans hfound), hfind, hanswers⟩
  | built hsame hfound =>
      obtain rfl := Option.some.inj (hsame.symm.trans hkey)
      exact ⟨other, .built hsame (hfind.trans hfound), hfind, hanswers⟩
  | @builds target field _ index indexer hsame hfound hbuild =>
      obtain rfl := Option.some.inj (hsame.symm.trans hkey)
      have hanswer : (SharedIndexes.scripted index).run other.indexer = (.ok (), rest) := by
        rw [hanswers]
        rfl
      refine ⟨_, .builds hsame (hfind.trans hfound) hanswer, ?_, rfl⟩
      rw [find?_put, find?_put, key_of_find? hfound, if_pos rfl, if_pos rfl]
  | @fails target field _ index indexer source hsame hfound hbuild =>
      obtain rfl := Option.some.inj (hsame.symm.trans hkey)
      have hanswer : (SharedIndexes.scripted index).run other.indexer =
          (.error source, rest) := by
        rw [hanswers]
        rfl
      exact ⟨_, .fails hsame (hfind.trans hfound) hanswer, hfind, rfl⟩

end Step

theorem run_cons (scheme : Scheme) (build : Index → StateM σ (Except String Unit))
    (call : IndexCall) (rest : List IndexCall) (setup : Setup σ) :
    (run scheme build (call :: rest) setup).1 = (record scheme build call setup).1 ::
      (run scheme build rest (record scheme build call setup).2).1 := rfl

/-- The events about an index are those of the calls about it alone, if the indexer answers the
same. -/
theorem run_about (key : IndexKey) (calls : List IndexCall)
    {other : Setup (List (Except String Unit))}
    (hfind : other.shared.find? key = before.shared.find? key)
    (hanswers : other.indexer = answers (about scheme key (run scheme build calls before).1)) :
    (run scheme scripted (calls.filter (concerns scheme key)) other).1 =
      about scheme key (run scheme build calls before).1 := by
  induction calls generalizing before other with
  | nil => rfl
  | cons call rest ih =>
      -- The run of the calls about the index stays where it is at every other call.
      have hstep := step_record scheme build call before
      rw [run_cons] at hanswers ⊢
      cases hconcerns : concerns scheme key call with
      | false =>
          have hskip : ∀ events, about scheme key ((record scheme build call before).1 :: events) =
              about scheme key events := fun events =>
            List.filter_cons_of_neg (by rw [hstep.call_eq, hconcerns]; exact Bool.false_ne_true)
          rw [hskip] at hanswers ⊢
          rw [List.filter_cons_of_neg (by rw [hconcerns]; exact Bool.false_ne_true)]
          exact ih (hfind.trans (hstep.find?_of_ne hconcerns).symm) hanswers
      | true =>
          have htake : ∀ events, about scheme key ((record scheme build call before).1 :: events) =
              (record scheme build call before).1 :: about scheme key events := fun events =>
            List.filter_cons_of_pos (by rw [hstep.call_eq, hconcerns])
          rw [htake] at hanswers ⊢
          obtain ⟨next, hnext, hfound, hrest⟩ :=
            hstep.scripted (concerns_iff.1 hconcerns) hfind hanswers
          rw [List.filter_cons_of_pos hconcerns, run_cons, hnext.record_eq, ih hfound hrest]

/-- An index is built once, and not again if it was built before. -/
theorem countP_completes_le (key : IndexKey) (calls : List IndexCall)
    (h : Tracks scheme history before.shared) :
    (run scheme build calls before).1.countP (Event.completes scheme key) ≤
      if completed scheme key history then 0 else 1 := by
  induction calls generalizing history before with
  | nil => exact Nat.zero_le _
  | cons call rest ih =>
      have hstep := step_record scheme build call before
      have hrest := ih (hstep.tracks h)
      rw [completed_concat] at hrest
      rw [run_cons, List.countP_cons]
      cases hcompletes : (record scheme build call before).1.completes scheme key with
      | true =>
          have hbefore := hstep.completed_eq_false h hcompletes
          simp only [hcompletes, hbefore, Bool.or_true, if_true] at hrest
          simp only [hbefore, Bool.false_eq_true, if_false, if_true]
          omega
      | false =>
          simp only [hcompletes, Bool.or_false] at hrest
          simpa using hrest

/-- What happens over a history of calls. -/
structure Shares (scheme : Scheme) (build : Index → StateM σ (Except String Unit)) (indexer : σ)
    (calls : List IndexCall) : Prop where
  /-- The next call does what it should after what happened before. -/
  next : ∀ call, Obeys scheme (run scheme build calls ⟨.empty, indexer⟩).1
    (record scheme build call (run scheme build calls ⟨.empty, indexer⟩).2).1
    (run scheme build calls ⟨.empty, indexer⟩).2
    (record scheme build call (run scheme build calls ⟨.empty, indexer⟩).2).2
  /-- No index is built twice. -/
  once : ∀ key, (run scheme build calls ⟨.empty, indexer⟩).1.countP (Event.completes scheme key) ≤ 1
  /-- The calls about an index do the same without the other calls. -/
  alone : ∀ key, (run scheme scripted (calls.filter (concerns scheme key))
      ⟨.empty, answers (about scheme key (run scheme build calls ⟨.empty, indexer⟩).1)⟩).1 =
    about scheme key (run scheme build calls ⟨.empty, indexer⟩).1

/-- Shared indexes have each index built once, as it was registered first, whatever the indexer
behind them does. -/
theorem run_shares (scheme : Scheme) (build : Index → StateM σ (Except String Unit)) (indexer : σ)
    (calls : List IndexCall) : Shares scheme build indexer calls where
  next call := by
    have htracks : Tracks scheme [] (Setup.mk empty indexer).shared := tracks_empty scheme
    exact (step_record scheme build call _).obeys (run_tracks calls htracks)
  once key := by
    have htracks : Tracks scheme [] (Setup.mk empty indexer).shared := tracks_empty scheme
    exact countP_completes_le key calls htracks
  alone key := run_about key calls rfl rfl

end Reconciler.SharedIndexes
