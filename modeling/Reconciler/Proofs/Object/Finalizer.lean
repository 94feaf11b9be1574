import Reconciler.Object.Type
import Reconciler.Proofs.Client.Finalizer
/-!
Finalizers that are added and removed in an object at hand.  The call says whether it changed the
object, so that the object need not be written back if it did not.  This is true of the names that
are set, but not of the object: removing a finalizer where none are set leaves an empty list behind.
-/
namespace Reconciler

namespace ObjectType

variable {type : ObjectType}

/-- An object of a type with other metadata; a JSON value has none. -/
def withMetadata : (type : ObjectType) → type.Value → ObjectMeta → type.Value
  | .known _, object, metadata => { object with metadata }
  | .plain _, object, metadata => { object with metadata }
  | .dynamic, object, metadata => { object with metadata }
  | .json, value, _ => value

theorem metadata_withMetadata (htype : type ≠ .json) (object : type.Value)
    (metadata : ObjectMeta) : type.metadata (type.withMetadata object metadata) = metadata := by
  cases type with
  | json => contradiction
  | _ => rfl

theorem withMetadata_metadata (object : type.Value) :
    type.withMetadata object (type.metadata object) = object := by
  cases type <;> rfl

theorem withMetadata_eq_self_iff (htype : type ≠ .json) {object : type.Value}
    {metadata : ObjectMeta} :
    type.withMetadata object metadata = object ↔ metadata = type.metadata object := by
  constructor
  · intro hsame
    rw [← metadata_withMetadata htype object metadata, hsame]
  · rintro rfl
    exact withMetadata_metadata object

end ObjectType

namespace FinalizerCall

variable {call : FinalizerCall} {names : List String} {metadata : ObjectMeta}

/-- Done in an object of a type: whether the object is said to have changed, and the object
afterwards. -/
def editIn (call : FinalizerCall) (type : ObjectType) (object : type.Value) : Bool × type.Value :=
  ((call.edit (type.metadata object)).1,
    type.withMetadata object (call.edit (type.metadata object)).2)

/-- Something is to be removed where no finalizers are set. -/
def Hides (call : FinalizerCall) (metadata : ObjectMeta) : Prop :=
  metadata.finalizers = none ∧ call = .remove call.name

theorem result_ne_iff : call.result names ≠ names ↔ call.Needed names := by
  constructor
  · intro hne
    by_contra hneeded
    exact hne (result_of_not_needed hneeded)
  · intro hneeded hsame
    have hiff := needed_iff.1 hneeded
    rw [hsame] at hiff
    exact iff_not_self hiff

theorem result_add (name : String) (names : List String) :
    name ∈ (add name).result names ∧
      ((add name).result names = names ∨
        name ∉ names ∧ (add name).result names = names ++ [name]) := by
  by_cases hmem : name ∈ names
  · rw [result, if_pos hmem]
    exact ⟨hmem, .inl rfl⟩
  · rw [result, if_neg hmem]
    exact ⟨by simp, .inr ⟨hmem, rfl⟩⟩

/-- Only the finalizers are edited. -/
theorem edit_rest (call : FinalizerCall) (metadata : ObjectMeta) :
    (call.edit metadata).2 =
      { metadata with finalizers := (call.edit metadata).2.finalizers } := by
  cases call with
  | add name =>
      rw [edit, ObjectMeta.addFinalizer]
      split <;> rfl
  | remove name => rfl

theorem edit_of_hides (h : call.Hides metadata) :
    call.edit metadata = (false, { metadata with finalizers := some [] }) := by
  obtain ⟨hunset, hremove⟩ := h
  have hnone : metadata.finalizerList = [] := by rw [ObjectMeta.finalizerList, hunset]; rfl
  rw [hremove, edit, ObjectMeta.removeFinalizer, hnone]
  rfl

/-- Without names to change, metadata stay as they are if finalizers are set or one is added. -/
theorem edit_of_not_needed (hneeded : ¬ call.Needed metadata.finalizerList)
    (hshown : ¬ call.Hides metadata) : (call.edit metadata).2 = metadata := by
  cases call with
  | add name =>
      have hset : metadata.hasFinalizer name = true := by
        simpa [ObjectMeta.hasFinalizer, Needed] using hneeded
      rw [edit, ObjectMeta.addFinalizer, if_pos hset]
  | remove name =>
      obtain ⟨finalizers, hfinalizers⟩ : ∃ finalizers, metadata.finalizers = some finalizers := by
        rw [← Option.isSome_iff_exists, Option.isSome_iff_ne_none]
        exact fun hunset => hshown ⟨hunset, rfl⟩
      have hlist : metadata.finalizerList = finalizers := by
        rw [ObjectMeta.finalizerList, hfinalizers]
        rfl
      have hkept : finalizers.filter (· ≠ name) = finalizers := by
        have hsame := result_of_not_needed hneeded
        rwa [hlist] at hsame
      have hedited : (edit (remove name) metadata).2.finalizers =
          some (metadata.finalizerList.filter (· ≠ name)) := rfl
      rw [edit_rest, hedited, hlist, hkept, ← hfinalizers]

/-- What a call says is true of the metadata unless it hides that they are changed. -/
theorem edit_truthful_iff (call : FinalizerCall) (metadata : ObjectMeta) :
    ((call.edit metadata).1 = true ↔ (call.edit metadata).2 ≠ metadata) ↔
      ¬ call.Hides metadata := by
  rw [edit_changed, decide_eq_true_eq]
  constructor
  · intro htruthful hhides
    -- No names are set, so that none needs to be removed, but the metadata differ.
    have hedit := congrArg Prod.snd (edit_of_hides hhides)
    have hdiffers : (call.edit metadata).2 ≠ metadata := by
      intro hsame
      rw [hedit] at hsame
      have hfinalizers := congrArg ObjectMeta.finalizers hsame
      rw [hhides.1] at hfinalizers
      cases hfinalizers
    have hsaid : (call.edit metadata).1 = false := congrArg Prod.fst (edit_of_hides hhides)
    rw [edit_changed, decide_eq_false_iff_not] at hsaid
    exact hsaid (htruthful.2 hdiffers)
  · intro hshown
    constructor
    · intro hneeded hsame
      have hlist := edit_finalizerList call metadata
      rw [hsame] at hlist
      exact result_ne_iff.2 hneeded hlist.symm
    · intro hdiffers
      by_contra hneeded
      exact hdiffers (edit_of_not_needed hneeded hshown)

/-- What a call says about an object, and what it leaves of it. -/
structure Reports (call : FinalizerCall) (type : ObjectType) (before : type.Value) (said : Bool)
    (after : type.Value) : Prop where
  /-- It says that it changed the object exactly if it did, unless it hides the change. -/
  truthful_iff : (said = true ↔ after ≠ before) ↔ ¬ call.Hides (type.metadata before)
  /-- What is hidden is that finalizers which were not set are set to none. -/
  hidden : call.Hides (type.metadata before) → said = false ∧
    after = type.withMetadata before { type.metadata before with finalizers := some [] }
  /-- The names that are set change exactly if the call says so. -/
  said_iff : said = true ↔
    (type.metadata after).finalizerList ≠ (type.metadata before).finalizerList
  /-- A name that is added is set, at the end and only once if it was not set before. -/
  added : ∀ name, call = .add name → name ∈ (type.metadata after).finalizerList ∧
    ((type.metadata after).finalizerList = (type.metadata before).finalizerList ∨
      name ∉ (type.metadata before).finalizerList ∧
        (type.metadata after).finalizerList = (type.metadata before).finalizerList ++ [name])
  removed : ∀ name, call = .remove name → name ∉ (type.metadata after).finalizerList
  /-- The other names stay in their order, as often as they were set. -/
  others : (type.metadata after).finalizerList.filter (· ≠ call.name) =
    (type.metadata before).finalizerList.filter (· ≠ call.name)
  /-- Nothing but the finalizers changes. -/
  rest : ∃ finalizers,
    after = type.withMetadata before { type.metadata before with finalizers }

/-- Whatever the type of the object and whatever finalizers it has: calls change the names as they
should and say so exactly if they do; the object is another one without their saying so exactly if
something is removed where no finalizers are set. -/
theorem editIn_reports {type : ObjectType} (htype : type ≠ .json) (call : FinalizerCall)
    (before : type.Value) :
    ∃ said after, call.editIn type before = (said, after) ∧
      call.Reports type before said after := by
  have hafter := ObjectType.metadata_withMetadata htype before
    (call.edit (type.metadata before)).2
  have hlist := edit_finalizerList call (type.metadata before)
  refine ⟨_, _, rfl, ?_⟩
  constructor
  · rw [ne_eq, ObjectType.withMetadata_eq_self_iff htype]
    exact edit_truthful_iff call _
  · intro hhides
    rw [edit_of_hides hhides]
    exact ⟨rfl, rfl⟩
  · rw [hafter, hlist, edit_changed, decide_eq_true_eq, result_ne_iff]
  · rintro name rfl
    rw [hafter, hlist]
    exact result_add name _
  · rintro name rfl
    rw [hafter, hlist]
    simp [result]
  · rw [hafter, hlist]
    exact filter_result _ (by simp)
  · exact ⟨_, congrArg (type.withMetadata before) (edit_rest call _)⟩

/-- A config map with finalizers. -/
def protectedBy (finalizers : Option (List String)) : ConfigMap :=
  { metadata := { name := some "a", finalizers } }

/-- Every occurrence is removed, and the config map is said to have changed. -/
theorem editIn_reports_repeated :
    ∃ after, (remove "a").editIn (.known ConfigMap.kind) (protectedBy (some ["a", "b", "a"])) =
        (true, after) ∧
      after ≠ protectedBy (some ["a", "b", "a"]) ∧ after.metadata.finalizerList = ["b"] := by
  obtain ⟨said, after, hedit, hreports⟩ := @editIn_reports (.known ConfigMap.kind) (by simp)
    (remove "a") (protectedBy (some ["a", "b", "a"]))
  have hlist : ((ObjectType.known ConfigMap.kind).metadata after).finalizerList = ["b"] := by
    have hremoved : (remove "a").editIn (.known ConfigMap.kind)
        (protectedBy (some ["a", "b", "a"])) = (true, protectedBy (some ["b"])) := rfl
    rw [hremoved] at hedit
    cases hedit
    rfl
  have hsaid : said = true := hreports.said_iff.2 (by rw [hlist]; decide)
  have htruthful := hreports.truthful_iff.2 fun hhides => Option.some_ne_none _ hhides.1
  exact ⟨after, hsaid ▸ hedit, htruthful.1 hsaid, hlist⟩

/-- Removing a finalizer from an object that has none set leaves another object, and does not say
so. -/
theorem remove_hides_change :
    ((remove "f").editIn .dynamic { metadata := { name := some "a" } }).1 = false ∧
      ((remove "f").editIn .dynamic { metadata := { name := some "a" } }).2 ≠
        { metadata := { name := some "a" } } := by
  decide +kernel

end FinalizerCall

end Reconciler
