import Reconciler.Controller.Pass
import Reconciler.Proofs.Client.Batch
import Reconciler.Proofs.Store.Batch
import Reconciler.Proofs.Store.Failure
/-!
Passes over a store: objects of a type are listed, and then taken one after another, each of them
changed in its place.  A pass that cannot receive one of them fails before it changes anything.
-/
namespace Reconciler

namespace Attempt

variable {ε σ α ι : Type}

/-- Readings of one state, one after another. -/
theorem on_mapM_of_reading {read : ι → Attempt ε σ α} {result : ι → Except ε α} {state : σ}
    (h : ∀ item, (read item).on state = (result item, state)) (items : List ι) :
    (items.mapM read).on state = (items.mapM result, state) := by
  induction items with
  | nil => rfl
  | cons item rest ih =>
      rw [List.mapM_cons, List.mapM_cons, on_bind, h]
      cases result item with
      | error error => rfl
      | ok value =>
          simp only
          rw [on_bind, ih]
          cases rest.mapM result <;> rfl

theorem on_forM_cons (act : ι → Attempt ε σ Unit) (item : ι) (rest : List ι) (state : σ) :
    ((item :: rest).forM act).on state = (act item >>= fun _ => rest.forM act).on state := by
  rw [List.forM_eq_forM, List.forM_cons]

/-- Work that changes nothing for any item changes nothing for all. -/
theorem on_forM_of_idle {act : ι → Attempt ε σ Unit} {items : List ι} {state : σ}
    (h : ∀ item ∈ items, (act item).on state = (.ok (), state)) :
    (items.forM act).on state = (.ok (), state) := by
  induction items with
  | nil => rfl
  | cons item rest ih =>
      obtain ⟨hitem, hrest⟩ := List.forall_mem_cons.1 h
      rw [on_forM_cons, on_bind, hitem]
      exact ih hrest

end Attempt

namespace Pass

variable {σ α : Type}

/-- What a client does within a pass is told nobody about. -/
theorem on_doing (action : Action σ α) (state : σ) (messages : List String) :
    (doing action).on ⟨state, messages⟩ =
      ((action.on state).1.mapError ClientError.chain, ⟨(action.on state).2, messages⟩) := rfl

@[simp] theorem on_tell (message : String) (progress : Progress σ) :
    (tell message).on progress =
      (.ok (), { progress with messages := progress.messages ++ [message] }) := rfl

theorem on_discard_doing {action : Action σ α} {state after : σ} {value : α}
    (h : action.on state = (.ok value, after)) (messages : List String) :
    (discard (doing action)).on ⟨state, messages⟩ = (.ok (), ⟨after, messages⟩) := by
  have hdoing := on_doing action state messages
  rw [h] at hdoing
  refine (Attempt.on_map _ _ _).trans ?_
  rw [hdoing]
  rfl

end Pass

namespace Store

variable {scheme : Scheme} {type : ObjectType} {gvk : GroupVersionKind} {store after : Store}
  {reference : ObjectRef}

/-- An object is under a reference, and nothing else is other than before. -/
structure Puts (store : Store) (reference : ObjectRef) (object : Object) (after : Store) :
    Prop where
  kept : after.entries.get? reference = some object
  others : ∀ other, other ≠ reference → after.entries.get? other = store.entries.get? other

theorem puts_insert (store : Store) (reference : ObjectRef) (object : Object) :
    store.Puts reference object ⟨store.entries.insert reference object⟩ where
  kept := by rw [get?_insert, if_pos rfl]
  others other hother := by rw [get?_insert, if_neg hother]

theorem puts_self {object : Object} (h : store.entries.get? reference = some object) :
    store.Puts reference object store :=
  ⟨h, fun _ _ => rfl⟩

/-- Objects of a store were changed in their places, and all others were not. -/
structure Alters (concerned : Object → Prop) (altered : Object → Object → Prop)
    (before after : Store) : Prop where
  each : ∀ reference object, before.entries.get? reference = some object →
    concerned object → ∃ result, after.entries.get? reference = some result ∧
      altered object result
  others : ∀ reference object, before.entries.get? reference = some object →
    ¬ concerned object → after.entries.get? reference = some object
  absent : ∀ reference, before.entries.get? reference = none →
    after.entries.get? reference = none

/-- An exchange goes through when its three steps do. -/
theorem on_exchange {write : Object → Action Store Object} {object value : type.Value}
    {dynamic answer : Object} (hto : scheme.toDynamic type object = .ok dynamic)
    (hwrite : (write dynamic).on store = (.ok answer, after))
    (hfrom : scheme.fromDynamic type answer = .ok value) :
    (exchange scheme type write object).on store = (.ok value, after) := by
  rw [exchange, Attempt.on_bind, on_sent, hto]
  simp only [Except.mapError]
  rw [Attempt.on_bind, hwrite]
  exact on_received hfrom after

/-- An object that is concerned afterwards was altered if nothing else is. -/
theorem Alters.exists_before {concerned : Object → Prop} {altered : Object → Object → Prop}
    {result : Object} (h : Alters concerned altered store after)
    (hresult : after.entries.get? reference = some result) (hconcerned : concerned result) :
    ∃ object, store.entries.get? reference = some object ∧ altered object result := by
  cases hbefore : store.entries.get? reference with
  | none =>
      rw [h.absent reference hbefore] at hresult
      cases hresult
  | some object =>
      refine ⟨object, rfl, ?_⟩
      by_cases hobject : concerned object
      · obtain ⟨found, hfound, halter⟩ := h.each reference object hbefore hobject
        obtain rfl : found = result := Option.some.inj (hfound.symm.trans hresult)
        exact halter
      · rw [h.others reference object hbefore hobject] at hresult
        cases hresult
        exact absurd hconcerned hobject

/-- What becomes of concerned objects may be told otherwise. -/
theorem Alters.imp {concerned : Object → Prop} {altered altered' : Object → Object → Prop}
    (h : Alters concerned altered store after)
    (himp : ∀ reference object result, store.entries.get? reference = some object →
      concerned object → altered object result → altered' object result) :
    Alters concerned altered' store after where
  each reference object hobject hconcerned := by
    obtain ⟨result, hresult, halter⟩ := h.each reference object hobject hconcerned
    exact ⟨result, hresult, himp reference object result hobject hconcerned halter⟩
  others := h.others
  absent := h.absent

/-- What is kept stays under its reference when each object is altered to one of the same. -/
theorem Alters.keyed {concerned : Object → Prop} {altered : Object → Object → Prop}
    (h : Alters concerned altered store after) (hkeyed : store.Keyed)
    (haltered : ∀ object result, altered object result →
      ObjectRef.ofObject result = ObjectRef.ofObject object) : after.Keyed := by
  intro reference result hresult
  cases hbefore : store.entries.get? reference with
  | none =>
      rw [h.absent reference hbefore] at hresult
      cases hresult
  | some object =>
      have hown := hkeyed reference object hbefore
      by_cases hconcerned : concerned object
      · obtain ⟨found, hfound, halter⟩ := h.each reference object hbefore hconcerned
        obtain rfl : found = result := Option.some.inj (hfound.symm.trans hresult)
        exact (haltered object found halter).trans hown
      · rw [h.others reference object hbefore hconcerned] at hresult
        cases hresult
        exact hown

/-- Listing objects of a type is receiving what is listed. -/
theorem on_listObjects_eq {options : ListOptions} {shown : List Object}
    (hgvk : scheme.gvk type = .ok gvk) (hlist : (list gvk options).on store = (.ok shown, store)) :
    ((client scheme).listObjects type options).on store =
      (shown.mapM fun object => (scheme.fromDynamic type object).mapError .scheme, store) := by
  rw [on_listObjects hgvk hlist]
  exact Attempt.on_mapM_of_reading (fun object => on_received_eq object store) shown

/-! One object, and then all that are listed. -/

/-- What a pass does to one object that it received: it alters the object in its place. -/
def Steps (scheme : Scheme) (type : ObjectType) (act : type.Value → Pass Store Unit)
    (good : type.Value → Prop) (altered : Object → Object → Prop) : Prop :=
  ∀ (object : Object) (value : type.Value), scheme.fromDynamic type object = .ok value →
    good value → ∀ (store : Store) (reference : ObjectRef) (told : List String),
      ObjectRef.ofObject object = .ok reference → store.entries.get? reference = some object →
        ∃ result after told', (act value).on ⟨store, told⟩ = (.ok (), ⟨after, told'⟩) ∧
          altered object result ∧ store.Puts reference result after

/-- Listed objects were altered, each in its place, and what is under other references was not. -/
structure Passes (listed : List Object) (altered : Object → Object → Prop)
    (before after : Store) : Prop where
  each : ∀ object ∈ listed, ∀ reference, ObjectRef.ofObject object = .ok reference →
    ∃ result, after.entries.get? reference = some result ∧ altered object result
  others : ∀ reference, (∀ object ∈ listed, ObjectRef.ofObject object ≠ .ok reference) →
    after.entries.get? reference = before.entries.get? reference

variable {act : type.Value → Pass Store Unit} {good : type.Value → Prop}
  {altered : Object → Object → Prop}

/-- What a step did stays when those that come are altered under other references. -/
theorem Passes.cons {middle : Store} {object result : Object} {rest : List Object}
    (hputs : store.Puts reference result middle) (haltered : altered object result)
    (hreference : ObjectRef.ofObject object = .ok reference)
    (hapart : ∀ other ∈ rest, ObjectRef.ofObject object ≠ ObjectRef.ofObject other)
    (hpasses : Passes rest altered middle after) : Passes (object :: rest) altered store after where
  each := by
    refine List.forall_mem_cons.2 ⟨fun own hown => ?_, hpasses.each⟩
    obtain rfl : reference = own := Except.ok.inj (hreference.symm.trans hown)
    have hafter : after.entries.get? reference = middle.entries.get? reference :=
      hpasses.others reference fun other hother hsame =>
        hapart other hother (hreference.trans hsame.symm)
    exact ⟨result, hafter.trans hputs.kept, haltered⟩
  others own hown := by
    obtain ⟨hfirst, hlater⟩ := List.forall_mem_cons.1 hown
    refine (hpasses.others own hlater).trans (hputs.others own ?_)
    rintro rfl
    exact hfirst hreference

/-- A pass goes from one listed object to the next: what it did to those before does not show under
the references of those that come. -/
theorem Steps.exists_passes (h : Steps scheme type act good altered) {listed : List Object}
    {values : List type.Value}
    (hvalues : listed.mapM (fun object => (scheme.fromDynamic type object).mapError .scheme) =
      (.ok values : Except ClientError _))
    (hgood : ∀ value ∈ values, good value) (hdistinct : Distinct listed)
    (hkept : ∀ object ∈ listed, ∃ reference, ObjectRef.ofObject object = .ok reference ∧
      store.entries.get? reference = some object) (told : List String) :
    ∃ after told', (values.forM act).on ⟨store, told⟩ = (.ok (), ⟨after, told'⟩) ∧
      Passes listed altered store after := by
  induction listed generalizing values store told with
  | nil =>
      cases hvalues
      exact ⟨store, told, rfl, by simp, fun _ _ => rfl⟩
  | cons object rest ih =>
      obtain ⟨value, others, hvalue, hothers, rfl⟩ := Except.mapM_cons_eq_ok_iff.1 hvalues
      obtain ⟨hfirstGood, hrestGood⟩ := List.forall_mem_cons.1 hgood
      obtain ⟨hapart, hrestDistinct⟩ := List.pairwise_cons.1 hdistinct
      obtain ⟨⟨reference, hreference, hstored⟩, hrestKept⟩ := List.forall_mem_cons.1 hkept
      have hreceived := Except.mapError_eq_ok_iff.1 hvalue
      obtain ⟨result, middle, toldFirst, hact, haltered, hputs⟩ :=
        h object value hreceived hfirstGood store reference told hreference hstored
      have hstill : ∀ other ∈ rest, ∃ reference, ObjectRef.ofObject other = .ok reference ∧
          middle.entries.get? reference = some other := by
        intro other hother
        obtain ⟨own, hown, hkeptOwn⟩ := hrestKept other hother
        refine ⟨own, hown, (hputs.others own ?_).trans hkeptOwn⟩
        rintro rfl
        exact hapart other hother (hreference.trans hown.symm)
      obtain ⟨after, told', hwalk, hpasses⟩ := ih hothers hrestGood hrestDistinct hstill toldFirst
      refine ⟨after, told', ?_, Passes.cons hputs haltered hreference hapart hpasses⟩
      rw [Attempt.on_forM_cons, Attempt.on_bind, hact]
      exact hwalk

/-- Objects that can each be received as something good are received so together. -/
theorem exists_received {objects : List Object}
    (hall : ∀ object ∈ objects, ∃ value, scheme.fromDynamic type object = .ok value ∧ good value) :
    ∃ values, objects.mapM (fun object => (scheme.fromDynamic type object).mapError .scheme) =
        (.ok values : Except ClientError _) ∧
      ∀ value ∈ values, good value := by
  have hreceived : ∀ object ∈ objects, ∃ value,
      (scheme.fromDynamic type object).mapError ClientError.scheme = .ok value := by
    intro object hobject
    obtain ⟨value, hvalue, -⟩ := hall object hobject
    exact ⟨value, Except.mapError_eq_ok_iff.2 hvalue⟩
  obtain ⟨values, hvalues⟩ := Except.exists_mapM_iff.2 hreceived
  refine ⟨values, hvalues, fun value hvalue => ?_⟩
  obtain ⟨object, hobject, hfrom⟩ := (Except.mem_iff_of_mapM hvalues).1 hvalue
  obtain ⟨found, hfound, hgood⟩ := hall object hobject
  obtain rfl : found = value :=
    Except.ok.inj (hfound.symm.trans (Except.mapError_eq_ok_iff.1 hfrom))
  exact hgood

/-- The pass that lists objects of a type and takes one after another. -/
def listing (scheme : Scheme) (type : ObjectType) (options : ListOptions)
    (act : type.Value → Pass Store Unit) : Pass Store Unit := do
  let values ← Pass.doing ((client scheme).listObjects type options)
  values.forM act

theorem mem_objects_iff {object : Object} :
    object ∈ store.objects ↔ ∃ reference, store.entries.get? reference = some object := by
  rw [objects, SortedMap.mem_values_iff]
  exact exists_congr fun reference => SortedMap.get?_eq_some_iff.symm

/-- A request is served if it asks for what listing does, with a selector that can be read. -/
theorem request_of_parse {options : ListOptions} {selector : Label.Selector}
    (hvalid : validateList options = .ok ())
    (hparse : Label.parse (options.labelSelector.getD "") = .ok selector) :
    request options = .ok ⟨options.namespaceName.filter fun name => !name.isEmpty, selector⟩ := by
  rw [request, hvalid, Filter.ofOptions, hparse]
  rfl

section Listing

variable {options : ListOptions} {selector : Label.Selector}

/-- What is listed is what is wanted, each object under a reference of its own. -/
theorem Keyed.exists_shown (hkeyed : store.Keyed) (gvk : GroupVersionKind)
    (hvalid : validateList options = .ok ())
    (hparse : Label.parse (options.labelSelector.getD "") = .ok selector) :
    ∃ shown, (list gvk options).on store = (.ok shown, store) ∧ Distinct shown ∧
      ∀ object, object ∈ shown ↔ object ∈ store.objects ∧ Wanted gvk options selector object := by
  have hrequest := request_of_parse hvalid hparse
  have hlists := hkeyed.lists gvk hrequest
  obtain ⟨found, hfound, hmem⟩ := hlists.mem_iff
  obtain rfl : selector = found := Except.ok.inj (hparse.symm.trans hfound)
  refine ⟨_, ?_, ?_, hmem⟩
  · rw [on_list, hrequest]
    rfl
  · refine List.Pairwise.imp_of_mem (fun {first second} hfirst hsecond hbefore hsame => ?_)
      hlists.ordered
    obtain ⟨reference, hreference⟩ := mem_objects_iff.1 ((hmem first).1 hfirst).1
    obtain ⟨other, hother⟩ := mem_objects_iff.1 ((hmem second).1 hsecond).1
    obtain ⟨gvk, -, hgvk⟩ := Except.map_eq_ok_iff.1 (hkeyed _ _ hreference)
    obtain ⟨kind, -, hkind⟩ := Except.map_eq_ok_iff.1 (hkeyed _ _ hother)
    rw [hkeyed _ _ hreference, hkeyed _ _ hother, ← hgvk, ← hkind] at hsame
    exact ObjectKey.ne_of_before hbefore (congrArg ObjectRef.key (Except.ok.inj hsame))

/-- If every object that is wanted can be received, a pass alters these and nothing else. -/
theorem Steps.on_listing (h : Steps scheme type act good altered) (hkeyed : store.Keyed)
    (hgvk : scheme.gvk type = .ok gvk) (hvalid : validateList options = .ok ())
    (hparse : Label.parse (options.labelSelector.getD "") = .ok selector)
    (hall : ∀ object ∈ store.objects, Wanted gvk options selector object →
      ∃ value, scheme.fromDynamic type object = .ok value ∧ good value) (told : List String) :
    ∃ after told',
      (listing scheme type options act).on ⟨store, told⟩ = (.ok (), ⟨after, told'⟩) ∧
      Alters (Wanted gvk options selector) altered store after := by
  obtain ⟨shown, hlist, hdistinct, hmem⟩ := hkeyed.exists_shown gvk hvalid hparse
  obtain ⟨values, hvalues, hgood⟩ := exists_received fun object hobject => by
    obtain ⟨hstored, hwanted⟩ := (hmem object).1 hobject
    exact hall object hstored hwanted
  have hkept : ∀ object ∈ shown, ∃ reference, ObjectRef.ofObject object = .ok reference ∧
      store.entries.get? reference = some object := by
    intro object hobject
    obtain ⟨reference, hreference⟩ := mem_objects_iff.1 ((hmem object).1 hobject).1
    exact ⟨reference, hkeyed _ _ hreference, hreference⟩
  obtain ⟨after, told', hwalk, hpasses⟩ := h.exists_passes hvalues hgood hdistinct hkept told
  refine ⟨after, told', ?_, ?_, ?_, ?_⟩
  · rw [listing, Attempt.on_bind, Pass.on_doing, on_listObjects_eq hgvk hlist, hvalues]
    exact hwalk
  · intro reference object hobject hwanted
    have hshown := (hmem object).2 ⟨mem_objects_iff.2 ⟨reference, hobject⟩, hwanted⟩
    exact hpasses.each object hshown reference (hkeyed _ _ hobject)
  · intro reference object hobject hunwanted
    refine (hpasses.others reference fun other hother hsame => hunwanted ?_).trans hobject
    obtain ⟨own, hown, hstored⟩ := hkept other hother
    obtain rfl : own = reference := Except.ok.inj (hown.symm.trans hsame)
    obtain rfl : other = object := Option.some.inj (hstored.symm.trans hobject)
    exact ((hmem other).1 hother).2
  · intro reference habsent
    refine (hpasses.others reference fun other hother hsame => ?_).trans habsent
    obtain ⟨own, hown, hstored⟩ := hkept other hother
    obtain rfl : own = reference := Except.ok.inj (hown.symm.trans hsame)
    rw [habsent] at hstored
    cases hstored

/-- If there is nothing to do for any object that is wanted, a pass does nothing. -/
theorem on_listing_of_idle (hkeyed : store.Keyed) (hgvk : scheme.gvk type = .ok gvk)
    (hvalid : validateList options = .ok ())
    (hparse : Label.parse (options.labelSelector.getD "") = .ok selector) {told : List String}
    (hall : ∀ object ∈ store.objects, Wanted gvk options selector object →
      ∃ value, scheme.fromDynamic type object = .ok value ∧
        (act value).on ⟨store, told⟩ = (.ok (), ⟨store, told⟩)) :
    (listing scheme type options act).on ⟨store, told⟩ = (.ok (), ⟨store, told⟩) := by
  obtain ⟨shown, hlist, -, hmem⟩ := hkeyed.exists_shown gvk hvalid hparse
  obtain ⟨values, hvalues, hidle⟩ := exists_received fun object hobject => by
    obtain ⟨hstored, hwanted⟩ := (hmem object).1 hobject
    exact hall object hstored hwanted
  rw [listing, Attempt.on_bind, Pass.on_doing, on_listObjects_eq hgvk hlist, hvalues]
  exact Attempt.on_forM_of_idle hidle

end Listing

end Store

end Reconciler
