import Mathlib
import Reconciler.Proofs.Store.History
/-!
What a listing shows, and what a bulk deletion takes away.  The two go through the entries of a
store independently; they agree because every object is kept under its own reference, so that an
object alone decides whether it is asked for.
-/
namespace Reconciler

namespace ObjectKey

/-- Keys without a namespace come first, then keys by their namespaces, then by their names. -/
def Before (first second : ObjectKey) : Prop :=
  match first.namespaceName, second.namespaceName with
  | none, none => first.name < second.name
  | none, some _ => True
  | some _, none => False
  | some left, some right => left < right ∨ left = right ∧ first.name < second.name

theorem compare_eq_lt_iff {first second : ObjectKey} :
    compare first second = .lt ↔ first.Before second := by
  have hcompare : compare first second =
      (compare first.namespaceName second.namespaceName).then
        (compare first.name second.name) := rfl
  rw [hcompare, Ordering.then_eq_lt, Std.compare_eq_iff_eq, compare_lt_iff_lt, Before]
  cases hfirst : first.namespaceName with
  | none =>
      cases second.namespaceName with
      | none => simp [compare]
      | some right => simp [compare]
  | some left =>
      cases second.namespaceName with
      | none => simp [compare]
      | some right =>
          have hsome : compare (some left) (some right) = compare left right := rfl
          rw [hsome, compare_lt_iff_lt, Option.some.injEq]

theorem ne_of_before {first second : ObjectKey} (h : first.Before second) : first ≠ second := by
  intro hsame
  rw [← compare_eq_lt_iff, Std.compare_eq_iff_eq.2 hsame] at h
  cases h

end ObjectKey

/-- Whether labels satisfy a requirement.  An absent label is different from every value and in no
set of values. -/
def Label.Expression.Satisfied (labels : StringMap) : Label.Expression → Prop
  | .equal key value => labels.get? key = some value
  | .notEqual key value => labels.get? key ≠ some value
  | .isIn key values => ∃ value ∈ labels.get? key, value ∈ values.toList
  | .notIn key values => ∀ value ∈ labels.get? key, value ∉ values.toList
  | .present key => ∃ value, labels.get? key = some value
  | .absent key => labels.get? key = none

theorem Label.Expression.matches_iff {labels : StringMap} {expression : Label.Expression} :
    expression.matches labels = true ↔ expression.Satisfied labels := by
  cases expression with
  | equal key value | notEqual key value => simp [«matches», Satisfied]
  | isIn key values | notIn key values =>
      cases hlabel : labels.get? key <;>
        simp [«matches», Satisfied, hlabel, ← StringSet.contains_iff]
  | present key => simp [«matches», Satisfied, SortedMap.contains, Option.isSome_iff_exists]
  | absent key => simp [«matches», Satisfied, SortedMap.contains]

namespace Store

/-- An object that list options ask for among those of a kind. -/
structure Wanted (gvk : GroupVersionKind) (options : ListOptions) (selector : Label.Selector)
    (object : Object) : Prop where
  /-- Its own kind is the kind asked for, in any version. -/
  kind : ∃ found, object.gvk = .ok found ∧ found.groupKind = gvk.groupKind
  /-- It is in the namespace asked for, if there is one. -/
  inNamespace : options.namespaceName.getD "" = "" ∨
    object.metadata.namespaceName = options.namespaceName
  labels : ∀ expression ∈ selector,
    expression.Satisfied (object.metadata.labels.getD .empty)

/-- What a listing of a store shows. -/
structure Lists (gvk : GroupVersionKind) (options : ListOptions) (store : Store)
    (listed : List Object) : Prop where
  ordered : listed.Pairwise fun first second =>
    (ObjectKey.ofObject first).Before (ObjectKey.ofObject second)
  nodup : listed.Nodup
  mem_iff : ∃ selector, Label.parse (options.labelSelector.getD "") = .ok selector ∧
    ∀ object, object ∈ listed ↔ object ∈ store.objects ∧ Wanted gvk options selector object

/-- The filter of a request, if the options can be served. -/
def request (options : ListOptions) : Except ClientError Filter := do
  validateList options
  Filter.ofOptions options

theorem on_list (gvk : GroupVersionKind) (options : ListOptions) (store : Store) :
    (list gvk options).on store =
      ((request options).map fun filter => (store.entries.filter (selects gvk filter)).values,
        store) := by
  simp only [list, request, Attempt.on_bind, Attempt.on_ofExcept]
  cases validateList options with
  | error refused => rfl
  | ok checked =>
      cases Filter.ofOptions options with
      | error malformed => rfl
      | ok filter => rfl

/-- With the options of deletion unset, a bulk deletion checks what a listing checks. -/
theorem on_deleteAllOf (gvk : GroupVersionKind) (options : ListOptions) (store : Store) :
    (deleteAllOf gvk options {}).on store =
      match request options with
      | .ok filter => (.ok (), ⟨store.entries.filter fun reference object =>
          !selects gvk filter reference object⟩)
      | .error error => (.error error, store) := by
  have hdelete : validateDelete {} = .ok () := rfl
  simp only [deleteAllOf, request, hdelete, Attempt.on_bind, Attempt.on_ofExcept]
  cases validateList options with
  | error refused => rfl
  | ok checked =>
      cases hfilter : Filter.ofOptions options with
      | error malformed => simp [bind, Except.bind]
      | ok filter => simp [bind, Except.bind]

theorem request_eq_ok {options : ListOptions} {filter : Filter}
    (h : request options = .ok filter) :
    ∃ selector, Label.parse (options.labelSelector.getD "") = .ok selector ∧
      Filter.ofOptions options = .ok filter := by
  obtain ⟨_, -, hfilter⟩ := Except.bind_eq_ok_iff.1 h
  cases hparse : Label.parse (options.labelSelector.getD "") with
  | error malformed => simp [Filter.ofOptions, hparse] at hfilter
  | ok selector => exact ⟨selector, rfl, hfilter⟩

variable {log : Log} {store : Store}

/-- An object under its own reference is selected if it is wanted. -/
theorem selects_iff_wanted {gvk : GroupVersionKind} {options : ListOptions} {filter : Filter}
    {selector : Label.Selector} {reference : ObjectRef} {object : Object}
    (hfilter : Filter.ofOptions options = .ok filter)
    (hparse : Label.parse (options.labelSelector.getD "") = .ok selector)
    (hreference : ObjectRef.ofObject object = .ok reference) :
    selects gvk filter reference object = true ↔ Wanted gvk options selector object := by
  obtain ⟨found, hfound, rfl⟩ := Except.map_eq_ok_iff.1 hreference
  have hmatches : selector.matches (object.metadata.labels.getD .empty) = true ↔
      ∀ expression ∈ selector, expression.Satisfied (object.metadata.labels.getD .empty) := by
    simp only [Label.Selector.matches, List.all_eq_true, Label.Expression.matches_iff]
  rw [selects_eq_covers hfilter, covers, hparse]
  simp only [Except.toOption, Option.any_some, Bool.and_eq_true, Bool.or_eq_true,
    decide_eq_true_eq, hmatches]
  constructor
  · rintro ⟨⟨hkind, hname⟩, hlabels⟩
    exact ⟨⟨found, hfound, hkind⟩, hname, hlabels⟩
  · rintro ⟨⟨other, hother, hkind⟩, hname, hlabels⟩
    obtain rfl : found = other := Except.ok.inj (hfound.symm.trans hother)
    exact ⟨⟨hkind, hname⟩, hlabels⟩

/-- The objects of one kind are kept in the order of their keys. -/
theorem Keyed.ordered (h : store.Keyed) (gvk : GroupVersionKind) (filter : Filter) :
    (store.entries.filter (selects gvk filter)).values.Pairwise fun first second =>
      (ObjectKey.ofObject first).Before (ObjectKey.ofObject second) := by
  rw [SortedMap.values, List.pairwise_map]
  refine List.Pairwise.imp_of_mem ?_ (store.entries.filter (selects gvk filter)).sorted
  intro first second hfirst hsecond hless
  obtain ⟨hfirst, hfirstKind⟩ := SortedMap.mem_entries_filter_iff.1 hfirst
  obtain ⟨hsecond, hsecondKind⟩ := SortedMap.mem_entries_filter_iff.1 hsecond
  simp only [selects, Bool.and_eq_true, decide_eq_true_eq] at hfirstKind hsecondKind
  have hkey : ∀ entry ∈ store.entries.entries, entry.1.key = ObjectKey.ofObject entry.2 := by
    intro entry hentry
    obtain ⟨found, -, hreference⟩ := Except.map_eq_ok_iff.1 (h.ofObject_of_mem hentry)
    rw [← hreference]
  have hsplit : compare first.1 second.1 =
      (compare first.1.groupKind second.1.groupKind).then (compare first.1.key second.1.key) := rfl
  have hkinds : compare first.1.groupKind second.1.groupKind = .eq := by
    rw [hfirstKind.1, hsecondKind.1]
    exact Std.ReflCmp.compare_self
  rw [hsplit, hkinds, hkey first hfirst, hkey second hsecond] at hless
  exact ObjectKey.compare_eq_lt_iff.1 hless

theorem Keyed.lists (h : store.Keyed) (gvk : GroupVersionKind) {options : ListOptions}
    {filter : Filter} (hrequest : request options = .ok filter) :
    Lists gvk options store (store.entries.filter (selects gvk filter)).values where
  ordered := h.ordered gvk filter
  nodup := (h.ordered gvk filter).imp fun hbefore hsame =>
    ObjectKey.ne_of_before hbefore (congrArg ObjectKey.ofObject hsame)
  mem_iff := by
    obtain ⟨selector, hparse, hfilter⟩ := request_eq_ok hrequest
    refine ⟨selector, hparse, fun object => ?_⟩
    rw [objects, SortedMap.mem_values_iff, SortedMap.mem_values_iff, ← exists_and_right]
    refine exists_congr fun reference => ?_
    rw [SortedMap.mem_entries_filter_iff]
    refine and_congr_right fun hentry => ?_
    exact selects_iff_wanted hfilter hparse (h.ofObject_of_mem hentry)

theorem Follows.lists (h : Follows log store) (gvk : GroupVersionKind) {options : ListOptions}
    {filter : Filter} (hrequest : request options = .ok filter) :
    Lists gvk options store (store.entries.filter (selects gvk filter)).values :=
  Keyed.lists h.keyed gvk hrequest

/-- An object determines the reference that it is kept under. -/
theorem Follows.reference_eq (h : Follows log store) :
    ∀ first ∈ store.entries.entries, ∀ second ∈ store.entries.entries,
      first.2 = second.2 → first.1 = second.1 := by
  intro first hfirst second hsecond hsame
  have hreference := h.ofObject_of_mem hfirst
  rw [hsame, h.ofObject_of_mem hsecond] at hreference
  exact (Except.ok.inj hreference).symm

/-- After any history, a listing shows the stored objects that are wanted, each once and in the
order of their keys, and a bulk deletion with the same options and no others takes away exactly
these, in place; if there is no such listing then the deletion fails for the same reason and takes
away nothing. -/
theorem deleteAllOf_removes_listed (scheme : Scheme) (calls : List Call) (gvk : GroupVersionKind)
    (options : ListOptions) :
    let store := (history (client scheme) .empty calls).2
    match ((client scheme).list gvk options).on store with
    | (.ok listed, seen) =>
      seen = store ∧ Lists gvk options store listed ∧
        ∃ after, ((client scheme).deleteAllOf gvk options {}).on store = (.ok (), after) ∧
          ((client scheme).list gvk options).on after = (.ok [], after) ∧
          after.objects = store.objects.filter (· ∉ listed)
    | (.error error, seen) =>
      seen = store ∧ ((client scheme).deleteAllOf gvk options {}).on store = (.error error, store)
    := by
  intro store
  have h : Follows _ store := follows_history scheme calls
  have hlist : ((client scheme).list gvk options).on store = _ := on_list gvk options store
  have hdelete : ((client scheme).deleteAllOf gvk options {}).on store = _ :=
    on_deleteAllOf gvk options store
  cases hrequest : request options with
  | error error =>
      rw [hlist, hdelete, hrequest]
      exact ⟨rfl, rfl⟩
  | ok filter =>
      rw [hlist, hdelete, hrequest]
      refine ⟨rfl, h.lists gvk hrequest, _, rfl, ?_, ?_⟩
      · have hagain := on_list gvk options ⟨store.entries.filter fun reference object =>
          !selects gvk filter reference object⟩
        rw [hrequest, Except.map, SortedMap.filter_filter_not] at hagain
        exact hagain
      · exact SortedMap.values_filter_not h.reference_eq

end Store

end Reconciler
