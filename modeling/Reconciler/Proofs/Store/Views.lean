import Mathlib
import Reconciler.Proofs.Store.Listing
/-!
What a store shows of its contents as a whole.  All objects, the different kinds, the objects of
one kind and a plain listing are four traversals that know nothing of each other.  They agree
because references are ordered by their kinds first, and neither the history of a store nor the
order in which its entries are gone through leaves a trace in them.
-/
namespace Reconciler

universe u v

section Entries

variable {κ : Type u} {β : Type v} [Ord κ] [Std.TransOrd κ] [Std.LawfulEqOrd κ]

/-- Entries in increasing key order are determined by which entries they are. -/
theorem Entries.eq_of_mem_iff {left right : List (κ × β)} (hleft : Entries.Sorted left)
    (hright : Entries.Sorted right) (hsame : ∀ entry, entry ∈ left ↔ entry ∈ right) :
    left = right := by
  apply Entries.eq_of_get?_eq hleft hright
  intro key
  apply Option.ext
  intro value
  rw [Entries.get?_eq_some_iff hleft, Entries.get?_eq_some_iff hright, hsame]

/-- Whether the key of an entry comes before that of another or is the same. -/
def Entries.keyLE (first second : κ × β) : Bool :=
  (compare first.1 second.1).isLE

/-- Entries with different keys, in the order of their keys. -/
theorem Entries.sorted_mergeSort {listing : List (κ × β)}
    (hkeys : (listing.map (·.1)).Nodup) : Entries.Sorted (listing.mergeSort Entries.keyLE) := by
  have hordered : (listing.mergeSort Entries.keyLE).Pairwise
      fun first second => Entries.keyLE first second = true := by
    apply List.pairwise_mergeSort
    · intro first second third hfirst hsecond
      exact Std.TransCmp.isLE_trans hfirst hsecond
    · intro first second
      have hswap : compare second.1 first.1 = (compare first.1 second.1).swap :=
        Std.OrientedCmp.eq_swap
      rw [Entries.keyLE, Entries.keyLE, hswap]
      cases compare first.1 second.1 <;> rfl
  have hdistinct : (listing.mergeSort Entries.keyLE).Pairwise
      fun first second => first.1 ≠ second.1 := by
    rw [← List.pairwise_map (f := Prod.fst) (R := (· ≠ ·))]
    exact ((List.mergeSort_perm listing Entries.keyLE).map Prod.fst).nodup_iff.2 hkeys
  refine (hordered.and hdistinct).imp ?_
  rintro first second ⟨hle, hne⟩
  cases horder : compare first.1 second.1 with
  | lt => rfl
  | eq => exact absurd (Std.LawfulEqOrd.eq_of_compare horder) hne
  | gt => simp [Entries.keyLE, horder] at hle

end Entries

/-- Kinds by their groups, then by their names. -/
def GroupKind.Before (first second : GroupKind) : Prop :=
  first.group < second.group ∨ first.group = second.group ∧ first.kind < second.kind

theorem GroupKind.compare_eq_lt_iff {first second : GroupKind} :
    compare first second = .lt ↔ first.Before second := by
  have hcompare : compare first second =
      (compare first.group second.group).then (compare first.kind second.kind) := rfl
  rw [hcompare, Ordering.then_eq_lt, Std.compare_eq_iff_eq, compare_lt_iff_lt, compare_lt_iff_lt,
    Before]

namespace ObjectRef

/-- References by their kinds, then by their keys. -/
def Before (first second : ObjectRef) : Prop :=
  first.groupKind.Before second.groupKind ∨
    first.groupKind = second.groupKind ∧ first.key.Before second.key

theorem compare_eq_lt_iff {first second : ObjectRef} :
    compare first second = .lt ↔ first.Before second := by
  have hcompare : compare first second =
      (compare first.groupKind second.groupKind).then (compare first.key second.key) := rfl
  rw [hcompare, Ordering.then_eq_lt, Std.compare_eq_iff_eq, GroupKind.compare_eq_lt_iff,
    ObjectKey.compare_eq_lt_iff, Before]

end ObjectRef

namespace Store

/-! The traversals of a store. -/

theorem mem_groupKinds_iff {store : Store} {groupKind : GroupKind} :
    groupKind ∈ store.groupKinds ↔
      ∃ entry ∈ store.entries.entries, entry.1.groupKind = groupKind := by
  have hcontains : groupKind ∈ store.groupKinds ↔
      (SortedMap.ofList (store.references.map fun reference => (reference.groupKind, ()))).contains
        groupKind = true := by
    rw [groupKinds, SortedMap.mem_keys_iff, SortedMap.contains, Option.isSome_iff_exists]
  rw [hcontains, SortedMap.contains_ofList_iff]
  simp [references, SortedMap.keys]

theorem groupKinds_pairwise (store : Store) :
    store.groupKinds.Pairwise GroupKind.Before := by
  rw [groupKinds, SortedMap.keys, List.pairwise_map]
  exact (SortedMap.sorted _).imp GroupKind.compare_eq_lt_iff.1

/-- The entries are those of each kind, one kind after another: a reference to an earlier kind is
the earlier reference. -/
theorem entries_eq_flatMap (store : Store) :
    store.entries.entries = store.groupKinds.flatMap fun groupKind =>
      (store.entries.filter fun reference _ => reference.groupKind = groupKind).entries := by
  apply Entries.eq_of_mem_iff store.entries.sorted
  · refine List.pairwise_flatMap.2 ⟨fun groupKind _ => SortedMap.sorted _, ?_⟩
    refine store.groupKinds_pairwise.imp ?_
    intro earlier later hbefore first hfirst second hsecond
    obtain ⟨-, hfirstKind⟩ := SortedMap.mem_entries_filter_iff.1 hfirst
    obtain ⟨-, hsecondKind⟩ := SortedMap.mem_entries_filter_iff.1 hsecond
    apply ObjectRef.compare_eq_lt_iff.2
    left
    rwa [of_decide_eq_true hfirstKind, of_decide_eq_true hsecondKind]
  · intro entry
    rw [List.mem_flatMap]
    constructor
    · intro hentry
      refine ⟨entry.1.groupKind, mem_groupKinds_iff.2 ⟨entry, hentry, rfl⟩, ?_⟩
      exact SortedMap.mem_entries_filter_iff.2 ⟨hentry, decide_eq_true rfl⟩
    · rintro ⟨groupKind, -, hentry⟩
      exact (SortedMap.mem_entries_filter_iff.1 hentry).1

theorem objects_eq_flatMap (store : Store) :
    store.objects = store.groupKinds.flatMap store.groupKindObjects := by
  rw [objects, SortedMap.values, store.entries_eq_flatMap, List.map_flatMap]
  rfl

/-- Options that ask for nothing in particular select by kind alone. -/
theorem on_list_default (gvk : GroupVersionKind) (store : Store) :
    (list gvk {}).on store = (.ok (store.groupKindObjects gvk.groupKind), store) := by
  have hrequest : request {} = .ok ⟨none, []⟩ := rfl
  have hselects : (selects gvk ⟨none, []⟩) =
      fun reference (_ : Object) => decide (reference.groupKind = gvk.groupKind) := by
    funext reference object
    simp [selects, Filter.admits, Label.Selector.matches]
  rw [on_list, hrequest, Except.map, hselects]
  rfl

/-- The entries of a store as they come, in any order but each once. -/
def Enumerates (listing : List (ObjectRef × Object)) (store : Store) : Prop :=
  listing.Perm store.entries.entries

variable {log : Log} {store : Store} {listing : List (ObjectRef × Object)}

/-- Entries that come in any order are put into the order of their references by sorting, whichever
of them are left out before. -/
theorem Enumerates.mergeSort_filter (h : Enumerates listing store)
    (keep : ObjectRef → Object → Bool) :
    (listing.filter fun entry => keep entry.1 entry.2).mergeSort Entries.keyLE =
      (store.entries.filter keep).entries := by
  have hperm : (listing.filter fun entry => keep entry.1 entry.2).Perm
      (store.entries.filter keep).entries := h.filter _
  have hkeys : ((listing.filter fun entry => keep entry.1 entry.2).map (·.1)).Nodup :=
    (hperm.map Prod.fst).nodup_iff.2 (Entries.nodup_keys (SortedMap.sorted _))
  apply Entries.eq_of_mem_iff (Entries.sorted_mergeSort hkeys) (SortedMap.sorted _)
  intro entry
  exact ((List.mergeSort_perm _ _).trans hperm).mem_iff

theorem Enumerates.mergeSort (h : Enumerates listing store) :
    listing.mergeSort Entries.keyLE = store.entries.entries := by
  have hall := h.mergeSort_filter fun _ _ => true
  simpa [SortedMap.filter] using hall

/-- References that come in any order are sorted and looked up one by one. -/
theorem Enumerates.objects_eq (h : Enumerates listing store) :
    ((listing.map (·.1)).mergeSort fun first second => (compare first second).isLE).filterMap
      store.entries.get? = store.objects := by
  have hsorted : (listing.map (·.1)).mergeSort (fun first second => (compare first second).isLE) =
      store.entries.entries.map (·.1) := by
    rw [← h.mergeSort]
    exact (List.map_mergeSort (r := Entries.keyLE) (f := Prod.fst) fun _ _ _ _ => rfl).symm
  rw [hsorted, List.filterMap_map, objects, SortedMap.values, ← List.filterMap_eq_map]
  apply List.filterMap_congr
  intro entry hentry
  exact SortedMap.get?_eq_some_iff.2 hentry

theorem Enumerates.groupKinds_eq (h : Enumerates listing store) :
    (SortedMap.ofList (listing.map fun entry => (entry.1.groupKind, ()))).keys =
      store.groupKinds := by
  have hsame : SortedMap.ofList (listing.map fun entry => (entry.1.groupKind, ())) =
      SortedMap.ofList (store.references.map fun reference => (reference.groupKind, ())) := by
    apply SortedMap.ext_contains
    intro groupKind
    rw [SortedMap.contains_ofList_iff, SortedMap.contains_ofList_iff]
    simp [references, SortedMap.keys, h.mem_iff]
  rw [groupKinds, hsame]

/-- What the views of a store show of the objects that the log of its calls leaves. -/
structure Views (scheme : Scheme) (log : Log) (store : Store) : Prop where
  mem_objects_iff : ∀ object,
    object ∈ store.objects ↔ ∃ reference, log.written reference = some object
  nodup : store.objects.Nodup
  ordered : store.objects.Pairwise fun first second => ∃ left right,
    ObjectRef.ofTyped scheme .dynamic first = .ok left ∧
      ObjectRef.ofTyped scheme .dynamic second = .ok right ∧ left.Before right
  mem_groupKinds_iff : ∀ groupKind, groupKind ∈ store.groupKinds ↔
    ∃ object ∈ store.objects, ∃ gvk, object.gvk = .ok gvk ∧ gvk.groupKind = groupKind
  kindsOrdered : store.groupKinds.Pairwise GroupKind.Before
  objects_eq : store.objects = store.groupKinds.flatMap store.groupKindObjects
  /-- A listing that asks for nothing in particular shows the objects of the kind, whatever the
  version. -/
  list_eq : ∀ gvk, ((client scheme).list gvk {}).on store =
    (.ok (store.groupKindObjects gvk.groupKind), store)

/-- What does not show in the views of a store. -/
structure Forgets (scheme : Scheme) (log : Log) (store : Store) : Prop where
  /-- Other calls that leave the same object under each reference lead to the same views. -/
  calls : ∀ others : List Call,
    let past := history (client scheme) .empty others
    (∀ reference, past.1.written reference = log.written reference) →
      past.2.objects = store.objects ∧ past.2.groupKinds = store.groupKinds ∧
        (∀ groupKind, past.2.groupKindObjects groupKind = store.groupKindObjects groupKind) ∧
          ∀ gvk options, (((client scheme).list gvk options).on past.2).1 =
            (((client scheme).list gvk options).on store).1
  /-- Each view can be had from the entries in whatever order they come. -/
  order : ∀ listing, Enumerates listing store →
    store.objects = ((listing.map (·.1)).mergeSort fun first second =>
        (compare first second).isLE).filterMap store.entries.get? ∧
      store.groupKinds =
        (SortedMap.ofList (listing.map fun entry => (entry.1.groupKind, ()))).keys ∧
      ∀ groupKind, store.groupKindObjects groupKind =
        ((listing.filter fun entry => entry.1.groupKind = groupKind).mergeSort
          Entries.keyLE).map (·.2)

theorem Follows.views (scheme : Scheme) (h : Follows log store) : Views scheme log store where
  mem_objects_iff := by
    intro object
    simp only [objects, SortedMap.mem_values_iff, ← SortedMap.get?_eq_some_iff, h.get?_eq]
  nodup := h.distinct.imp fun hne hsame => hne (congrArg ObjectRef.ofObject hsame)
  ordered := by
    rw [objects, SortedMap.values, List.pairwise_map]
    refine List.Pairwise.imp_of_mem ?_ store.entries.sorted
    intro first second hfirst hsecond hless
    exact ⟨first.1, second.1, h.ofObject_of_mem hfirst, h.ofObject_of_mem hsecond,
      ObjectRef.compare_eq_lt_iff.1 hless⟩
  mem_groupKinds_iff := by
    intro groupKind
    rw [Store.mem_groupKinds_iff]
    constructor
    · rintro ⟨entry, hentry, rfl⟩
      obtain ⟨gvk, hgvk, hreference⟩ := Except.map_eq_ok_iff.1 (h.ofObject_of_mem hentry)
      refine ⟨entry.2, SortedMap.mem_values_iff.2 ⟨entry.1, hentry⟩, gvk, hgvk, ?_⟩
      rw [← hreference]
    · rintro ⟨object, hobject, gvk, hgvk, rfl⟩
      obtain ⟨reference, hentry⟩ := SortedMap.mem_values_iff.1 hobject
      obtain ⟨found, hfound, hreference⟩ := Except.map_eq_ok_iff.1 (h.ofObject_of_mem hentry)
      obtain rfl : found = gvk := Except.ok.inj (hfound.symm.trans hgvk)
      exact ⟨(reference, object), hentry, by rw [← hreference]⟩
  kindsOrdered := store.groupKinds_pairwise
  objects_eq := store.objects_eq_flatMap
  list_eq gvk := on_list_default gvk store

theorem Follows.forgets (scheme : Scheme) (h : Follows log store) : Forgets scheme log store where
  calls := by
    intro others past hsame
    have hpast : Follows past.1 past.2 := follows_history scheme others
    have hentries : past.2.entries = store.entries := by
      apply SortedMap.ext_get?
      intro reference
      rw [hpast.get?_eq, h.get?_eq, hsame]
    obtain rfl : past.2 = store := by
      cases hstore : past.2
      cases store
      simpa [hstore] using hentries
    exact ⟨rfl, rfl, fun _ => rfl, fun _ _ => rfl⟩
  order := by
    intro listing hlisting
    refine ⟨hlisting.objects_eq.symm, hlisting.groupKinds_eq.symm, fun groupKind => ?_⟩
    rw [hlisting.mergeSort_filter fun reference _ => reference.groupKind = groupKind]
    rfl

/-- After any history the views of a store show what the log leaves, each object once and in order,
and agree with one another, and nothing else about the history shows in them. -/
theorem history_views (scheme : Scheme) (calls : List Call) :
    let past := history (client scheme) .empty calls
    Views scheme past.1 past.2 ∧ Forgets scheme past.1 past.2 := by
  intro past
  have h : Follows past.1 past.2 := follows_history scheme calls
  exact ⟨h.views scheme, h.forgets scheme⟩

end Store

end Reconciler
