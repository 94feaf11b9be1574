import Mathlib
import Reconciler.Attempt
import Reconciler.Owner
/-!
Controllers of objects.  A controller reference names one owner by five parts, so no two owners
that differ in one of them control the same object; the items of a list that an owner controls are
those at certain positions, and for such owners the positions are different ones.
-/
namespace Reconciler

/-- A reference names an owner of a kind: group, version, kind, name and uid are all those of the
owner. -/
structure OwnerReference.Names (reference : OwnerReference) (gvk : GroupVersionKind)
    (owner : ObjectMeta) : Prop where
  parsed : GroupVersion.parse reference.apiVersion = .ok ⟨gvk.group, gvk.version⟩
  kind : reference.kind = gvk.kind
  name : owner.name = some reference.name
  uid : owner.uid = some reference.uid

theorem OwnerReference.pointsAt_eq_true_iff {reference : OwnerReference} {gvk : GroupVersionKind}
    {owner : ObjectMeta} : reference.pointsAt gvk owner = .ok true ↔ reference.Names gvk owner := by
  rw [pointsAt, Except.map_eq_ok_iff]
  constructor
  · rintro ⟨⟨group, version⟩, hparse, hsame⟩
    obtain ⟨rfl, rfl, hkind, hname, huid⟩ := of_decide_eq_true hsame
    exact ⟨hparse, hkind, hname, huid⟩
  · rintro ⟨hparse, hkind, hname, huid⟩
    exact ⟨_, hparse, decide_eq_true ⟨rfl, rfl, hkind, hname, huid⟩⟩

/-- Two objects, of which each may be of a type or of any kind, have the same group, version, kind,
name and uid. -/
structure SameOwner (scheme : Scheme) {first second : ObjectType} (left : first.Value)
    (right : second.Value) : Prop where
  gvk : ∃ gvk, scheme.gvkFor first left = .ok gvk ∧ scheme.gvkFor second right = .ok gvk
  name : (first.metadata left).name = (second.metadata right).name
  uid : (first.metadata left).uid = (second.metadata right).uid

section

variable {scheme : Scheme} {type : ObjectType} {owner : type.Value} {controlled : ObjectMeta}

/-- Only an object with a controller reference is asked for its owner. -/
theorem isControlledBy_of_controller? {reference : OwnerReference}
    (hreference : controlled.controller? = some reference) :
    isControlledBy scheme type owner controlled =
      scheme.gvkFor type owner >>= fun gvk => reference.pointsAt gvk (type.metadata owner) := by
  rw [isControlledBy, hreference]

theorem isControlledBy_eq_true_iff :
    isControlledBy scheme type owner controlled = .ok true ↔
      ∃ reference gvk, controlled.controller? = some reference ∧
        scheme.gvkFor type owner = .ok gvk ∧ reference.Names gvk (type.metadata owner) := by
  rcases hreference : controlled.controller? with _ | reference
  · simp [isControlledBy, hreference]
  · rw [isControlledBy_of_controller? hreference, Except.bind_eq_ok_iff]
    simp only [Option.some.injEq, OwnerReference.pointsAt_eq_true_iff, exists_and_left,
      exists_eq_left']

/-- It cannot be told whose an object is if its controller reference is looked at, and the owner
has no kind or the reference no API version. -/
theorem isControlledBy_eq_error_iff {error : SchemeError} :
    isControlledBy scheme type owner controlled = .error error ↔
      ∃ reference, controlled.controller? = some reference ∧
        (scheme.gvkFor type owner = .error error ∨
          ∃ gvk, scheme.gvkFor type owner = .ok gvk ∧
            GroupVersion.parse reference.apiVersion = .error error) := by
  rcases hreference : controlled.controller? with _ | reference
  · simp [isControlledBy, hreference]
  · rw [isControlledBy_of_controller? hreference]
    rcases scheme.gvkFor type owner with unresolved | gvk
    · simp [bind, Except.bind]
    · have hparse : (Except.ok gvk >>= fun gvk =>
          reference.pointsAt gvk (type.metadata owner)) = .error error ↔
            GroupVersion.parse reference.apiVersion = .error error := Except.map_eq_error_iff
      simp [hparse]

/-- The controller of an object is one owner. -/
theorem sameOwner_of_controlled {other : ObjectType} {rival : other.Value}
    (howner : isControlledBy scheme type owner controlled = .ok true)
    (hrival : isControlledBy scheme other rival controlled = .ok true) :
    SameOwner scheme owner rival := by
  obtain ⟨reference, gvk, hreference, hgvk, hnames⟩ := isControlledBy_eq_true_iff.1 howner
  obtain ⟨_, other, hsame, hother, hothers⟩ := isControlledBy_eq_true_iff.1 hrival
  obtain rfl := Option.some.inj (hreference.symm.trans hsame)
  have hversion := Except.ok.inj (hnames.parsed.symm.trans hothers.parsed)
  obtain ⟨hgroup, hversion⟩ := GroupVersion.mk.inj hversion
  have hkinds : other = gvk := by
    cases gvk
    cases other
    exact GroupVersionKind.mk.injEq .. ▸
      ⟨hgroup.symm, hversion.symm, hothers.kind.symm.trans hnames.kind⟩
  subst hkinds
  exact ⟨⟨other, hgvk, hother⟩, hnames.name.trans hothers.name.symm,
    hnames.uid.trans hothers.uid.symm⟩

end

section

variable (scheme : Scheme) (type : ObjectType) (owner : type.Value) {α : Type}
  (metadata : α → ObjectMeta) (items : List α)

/-- Whether an owner is known to control an item. -/
def controls (item : α) : Bool :=
  match isControlledBy scheme type owner (metadata item) with
  | .ok controlled => controlled
  | .error _ => false

/-- The positions of the items that an owner is known to control. -/
def controlledPositions : List Nat :=
  items.findIdxs (controls scheme type owner metadata)

/-- What there is to say about the items of a list that an owner controls. -/
structure KeepsControlled : Prop where
  /-- It can be told for all of them, or for none. -/
  fails_iff : (∃ error, keepControlledBy scheme type owner metadata items = .error error) ↔
    ∃ item ∈ items, ∃ error, isControlledBy scheme type owner (metadata item) = .error error
  /-- The first item for which it cannot be told decides the error, and has a controller. -/
  first : ∀ error, keepControlledBy scheme type owner metadata items = .error error →
    ∃ front item back reference, items = front ++ item :: back ∧
      (∀ before ∈ front, ∃ told, isControlledBy scheme type owner (metadata before) = .ok told) ∧
      isControlledBy scheme type owner (metadata item) = .error error ∧
      (metadata item).controller? = some reference
  keeps : ∀ kept, keepControlledBy scheme type owner metadata items = .ok kept →
    kept = items.filter (controls scheme type owner metadata) ∧
    kept.map some =
      (controlledPositions scheme type owner metadata items).map (items[·]?) ∧
    keepControlledBy scheme type owner metadata kept = .ok kept

variable {scheme type owner metadata items}

theorem controls_iff {item : α} :
    controls scheme type owner metadata item = true ↔
      isControlledBy scheme type owner (metadata item) = .ok true := by
  rw [controls]
  cases isControlledBy scheme type owner (metadata item) <;> simp

/-- The items at the positions of those that pass a test are those that pass it. -/
theorem map_some_filter (test : α → Bool) (items : List α) :
    (items.filter test).map some = (items.findIdxs test).map (items[·]?) := by
  induction items with
  | nil => rfl
  | cons first rest ih =>
      rw [List.findIdxs_cons, List.findIdxs_start, List.filter_cons]
      have hshift : ((rest.findIdxs test).map (· + 1)).map ((first :: rest)[·]?) =
          (rest.findIdxs test).map (rest[·]?) := by
        rw [List.map_map]
        rfl
      split
      · rw [List.map_cons, List.map_cons, hshift, ih]
        rfl
      · rw [hshift, ih]

/-- Where it can be told of all items, those that the owner controls are kept. -/
theorem keepControlledBy_of_told (htold : ∀ item ∈ items,
      isControlledBy scheme type owner (metadata item) =
        .ok (controls scheme type owner metadata item)) :
    keepControlledBy scheme type owner metadata items =
      .ok (items.filter (controls scheme type owner metadata)) := by
  induction items with
  | nil => rfl
  | cons first rest ih =>
      obtain ⟨hfirst, hrest⟩ := List.forall_mem_cons.1 htold
      rw [keepControlledBy, hfirst, ih hrest, List.filter_cons]
      cases controls scheme type owner metadata first <;> rfl

/-- Nothing behind the first item for which it cannot be told matters. -/
theorem keepControlledBy_of_untold {front back : List α} {item : α} {error : SchemeError}
    (hfront : ∀ before ∈ front, ∃ told,
      isControlledBy scheme type owner (metadata before) = .ok told)
    (hitem : isControlledBy scheme type owner (metadata item) = .error error) :
    keepControlledBy scheme type owner metadata (front ++ item :: back) = .error error := by
  induction front with
  | nil =>
      rw [List.nil_append, keepControlledBy, hitem]
      rfl
  | cons first front ih =>
      obtain ⟨⟨told, htold⟩, hfront⟩ := List.forall_mem_cons.1 hfront
      rw [List.cons_append, keepControlledBy, htold, ih hfront]
      cases told <;> rfl

theorem told_or_first_untold (scheme : Scheme) (type : ObjectType) (owner : type.Value)
    (metadata : α → ObjectMeta) (items : List α) :
    (∀ item ∈ items, isControlledBy scheme type owner (metadata item) =
        .ok (controls scheme type owner metadata item)) ∨
      ∃ front item back error, items = front ++ item :: back ∧
        (∀ before ∈ front, ∃ told,
          isControlledBy scheme type owner (metadata before) = .ok told) ∧
        isControlledBy scheme type owner (metadata item) = .error error := by
  induction items with
  | nil => exact .inl (by simp)
  | cons first rest ih =>
      rcases hfirst : isControlledBy scheme type owner (metadata first) with error | told
      · exact .inr ⟨[], first, rest, error, rfl, by simp, hfirst⟩
      · rcases ih with hrest | ⟨front, item, back, error, rfl, hfront, hitem⟩
        · have hcontrols : controls scheme type owner metadata first = told := by
            rw [controls, hfirst]
          exact .inl (List.forall_mem_cons.2 ⟨hcontrols ▸ hfirst, hrest⟩)
        · exact .inr ⟨first :: front, item, back, error, rfl,
            List.forall_mem_cons.2 ⟨⟨told, hfirst⟩, hfront⟩, hitem⟩

theorem keepsControlled (scheme : Scheme) (type : ObjectType) (owner : type.Value)
    (metadata : α → ObjectMeta) (items : List α) :
    KeepsControlled scheme type owner metadata items := by
  rcases told_or_first_untold scheme type owner metadata items with
    htold | ⟨front, item, back, error, rfl, hfront, hitem⟩
  · have hkept := keepControlledBy_of_told htold
    have hagain : ∀ item ∈ items.filter (controls scheme type owner metadata),
        isControlledBy scheme type owner (metadata item) =
          .ok (controls scheme type owner metadata item) :=
      fun item hitem => htold item (List.mem_filter.1 hitem).1
    constructor
    · refine iff_of_false ?_ ?_
      · rintro ⟨error, herror⟩
        rw [hkept] at herror
        cases herror
      · rintro ⟨item, hitem, error, herror⟩
        rw [htold item hitem] at herror
        cases herror
    · intro error herror
      rw [hkept] at herror
      cases herror
    · intro kept hok
      obtain rfl := Except.ok.inj (hkept.symm.trans hok)
      refine ⟨rfl, map_some_filter _ items, ?_⟩
      rw [keepControlledBy_of_told hagain, List.filter_filter]
      simp only [Bool.and_self]
  · have hfails : keepControlledBy scheme type owner metadata (front ++ item :: back) =
        .error error := keepControlledBy_of_untold hfront hitem
    obtain ⟨reference, hreference, -⟩ := isControlledBy_eq_error_iff.1 hitem
    constructor
    · exact iff_of_true ⟨error, hfails⟩ ⟨item, by simp, error, hitem⟩
    · intro found hfound
      obtain rfl := Except.error.inj (hfails.symm.trans hfound)
      exact ⟨front, item, back, reference, rfl, hfront, hitem, hreference⟩
    · intro kept hok
      rw [hfails] at hok
      cases hok

theorem disjoint_controlledPositions {other : ObjectType} {rival : other.Value}
    (hother : ¬ SameOwner scheme owner rival) :
    (controlledPositions scheme type owner metadata items).Disjoint
      (controlledPositions scheme other rival metadata items) := by
  intro position howner hrival
  obtain ⟨_, howner⟩ := List.mem_findIdxs_iff_exists_getElem_pos.1 howner
  obtain ⟨_, hrival⟩ := List.mem_findIdxs_iff_exists_getElem_pos.1 hrival
  exact hother (sameOwner_of_controlled (controls_iff.1 howner) (controls_iff.1 hrival))

end

/-- An object is controlled by at most one owner, whatever references it has, and cannot be told
apart only if it has a controller reference.  Of the items of a list an owner keeps exactly those
that it controls, in order and as often as they occur, and keeps them all when asked again; owners
that differ in their group, version, kind, name or uid keep items at different positions. -/
theorem owners_keep_apart (scheme : Scheme) :
    (∀ (first second : ObjectType) (left : first.Value) (right : second.Value)
        (controlled : ObjectMeta),
      isControlledBy scheme first left controlled = .ok true →
      isControlledBy scheme second right controlled = .ok true → SameOwner scheme left right) ∧
    (∀ (type : ObjectType) (owner : type.Value) (controlled : ObjectMeta) (error : SchemeError),
      isControlledBy scheme type owner controlled = .error error →
      ∃ reference, controlled.controller? = some reference) ∧
    (∀ (type : ObjectType) (owner : type.Value) (α : Type) (metadata : α → ObjectMeta)
        (items : List α), KeepsControlled scheme type owner metadata items) ∧
    ∀ (first second : ObjectType) (left : first.Value) (right : second.Value) (α : Type)
        (metadata : α → ObjectMeta) (items : List α),
      ¬ SameOwner scheme left right →
      (controlledPositions scheme first left metadata items).Disjoint
        (controlledPositions scheme second right metadata items) := by
  refine ⟨?_, ?_, ?_, ?_⟩
  · intro first second left right controlled hleft hright
    exact sameOwner_of_controlled hleft hright
  · intro type owner controlled error herror
    obtain ⟨reference, hreference, -⟩ := isControlledBy_eq_error_iff.1 herror
    exact ⟨reference, hreference⟩
  · intro type owner α metadata items
    exact keepsControlled scheme type owner metadata items
  · intro first second left right α metadata items hother
    exact disjoint_controlledPositions hother

end Reconciler
