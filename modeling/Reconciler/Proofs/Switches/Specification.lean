import Reconciler.Switches
/-!
What specifications do to switches.  Of the items that name a name, the last one decides whether it
is on; a name without such an item has its default if `*` is among the items, and is off if not.
Settings from before do not matter, unless the specification is empty or cannot be applied: then
they all stay.
-/
namespace Reconciler.Switches

variable {items parts : List String} {switches after : Switches} {spec item part name : String}
  {on : Bool}

/-- What an item says of a name: `-name` switches the name off, and any other item switches on the
name that it is. -/
inductive Turns (name : String) : Bool → String → Prop where
  | off : Turns name false (disable name)
  | on (hname : ∀ other, name ≠ disable other) : Turns name true name

/-- Whether an item names a name. -/
def Names (item name : String) : Prop :=
  ∃ on, Turns name on item

/-- The last of the items that name a name decides whether it is on. -/
inductive Decides (name : String) (on : Bool) : List String → Prop where
  | last {item : String} {rest : List String} (hitem : Turns name on item)
      (hrest : ∀ later ∈ rest, ¬Names later name) : Decides name on (item :: rest)
  | earlier {item : String} {rest : List String} (hrest : Decides name on rest) :
      Decides name on (item :: rest)

/-- What the parts of a specification set a name to, where the items are those that are known. -/
inductive Sets (items parts : List String) (name : String) : Bool → Prop where
  | named {on : Bool} (hnamed : Decides name on (parts.filter (· ≠ all))) :
      Sets items parts name on
  | default {on : Bool} (hunnamed : ∀ part ∈ parts, part ≠ all → ¬Names part name)
      (hall : all ∈ parts) (hdefault : Decides name on items) : Sets items parts name on
  | off (hunnamed : ∀ part ∈ parts, part ≠ all → ¬Names part name)
      (hdefault : all ∈ parts → ∀ item ∈ items, ¬Names item name) : Sets items parts name false

/-- The specifications that cannot be applied where the items are those that are known. -/
inductive Refused (items : List String) (spec : String) : Prop where
  | malformed {reason : SplitError} (hsplit : splitItems spec = .error reason)
  | disabledDefaults {parts : List String} (hsplit : splitItems spec = .ok parts)
      (hpart : disable all ∈ parts)
  | unknown {parts : List String} {part : String} (hsplit : splitItems spec = .ok parts)
      (hpart : part ∈ parts) (hall : part ≠ all)
      (hunknown : ∀ name, Names part name → ∀ item ∈ items, ¬Names item name)

/-! What an item names. -/

theorem parseItem_eq_iff : parseItem item = (name, on) ↔ Turns name on item := by
  constructor
  · intro h
    unfold parseItem at h
    split at h
    · rename_i rest hitem
      obtain ⟨rfl, rfl⟩ := Prod.mk.inj h
      have hdisable : item = disable (String.ofList rest) := by
        rw [← String.toList_inj, hitem]
        simp [disable]
      exact hdisable ▸ .off
    · rename_i hitem
      obtain ⟨rfl, rfl⟩ := Prod.mk.inj h
      refine .on fun other hother => hitem other.toList ?_
      rw [hother]
      simp [disable]
  · intro h
    cases h with
    | off => simp [parseItem, disable]
    | on hname =>
        unfold parseItem
        split
        · rename_i rest hitem
          refine absurd ?_ (hname (String.ofList rest))
          rw [← String.toList_inj, hitem]
          simp [disable]
        · rfl

theorem names_iff : Names item name ↔ (parseItem item).1 = name := by
  constructor
  · rintro ⟨on, hturns⟩
    rw [parseItem_eq_iff.2 hturns]
  · intro h
    exact ⟨(parseItem item).2, parseItem_eq_iff.1 (Prod.ext h rfl)⟩

theorem Turns.eq_all (h : Turns all on item) : item = all ∨ item = disable all := by
  cases h with
  | off => exact .inr rfl
  | on => exact .inl rfl

theorem all_ne_disable (name : String) : all ≠ disable name := by
  intro h
  rw [← String.toList_inj] at h
  simp [all, disable] at h

/-! The default of a name is what the last of the items says of it. -/

theorem get?_defaults_cons (item : String) (rest : List String) :
    (ofItems (item :: rest)).defaults.get? name =
      ((ofItems rest).defaults.get? name).or
        (if name = (parseItem item).1 then some (parseItem item).2 else none) := by
  simp only [ofItems, SortedMap.get?_ofList, List.map_cons, List.reverse_cons,
    Entries.get?_append]
  simp [Entries.get?]

theorem get?_defaults_eq_none_iff :
    (ofItems items).defaults.get? name = none ↔ ∀ item ∈ items, ¬Names item name := by
  induction items with
  | nil => simp [ofItems, SortedMap.get?_ofList]
  | cons item rest ih =>
      rw [get?_defaults_cons, Option.or_eq_none_iff, ih, List.forall_mem_cons, names_iff,
        and_comm]
      simp [eq_comm]

theorem get?_defaults_eq_some_iff :
    (ofItems items).defaults.get? name = some on ↔ Decides name on items := by
  induction items with
  | nil =>
      constructor
      · intro h
        cases h
      · intro h
        cases h
  | cons item rest ih =>
      rw [get?_defaults_cons]
      constructor
      · intro h
        cases hrest : (ofItems rest).defaults.get? name with
        | some later =>
            rw [hrest] at h
            exact .earlier (ih.1 (hrest.trans h))
        | none =>
            rw [hrest] at h
            obtain ⟨rfl, hon⟩ : name = (parseItem item).1 ∧ (parseItem item).2 = on := by
              simpa using h
            exact .last (parseItem_eq_iff.1 (Prod.ext rfl hon)) (get?_defaults_eq_none_iff.1 hrest)
      · intro h
        cases h with
        | last hitem hrest =>
            rw [get?_defaults_eq_none_iff.2 hrest, parseItem_eq_iff.2 hitem]
            simp
        | earlier hrest =>
            rw [ih.2 hrest]
            rfl

theorem contains_defaults_iff :
    (ofItems items).defaults.contains name = true ↔ ∃ item ∈ items, Names item name := by
  rw [SortedMap.contains, Option.isSome_iff_ne_none, ne_eq, get?_defaults_eq_none_iff]
  simp

/-! What valid parts of a specification set. -/

/-- The parts other than `*` set names as items do, and `*` sets all names that they do not. -/
theorem get?_settingsOf (hdefaults : switches.defaults = (ofItems items).defaults) :
    (switches.settingsOf parts).get? name =
      ((ofItems (parts.filter (· ≠ all))).defaults.get? name).or
        (if all ∈ parts then (ofItems items).defaults.get? name else none) := by
  have hfold : switches.settingsOf parts =
      ((parts.filter (· ≠ all)).map parseItem).foldl (fun map pair => map.insert pair.1 pair.2)
        (if all ∈ parts then switches.defaults else .empty) := by
    rw [settingsOf, List.foldl_map]
  have hparts : (ofItems (parts.filter (· ≠ all))).defaults.get? name =
      Entries.get? name ((parts.filter (· ≠ all)).map parseItem).reverse :=
    SortedMap.get?_ofList _ _
  rw [hfold, SortedMap.get?_foldl_insert, hdefaults, ← hparts]
  split <;> rfl

theorem getD_settingsOf_iff (hdefaults : switches.defaults = (ofItems items).defaults) :
    ((switches.settingsOf parts).get? name).getD false = on ↔ Sets items parts name on := by
  have hunnamed : (ofItems (parts.filter (· ≠ all))).defaults.get? name = none ↔
      ∀ part ∈ parts, part ≠ all → ¬Names part name := by
    rw [get?_defaults_eq_none_iff]
    simp
  rw [get?_settingsOf hdefaults]
  constructor
  · rintro rfl
    cases hparts : (ofItems (parts.filter (· ≠ all))).defaults.get? name with
    | some on => exact .named (get?_defaults_eq_some_iff.1 hparts)
    | none =>
        rw [Option.none_or]
        split
        · rename_i hall
          cases hdefault : (ofItems items).defaults.get? name with
          | some on =>
              exact .default (hunnamed.1 hparts) hall (get?_defaults_eq_some_iff.1 hdefault)
          | none =>
              exact .off (hunnamed.1 hparts) fun _ => get?_defaults_eq_none_iff.1 hdefault
        · rename_i hall
          exact .off (hunnamed.1 hparts) fun h => absurd h hall
  · intro h
    cases h with
    | named hnamed =>
        rw [get?_defaults_eq_some_iff.2 hnamed]
        rfl
    | default hnone hall hdefault =>
        rw [hunnamed.2 hnone, if_pos hall, get?_defaults_eq_some_iff.2 hdefault]
        rfl
    | off hnone hdefault =>
        rw [hunnamed.2 hnone, Option.none_or]
        split
        · rename_i hall
          rw [get?_defaults_eq_none_iff.2 (hdefault hall)]
          rfl
        · rfl

/-! Which specifications are applied. -/

/-- Nothing is wrong with `*` and with items, other than `-*`, that name a known name. -/
theorem itemError?_eq_none_iff (hdefaults : switches.defaults = (ofItems items).defaults) :
    switches.itemError? spec part = none ↔
      part ≠ disable all ∧
        (part ≠ all → ∃ name, Names part name ∧ ∃ item ∈ items, Names item name) := by
  have hknown : (∃ name, Names part name ∧ ∃ item ∈ items, Names item name) ↔
      switches.defaults.contains (parseItem part).1 = true := by
    rw [hdefaults, contains_defaults_iff]
    simp [names_iff]
  rw [hknown, itemError?]
  by_cases hname : (parseItem part).1 = all
  · have hpart : part = all ∨ part = disable all :=
      Turns.eq_all (parseItem_eq_iff.1 (Prod.ext hname rfl))
    rw [if_pos hname]
    rcases hpart with rfl | rfl
    · simp [all_ne_disable]
    · simp [(all_ne_disable all).symm]
  · have hne : part ≠ all ∧ part ≠ disable all := by
      constructor <;> rintro rfl <;> exact hname (by decide)
    simp [hname, hne]

theorem not_refused_iff (hdefaults : switches.defaults = (ofItems items).defaults)
    (hsplit : splitItems spec = .ok parts) :
    ¬Refused items spec ↔ ∀ part ∈ parts, switches.itemError? spec part = none := by
  simp only [itemError?_eq_none_iff hdefaults]
  constructor
  · intro hnot part hpart
    constructor
    · rintro rfl
      exact hnot (.disabledDefaults hsplit hpart)
    · intro hall
      refine Classical.byContradiction fun hunknown => ?_
      refine hnot (.unknown hsplit hpart hall fun name hnames item hitem hknown => ?_)
      exact hunknown ⟨name, hnames, item, hitem, hknown⟩
  · intro hvalid hrefused
    cases hrefused with
    | malformed herror =>
        rw [hsplit] at herror
        cases herror
    | disabledDefaults hother hpart =>
        obtain rfl := Except.ok.inj (hsplit.symm.trans hother)
        exact (hvalid _ hpart).1 rfl
    | unknown hother hpart hall hunknown =>
        obtain rfl := Except.ok.inj (hsplit.symm.trans hother)
        obtain ⟨name, hnames, item, hitem, hknown⟩ := (hvalid _ hpart).2 hall
        exact hunknown name hnames item hitem hknown

theorem set_of_refused (hdefaults : switches.defaults = (ofItems items).defaults)
    (hspec : spec ≠ "") (hrefused : Refused items spec) :
    ∃ error, switches.set spec = .error error := by
  rw [set, if_neg (by simpa using hspec)]
  cases hsplit : splitItems spec with
  | error reason => exact ⟨_, rfl⟩
  | ok parts =>
      cases hfind : parts.findSome? (switches.itemError? spec) with
      | some error => exact ⟨error, by simp [hfind]⟩
      | none =>
          rw [List.findSome?_eq_none_iff] at hfind
          exact absurd hrefused ((not_refused_iff hdefaults hsplit).2 hfind)

theorem set_of_not_refused (hdefaults : switches.defaults = (ofItems items).defaults)
    (hspec : spec ≠ "") (hnot : ¬Refused items spec) :
    ∃ parts, splitItems spec = .ok parts ∧
      switches.set spec = .ok { switches with settings := switches.settingsOf parts } := by
  rw [set, if_neg (by simpa using hspec)]
  cases hsplit : splitItems spec with
  | error reason => exact absurd (.malformed hsplit) hnot
  | ok parts =>
      have hfind : parts.findSome? (switches.itemError? spec) = none :=
        List.findSome?_eq_none_iff.2 ((not_refused_iff hdefaults hsplit).1 hnot)
      exact ⟨parts, rfl, by simp [hfind]⟩

/-! What every specification keeps. -/

theorem on_apply (spec : String) (switches : Switches) :
    (apply spec).on switches = match switches.set spec with
      | .ok changed => (.ok (), changed)
      | .error error => (.error error, switches) := by
  simp only [apply, Attempt.on_bind, Attempt.on_get, Attempt.on_ofExcept]
  cases switches.set spec <;> rfl

theorem Decides.exists_turns (h : Decides name on items) : ∃ item ∈ items, Turns name on item := by
  induction h with
  | last hitem hrest => exact ⟨_, List.mem_cons_self, hitem⟩
  | earlier hrest ih =>
      obtain ⟨item, hitem, hturns⟩ := ih
      exact ⟨item, List.mem_cons_of_mem _ hitem, hturns⟩

/-- Switches over items after some specifications were applied: what is on is known, and the parts
of a specification set it. -/
structure Over (items : List String) (switches : Switches) : Prop where
  defaults_eq : switches.defaults = (ofItems items).defaults
  known : ∀ name, switches.enabled name = true → ∃ item ∈ items, Names item name
  isSet : ∀ name, switches.enabled name = true → ∃ parts, Sets items parts name true

theorem over_ofItems (items : List String) : Over items (ofItems items) where
  defaults_eq := rfl
  known _ h := by cases h
  isSet _ h := by cases h

theorem Over.set (h : Over items switches) (hset : switches.set spec = .ok after) :
    Over items after := by
  by_cases hspec : spec = ""
  · subst hspec
    obtain rfl := Except.ok.inj hset
    exact h
  by_cases hrefused : Refused items spec
  · obtain ⟨error, herror⟩ := set_of_refused h.defaults_eq hspec hrefused
    rw [herror] at hset
    cases hset
  · obtain ⟨parts, hsplit, hparts⟩ := set_of_not_refused h.defaults_eq hspec hrefused
    obtain rfl := Except.ok.inj (hparts.symm.trans hset)
    have hsets : ∀ name, enabled { switches with settings := switches.settingsOf parts } name =
        true → Sets items parts name true :=
      fun name hname => (getD_settingsOf_iff h.defaults_eq).1 hname
    refine ⟨h.defaults_eq, fun name hname => ?_, fun name hname => ⟨parts, hsets name hname⟩⟩
    cases hsets name hname with
    | named hnamed =>
        obtain ⟨part, hpart, hturns⟩ := hnamed.exists_turns
        obtain ⟨hpart, hall⟩ := List.mem_filter.1 hpart
        have hvalid := (itemError?_eq_none_iff h.defaults_eq).1
          ((not_refused_iff h.defaults_eq hsplit).1 hrefused part hpart)
        obtain ⟨other, hother, hknown⟩ := hvalid.2 (by simpa using hall)
        obtain rfl : other = name := (names_iff.1 hother).symm.trans (names_iff.1 ⟨_, hturns⟩)
        exact hknown
    | default hunnamed hall hdefault =>
        obtain ⟨item, hitem, hturns⟩ := hdefault.exists_turns
        exact ⟨item, hitem, _, hturns⟩

theorem Over.run (h : Over items switches) (specs : List String) :
    Over items (switches.run specs) := by
  induction specs generalizing switches with
  | nil => exact h
  | cons spec rest ih =>
      refine ih ?_
      simp only [on_apply]
      cases hset : switches.set spec with
      | error error => exact h
      | ok changed => exact h.set hset

/-- What the operations on switches over items do. -/
structure Obeys (items : List String) (switches : Switches) : Prop where
  empty : (apply "").on switches = (.ok (), switches)
  refuses : ∀ spec, spec ≠ "" → Refused items spec →
    ∃ error, (apply spec).on switches = (.error error, switches)
  applies : ∀ spec, spec ≠ "" → ¬Refused items spec → ∃ parts after,
    splitItems spec = .ok parts ∧ (apply spec).on switches = (.ok (), after) ∧
      ∀ name on, after.enabled name = on ↔ Sets items parts name on
  active_subset : ∀ name ∈ switches.active, name ∈ switches.names
  names_eq : switches.names = (ofItems items).names
  enabledByDefault_eq : switches.enabledByDefault = (ofItems items).enabledByDefault
  disabledByDefault_eq : switches.disabledByDefault = (ofItems items).disabledByDefault

theorem mem_namesWith_iff {value : Bool} {map : SortedMap String Bool} :
    name ∈ namesWith value map ↔ map.get? name = some value := by
  rw [namesWith, SortedMap.mem_keys_iff]
  simp [SortedMap.get?_filter, Option.filter_eq_some_iff]

theorem mem_active_iff : name ∈ switches.active ↔ switches.enabled name = true := by
  rw [active, mem_namesWith_iff, enabled]
  cases switches.settings.get? name <;> simp

/-- Specifications mean the same whatever was applied before, and none changes what is known. -/
theorem run_obeys (items specs : List String) : Obeys items ((ofItems items).run specs) := by
  have h : Over items ((ofItems items).run specs) := (over_ofItems items).run specs
  refine ⟨rfl, fun spec hspec hrefused => ?_, fun spec hspec hnot => ?_, fun name hname => ?_,
    congrArg SortedMap.keys h.defaults_eq, congrArg (namesWith true) h.defaults_eq,
    congrArg (namesWith false) h.defaults_eq⟩
  · obtain ⟨error, herror⟩ := set_of_refused h.defaults_eq hspec hrefused
    exact ⟨error, by rw [on_apply, herror]⟩
  · obtain ⟨parts, hsplit, hset⟩ := set_of_not_refused h.defaults_eq hspec hnot
    refine ⟨parts, _, hsplit, by rw [on_apply, hset], fun name on => ?_⟩
    exact getD_settingsOf_iff h.defaults_eq
  · have hknown := contains_defaults_iff.2 (h.known name (mem_active_iff.1 hname))
    rw [← h.defaults_eq] at hknown
    exact SortedMap.mem_keys_iff.2 (Option.isSome_iff_exists.1 hknown)

end Reconciler.Switches
