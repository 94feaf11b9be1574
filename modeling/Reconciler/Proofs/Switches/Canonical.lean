import Reconciler.Proofs.Switches.Fields
import Reconciler.Proofs.Switches.Specification
/-!
The text of switches as a specification.  Names stand in it without quotes, so that it is read back
where no name needs them.  It then leads to the same switches, but for two names that mean
something else in a specification: `-*` cannot be applied, and the empty text changes nothing.
-/
namespace Reconciler.Switches

variable {items specs : List String} {switches other : Switches} {name item : String}

/-- The text of switches is applied to fresh switches, and these then have the same names on and the
same text. -/
def ReadsBack (items : List String) (switches : Switches) : Prop :=
  ∃ after, (apply switches.text).on (ofItems items) = (.ok (), after) ∧
    after.active = switches.active ∧ after.text = switches.text

/-! The text of switches and its parts. -/

theorem splitItems_intercalate (hne : items ≠ []) (hplain : ∀ item ∈ items, IsPlain item.toList) :
    splitItems (",".intercalate items) = .ok items := by
  have hfields := fields_intercalate id hne fun item hitem => field_of_isPlain (hplain item hitem)
  rw [List.map_id] at hfields
  exact splitItems_eq_ok_iff.2 hfields

/-- The part of the text that is about a name. -/
def part (switches : Switches) (name : String) : String :=
  if switches.enabled name then name else disable name

theorem text_eq (switches : Switches) :
    switches.text = ",".intercalate (switches.names.map switches.part) := rfl

theorem isPlain_part (hplain : IsPlain name.toList) : IsPlain (switches.part name).toList := by
  unfold part
  split
  · exact hplain
  · rw [disable, String.toList_append]
    exact List.forall_mem_append.2 ⟨by simp, hplain⟩

/-- A part says of its name what the switches do: no name that is on begins with a `-`. -/
theorem Over.turns_part (h : Over items switches) (name : String) :
    Turns name (switches.enabled name) (switches.part name) := by
  unfold part
  split
  · rename_i hon
    obtain ⟨item, hturns⟩ : ∃ item, Turns name true item := by
      obtain ⟨parts, hsets⟩ := h.isSet name hon
      cases hsets with
      | named hnamed => exact hnamed.exists_turns.imp fun _ => And.right
      | default hunnamed hall hdefault => exact hdefault.exists_turns.imp fun _ => And.right
    cases hturns with
    | on hname => exact hon ▸ .on hname
  · rename_i hoff
    rw [Bool.not_eq_true] at hoff
    exact hoff ▸ .off

theorem Over.names_part_iff (h : Over items switches) {other : String} :
    Names (switches.part name) other ↔ other = name := by
  rw [names_iff, names_iff.1 ⟨_, h.turns_part name⟩, eq_comm]

theorem Over.mem_names_iff (h : Over items switches) :
    name ∈ switches.names ↔ ∃ item ∈ items, Names item name := by
  rw [← contains_defaults_iff, ← h.defaults_eq, names, SortedMap.mem_keys_iff,
    SortedMap.contains, Option.isSome_iff_exists]

/-- `*` is on only by default. -/
theorem Over.decides_all (h : Over items switches) (hon : switches.enabled all = true) :
    Decides all true items := by
  obtain ⟨parts, hsets⟩ := h.isSet all hon
  cases hsets with
  | named hnamed =>
      obtain ⟨part, hpart, hturns⟩ := hnamed.exists_turns
      cases hturns with
      | on hname => simp at hpart
  | default hunnamed hall hdefault => exact hdefault

/-- Where all items that name a name say the same of it, this decides. -/
theorem decides_of_agree {on : Bool} (hnamed : ∃ item ∈ items, Names item name)
    (hagree : ∀ item ∈ items, ∀ other, Turns name other item → other = on) :
    Decides name on items := by
  rw [← contains_defaults_iff, SortedMap.contains, Option.isSome_iff_exists] at hnamed
  obtain ⟨other, hother⟩ := hnamed
  have hdecides := get?_defaults_eq_some_iff.1 hother
  obtain ⟨item, hitem, hturns⟩ := hdecides.exists_turns
  exact hagree item hitem other hturns ▸ hdecides

theorem Turns.unique {first second : Bool} (hfirst : Turns name first item)
    (hsecond : Turns name second item) : first = second :=
  congrArg Prod.snd ((parseItem_eq_iff.2 hfirst).symm.trans (parseItem_eq_iff.2 hsecond))

theorem Over.part_eq_all_iff (h : Over items switches) :
    switches.part name = all ↔ name = all ∧ switches.enabled all = true := by
  constructor
  · intro hpart
    have hturns := h.turns_part name
    rw [hpart] at hturns
    obtain rfl : all = name := names_iff.1 ⟨_, hturns⟩
    exact ⟨rfl, hturns.unique (.on all_ne_disable)⟩
  · rintro ⟨rfl, hon⟩
    exact if_pos hon

theorem Over.part_eq_disable_all_iff (h : Over items switches) :
    switches.part name = disable all ↔ name = all ∧ switches.enabled all = false := by
  constructor
  · intro hpart
    have hturns := h.turns_part name
    rw [hpart] at hturns
    obtain rfl : all = name := names_iff.1 ⟨_, hturns⟩
    exact ⟨rfl, hturns.unique .off⟩
  · rintro ⟨rfl, hoff⟩
    exact if_neg (by simp [hoff])

/-- The parts of the text set every name as it is. -/
theorem Over.sets_parts (h : Over items switches) (name : String) :
    Sets items (switches.names.map switches.part) name (switches.enabled name) := by
  by_cases hname : name ∈ switches.names
  · by_cases hpart : switches.part name = all
    -- `*` is among the parts only for itself, and then it is on by default.
    · obtain ⟨rfl, hon⟩ := h.part_eq_all_iff.1 hpart
      rw [hon]
      refine .default ?_ (List.mem_map.2 ⟨all, hname, hpart⟩) (h.decides_all hon)
      intro item hitem hne hnames
      obtain ⟨other, -, rfl⟩ := List.mem_map.1 hitem
      obtain rfl := h.names_part_iff.1 hnames
      exact hne hpart
    · refine .named (decides_of_agree ?_ ?_)
      · refine ⟨switches.part name, ?_, _, h.turns_part name⟩
        simpa [hpart] using ⟨name, hname, rfl⟩
      · intro item hitem on hturns
        obtain ⟨hitem, -⟩ := List.mem_filter.1 hitem
        obtain ⟨other, -, rfl⟩ := List.mem_map.1 hitem
        obtain rfl := h.names_part_iff.1 ⟨on, hturns⟩
        exact hturns.unique (h.turns_part name)
  · have hoff : switches.enabled name = false := by
      rw [← Bool.not_eq_true]
      exact fun hon => hname (h.mem_names_iff.2 (h.known name hon))
    rw [hoff]
    refine .off ?_ fun _ item hitem hnames => hname (h.mem_names_iff.2 ⟨item, hitem, hnames⟩)
    intro item hitem _ hnames
    obtain ⟨other, hother, rfl⟩ := List.mem_map.1 hitem
    exact hname (h.names_part_iff.1 hnames ▸ hother)

/-- The parts of the text can be applied to switches over the same items, unless `*` is a name
that is off. -/
theorem Over.not_refused_text_iff (h : Over items switches)
    (hsplit : splitItems switches.text = .ok (switches.names.map switches.part)) :
    ¬Refused items switches.text ↔ (all ∈ switches.names → switches.enabled all = true) := by
  rw [not_refused_iff h.defaults_eq hsplit]
  simp only [itemError?_eq_none_iff h.defaults_eq, List.forall_mem_map, ne_eq,
    h.part_eq_disable_all_iff, not_and, Bool.not_eq_false]
  constructor
  · intro hvalid hall
    exact (hvalid all hall).1 rfl
  · intro hall name hname
    refine ⟨fun heq => hall (heq ▸ hname), fun _ => ⟨name, ⟨_, h.turns_part name⟩, ?_⟩⟩
    exact h.mem_names_iff.1 hname

theorem intercalate_eq_empty_iff : ",".intercalate items = "" ↔ items = [] ∨ items = [""] := by
  cases items with
  | nil => simp
  | cons item rest =>
      cases rest with
      | nil => simp
      | cons next rest => simp [String.intercalate_cons_cons]

theorem part_eq_empty_iff : switches.part name = "" ↔ name = "" ∧ switches.enabled "" = true := by
  unfold part
  split
  · rename_i hon
    constructor
    · rintro rfl
      exact ⟨rfl, hon⟩
    · exact And.left
  · rename_i hoff
    constructor
    · intro h
      simp [disable] at h
    · rintro ⟨rfl, hon⟩
      exact absurd hon hoff

theorem text_eq_empty_iff : switches.text = "" ↔
    switches.names = [] ∨ switches.names = [""] ∧ switches.enabled "" = true := by
  rw [text_eq, intercalate_eq_empty_iff, List.map_eq_nil_iff, List.map_eq_singleton_iff]
  refine or_congr_right ⟨?_, fun ⟨hnames, hon⟩ => ⟨"", hnames, part_eq_empty_iff.2 ⟨rfl, hon⟩⟩⟩
  rintro ⟨name, hnames, hpart⟩
  obtain ⟨rfl, hon⟩ := part_eq_empty_iff.1 hpart
  exact ⟨hnames, hon⟩

/-! Switches that have the same names on look the same. -/

theorem active_eq_of_enabled_eq (h : ∀ name, switches.enabled name = other.enabled name) :
    switches.active = other.active := by
  refine congrArg SortedMap.keys (SortedMap.ext_get? fun name => ?_)
  have hname := h name
  unfold enabled at hname
  rw [SortedMap.get?_filter, SortedMap.get?_filter]
  cases hleft : switches.settings.get? name <;> cases hright : other.settings.get? name <;>
    simp_all [Option.filter]

theorem text_eq_of_enabled_eq (hnames : switches.names = other.names)
    (h : ∀ name, switches.enabled name = other.enabled name) : switches.text = other.text := by
  simp only [text, hnames, h]

/-- Empty text is read back as what it is applied to. -/
theorem Over.readsBack_of_text_eq_empty (h : Over items switches) (hempty : switches.text = "") :
    ReadsBack items switches ↔ switches.names = [] := by
  have hsame : (apply "").on (ofItems items) = (.ok (), ofItems items) :=
    (run_obeys items []).empty
  rw [ReadsBack, hempty, hsame]
  rcases text_eq_empty_iff.1 hempty with hnone | ⟨hsingle, hon⟩
  · have hoff : ∀ name, switches.enabled name = false := by
      intro name
      rw [← Bool.not_eq_true]
      intro hon
      simpa [hnone] using h.mem_names_iff.2 (h.known name hon)
    have hnames : (ofItems items).names = switches.names :=
      congrArg SortedMap.keys h.defaults_eq.symm
    refine ⟨fun _ => hnone, fun _ => ⟨_, rfl, ?_, text_eq_empty_iff.2 (.inl (hnames.trans hnone))⟩⟩
    exact active_eq_of_enabled_eq fun name => (hoff name).symm
  · constructor
    · rintro ⟨after, hafter, hactive, -⟩
      obtain rfl := congrArg Prod.snd hafter
      have hmem : "" ∈ (ofItems items).active := hactive ▸ mem_active_iff.2 hon
      cases hmem
    · intro hnone
      rw [hsingle] at hnone
      cases hnone

theorem Over.readsBack_of_split (h : Over items switches) (hempty : switches.text ≠ "")
    (hsplit : splitItems switches.text = .ok (switches.names.map switches.part)) :
    ReadsBack items switches ↔ ¬Refused items switches.text := by
  have hfresh : Obeys items (ofItems items) := run_obeys items []
  constructor
  · rintro ⟨after, hafter, -⟩ hrefused
    obtain ⟨error, herror⟩ := hfresh.refuses _ hempty hrefused
    rw [herror] at hafter
    cases hafter
  · intro hnot
    obtain ⟨parts, after, hparts, hafter, hsets⟩ := hfresh.applies _ hempty hnot
    obtain rfl := Except.ok.inj (hsplit.symm.trans hparts)
    have henabled : ∀ name, after.enabled name = switches.enabled name :=
      fun name => (hsets name _).2 (h.sets_parts name)
    have hrun : (ofItems items).run [switches.text] = after := congrArg Prod.snd hafter
    have hnames : after.names = switches.names := by
      rw [← hrun, (run_obeys items [switches.text]).names_eq]
      exact congrArg SortedMap.keys h.defaults_eq.symm
    exact ⟨after, hafter, active_eq_of_enabled_eq henabled, text_eq_of_enabled_eq hnames henabled⟩

/-- Where no name needs quotes, the text of switches is read back exactly if it neither disables `*`
nor is empty for the sake of an empty name. -/
theorem text_readsBack_iff (items specs : List String)
    (hplain : ∀ name ∈ (ofItems items).names, IsPlain name.toList) :
    ReadsBack items ((ofItems items).run specs) ↔
      (all ∈ (ofItems items).names → ((ofItems items).run specs).enabled all = true) ∧
        ((ofItems items).names = [""] → ((ofItems items).run specs).enabled "" = false) := by
  have h : Over items ((ofItems items).run specs) := (over_ofItems items).run specs
  generalize (ofItems items).run specs = switches at h ⊢
  have hnames : (ofItems items).names = switches.names :=
    congrArg SortedMap.keys h.defaults_eq.symm
  rw [hnames] at hplain ⊢
  by_cases hempty : switches.text = ""
  · rw [h.readsBack_of_text_eq_empty hempty]
    rcases text_eq_empty_iff.1 hempty with hnone | ⟨hsingle, hon⟩
    · simp [hnone]
    · simp [hsingle, hon]
  · have hne : switches.names ≠ [] := fun hnone => hempty (text_eq_empty_iff.2 (.inl hnone))
    have hsplit : splitItems switches.text = .ok (switches.names.map switches.part) := by
      refine splitItems_intercalate (by simpa using hne) ?_
      refine List.forall_mem_map.2 fun name hname => ?_
      exact isPlain_part (hplain name hname)
    have hoff : switches.names = [""] → switches.enabled "" = false := by
      intro hsingle
      rw [← Bool.not_eq_true]
      exact fun hon => hempty (text_eq_empty_iff.2 (.inr ⟨hsingle, hon⟩))
    rw [h.readsBack_of_split hempty hsplit, h.not_refused_text_iff hsplit, and_iff_left hoff]

/-- The text of switches over plain names, one of which is off by default. -/
theorem text_readsBack_iff_plain :
    (∀ name ∈ (ofItems ["a", "-b", "c"]).names, IsPlain name.toList) ∧
      ReadsBack ["a", "-b", "c"] ((ofItems ["a", "-b", "c"]).run ["*,-a"]) := by
  have hplain : ∀ name ∈ (ofItems ["a", "-b", "c"]).names, IsPlain name.toList := by
    decide +kernel
  refine ⟨hplain, (text_readsBack_iff ["a", "-b", "c"] ["*,-a"] hplain).2 ⟨?_, ?_⟩⟩
  · decide +kernel
  · decide +kernel

/-- The text of switches over a name with a comma names two others. -/
theorem comma_not_readsBack : ¬ReadsBack ["a,b"] ((ofItems ["a,b"]).run ["*"]) := by
  rintro ⟨after, hafter, -⟩
  have hresult : ((apply ((ofItems ["a,b"]).run ["*"]).text).on (ofItems ["a,b"])).1.isOk =
      false := by
    decide +kernel
  rw [hafter] at hresult
  cases hresult

end Reconciler.Switches
