/-!
Maps kept as lists of entries in increasing key order.  The operations on entry lists come first,
because a nested value holds its entries without a proof of their order; `SortedMap` adds the
proof.  Two maps with the same look-ups are equal, so a map is determined by what it stores and
not by the history of its insertions.
-/
namespace Reconciler

universe u v

variable {κ : Type u} {β : Type v} [Ord κ]

namespace Entries

/-- The value of the first entry with the key. -/
def get? (key : κ) : List (κ × β) → Option β
  | [] => none
  | entry :: rest => if compare key entry.1 = .eq then some entry.2 else get? key rest

/-- Put a value under a key: in place of the entry that has the key, else in front of the first
greater key. -/
def insert (key : κ) (value : β) : List (κ × β) → List (κ × β)
  | [] => [(key, value)]
  | entry :: rest =>
    match compare key entry.1 with
    | .lt => (key, value) :: entry :: rest
    | .eq => (key, value) :: rest
    | .gt => entry :: insert key value rest

/-- Remove every entry with the key. -/
def erase (key : κ) (entries : List (κ × β)) : List (κ × β) :=
  entries.filter fun entry => compare key entry.1 != .eq

/-- The entries of a list of pairs, of which a later pair replaces an earlier one. -/
def ofList (pairs : List (κ × β)) : List (κ × β) :=
  pairs.foldl (fun entries pair => insert pair.1 pair.2 entries) []

/-- Keys increase strictly. -/
def Sorted (entries : List (κ × β)) : Prop :=
  entries.Pairwise fun a b => compare a.1 b.1 = .lt

@[simp] theorem get?_nil (key : κ) : get? key ([] : List (κ × β)) = none := rfl

theorem mem_insert {key : κ} {value : β} {entries : List (κ × β)} {entry : κ × β}
    (member : entry ∈ insert key value entries) : entry = (key, value) ∨ entry ∈ entries := by
  induction entries with
  | nil => simpa [insert] using member
  | cons first rest ih =>
    unfold insert at member
    split at member <;> simp only [List.mem_cons] at member ⊢
    · exact member
    · rcases member with rfl | member
      · exact .inl rfl
      · exact .inr (.inr member)
    · rcases member with rfl | member
      · exact .inr (.inl rfl)
      · exact (ih member).imp_right .inr

theorem mem_of_mem_ofList {pairs : List (κ × β)} {entry : κ × β} (member : entry ∈ ofList pairs) :
    entry ∈ pairs := by
  -- The pairs so far are entries already.
  suffices ∀ entries, entry ∈ pairs.foldl (fun entries pair => insert pair.1 pair.2 entries)
      entries → entry ∈ entries ∨ entry ∈ pairs by
    simpa using this [] member
  clear member
  induction pairs with
  | nil => exact fun _ member => .inl member
  | cons pair rest ih =>
    intro entries member
    rw [List.foldl_cons] at member
    rcases ih _ member with hinsert | hrest
    · rcases mem_insert hinsert with hpair | hentries
      · exact .inr (hpair ▸ List.mem_cons_self)
      · exact .inl hentries
    · exact .inr (List.mem_cons_of_mem _ hrest)

theorem sorted_filter (keep : κ × β → Bool) {entries : List (κ × β)} (sorted : Sorted entries) :
    Sorted (entries.filter keep) :=
  List.Pairwise.filter keep sorted

/-- In front of all greater keys a key has no value. -/
theorem get?_eq_none_of_lt {key : κ} {entries : List (κ × β)}
    (below : ∀ entry ∈ entries, compare key entry.1 = .lt) : get? key entries = none := by
  induction entries with
  | nil => rfl
  | cons entry rest ih =>
    have first := below entry List.mem_cons_self
    rw [get?, if_neg (by simp [first])]
    exact ih fun other member => below other (List.mem_cons_of_mem _ member)

/-- A key before the first one is not there. -/
theorem get?_eq_none_of_lt_head [Std.TransOrd κ] {key : κ} {first : κ × β}
    {rest : List (κ × β)} (sorted : Sorted (first :: rest)) (below : compare key first.1 = .lt) :
    get? key (first :: rest) = none := by
  have above := (List.pairwise_cons.1 sorted).1
  apply get?_eq_none_of_lt
  intro entry member
  rcases List.mem_cons.1 member with rfl | member
  · exact below
  · exact Std.TransCmp.lt_trans below (above entry member)

theorem get?_append (key : κ) (front back : List (κ × β)) :
    get? key (front ++ back) = (get? key front).or (get? key back) := by
  induction front with
  | nil => simp
  | cons entry rest ih =>
    rw [List.cons_append, get?, get?]
    split
    · rfl
    · exact ih

theorem get?_map {γ : Type v} (change : β → γ) (key : κ) (entries : List (κ × β)) :
    get? key (entries.map fun entry => (entry.1, change entry.2)) =
      (get? key entries).map change := by
  induction entries with
  | nil => rfl
  | cons entry rest ih =>
    rw [List.map_cons, get?, get?, ih]
    split <;> rfl

variable [Std.LawfulEqOrd κ]

theorem isSome_get?_iff {key : κ} {entries : List (κ × β)} :
    (get? key entries).isSome ↔ ∃ value, (key, value) ∈ entries := by
  induction entries with
  | nil => simp
  | cons entry rest ih =>
    by_cases h : compare key entry.1 = .eq
    · obtain rfl := Std.LawfulEqOrd.eq_of_compare h
      simp only [get?, h, if_true, Option.isSome_some, true_iff]
      exact ⟨entry.2, List.mem_cons_self⟩
    · have hne : ∀ value, (key, value) ≠ entry := by
        rintro value rfl
        exact h Std.ReflCmp.compare_self
      simp [get?, h, ih, hne]

theorem get?_eq_none_of_not_mem {key : κ} {entries : List (κ × β)}
    (habsent : key ∉ entries.map (·.1)) : get? key entries = none := by
  induction entries with
  | nil => rfl
  | cons entry rest ih =>
    rw [List.map_cons, List.mem_cons, not_or] at habsent
    rw [get?, if_neg fun hsame => habsent.1 (Std.LawfulEqOrd.eq_of_compare hsame)]
    exact ih habsent.2

theorem nodup_keys {entries : List (κ × β)} (hsorted : Sorted entries) :
    (entries.map (·.1)).Nodup := by
  rw [List.Nodup, List.pairwise_map]
  refine List.Pairwise.imp ?_ hsorted
  intro first second hlt hsame
  have hself : compare second.1 second.1 = .eq := Std.ReflCmp.compare_self
  rw [hsame, hself] at hlt
  cases hlt

/-- Under each key a filter keeps what passes the test: no entry hides another one with its key. -/
theorem get?_filter (keep : κ → β → Bool) (key : κ) {entries : List (κ × β)}
    (hsorted : Sorted entries) :
    get? key (entries.filter fun entry => keep entry.1 entry.2) =
      (get? key entries).filter (keep key) := by
  induction entries with
  | nil => rfl
  | cons entry rest ih =>
    have habove := (List.pairwise_cons.1 hsorted).1
    have htail := ih (List.Pairwise.of_cons hsorted)
    by_cases hkey : compare key entry.1 = .eq
    · obtain rfl := Std.LawfulEqOrd.eq_of_compare hkey
      have hrest : get? entry.1 rest = none := get?_eq_none_of_lt habove
      cases hkeep : keep entry.1 entry.2 with
      | true => simp [get?, hkeep, Option.filter]
      | false => simp [get?, hkeep, htail, hrest, Option.filter]
    · cases hkeep : keep entry.1 entry.2 with
      | true => simp [get?, hkeep, hkey, htail]
      | false => simp [get?, hkeep, hkey, htail]

theorem get?_eq_some_iff_of_nodup {key : κ} {value : β} {entries : List (κ × β)}
    (hkeys : (entries.map (·.1)).Nodup) :
    get? key entries = some value ↔ (key, value) ∈ entries := by
  induction entries with
  | nil => simp
  | cons entry rest ih =>
    obtain ⟨hfirst, hrest⟩ := List.nodup_cons.1 hkeys
    by_cases hkey : compare key entry.1 = .eq
    · obtain rfl := Std.LawfulEqOrd.eq_of_compare hkey
      have habsent : (entry.1, value) ∉ rest := fun hmem =>
        hfirst (List.mem_map.2 ⟨_, hmem, rfl⟩)
      simp [get?, habsent, Prod.ext_iff, eq_comm]
    · have hne : (key, value) ≠ entry := by
        rintro rfl
        exact hkey Std.ReflCmp.compare_self
      simp [get?, hkey, ih hrest, hne]

theorem get?_eq_some_iff {key : κ} {value : β} {entries : List (κ × β)}
    (hsorted : Sorted entries) : get? key entries = some value ↔ (key, value) ∈ entries :=
  get?_eq_some_iff_of_nodup (nodup_keys hsorted)

variable [Std.TransOrd κ]

theorem get?_insert (key other : κ) (value : β) (entries : List (κ × β)) :
    get? other (insert key value entries) =
      if compare other key = .eq then some value else get? other entries := by
  induction entries with
  | nil => rfl
  | cons entry rest ih =>
    unfold insert
    split
    · rfl
    · rename_i same
      obtain rfl := Std.LawfulEqOrd.eq_of_compare same
      by_cases h : compare other entry.1 = .eq <;> simp [get?, h]
    · rename_i greater
      by_cases h : compare other entry.1 = .eq
      · obtain rfl := Std.LawfulEqOrd.eq_of_compare h
        have flipped : compare entry.1 key = .lt := Std.OrientedCmp.lt_of_gt greater
        simp [get?, flipped]
      · simp [get?, h, ih]

theorem get?_erase (key other : κ) (entries : List (κ × β)) :
    get? other (erase key entries) =
      if compare other key = .eq then none else get? other entries := by
  induction entries with
  | nil => simp [erase]
  | cons entry rest ih =>
    by_cases h : compare key entry.1 = .eq
    · obtain rfl := Std.LawfulEqOrd.eq_of_compare h
      have skip : erase entry.1 (entry :: rest) = erase entry.1 rest := by simp [erase]
      rw [skip, ih]
      by_cases h' : compare other entry.1 = .eq <;> simp [get?, h']
    · have keep : erase key (entry :: rest) = entry :: erase key rest := by simp [erase, h]
      rw [keep]
      by_cases h' : compare other entry.1 = .eq
      · obtain rfl := Std.LawfulEqOrd.eq_of_compare h'
        have : compare entry.1 key ≠ .eq := fun e => h (Std.OrientedCmp.eq_symm e)
        simp [get?, this]
      · simp [get?, h', ih]

theorem sorted_insert (key : κ) (value : β) {entries : List (κ × β)} (sorted : Sorted entries) :
    Sorted (insert key value entries) := by
  induction entries with
  | nil => exact List.pairwise_singleton _ _
  | cons entry rest ih =>
    have above := (List.pairwise_cons.1 sorted).1
    have sorted_rest := List.Pairwise.of_cons sorted
    unfold insert
    split
    · rename_i less
      refine List.Pairwise.cons ?_ sorted
      intro other member
      rcases List.mem_cons.1 member with rfl | member
      · exact less
      · exact Std.TransCmp.lt_trans less (above _ member)
    · rename_i same
      obtain rfl := Std.LawfulEqOrd.eq_of_compare same
      exact List.Pairwise.cons (fun _ member => above _ member) sorted_rest
    · rename_i greater
      refine List.Pairwise.cons ?_ (ih sorted_rest)
      intro other member
      rcases mem_insert member with rfl | member
      · exact Std.OrientedCmp.lt_of_gt greater
      · exact above _ member

theorem sorted_ofList (pairs : List (κ × β)) : Sorted (ofList pairs) := by
  suffices ∀ entries, Sorted entries →
      Sorted (pairs.foldl (fun entries pair => insert pair.1 pair.2 entries) entries) from
    this [] List.Pairwise.nil
  induction pairs with
  | nil => exact fun _ sorted => sorted
  | cons pair rest ih => exact fun entries sorted => ih _ (sorted_insert _ _ sorted)

/-- Where no key stands twice, each pair becomes an entry. -/
theorem get?_ofList {pairs : List (κ × β)} (hkeys : (pairs.map (·.1)).Nodup) (key : κ) :
    get? key (ofList pairs) = get? key pairs := by
  -- The pairs so far are entries already.
  suffices ∀ entries, get? key (pairs.foldl (fun entries pair => insert pair.1 pair.2 entries)
      entries) = (get? key pairs).or (get? key entries) by
    simpa [ofList] using this []
  induction pairs with
  | nil => simp
  | cons pair rest ih =>
    intro entries
    obtain ⟨hfirst, hrest⟩ := List.nodup_cons.1 hkeys
    rw [List.foldl_cons, ih hrest, get?_insert, get?]
    by_cases h : compare key pair.1 = .eq
    · obtain rfl := Std.LawfulEqOrd.eq_of_compare h
      rw [if_pos h, if_pos h, get?_eq_none_of_not_mem hfirst]
      rfl
    · rw [if_neg h, if_neg h]

/-- Sorted entry lists with the same look-ups are the same list. -/
theorem eq_of_get?_eq {left right : List (κ × β)} (sortedLeft : Sorted left)
    (sortedRight : Sorted right) (same : ∀ key, get? key left = get? key right) :
    left = right := by
  induction left generalizing right with
  | nil =>
    cases right with
    | nil => rfl
    | cons entry rest =>
      have := same entry.1
      simp [get?, Std.ReflCmp.compare_self] at this
  | cons first rest ih =>
    cases right with
    | nil =>
      have := same first.1
      simp [get?, Std.ReflCmp.compare_self] at this
    | cons other tail =>
      have aboveFirst := (List.pairwise_cons.1 sortedLeft).1
      have aboveOther := (List.pairwise_cons.1 sortedRight).1
      have heads : first = other := by
        cases order : compare first.1 other.1 with
        | lt =>
          have found := same first.1
          rw [get?, if_pos Std.ReflCmp.compare_self,
            get?_eq_none_of_lt_head sortedRight order] at found
          cases found
        | gt =>
          have found := same other.1
          rw [get?_eq_none_of_lt_head sortedLeft (Std.OrientedCmp.lt_of_gt order), get?,
            if_pos Std.ReflCmp.compare_self] at found
          cases found
        | eq =>
          have keys := Std.LawfulEqOrd.eq_of_compare order
          have := same first.1
          rw [get?, if_pos Std.ReflCmp.compare_self, get?, if_pos order] at this
          exact Prod.ext keys (Option.some.inj this)
      subst heads
      congr 1
      refine ih (List.Pairwise.of_cons sortedLeft) (List.Pairwise.of_cons sortedRight) fun key => ?_
      by_cases h : compare key first.1 = .eq
      · obtain rfl := Std.LawfulEqOrd.eq_of_compare h
        rw [get?_eq_none_of_lt fun entry member => aboveFirst _ member,
          get?_eq_none_of_lt fun entry member => aboveOther _ member]
      · have := same key
        rwa [get?, if_neg h, get?, if_neg h] at this

/-- Putting a value where it is already changes nothing. -/
theorem insert_of_get?_eq_some {key : κ} {value : β} {entries : List (κ × β)}
    (hsorted : Sorted entries) (hvalue : get? key entries = some value) :
    insert key value entries = entries := by
  refine eq_of_get?_eq (sorted_insert key value hsorted) hsorted fun other => ?_
  rw [get?_insert]
  split
  · rename_i hsame
    rw [Std.LawfulEqOrd.eq_of_compare hsame, hvalue]
  · rfl

end Entries

/-- A finite map whose entries stand in increasing key order. -/
structure SortedMap (κ : Type u) (β : Type v) [Ord κ] where
  entries : List (κ × β)
  sorted : Entries.Sorted entries

namespace SortedMap

instance [DecidableEq κ] [DecidableEq β] : DecidableEq (SortedMap κ β) := fun a b =>
  if h : a.entries = b.entries then
    .isTrue (by cases a; cases b; simpa using h)
  else .isFalse fun same => h (congrArg _ same)

/-- The map without entries. -/
def empty : SortedMap κ β := ⟨[], List.Pairwise.nil⟩

instance : Inhabited (SortedMap κ β) := ⟨empty⟩

/-- The value under a key. -/
def get? (map : SortedMap κ β) (key : κ) : Option β :=
  Entries.get? key map.entries

/-- Whether a key has a value. -/
def contains (map : SortedMap κ β) (key : κ) : Bool :=
  (map.get? key).isSome

/-- The keys in order. -/
def keys (map : SortedMap κ β) : List κ :=
  map.entries.map (·.1)

/-- The values in the order of their keys. -/
def values (map : SortedMap κ β) : List β :=
  map.entries.map (·.2)

/-- How many keys have a value. -/
def size (map : SortedMap κ β) : Nat :=
  map.entries.length

/-- Keep the entries that satisfy a test. -/
def filter (keep : κ → β → Bool) (map : SortedMap κ β) : SortedMap κ β :=
  ⟨map.entries.filter fun entry => keep entry.1 entry.2, Entries.sorted_filter _ map.sorted⟩

/-- Remove a key. -/
def erase (map : SortedMap κ β) (key : κ) : SortedMap κ β :=
  ⟨Entries.erase key map.entries, Entries.sorted_filter _ map.sorted⟩

/-- Change every value. -/
def mapValues {γ : Type v} (change : β → γ) (map : SortedMap κ β) : SortedMap κ γ :=
  ⟨map.entries.map fun entry => (entry.1, change entry.2), by
    rw [Entries.Sorted, List.pairwise_map]
    exact map.sorted⟩

@[simp] theorem mapValues_id (map : SortedMap κ β) : map.mapValues id = map := by
  simp [mapValues]

theorem mem_values_iff {map : SortedMap κ β} {value : β} :
    value ∈ map.values ↔ ∃ key, (key, value) ∈ map.entries := by
  rw [values, List.mem_map]
  constructor
  · rintro ⟨entry, hmem, rfl⟩
    exact ⟨entry.1, hmem⟩
  · rintro ⟨key, hmem⟩
    exact ⟨(key, value), hmem, rfl⟩

theorem mem_entries_filter_iff {keep : κ → β → Bool} {map : SortedMap κ β} {entry : κ × β} :
    entry ∈ (map.filter keep).entries ↔ entry ∈ map.entries ∧ keep entry.1 entry.2 = true :=
  List.mem_filter

theorem filter_filter_not (keep : κ → β → Bool) (map : SortedMap κ β) :
    ((map.filter fun key value => !keep key value).filter keep).values = [] := by
  rw [values, List.map_eq_nil_iff]
  refine List.filter_eq_nil_iff.2 fun entry hentry => ?_
  have hkept := (mem_entries_filter_iff.1 hentry).2
  simpa using hkept

/-- Where a value determines its key, the values that a filter leaves are the values that the
opposite filter does not leave. -/
theorem values_filter_not [DecidableEq β] {map : SortedMap κ β} {keep : κ → β → Bool}
    (hkeys : ∀ first ∈ map.entries, ∀ second ∈ map.entries,
      first.2 = second.2 → first.1 = second.1) :
    (map.filter fun key value => !keep key value).values =
      map.values.filter (· ∉ (map.filter keep).values) := by
  have hkeep : ∀ entry ∈ map.entries,
      keep entry.1 entry.2 = true ↔ entry.2 ∈ (map.filter keep).values := by
    intro entry hentry
    rw [mem_values_iff]
    constructor
    · intro hkept
      exact ⟨entry.1, mem_entries_filter_iff.2 ⟨hentry, hkept⟩⟩
    · rintro ⟨key, hmem⟩
      obtain ⟨hother, hkept⟩ := mem_entries_filter_iff.1 hmem
      obtain rfl : key = entry.1 := hkeys _ hother _ hentry rfl
      exact hkept
  have hleft : (map.filter fun key value => !keep key value).entries =
      map.entries.filter fun entry => entry.2 ∉ (map.filter keep).values := by
    refine List.filter_congr fun entry hentry => ?_
    by_cases hmem : entry.2 ∈ (map.filter keep).values
    · simp [hmem, (hkeep entry hentry).2 hmem]
    · simp [hmem, mt (hkeep entry hentry).1 hmem]
  rw [values, hleft, values.eq_1 map, List.filter_map]
  rfl

variable [Std.LawfulEqOrd κ]

theorem get?_filter (keep : κ → β → Bool) (map : SortedMap κ β) (key : κ) :
    (map.filter keep).get? key = (map.get? key).filter (keep key) :=
  Entries.get?_filter keep key map.sorted

theorem get?_eq_some_iff {map : SortedMap κ β} {key : κ} {value : β} :
    map.get? key = some value ↔ (key, value) ∈ map.entries :=
  Entries.get?_eq_some_iff map.sorted

theorem mem_keys_iff {map : SortedMap κ β} {key : κ} :
    key ∈ map.keys ↔ ∃ value, map.get? key = some value := by
  simp [keys, get?_eq_some_iff]

variable [Std.TransOrd κ]

/-- Put a value under a key, replacing the one it has. -/
def insert (map : SortedMap κ β) (key : κ) (value : β) : SortedMap κ β :=
  ⟨Entries.insert key value map.entries, Entries.sorted_insert key value map.sorted⟩

/-- The map of a list of pairs, of which a later pair replaces an earlier one. -/
def ofList (pairs : List (κ × β)) : SortedMap κ β :=
  ⟨Entries.ofList pairs, Entries.sorted_ofList pairs⟩

theorem get?_insert (map : SortedMap κ β) (key other : κ) (value : β) :
    (map.insert key value).get? other =
      if compare other key = .eq then some value else map.get? other :=
  Entries.get?_insert key other value map.entries

theorem get?_erase (map : SortedMap κ β) (key other : κ) :
    (map.erase key).get? other = if compare other key = .eq then none else map.get? other :=
  Entries.get?_erase key other map.entries

/-- Of the values that are put under one key, the last one stays. -/
theorem get?_foldl_insert (pairs : List (κ × β)) (map : SortedMap κ β) (key : κ) :
    (pairs.foldl (fun map pair => map.insert pair.1 pair.2) map).get? key =
      (Entries.get? key pairs.reverse).or (map.get? key) := by
  induction pairs generalizing map with
  | nil => simp
  | cons pair rest ih =>
    rw [List.foldl_cons, ih, get?_insert, List.reverse_cons, Entries.get?_append, Option.or_assoc]
    congr 1
    simp only [Entries.get?]
    split <;> simp

theorem ofList_eq_foldl (pairs : List (κ × β)) :
    ofList pairs = pairs.foldl (fun map pair => map.insert pair.1 pair.2) empty := by
  have hentries : (pairs.foldl (fun map pair => map.insert pair.1 pair.2) empty).entries =
      Entries.ofList pairs :=
    (List.foldl_hom entries fun _ _ => rfl).symm
  simp only [ofList, ← hentries]

theorem get?_ofList (pairs : List (κ × β)) (key : κ) :
    (ofList pairs).get? key = Entries.get? key pairs.reverse := by
  rw [ofList_eq_foldl, get?_foldl_insert]
  exact Option.or_none

theorem contains_ofList_iff {pairs : List (κ × β)} {key : κ} :
    (ofList pairs).contains key = true ↔ ∃ value, (key, value) ∈ pairs := by
  rw [contains, get?_ofList, Entries.isSome_get?_iff]
  simp only [List.mem_reverse]

/-- A map is determined by its look-ups. -/
theorem ext_get? {left right : SortedMap κ β} (same : ∀ key, left.get? key = right.get? key) :
    left = right := by
  have := Entries.eq_of_get?_eq left.sorted right.sorted same
  cases left; cases right; simpa using this

/-- A map without values is determined by its keys. -/
theorem ext_contains {left right : SortedMap κ Unit}
    (same : ∀ key, left.contains key = true ↔ right.contains key = true) : left = right := by
  apply ext_get?
  intro key
  have hkey := same key
  unfold contains at hkey
  rcases hleft : left.get? key with _ | ⟨⟩ <;> rcases hright : right.get? key with _ | ⟨⟩
  · rfl
  · rw [hleft, hright] at hkey
    exact absurd (hkey.2 rfl) Bool.false_ne_true
  · rw [hleft, hright] at hkey
    exact absurd (hkey.1 rfl) Bool.false_ne_true
  · rfl

/-- A map is the map of its entries. -/
theorem ofList_entries (map : SortedMap κ β) : ofList map.entries = map :=
  ext_get? fun key => Entries.get?_ofList (Entries.nodup_keys map.sorted) key

/-- Of two values for one key the later one stays. -/
theorem insert_insert (map : SortedMap κ β) (key : κ) (first second : β) :
    (map.insert key first).insert key second = map.insert key second := by
  apply ext_get?
  intro other
  rw [get?_insert, get?_insert, get?_insert]
  split <;> rfl

/-- A value that is removed again does not show. -/
theorem erase_insert (map : SortedMap κ β) (key : κ) (value : β) :
    (map.insert key value).erase key = map.erase key := by
  apply ext_get?
  intro other
  rw [get?_erase, get?_erase, get?_insert]
  split <;> rfl

/-- Removing a key that has no value changes nothing. -/
theorem erase_of_get?_eq_none {map : SortedMap κ β} {key : κ} (habsent : map.get? key = none) :
    map.erase key = map := by
  apply ext_get?
  intro other
  rw [get?_erase]
  split
  · rename_i hsame
    rw [Std.LawfulEqOrd.eq_of_compare hsame, habsent]
  · rfl

end SortedMap

end Reconciler
