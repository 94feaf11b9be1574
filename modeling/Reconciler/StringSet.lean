import Reconciler.SortedMap
/-!
Finite sets of strings in increasing order, and maps from strings to strings.
-/
namespace Reconciler

/-- A finite set of strings. -/
abbrev StringSet := SortedMap String Unit

/-- A finite map from strings to strings. -/
abbrev StringMap := SortedMap String String

namespace StringSet

/-- The set of the strings in a list. -/
def ofList (items : List String) : StringSet :=
  SortedMap.ofList (items.map fun item => (item, ()))

/-- A set has the strings of its list, each once however often it is listed. -/
theorem contains_ofList_iff {items : List String} {item : String} :
    (ofList items).contains item = true ↔ item ∈ items := by
  rw [ofList, SortedMap.contains_ofList_iff]
  simp

/-- The members in order. -/
def toList (set : StringSet) : List String :=
  set.keys

theorem contains_iff {set : StringSet} {item : String} :
    set.contains item = true ↔ item ∈ set.toList := by
  rw [SortedMap.contains, Option.isSome_iff_exists, toList, SortedMap.mem_keys_iff]

theorem mem_toList_ofList_iff {items : List String} {item : String} :
    item ∈ (ofList items).toList ↔ item ∈ items := by
  rw [← contains_iff, contains_ofList_iff]

/-- A set is the set of its members. -/
theorem ofList_toList (set : StringSet) : ofList set.toList = set := by
  have hentries : set.toList.map (fun item => (item, ())) = set.entries := by
    rw [toList, SortedMap.keys, List.map_map]
    exact List.map_id _
  rw [ofList, hentries]
  exact SortedMap.ofList_entries set

end StringSet

end Reconciler
