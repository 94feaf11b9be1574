import Mathlib.Data.List.TakeWhile
import Reconciler.Kind
/-!
Which API versions are read as the group and the version that they were written from.  An API
version is divided at its first slash, and the group without a name is written without a slash; so a
version with a slash, in that group, is read as another group.
-/
namespace Reconciler

namespace GroupVersion

/-- Without a slash the text is the version. -/
theorem parse?_bare {text : String} (hslash : '/' ∉ text.toList) :
    parse? text = if text = "" then none else some ⟨"", text⟩ := by
  have hall : text.toList.takeWhile (· ≠ '/') = text.toList := by
    rw [List.takeWhile_eq_self_iff]
    intro c hc
    rw [decide_eq_true_eq]
    rintro rfl
    exact hslash hc
  simp only [parse?, hall, List.drop_length, String.isEmpty_iff]

/-- A text is divided at its first slash. -/
theorem parse?_divided {front rest : List Char} (hslash : '/' ∉ front) :
    parse? (String.ofList (front ++ '/' :: rest)) =
      if rest = [] then none else some ⟨String.ofList front, String.ofList rest⟩ := by
  have hfirst : (front ++ '/' :: rest).takeWhile (· ≠ '/') = front := by
    rw [List.takeWhile_append_of_pos, List.takeWhile_cons_of_neg (by simp), List.append_nil]
    intro c hc
    rw [decide_eq_true_eq]
    rintro rfl
    exact hslash hc
  simp only [parse?, String.toList_ofList, hfirst, List.drop_left, String.isEmpty_iff,
    String.ofList_eq_empty_iff]

/-- A text is a group and a version if they are what it is divided into. -/
theorem parse?_eq_some_iff {text : String} {parsed : GroupVersion} :
    parse? text = some parsed ↔
      parsed.version ≠ "" ∧
        (parsed.group = "" ∧ parsed.version = text ∧ '/' ∉ text.toList ∨
          '/' ∉ parsed.group.toList ∧ text = parsed.group ++ "/" ++ parsed.version) := by
  obtain ⟨group, version⟩ := parsed
  have hdivided : text = group ++ "/" ++ version ↔
      text = String.ofList (group.toList ++ '/' :: version.toList) := by
    rw [← String.toList_inj, ← String.toList_inj]
    simp
  rw [hdivided]
  constructor
  · intro hparse
    by_cases hslash : '/' ∈ text.toList
    · obtain ⟨front, rest, htext, hfront⟩ := List.eq_append_cons_of_mem hslash
      have hwhole : text = String.ofList (front ++ '/' :: rest) := by
        rw [← htext, String.ofList_toList]
      rw [hwhole, parse?_divided hfront] at hparse
      obtain ⟨hrest, hsame⟩ := Option.ite_none_left_eq_some.1 hparse
      obtain ⟨rfl, rfl⟩ := GroupVersion.mk.inj (Option.some.inj hsame)
      exact ⟨by simpa using hrest, .inr ⟨by simpa using hfront, by simpa using hwhole⟩⟩
    · rw [parse?_bare hslash] at hparse
      obtain ⟨hne, hsame⟩ := Option.ite_none_left_eq_some.1 hparse
      obtain ⟨rfl, rfl⟩ := GroupVersion.mk.inj (Option.some.inj hsame)
      exact ⟨hne, .inl ⟨rfl, rfl, hslash⟩⟩
  · rintro ⟨hversion, ⟨rfl, rfl, hslash⟩ | ⟨hslash, rfl⟩⟩
    · rw [parse?_bare hslash, if_neg hversion]
    · rw [parse?_divided hslash, if_neg (by simpa using hversion), String.ofList_toList,
        String.ofList_toList]

/-- A text with one slash at least, where nothing follows the first. -/
def EndsAtSlash (text : String) : Prop :=
  ∃ front : String, '/' ∉ front.toList ∧ text = front ++ "/"

/-- A text is no group and version if the version would be empty. -/
theorem parse?_eq_none_iff {text : String} :
    parse? text = none ↔ text = "" ∨ EndsAtSlash text := by
  constructor
  · intro hnone
    by_cases hslash : '/' ∈ text.toList
    · obtain ⟨front, rest, htext, hfront⟩ := List.eq_append_cons_of_mem hslash
      obtain rfl : text = String.ofList (front ++ '/' :: rest) := by
        rw [← htext, String.ofList_toList]
      rw [parse?_divided hfront, ite_eq_left_iff] at hnone
      obtain rfl : rest = [] := by
        by_contra hrest
        cases hnone hrest
      refine .inr ⟨String.ofList front, by simpa using hfront, ?_⟩
      rw [← String.toList_inj]
      simp
    · rw [parse?_bare hslash, ite_eq_left_iff] at hnone
      left
      by_contra hne
      cases hnone hne
  · rintro (rfl | ⟨front, hfront, rfl⟩)
    · rfl
    · have hlist : front ++ "/" = String.ofList (front.toList ++ '/' :: []) := by
        rw [← String.toList_inj]
        simp
      rw [hlist, parse?_divided hfront, if_pos rfl]

end GroupVersion

namespace GroupVersionKind

/-- The group and the version are read again unless a slash stands where it divides them wrong. -/
theorem parse?_apiVersion_iff {gvk : GroupVersionKind} :
    GroupVersion.parse? gvk.apiVersion = some ⟨gvk.group, gvk.version⟩ ↔
      gvk.version ≠ "" ∧ '/' ∉ gvk.group.toList ∧ (gvk.group = "" → '/' ∉ gvk.version.toList) := by
  rw [GroupVersion.parse?_eq_some_iff]
  refine and_congr_right fun _ => ?_
  by_cases hgroup : gvk.group = ""
  · have hlonger : gvk.version ≠ "/" ++ gvk.version := by
      intro hsame
      have hlength := congrArg String.length hsame
      simp at hlength
    simp [apiVersion, hgroup, hlonger]
  · simp [apiVersion, hgroup]

end GroupVersionKind

end Reconciler
