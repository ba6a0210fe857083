import PageWatch.Proofs.Text.Padding
import PageWatch.Proofs.Text.Segments
import PageWatch.Site.Alternatives

/-!
# Lists of alternatives, written and read

The alternatives of a rule are written in one text with commas between them. One alternative
is something without a comma and without blanks at its ends. Whatever a rule is, the list that
is read from it consists of such alternatives, and every list of them is read as it was
written, so that a list which was read is read again when it is written down.
-/

set_option autoImplicit false

namespace PageWatch

open Text

structure IsAlternative (s : String) : Prop where
  nonempty : s ≠ ""
  whole : ',' ∉ s.toList
  bare : Bare isBlank s.toList

instance (s : String) : Decidable (IsAlternative s) :=
  decidable_of_iff (s ≠ "" ∧ ',' ∉ s.toList ∧ Bare isBlank s.toList)
    ⟨fun ⟨nonempty, whole, bare⟩ => ⟨nonempty, whole, bare⟩,
      fun ⟨nonempty, whole, bare⟩ => ⟨nonempty, whole, bare⟩⟩

variable {cs : List Char} {rule s : String} {list : List String}

theorem mem_alternatives {piece : List Char} (mem : piece ∈ alternatives cs) :
    piece ≠ [] ∧ ',' ∉ piece ∧ Bare isBlank piece := by
  obtain ⟨mem, nonempty⟩ := List.mem_filter.mp mem
  obtain ⟨segment, cut, rfl⟩ := List.mem_map.mp mem
  have comma : isBlank ',' = false := by decide
  refine ⟨of_decide_eq_true nonempty, ?_, (trim_iff.mp rfl).2⟩
  rw [mem_trim comma]
  exact not_mem_of_mem_splitOn cut

theorem isAlternative_of_mem (mem : s ∈ splitAlternatives rule) : IsAlternative s := by
  obtain ⟨piece, given, rfl⟩ := List.mem_map.mp mem
  obtain ⟨nonempty, whole, bare⟩ := mem_alternatives given
  rw [← String.toList_ofList (l := piece)] at whole bare
  refine ⟨fun empty => nonempty ?_, whole, bare⟩
  rw [← String.toList_ofList (l := piece), empty]
  rfl

theorem splitAlternatives_of_splitOn (cut : rule.toList.splitOn ',' = list.map String.toList)
    (fit : ∀ s ∈ list, IsAlternative s) : splitAlternatives rule = list := by
  have trimmed : (list.map String.toList).map trim = list.map String.toList := by
    rw [List.map_map]
    exact List.map_congr_left fun s mem => trim_of_bare (fit s mem).bare
  have kept : (list.map String.toList).filter (· ≠ []) = list.map String.toList := by
    rw [List.filter_eq_self]
    intro piece mem
    obtain ⟨s, given, rfl⟩ := List.mem_map.mp mem
    exact decide_eq_true (mt String.toList_eq_nil_iff.mp (fit s given).nonempty)
  rw [splitAlternatives, alternatives, cut, trimmed, kept, List.map_map]
  exact List.map_id'' (fun _ => String.ofList_toList) list

theorem splitAlternatives_intercalate (fit : ∀ s ∈ list, IsAlternative s) :
    splitAlternatives (",".intercalate list) = list := by
  by_cases nonempty : list = []
  · subst nonempty
    rfl
  · refine splitAlternatives_of_splitOn ?_ fit
    have closed : ∀ piece ∈ list.map String.toList, ',' ∉ piece := by
      intro piece mem
      obtain ⟨s, given, rfl⟩ := List.mem_map.mp mem
      exact (fit s given).whole
    rw [String.toList_intercalate]
    exact List.splitOn_intercalate ',' closed (mt List.map_eq_nil_iff.mp nonempty)

/-- A list of alternatives with commas between them is read as itself, and every rule is read as a
list of alternatives. So whatever a rule is, the list that is read from it is read again when it is
written with commas. -/
theorem alternatives_read_as_written :
    (∀ list : List String, (∀ s ∈ list, IsAlternative s) →
        splitAlternatives (",".intercalate list) = list) ∧
      ∀ rule, (∀ s ∈ splitAlternatives rule, IsAlternative s) ∧
        splitAlternatives (",".intercalate (splitAlternatives rule)) = splitAlternatives rule := by
  refine ⟨fun list => splitAlternatives_intercalate, fun rule => ?_⟩
  have fit : ∀ s ∈ splitAlternatives rule, IsAlternative s := fun s => isAlternative_of_mem
  exact ⟨fit, splitAlternatives_intercalate fit⟩

theorem alternatives_read_as_written_spaced :
    splitAlternatives " news item ,,\tb\u3000c," = ["news item", "b\u3000c"] ∧
      (∀ s ∈ ["news item", "b\u3000c"], IsAlternative s) ∧
      splitAlternatives (",".intercalate ["news item", "b\u3000c"]) = ["news item", "b\u3000c"] := by
  have fit : ∀ s ∈ ["news item", "b\u3000c"], IsAlternative s := by decide
  exact ⟨by decide, fit, alternatives_read_as_written.1 _ fit⟩

end PageWatch
