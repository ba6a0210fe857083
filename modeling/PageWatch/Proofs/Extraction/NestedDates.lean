import PageWatch.Proofs.Config.Loaded
import PageWatch.Proofs.Extraction.Locality
import PageWatch.Proofs.Text.Padding
import PageWatch.Proofs.Text.Segments

/-!
# Dates inside the content block

Rules may say that the date is inside the content block, and then name the tags on the way
to it. The element whose text is read as the date is inside the block and has the last of
these tags, if there are any. Where the text that should name them holds only commas and
blanks, the way ends where it begins, and the text of the block itself is read.
-/

set_option autoImplicit false

namespace PageWatch

theorem splitAlternatives_eq_nil {rule : String} :
    splitAlternatives rule = [] ↔ ∀ c ∈ rule.toList, c ≠ ',' → Text.isBlank c = true := by
  rw [splitAlternatives, List.map_eq_nil_iff, alternatives, List.filter_eq_nil_iff,
    ← Text.forall_mem_splitOn]
  simp [Text.trim_eq_nil]

namespace RuleTexts

def dateTags (r : RuleTexts) : List String :=
  match nonBlank? r.dateMode with
  | some _ => [Text.trimmed r.dateTag]
  | none => splitAlternatives (Text.trimmed r.dateTag)

/-- There is a tag for the date: one that is taken as a whole, or more than commas and blanks. -/
def NamesDate (r : RuleTexts) : Prop :=
  nonBlank? r.dateMode ≠ none ∨ ∃ c ∈ r.dateTag.toList, c ≠ ',' ∧ Text.isBlank c = false

theorem dateTags_eq_nil {r : RuleTexts} : r.dateTags = [] ↔ ¬ r.NamesDate := by
  unfold dateTags NamesDate
  cases nonBlank? r.dateMode with
  | some mode => simp
  | none =>
    have kept (c : Char) (solid : Text.isBlank c = false) :
        c ∈ (Text.trimmed r.dateTag).toList ↔ c ∈ r.dateTag.toList := by
      rw [Text.trimmed, String.toList_ofList]
      exact Text.mem_trim solid
    simp only [splitAlternatives_eq_nil, ne_eq, not_true_eq_false, false_or]
    constructor
    · rintro nothing ⟨c, mem, comma, solid⟩
      have blank := nothing c ((kept c solid).mpr mem) comma
      rw [solid] at blank
      cases blank
    · intro nothing c mem comma
      by_contra solid
      have solid := Bool.eq_false_iff.mpr solid
      exact nothing ⟨c, (kept c solid).mp mem, comma, solid⟩

end RuleTexts

theorem nonBlank?_eq_some {s t : String} (h : nonBlank? s = some t) : t = Text.trimmed s := by
  rw [nonBlank?] at h
  split at h
  · cases h
  · exact (Option.some.inj h).symm

theorem RuleSet.dateLocator_nested {r : RuleTexts} {l : DateLocator}
    (nested : Text.trimmed r.dateIn = "yes") (h : dateLocator r = .ok l) :
    l = .alongTags r.dateTags ∨ ∃ m, l = .inBlock m ∧ r.dateTags = [m.tag] := by
  obtain ⟨tag, named, h⟩ := bind_eq_ok.mp h
  have trimmed : tag = Text.trimmed r.dateTag := by
    unfold orFault at named
    split at named
    · rename_i found
      obtain rfl := Except.ok.inj named
      exact nonBlank?_eq_some found
    · cases named
  subst trimmed
  cases mode : nonBlank? r.dateMode with
  | none =>
    simp only [mode, nested] at h
    obtain rfl := Except.ok.inj h
    have tags : r.dateTags = splitAlternatives (Text.trimmed r.dateTag) := by
      rw [RuleTexts.dateTags, mode]
    exact .inl (congrArg DateLocator.alongTags tags.symm)
  | some name =>
    simp only [mode, nested] at h
    split at h
    · cases h
    · obtain rfl := Except.ok.inj h
      refine .inr ⟨dateMatcher r (Text.trimmed r.dateTag), rfl, ?_⟩
      rw [RuleTexts.dateTags, dateMatcher, mode]

theorem Node.not_mem_elements (n : Node) : n ∉ n.elements := by
  intro inside
  have below : n.preorder <:+: n.descendants :=
    preorderAll_infix_of_mem (List.mem_of_mem_filter inside)
  cases n with
  | element tag attributes children =>
    have length := below.length_le
    exact absurd length (Nat.not_succ_le_self _)
  | _ => cases List.mem_of_mem_filter inside

theorem Node.inside_of_find? {n x : Node} {m : Matcher} (h : n.find? m = some x) :
    x ∈ n.elements ∧ x.tag = m.tag := by
  refine ⟨List.mem_of_find?_eq_some h, ?_⟩
  have accepted := List.find?_some h
  simp only [Matcher.accepts, Bool.and_eq_true, beq_iff_eq] at accepted
  exact accepted.1.2

theorem Node.inside_of_findTag? {n x : Node} {tag : String} (h : n.findTag? tag = some x) :
    x ∈ n.elements ∧ x.tag = tag :=
  ⟨List.mem_of_find?_eq_some h, by simpa using List.find?_some h⟩

theorem inside_of_descend {tags : List String} {block x : Node} (nonempty : tags ≠ [])
    (h : descend block tags = some x) : x ∈ block.elements ∧ tags.getLast? = some x.tag := by
  induction tags generalizing block with
  | nil => exact absurd rfl nonempty
  | cons tag tags ih =>
    rw [descend, List.foldlM_cons] at h
    obtain ⟨next, first, rest⟩ := Option.bind_eq_some_iff.mp h
    obtain ⟨inside, tagged⟩ := Node.inside_of_findTag? first
    by_cases last : tags = []
    · subst last
      obtain rfl := Option.some.inj rest
      exact ⟨inside, by simp [tagged]⟩
    · obtain ⟨deeper, ends⟩ := ih last rest
      refine ⟨Node.elements_subset inside deeper, ?_⟩
      rw [List.getLast?_cons_of_ne_nil last]
      exact ends

/-- Of a site whose date is inside the content block, the element that is read as the date is inside
the block, and has the last tag on the way to it, if and only if the description of the site names
a tag. Without a tag it is the block itself. -/
theorem nested_date_inside {s : SiteDescription} {rules : RuleSet} {d : Document}
    {block node : Node} (made : RuleSet.ofDescription s = .ok rules)
    (nested : Text.trimmed s.rules.dateIn = "yes")
    (read : dateNode? d block rules.date = some node) :
    (node ∈ block.elements ↔ s.rules.NamesDate) ∧
      (s.rules.NamesDate → s.rules.dateTags.getLast? = some node.tag) ∧
      (¬ s.rules.NamesDate → node = block) := by
  obtain ⟨-, -, -, located⟩ := RuleSet.compile_eq_ok (RuleSet.compile_of_ofDescription made).2
  have named (some_tag : s.rules.NamesDate) :
      node ∈ block.elements ∧ s.rules.dateTags.getLast? = some node.tag := by
    have nonempty : s.rules.dateTags ≠ [] := fun none =>
      RuleTexts.dateTags_eq_nil.mp none some_tag
    rcases RuleSet.dateLocator_nested nested located with along | ⟨m, single, tags⟩
    · rw [along] at read
      exact inside_of_descend nonempty read
    · rw [single] at read
      obtain ⟨inside, tagged⟩ := Node.inside_of_find? read
      exact ⟨inside, by rw [tags, tagged, List.getLast?_singleton]⟩
  have unnamed (no_tag : ¬ s.rules.NamesDate) : node = block := by
    have empty := RuleTexts.dateTags_eq_nil.mpr no_tag
    rcases RuleSet.dateLocator_nested nested located with along | ⟨m, single, tags⟩
    · rw [along, empty] at read
      exact (Option.some.inj read).symm
    · rw [empty] at tags
      cases tags
  refine ⟨⟨fun inside => ?_, fun some_tag => (named some_tag).1⟩,
    fun some_tag => (named some_tag).2, unnamed⟩
  by_contra no_tag
  rw [unnamed no_tag] at inside
  exact block.not_mem_elements inside

section Sample

open Watching

def sampleDescending : SiteDescription :=
  { sampleDescription with
    rules := { sampleDescription.rules with dateTag := " p, b ,", dateIn := " yes " } }

def sampleDated : Node :=
  .element "a" [] [.element "b" [] [.text "A"],
    .element "p" [] [.text "B", .element "b" [] [.text "2025-1-2"]]]

theorem nested_date_inside_sample :
    RuleSet.ofDescription sampleDescending =
        .ok { sampleUnrooted with date := .alongTags ["p", "b"] } ∧
      Text.trimmed sampleDescending.rules.dateIn = "yes" ∧
      sampleDescending.rules.NamesDate ∧
      dateNode? ⟨[]⟩ sampleDated (.alongTags ["p", "b"]) =
        some (.element "b" [] [.text "2025-1-2"]) ∧
      .element "b" [] [.text "2025-1-2"] ∈ sampleDated.elements ∧
      sampleDescending.rules.dateTags.getLast? = some "b" := by
  have made : RuleSet.ofDescription sampleDescending =
      .ok { sampleUnrooted with date := .alongTags ["p", "b"] } := by decide +kernel
  have nested : Text.trimmed sampleDescending.rules.dateIn = "yes" := by decide +kernel
  have named : sampleDescending.rules.NamesDate := .inr ⟨'p', by decide +kernel⟩
  have read : dateNode? ⟨[]⟩ sampleDated (.alongTags ["p", "b"]) =
      some (.element "b" [] [.text "2025-1-2"]) := rfl
  have main := nested_date_inside made nested read
  exact ⟨made, nested, named, read, main.1.mpr named, main.2.1 named⟩

def sampleTagless : SiteDescription :=
  { sampleDescription with
    rules := { sampleDescription.rules with dateTag := ",", dateIn := "yes" } }

/-- The rules of the site are accepted, and the date is read off the block, inside which there is
nothing. -/
theorem date_not_inside :
    RuleSet.ofDescription sampleTagless = .ok { sampleUnrooted with date := .alongTags [] } ∧
      Text.trimmed sampleTagless.rules.dateIn = "yes" ∧
      (contentBlocks (Document.parse "<a id=n href=/y>2025-1-2") sampleUnrooted.content).head? =
        some sampleLinked ∧
      dateNode? (Document.parse "<a id=n href=/y>2025-1-2") sampleLinked (.alongTags []) =
        some sampleLinked ∧
      sampleLinked ∉ sampleLinked.elements ∧
      locateDate (Document.parse "<a id=n href=/y>2025-1-2") sampleLinked
        { sampleUnrooted with date := .alongTags [] } = .ok sampleItem.publishedAt := by
  exact ⟨by decide +kernel, by decide +kernel, by decide +kernel, rfl,
    sampleLinked.not_mem_elements, by decide +kernel⟩

end Sample

end PageWatch
