import PageWatch.Proofs.Text.Padding
import PageWatch.Site.RuleSet

/-!
# Descriptions with other padding

Whoever writes a description may put blanks around its texts and around the alternatives in
its lists, and may leave alternatives empty. The rules that are made of it are the same, and
so is the fault that is found in it.
-/

set_option autoImplicit false

namespace PageWatch

open Text

section

variable {a b : String}

theorem trimmed_of_repadded (h : Repadded a.toList b.toList) : trimmed a = trimmed b := by
  rw [trimmed, trimmed, repadded_iff.mp h]

theorem nonBlank?_of_repadded (h : Repadded a.toList b.toList) : nonBlank? a = nonBlank? b := by
  rw [nonBlank?, nonBlank?, trimmed_of_repadded h]

theorem alternatives_eq_insides (cs : List Char) : alternatives cs = insides (cs.splitOn ',') := rfl

theorem splitAlternatives_of_relisted
    (h : Relisted (a.toList.splitOn ',') (b.toList.splitOn ',')) :
    splitAlternatives a = splitAlternatives b := by
  rw [splitAlternatives, splitAlternatives, alternatives_eq_insides, alternatives_eq_insides,
    relisted_iff.mp h]

end

structure RuleTexts.Repadded (r s : RuleTexts) : Prop where
  content : Relisted (r.content.toList.splitOn ',') (s.content.toList.splitOn ',')
  contentTag : Text.Repadded r.contentTag.toList s.contentTag.toList
  contentMode : Text.Repadded r.contentMode.toList s.contentMode.toList
  dateTag : Text.Repadded r.dateTag.toList s.dateTag.toList
  dateMode : Text.Repadded r.dateMode.toList s.dateMode.toList
  date : Text.Repadded r.date.toList s.date.toList
  dateIn : Text.Repadded r.dateIn.toList s.dateIn.toList
  titleMode : Text.Repadded r.titleMode.toList s.titleMode.toList
  titleTag : Text.Repadded r.titleTag.toList s.titleTag.toList
  title : Relisted (r.title.toList.splitOn ',') (s.title.toList.splitOn ',')
  agreement : r.agreement = s.agreement

/-- The URLs and the date formats are the same, and all else differs in padding only. -/
structure SiteDescription.Repadded (s t : SiteDescription) : Prop where
  name : Text.Repadded s.name.toList t.name.toList
  baseUrl : s.baseUrl = t.baseUrl
  realUrl : s.realUrl = t.realUrl
  rules : s.rules.Repadded t.rules
  dateFormats : s.dateFormats = t.dateFormats

namespace RuleSet

variable {r s : RuleTexts}

theorem contentQuery_of_repadded (h : r.Repadded s) : contentQuery r = contentQuery s := by
  rw [contentQuery, contentQuery, nonBlank?_of_repadded h.contentTag,
    nonBlank?_of_repadded h.contentMode, splitAlternatives_of_relisted h.content, h.agreement]

theorem dateMatcher_of_repadded (h : r.Repadded s) (tag : String) :
    dateMatcher r tag = dateMatcher s tag := by
  rw [dateMatcher, dateMatcher, nonBlank?_of_repadded h.dateMode, trimmed_of_repadded h.date,
    h.agreement]

theorem dateLocator_of_repadded (h : r.Repadded s) : dateLocator r = dateLocator s := by
  simp only [dateLocator, nonBlank?_of_repadded h.dateTag, nonBlank?_of_repadded h.dateMode,
    nonBlank?_of_repadded h.date, trimmed_of_repadded h.dateIn, dateMatcher_of_repadded h]

theorem titleLocator_of_repadded (h : r.Repadded s) : titleLocator r = titleLocator s := by
  rw [titleLocator, titleLocator, nonBlank?_of_repadded h.titleMode,
    nonBlank?_of_repadded h.titleTag, splitAlternatives_of_relisted h.title, h.agreement]

theorem compile_of_repadded {s t : SiteDescription} (h : s.Repadded t) (name : String) :
    compile name s = compile name t := by
  rw [compile, compile, h.baseUrl, h.realUrl, h.dateFormats, contentQuery_of_repadded h.rules,
    dateLocator_of_repadded h.rules, titleLocator_of_repadded h.rules]

/-- Two descriptions that differ in padding only are made into the same rules, or the same error
with the same message is found in both. -/
theorem ofDescription_ignores_padding {s t : SiteDescription} (repadded : s.Repadded t) :
    ofDescription s = ofDescription t := by
  rw [ofDescription, ofDescription, nonBlank?_of_repadded repadded.name]
  cases nonBlank? t.name with
  | none => rfl
  | some name => simp only [compile_of_repadded repadded]

section Sample

def sampleTight : SiteDescription where
  name := "A"
  baseUrl := "news://h"
  rules :=
    { content := "n,m", dateTag := "ul,li", dateIn := "yes", titleMode := "id", title := "t" }
  dateFormats := ["2006-1-2"]

def samplePadded : SiteDescription where
  name := " A\u3000"
  baseUrl := "news://h"
  rules :=
    { content := ", n ,,\tm\n, ", contentTag := " div", contentMode := "class\u2003",
      dateTag := "\u00A0ul,li ", dateMode := "\r\n", dateIn := "\tyes ", titleMode := " id ",
      titleTag := "h3 ", title := "\u2028,t," }
  dateFormats := ["2006-1-2"]

theorem sample_repadded : sampleTight.Repadded samplePadded where
  name := repadded_iff.mpr (by decide)
  baseUrl := rfl
  realUrl := rfl
  rules :=
    { content := relisted_iff.mpr (by decide)
      contentTag := repadded_iff.mpr (by decide)
      contentMode := repadded_iff.mpr (by decide)
      dateTag := repadded_iff.mpr (by decide)
      dateMode := repadded_iff.mpr (by decide)
      date := repadded_iff.mpr (by decide)
      dateIn := repadded_iff.mpr (by decide)
      titleMode := repadded_iff.mpr (by decide)
      titleTag := repadded_iff.mpr (by decide)
      title := relisted_iff.mpr (by decide)
      agreement := rfl }
  dateFormats := rfl

theorem ofDescription_ignores_padding_sample :
    sampleTight.Repadded samplePadded ∧ ofDescription sampleTight = ofDescription samplePadded ∧
      (ofDescription samplePadded).toOption.map
          (fun rules => (rules.name, rules.content, rules.date)) =
        some ("A", ⟨"div", "class", ["n", "m"], .token⟩, .alongTags ["ul", "li"]) := by
  have same := ofDescription_ignores_padding sample_repadded
  refine ⟨sample_repadded, same, ?_⟩
  rw [← same]
  decide +kernel

end Sample

end RuleSet

end PageWatch
