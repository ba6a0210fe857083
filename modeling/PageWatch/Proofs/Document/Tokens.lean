import PageWatch.Document.Matcher
import PageWatch.Proofs.Text.Words

/-!
# Values of several words

An attribute such as a class holds several words. A value agrees with it as a token when it
is one of these words, as a whole; where in the attribute and how often it stands there, and
how the words are spaced, does not matter.
-/

set_option autoImplicit false

namespace PageWatch.Agreement

open Text

variable {actual expected : String}

theorem token_holds_iff_mem :
    token.holds actual expected = true ↔ expected.toList ∈ words actual.toList := by
  rw [holds, List.contains_iff_mem]

theorem exact_holds_iff : exact.holds actual expected = true ↔ actual = expected := by
  rw [holds, beq_iff_eq]

theorem isWord_toList_iff :
    IsWord expected.toList ↔ expected ≠ "" ∧ ∀ c ∈ expected.toList, isBlank c = false := by
  rw [IsWord, ne_eq, String.toList_eq_nil_iff]

theorem place_iff :
    (∃ l r, actual.toList = l ++ expected.toList ++ r ∧ OpenEnd l ∧ OpenStart r) ↔
      ∃ l r, actual = l ++ expected ++ r ∧ OpenEnd l.toList ∧ OpenStart r.toList := by
  constructor
  · rintro ⟨l, r, whole, before, after⟩
    refine ⟨String.ofList l, String.ofList r, ?_, by simpa using before, by simpa using after⟩
    apply String.toList_injective
    simp [whole]
  · rintro ⟨l, r, rfl, before, after⟩
    exact ⟨l.toList, r.toList, by simp, before, after⟩

theorem token_holds_iff :
    token.holds actual expected = true ↔
      IsWord expected.toList ∧
        ∃ l r, actual = l ++ expected ++ r ∧ OpenEnd l.toList ∧ OpenStart r.toList := by
  rw [token_holds_iff_mem, mem_words_iff, place_iff]

/-- Texts with the same words, in any order, number and spacing, have the same tokens. -/
theorem token_holds_congr {other : String} {ws vs : List (List Char)}
    (spaced : Spaced ws actual.toList) (spaced' : Spaced vs other.toList)
    (same : ∀ w, w ∈ vs ↔ w ∈ ws) : token.holds other expected = token.holds actual expected := by
  rw [Bool.eq_iff_iff, token_holds_iff_mem, token_holds_iff_mem, words_of_spaced spaced,
    words_of_spaced spaced']
  exact same expected.toList

/-- A value is a token of an attribute if and only if it is something without blanks and stands in
the attribute between blanks or ends. So a word that is the whole attribute is a token of it, and
two attributes that are written with the same words, in any order, number and spacing, have the
same tokens. -/
theorem token_is_whole_word (actual expected : String) :
    (token.holds actual expected = true ↔
        (expected ≠ "" ∧ ∀ c ∈ expected.toList, isBlank c = false) ∧
          ∃ l r, actual = l ++ expected ++ r ∧ OpenEnd l.toList ∧ OpenStart r.toList) ∧
      (expected ≠ "" → (∀ c ∈ expected.toList, isBlank c = false) →
        exact.holds actual expected = true → token.holds actual expected = true) ∧
      ∃ ws, Spaced ws actual.toList ∧
        ∀ vs other, Spaced vs other.toList → (∀ w, w ∈ vs ↔ w ∈ ws) →
          token.holds other expected = token.holds actual expected := by
  refine ⟨?_, ?_, ?_⟩
  · rw [token_holds_iff, isWord_toList_iff]
  · intro nonempty solid whole
    obtain rfl := exact_holds_iff.mp whole
    have word : IsWord actual.toList := isWord_toList_iff.mpr ⟨nonempty, solid⟩
    exact token_holds_iff.mpr ⟨word, "", "", by simp, nofun, nofun⟩
  · obtain ⟨ws, spaced⟩ := exists_spaced actual.toList
    exact ⟨ws, spaced, fun vs other spaced' same => token_holds_congr spaced spaced' same⟩

theorem token_is_whole_word_respaced :
    token.holds "item news" "news" = true ∧
      Spaced ["news".toList, "item".toList, "news".toList] "\u3000news\titem\n news ".toList ∧
      token.holds "\u3000news\titem\n news " "news" = true ∧
      exact.holds "news" "news" = true ∧ token.holds "news" "news" = true := by
  have respaced : Spaced ["news".toList, "item".toList, "news".toList]
      "\u3000news\titem\n news ".toList := spaced_iff.mpr (by decide +kernel)
  have word := isWord_toList_iff.mp (respaced.isWord _ List.mem_cons_self)
  have placed : token.holds "item news" "news" = true := by
    refine (token_is_whole_word "item news" "news").1.mpr ⟨word, "item ", "", by decide, ?_, ?_⟩
    · exact fun c last => by obtain rfl := Option.some.inj last; decide
    · nofun
  obtain ⟨ws, spaced, again⟩ := (token_is_whole_word "item news" "news").2.2
  have first : words "item news".toList = ["item".toList, "news".toList] := by decide +kernel
  obtain rfl := first.symm.trans (words_of_spaced spaced)
  have same := again _ _ respaced (by grind)
  have whole : exact.holds "news" "news" = true := rfl
  exact ⟨placed, respaced, same.trans placed, whole,
    (token_is_whole_word "news" "news").2.1 word.1 word.2 whole⟩

end PageWatch.Agreement
