import PageWatch.Text.Blank

/-!
# Words between blanks

A text is written as its words in order, with blanks before, between and after them. So it
has one sequence of words, and a word of it is what stands between two places where the
text begins, ends or has a blank.
-/

set_option autoImplicit false

namespace PageWatch.Text

def IsWord (w : List Char) : Prop := w ≠ [] ∧ ∀ c ∈ w, isBlank c = false

def OpenEnd (l : List Char) : Prop := ∀ c ∈ l.getLast?, isBlank c = true

def OpenStart (r : List Char) : Prop := ∀ c ∈ r.head?, isBlank c = true

/-- The text is written as these words, with blanks around them and at least one between two. -/
inductive Spaced : List (List Char) → List Char → Prop where
  | nil : Spaced [] []
  | blank {ws : List (List Char)} {c : Char} {cs : List Char} (blank : isBlank c = true)
    (later : Spaced ws cs) : Spaced ws (c :: cs)
  | word {w : List Char} {ws : List (List Char)} {cs : List Char} (word : IsWord w)
    (apart : OpenStart cs) (later : Spaced ws cs) : Spaced (w :: ws) (w ++ cs)

variable {w l r cs : List Char} {ws : List (List Char)} {c : Char}

theorem words_nil : words [] = [] := by simp [words]

theorem words_append_cons (blank : isBlank c = true) (l r : List Char) :
    words (l ++ c :: r) = words l ++ words r := by
  rw [words, List.splitOnP_append_cons l r blank, List.filter_append]
  rfl

theorem words_cons (blank : isBlank c = true) (r : List Char) : words (c :: r) = words r := by
  have cut := words_append_cons blank [] r
  rwa [words_nil] at cut

theorem words_of_isWord (word : IsWord w) : words w = [w] := by
  rw [words, List.splitOnP_eq_singleton fun c mem => word.2 c mem]
  simp [word.1]

theorem words_append (opened : OpenStart r) : words (l ++ r) = words l ++ words r := by
  cases r with
  | nil => rw [List.append_nil, words_nil, List.append_nil]
  | cons c r =>
    have blank : isBlank c = true := opened c rfl
    rw [words_append_cons blank, words_cons blank]

theorem words_of_spaced (spaced : Spaced ws cs) : words cs = ws := by
  induction spaced with
  | nil => exact words_nil
  | blank blank later ih => rw [words_cons blank, ih]
  | word word apart later ih => rw [words_append apart, words_of_isWord word, ih]; rfl

theorem Spaced.cons (solid : isBlank c = false) (spaced : Spaced ws cs) :
    ∃ ws', Spaced ws' (c :: cs) := by
  have alone : IsWord [c] := ⟨List.cons_ne_nil c [], by simpa using solid⟩
  cases spaced with
  | nil => exact ⟨[[c]], .word alone nofun .nil⟩
  | blank blank later =>
    exact ⟨_, .word alone (by simpa [OpenStart] using blank) (.blank blank later)⟩
  | word word apart later =>
    have longer : IsWord (c :: _) :=
      ⟨List.cons_ne_nil c _, List.forall_mem_cons.mpr ⟨solid, word.2⟩⟩
    exact ⟨_, .word longer apart later⟩

theorem exists_spaced (cs : List Char) : ∃ ws, Spaced ws cs := by
  induction cs with
  | nil => exact ⟨[], .nil⟩
  | cons c cs ih =>
    obtain ⟨ws, spaced⟩ := ih
    by_cases blank : isBlank c = true
    · exact ⟨ws, .blank blank spaced⟩
    · exact spaced.cons (Bool.eq_false_iff.mpr blank)

/-- Every text is written as its words and in no other way. -/
theorem spaced_iff : Spaced ws cs ↔ words cs = ws := by
  refine ⟨words_of_spaced, fun same => ?_⟩
  obtain ⟨ws', spaced⟩ := exists_spaced cs
  rwa [← same, words_of_spaced spaced]

theorem Spaced.isWord (spaced : Spaced ws cs) : ∀ w ∈ ws, IsWord w := by
  induction spaced with
  | nil => exact nofun
  | blank _ _ ih => exact ih
  | word word _ _ ih => exact List.forall_mem_cons.mpr ⟨word, ih⟩

theorem OpenEnd.cons (blank : isBlank c = true) (open' : OpenEnd l) : OpenEnd (c :: l) := by
  cases l with
  | nil => simpa [OpenEnd] using blank
  | cons d l => simpa [OpenEnd] using open'

theorem OpenEnd.append (open' : OpenEnd l) (nonempty : l ≠ []) : OpenEnd (w ++ l) := by
  rw [OpenEnd, List.getLast?_append, List.getLast?_eq_some_getLast nonempty, Option.some_or]
  rwa [OpenEnd, List.getLast?_eq_some_getLast nonempty] at open'

theorem Spaced.place {e : List Char} (spaced : Spaced ws cs) (mem : e ∈ ws) :
    ∃ l r, cs = l ++ e ++ r ∧ OpenEnd l ∧ OpenStart r := by
  induction spaced with
  | nil => cases mem
  | @blank ws c cs blank later ih =>
    obtain ⟨l, r, rfl, before, after⟩ := ih mem
    exact ⟨c :: l, r, rfl, before.cons blank, after⟩
  | @word w ws cs word apart later ih =>
    rcases List.mem_cons.mp mem with rfl | mem
    · exact ⟨[], cs, rfl, nofun, apart⟩
    · obtain ⟨l, r, rfl, before, after⟩ := ih mem
      -- The rest begins with a blank, and the word does not, so something stands before it.
      have nonempty : l ≠ [] := by
        rintro rfl
        obtain ⟨d, e, rfl⟩ := List.exists_cons_of_ne_nil (later.isWord e mem).1
        have solid := (later.isWord _ mem).2 d (List.mem_cons_self ..)
        rw [apart d rfl] at solid
        cases solid
      exact ⟨w ++ l, r, by simp, before.append nonempty, after⟩

theorem words_of_openEnd (open' : OpenEnd l) (r : List Char) :
    words (l ++ r) = words l ++ words r := by
  rcases List.eq_nil_or_concat l with rfl | ⟨l, c, rfl⟩
  · rw [words_nil]; rfl
  · have blank : isBlank c = true := open' c (by simp)
    rw [List.concat_eq_append, List.append_assoc, List.singleton_append, words_append_cons blank,
      words_append_cons blank, words_nil, List.append_nil]

theorem mem_words_iff {e : List Char} :
    e ∈ words cs ↔ IsWord e ∧ ∃ l r, cs = l ++ e ++ r ∧ OpenEnd l ∧ OpenStart r := by
  constructor
  · intro mem
    have spaced : Spaced (words cs) cs := spaced_iff.mpr rfl
    exact ⟨spaced.isWord e mem, spaced.place mem⟩
  · rintro ⟨word, l, r, rfl, before, after⟩
    rw [words_append after, words_of_openEnd before, words_of_isWord word]
    simp

end PageWatch.Text
