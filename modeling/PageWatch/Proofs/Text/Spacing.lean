import PageWatch.Proofs.Text.Words

/-!
# Words with single spaces

Collapsing writes the words of a text again, with one space between two of them and no other
blank. The words stay the same, so two texts collapse to the same exactly when they are
written with the same words.
-/

set_option autoImplicit false

namespace PageWatch.Text

/-- Every blank is a space, and on both sides of it stands something that is not blank. -/
def SingleSpaced (cs : List Char) : Prop :=
  ∀ l c r, cs = l ++ c :: r → isBlank c = true →
    c = ' ' ∧ (∃ d ∈ l.getLast?, isBlank d = false) ∧ ∃ d ∈ r.head?, isBlank d = false

/-- The texts are written with the same words, and differ in the blanks around these only. -/
def Respaced (a b : List Char) : Prop := ∃ ws, Spaced ws a ∧ Spaced ws b

variable {w cs a b : List Char} {ws : List (List Char)}

theorem respaced_iff : Respaced a b ↔ words a = words b := by
  constructor
  · rintro ⟨ws, first, second⟩
    rw [words_of_spaced first, words_of_spaced second]
  · intro same
    exact ⟨words a, spaced_iff.mpr rfl, spaced_iff.mpr same.symm⟩

theorem IsWord.head? (word : IsWord w) (r : List Char) :
    ∃ d ∈ (w ++ r).head?, isBlank d = false := by
  obtain ⟨d, rest, rfl⟩ := List.exists_cons_of_ne_nil word.1
  exact ⟨d, rfl, word.2 d List.mem_cons_self⟩

theorem IsWord.getLast? (word : IsWord w) : ∃ d ∈ w.getLast?, isBlank d = false :=
  ⟨w.getLast word.1, List.getLast?_eq_some_getLast word.1, word.2 _ (List.getLast_mem word.1)⟩

theorem IsWord.blank_behind (word : IsWord w) {l r : List Char} {c : Char}
    (split : w ++ ' ' :: cs = l ++ c :: r) (blank : isBlank c = true) :
    (l = w ∧ c = ' ' ∧ r = cs) ∨ ∃ between, l = w ++ ' ' :: between ∧ cs = between ++ c :: r := by
  rcases List.append_eq_append_iff.mp split with ⟨between, rfl, later⟩ | ⟨between, rfl, later⟩
  · cases between with
    | nil =>
      obtain ⟨rfl, rfl⟩ := List.cons.inj later
      exact .inl ⟨List.append_nil w, rfl, rfl⟩
    | cons d between =>
      obtain ⟨rfl, rest⟩ := List.cons.inj later
      exact .inr ⟨between, rfl, rest⟩
  · cases between with
    | nil =>
      obtain ⟨rfl, rfl⟩ := List.cons.inj later
      exact .inl ⟨(List.append_nil l).symm, rfl, rfl⟩
    | cons d between =>
      obtain ⟨rfl, -⟩ := List.cons.inj later
      exact absurd blank (Bool.eq_false_iff.mp (word.2 c List.mem_append_cons_self))

theorem SingleSpaced.word_space (word : IsWord w) (single : SingleSpaced cs)
    (begins : ∃ d ∈ cs.head?, isBlank d = false) : SingleSpaced (w ++ ' ' :: cs) := by
  intro l c r split blank
  rcases word.blank_behind split blank with ⟨rfl, rfl, rfl⟩ | ⟨between, rfl, rest⟩
  · exact ⟨rfl, word.getLast?, begins⟩
  · obtain ⟨space, ⟨d, last, solid⟩, after⟩ := single between c r rest blank
    refine ⟨space, ⟨d, ?_, solid⟩, after⟩
    rw [List.append_cons, List.getLast?_append, Option.mem_def.mp last, Option.some_or]
    rfl

theorem singleSpaced_of_isWord (word : IsWord w) : SingleSpaced w := by
  intro l c r split blank
  exact absurd blank (Bool.eq_false_iff.mp (word.2 c (split ▸ List.mem_append_cons_self)))

theorem exists_intercalate_cons (w : List Char) (ws : List (List Char)) :
    ∃ rest, [' '].intercalate (w :: ws) = w ++ rest := by
  cases ws with
  | nil => exact ⟨[], by simp⟩
  | cons v ws =>
    rw [List.intercalate_cons_cons, List.append_assoc]
    exact ⟨_, rfl⟩

theorem spaced_intercalate (all : ∀ w ∈ ws, IsWord w) : Spaced ws ([' '].intercalate ws) := by
  induction ws with
  | nil => exact .nil
  | cons w ws ih =>
    obtain ⟨word, later⟩ := List.forall_mem_cons.mp all
    cases ws with
    | nil =>
      have alone : Spaced [w] (w ++ []) := .word word nofun .nil
      simpa using alone
    | cons v ws =>
      rw [List.intercalate_cons_cons, List.append_assoc]
      refine .word word ?_ (.blank rfl (ih later))
      intro c first
      obtain rfl := Option.some.inj first
      rfl

theorem singleSpaced_intercalate (all : ∀ w ∈ ws, IsWord w) :
    SingleSpaced ([' '].intercalate ws) := by
  induction ws with
  | nil =>
    intro l c r split
    simp at split
  | cons w ws ih =>
    obtain ⟨word, later⟩ := List.forall_mem_cons.mp all
    cases ws with
    | nil => simpa using singleSpaced_of_isWord word
    | cons v ws =>
      have begins : ∃ d ∈ ([' '].intercalate (v :: ws)).head?, isBlank d = false := by
        obtain ⟨rest, joined⟩ := exists_intercalate_cons v ws
        rw [joined]
        exact (List.forall_mem_cons.mp later).1.head? rest
      rw [List.intercalate_cons_cons, List.append_assoc]
      exact (ih later).word_space word begins

theorem isWord_of_mem_words (mem : w ∈ words cs) : IsWord w := (mem_words_iff.mp mem).1

theorem words_collapse (cs : List Char) : words (collapse cs) = words cs :=
  words_of_spaced (spaced_intercalate fun _ => isWord_of_mem_words)

theorem singleSpaced_collapse (cs : List Char) : SingleSpaced (collapse cs) :=
  singleSpaced_intercalate fun _ => isWord_of_mem_words

theorem collapse_eq_iff : collapse a = collapse b ↔ Respaced a b := by
  rw [respaced_iff]
  constructor
  · intro same
    rw [← words_collapse a, same, words_collapse b]
  · intro same
    rw [collapse, same, collapse]

theorem Spaced.eq_nil_iff (spaced : Spaced ws cs) : ws = [] ↔ ∀ c ∈ cs, isBlank c = true := by
  induction spaced with
  | nil => simp
  | blank blank _ ih => simp [ih, blank]
  | word word _ _ _ =>
    obtain ⟨d, rest, rfl⟩ := List.exists_cons_of_ne_nil word.1
    simp [word.2 d List.mem_cons_self]

theorem collapse_eq_nil : collapse cs = [] ↔ ∀ c ∈ cs, isBlank c = true := by
  have spaced : Spaced (words cs) cs := spaced_iff.mpr rfl
  rw [← spaced.eq_nil_iff]
  constructor
  · intro empty
    rw [← words_collapse, empty, words_nil]
  · intro none_there
    rw [collapse, none_there]
    rfl

end PageWatch.Text
