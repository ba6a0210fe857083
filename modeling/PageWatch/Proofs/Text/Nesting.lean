import PageWatch.Proofs.Text.Replacement

/-!
# Copies of a word inside a copy of it

When all occurrences of a word are taken out of a text, the characters around them can
come together to form the word anew. That takes a copy of the word with other copies put
inside it, and for a word that does not overlap itself nothing else is needed.
-/

set_option autoImplicit false

namespace PageWatch.Text

/-- A text with copies of a word put in before some of its characters. -/
inductive Woven (word : List Char) : List Char → List Char → Prop where
  | nil : Woven word [] []
  | keep (c : Char) {rest text : List Char} (later : Woven word rest text) :
    Woven word (c :: rest) (c :: text)
  | copy {rest text : List Char} (nonempty : rest ≠ []) (later : Woven word rest text) :
    Woven word rest (word ++ text)

/-- Somewhere in the text a copy of the word stands with others inside it. -/
def Nested (word text : List Char) : Prop :=
  ∃ c rest woven, word = c :: rest ∧ Woven word rest woven ∧ woven ≠ rest ∧ c :: woven <:+: text

/-- No end of the word is a beginning of it. -/
def Unbordered (word : List Char) : Prop := ∀ s, s <+: word → s <:+ word → s = [] ∨ s = word

variable {word text : List Char}

theorem Nested.mono {more : List Char} (nested : Nested word text) (inside : text <:+: more) :
    Nested word more := by
  obtain ⟨c, rest, woven, whole, weaves, copies, place⟩ := nested
  exact ⟨c, rest, woven, whole, weaves, copies, place.trans inside⟩

theorem woven_of_prefix (nonempty : word ≠ []) {s : List Char}
    (begins : s <+: replaceAll word [] text) : ∃ woven, Woven word s woven ∧ woven <+: text := by
  induction text using replacing_induction nonempty generalizing s with
  | nil =>
    obtain rfl := List.prefix_nil.mp begins
    exact ⟨[], .nil, List.nil_prefix⟩
  | passed rest ih =>
    rw [replaceAll_append_left nonempty] at begins
    by_cases none : s = []
    · subst none
      exact ⟨[], .nil, List.nil_prefix⟩
    · obtain ⟨woven, weaves, place⟩ := ih begins
      exact ⟨word ++ woven, .copy none weaves, (List.prefix_append_right_inj word).mpr place⟩
  | kept c cs missing ih =>
    rw [replaceAll_cons_of_not_begins missing] at begins
    rcases List.prefix_cons_iff.mp begins with rfl | ⟨t, rfl, later⟩
    · exact ⟨[], .nil, List.nil_prefix⟩
    · obtain ⟨woven, weaves, place⟩ := ih later
      exact ⟨c :: woven, .keep c weaves, (List.prefix_cons_inj c).mpr place⟩

theorem nested_of_infix (nonempty : word ≠ []) (occurs : word <:+: replaceAll word [] text) :
    Nested word text := by
  induction text using replacing_induction nonempty with
  | nil => exact absurd (List.infix_nil.mp occurs) nonempty
  | passed rest ih =>
    rw [replaceAll_append_left nonempty] at occurs
    exact (ih occurs).mono (List.suffix_append word rest).isInfix
  | kept c cs missing ih =>
    rw [replaceAll_cons_of_not_begins missing] at occurs
    rcases List.infix_cons_iff.mp occurs with begins | later
    · rcases List.prefix_cons_iff.mp begins with rfl | ⟨rest, whole, begins⟩
      · exact absurd rfl nonempty
      · obtain ⟨woven, weaves, place⟩ := woven_of_prefix nonempty begins
        have place' : c :: woven <+: c :: cs := (List.prefix_cons_inj c).mpr place
        refine ⟨c, rest, woven, whole, weaves, ?_, place'.isInfix⟩
        rintro rfl
        exact missing (whole ▸ place')
    · exact (ih later).mono (List.suffix_cons c cs).isInfix

theorem Woven.first_copy {rest woven : List Char} (weaves : Woven word rest woven) :
    woven = rest ∨ ∃ p q, rest = p ++ q ∧ q ≠ [] ∧ p ++ word <+: woven := by
  induction weaves with
  | nil => exact .inl rfl
  | keep c later ih =>
    rcases ih with rfl | ⟨p, q, rfl, nonempty, place⟩
    · exact .inl rfl
    · exact .inr ⟨c :: p, q, rfl, nonempty, (List.prefix_cons_inj c).mpr place⟩
  | copy nonempty later ih => exact .inr ⟨[], _, rfl, nonempty, List.prefix_append word _⟩

namespace Unbordered

variable {p q z : List Char}

theorem length_le (unbordered : Unbordered word) (nonempty : p ≠ []) (first : word <+: z)
    (second : p ++ word <+: z) : word.length ≤ p.length := by
  refine Nat.not_lt.mp fun shorter => ?_
  have front : p <+: word :=
    List.prefix_of_prefix_length_le ((List.prefix_append p word).trans second) first
      (Nat.le_of_lt shorter)
  obtain ⟨s, whole⟩ := front
  have begins : s <+: word := by
    have both : p ++ s <+: p ++ word :=
      List.prefix_of_prefix_length_le (whole.symm ▸ first) second (by simp [whole])
    exact (List.prefix_append_right_inj p).mp both
  have length := congrArg List.length whole
  rw [List.length_append] at length
  rcases unbordered s begins ⟨p, whole⟩ with rfl | rfl
  · exact absurd shorter (by simp [← whole])
  · exact nonempty (List.length_eq_zero_iff.mp (by omega))

theorem not_begins (unbordered : Unbordered word) (whole : word = p ++ q) (nonempty : p ≠ [])
    {c : Char} {rest woven : List Char} (ends : q = c :: rest) (weaves : Woven word rest woven)
    (after : List Char) : ¬ word <+: c :: (woven ++ after) := by
  intro begins
  have short : q.length < word.length := by
    have positive := List.length_pos_iff.mpr nonempty
    rw [whole, List.length_append]
    omega
  rcases weaves.first_copy with rfl | ⟨p', q', rfl, -, place⟩
  · have front : q <+: word :=
      List.prefix_of_prefix_length_le (ends ▸ List.prefix_append (c :: woven) after) begins
        (Nat.le_of_lt short)
    rcases unbordered q front ⟨p, whole.symm⟩ with rfl | rfl
    · cases ends
    · exact Nat.lt_irrefl _ short
  · have second : (c :: p') ++ word <+: c :: (woven ++ after) :=
      (List.prefix_cons_inj c).mpr (place.trans (List.prefix_append woven after))
    have far := unbordered.length_le (List.cons_ne_nil c p') begins second
    simp only [ends, List.length_cons, List.length_append] at short far
    omega

theorem prefix_of_woven (unbordered : Unbordered word) {rest woven : List Char}
    (weaves : Woven word rest woven) (whole : word = p ++ rest) (nonempty : p ≠ [])
    (after : List Char) : rest <+: replaceAll word [] (woven ++ after) := by
  induction weaves generalizing p with
  | nil => exact List.nil_prefix
  | keep c later ih =>
    have missing := unbordered.not_begins whole nonempty rfl later after
    rw [List.cons_append, replaceAll_cons_of_not_begins missing]
    exact (List.prefix_cons_inj c).mpr
      (ih (p := p ++ [c]) (by simp [whole]) (List.append_ne_nil_of_right_ne_nil p (by simp)))
  | copy _ later ih =>
    have word_nonempty : word ≠ [] := whole ▸ List.append_ne_nil_of_left_ne_nil nonempty _
    rw [List.append_assoc, replaceAll_append_left word_nonempty]
    exact ih whole nonempty

/-- No occurrence crosses into a copy of the word with others inside it. -/
theorem not_crosses (unbordered : Unbordered word) {before after : List Char}
    (begins : p ++ word <+: after) (whole : word = p ++ q) : ¬ Crosses word before after := by
  rintro ⟨s, t, split, front, back, -, starts⟩
  have shorter : t.length < word.length := by
    have positive := List.length_pos_iff.mpr front
    rw [split, List.length_append]
    omega
  have proper {u : List Char} (begins : u <+: word) (ends : u <:+ t) : u = [] := by
    rcases unbordered u begins (ends.trans ⟨s, split.symm⟩) with none | rfl
    · exact none
    · exact absurd ends.length_le (Nat.not_le.mpr shorter)
  have fits : t <+: p ++ word := by
    refine List.prefix_of_prefix_length_le starts begins ?_
    rw [List.length_append]
    omega
  rcases List.prefix_or_prefix_of_prefix fits (List.prefix_append p word) with inside | ⟨u, rfl⟩
  · exact back (proper (inside.trans ⟨q, whole.symm⟩) (List.suffix_refl t))
  · have none : u = [] := proper ((List.prefix_append_right_inj p).mp fits) (List.suffix_append p u)
    rw [none, List.append_nil] at back proper
    exact back (proper ⟨q, whole.symm⟩ (List.suffix_refl p))

theorem infix_of_nested (unbordered : Unbordered word) (nested : Nested word text) :
    word <:+: replaceAll word [] text := by
  obtain ⟨c, rest, woven, whole, weaves, copies, before, after, rfl⟩ := nested
  obtain ⟨p, q, rfl, ends, place⟩ := weaves.first_copy.resolve_left copies
  have nonempty : word ≠ [] := whole ▸ List.cons_ne_nil c _
  have begins : (c :: p) ++ word <+: c :: woven ++ after :=
    (List.prefix_cons_inj c).mpr (place.trans (List.prefix_append woven after))
  have missing : ¬ word <+: c :: (woven ++ after) := by
    intro found
    have far := unbordered.length_le (List.cons_ne_nil c p) found begins
    have positive := List.length_pos_iff.mpr ends
    simp only [whole, List.length_cons, List.length_append] at far
    omega
  have left := unbordered.prefix_of_woven weaves (p := [c]) whole (List.cons_ne_nil c []) after
  rw [List.append_assoc, replaceAll_append nonempty (unbordered.not_crosses begins whole),
    List.cons_append, replaceAll_cons_of_not_begins missing]
  have found : word <+: c :: replaceAll word [] (woven ++ after) :=
    List.prefix_cons_iff.mpr (.inr ⟨_, whole, left⟩)
  exact found.isInfix.trans (List.suffix_append _ _).isInfix

end Unbordered

end PageWatch.Text
