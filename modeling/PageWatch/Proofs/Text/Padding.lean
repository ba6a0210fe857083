import PageWatch.Proofs.Text.Stripping

/-!
# Texts with blanks around them

Blanks at the ends of a text are its padding. Trimming gives the inside of the text, whatever
its padding, and two texts have the same inside exactly when they differ in padding only. Of
a list of segments the insides are left, in order, when neither the padding of a segment
counts nor a segment that is nothing but padding.
-/

set_option autoImplicit false

namespace PageWatch.Text

inductive Padded (inside : List Char) : List Char → Prop where
  | intro (l r : List Char) (before : isBlankText l = true) (after : isBlankText r = true) :
    Padded inside (l ++ inside ++ r)

def Repadded (a b : List Char) : Prop := ∃ inside, Padded inside a ∧ Padded inside b

/-- One list of segments comes from the other by adding and removing blank segments and by padding
the others anew. -/
inductive Relisted : List (List Char) → List (List Char) → Prop where
  | nil : Relisted [] []
  | added {xs ys : List (List Char)} {y : List Char} (blank : isBlankText y = true)
    (later : Relisted xs ys) : Relisted xs (y :: ys)
  | removed {xs ys : List (List Char)} {x : List Char} (blank : isBlankText x = true)
    (later : Relisted xs ys) : Relisted (x :: xs) ys
  | kept {xs ys : List (List Char)} {x y : List Char} (same : Repadded x y)
    (later : Relisted xs ys) : Relisted (x :: xs) (y :: ys)

variable {inside cs a b : List Char} {c : Char}

theorem padded_iff : Padded inside cs ↔ Wrapped isBlank inside cs := by
  constructor
  · rintro ⟨l, r, before, after⟩
    exact ⟨l, r, rfl, List.all_eq_true.mp before, List.all_eq_true.mp after⟩
  · rintro ⟨l, r, rfl, before, after⟩
    exact .intro l r (List.all_eq_true.mpr before) (List.all_eq_true.mpr after)

theorem mem_trim (solid : isBlank c = false) : c ∈ trim cs ↔ c ∈ cs := mem_strip solid

theorem trim_eq_nil : trim cs = [] ↔ ∀ c ∈ cs, isBlank c = true := strip_eq_nil

theorem isBlankText_iff : isBlankText cs = true ↔ trim cs = [] := by
  rw [trim_eq_nil, isBlankText, List.all_eq_true]

theorem padded_trim (cs : List Char) : Padded (trim cs) cs :=
  padded_iff.mpr (wrapped_strip isBlank cs)

theorem trim_of_padded (padded : Padded inside a) : trim a = trim inside :=
  strip_of_wrapped ((wrapped_strip isBlank inside).trans (padded_iff.mp padded))
    (bare_strip isBlank inside)

theorem repadded_iff : Repadded a b ↔ trim a = trim b := by
  constructor
  · rintro ⟨inside, first, second⟩
    rw [trim_of_padded first, trim_of_padded second]
  · intro same
    exact ⟨trim a, padded_trim a, same ▸ padded_trim b⟩

def insides (segments : List (List Char)) : List (List Char) :=
  (segments.map trim).filter (· ≠ [])

variable {xs ys : List (List Char)} {x y : List Char}

theorem insides_cons (x : List Char) (xs : List (List Char)) :
    insides (x :: xs) = if trim x = [] then insides xs else trim x :: insides xs := by
  by_cases empty : trim x = [] <;> simp [insides, empty]

theorem insides_of_relisted (relisted : Relisted xs ys) : insides xs = insides ys := by
  induction relisted with
  | nil => rfl
  | added blank _ ih => rw [ih, insides_cons, if_pos (isBlankText_iff.mp blank)]
  | removed blank _ ih => rw [insides_cons, if_pos (isBlankText_iff.mp blank), ih]
  | kept same _ ih => rw [insides_cons, insides_cons, repadded_iff.mp same, ih]

theorem relisted_of_insides (same : insides xs = insides ys) : Relisted xs ys := by
  induction xs generalizing ys with
  | nil =>
    induction ys with
    | nil => exact .nil
    | cons y ys ih =>
      rw [insides_cons] at same
      by_cases empty : trim y = []
      · rw [if_pos empty] at same
        exact .added (isBlankText_iff.mpr empty) (ih same)
      · rw [if_neg empty] at same
        cases same
  | cons x xs ih =>
    rw [insides_cons] at same
    by_cases empty : trim x = []
    · rw [if_pos empty] at same
      exact .removed (isBlankText_iff.mpr empty) (ih same)
    · rw [if_neg empty] at same
      -- The blank segments of the other list are added until one comes with the same inside.
      induction ys with
      | nil => cases same
      | cons y ys add =>
        rw [insides_cons] at same
        by_cases empty' : trim y = []
        · rw [if_pos empty'] at same
          exact .added (isBlankText_iff.mpr empty') (add same)
        · rw [if_neg empty'] at same
          obtain ⟨first, later⟩ := List.cons.inj same
          exact .kept (repadded_iff.mpr first) (ih later)

theorem relisted_iff : Relisted xs ys ↔ insides xs = insides ys :=
  ⟨insides_of_relisted, relisted_of_insides⟩

end PageWatch.Text
