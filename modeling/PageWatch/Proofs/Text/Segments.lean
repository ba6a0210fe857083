import PageWatch.Text.Substring

/-!
# Texts cut at a separator

A text is cut into segments at every place where a separator stands. Segments have no
separator in them, and together they have all other characters of the text. Segments that are
joined with the separator are cut into themselves again, whatever follows them.
-/

set_option autoImplicit false

namespace PageWatch.Text

variable {separator : Char} {cs segment : List Char} {segments : List (List Char)}

theorem forall_mem_splitOn {P : Char → Prop} :
    (∀ segment ∈ cs.splitOn separator, ∀ c ∈ segment, P c) ↔ ∀ c ∈ cs, c ≠ separator → P c := by
  induction cs with
  | nil => simp [List.splitOn_nil]
  | cons c cs ih =>
    rw [List.splitOn_cons_eq_if_modifyHead]
    by_cases cut : c = separator
    · simp [cut, ih]
    · cases segments : cs.splitOn separator with
      | nil => exact absurd segments (List.splitOn_ne_nil separator cs)
      | cons first rest =>
        rw [segments] at ih
        simp only [beq_iff_eq, cut, if_false, List.modifyHead_cons, List.forall_mem_cons] at ih ⊢
        rw [and_assoc, ih]
        simp [cut]

theorem not_mem_of_mem_splitOn (mem : segment ∈ cs.splitOn separator) : separator ∉ segment := by
  have others : ∀ segment ∈ cs.splitOn separator, ∀ c ∈ segment, c ≠ separator :=
    forall_mem_splitOn.mpr fun _ _ other => other
  exact fun inside => others segment mem separator inside rfl

theorem mem_of_mem_splitOn (mem : segment ∈ cs.splitOn separator) {c : Char}
    (inside : c ∈ segment) : c ∈ cs := by
  have within : ∀ segment ∈ cs.splitOn separator, ∀ c ∈ segment, c ∈ cs :=
    forall_mem_splitOn.mpr fun _ mem _ => mem
  exact within segment mem c inside

/-- What is joined behind segments does not change how these are cut. -/
theorem splitOn_intercalate_append (closed : ∀ segment ∈ segments, separator ∉ segment)
    (more : List (List Char)) :
    ∃ rest, ([separator].intercalate (segments ++ more)).splitOn separator = segments ++ rest := by
  induction segments with
  | nil => exact ⟨_, rfl⟩
  | cons segment segments ih =>
    obtain ⟨whole, later⟩ := List.forall_mem_cons.mp closed
    obtain ⟨rest, cut⟩ := ih later
    by_cases last : segments ++ more = []
    · obtain ⟨rfl, rfl⟩ := List.append_eq_nil_iff.mp last
      refine ⟨[], ?_⟩
      rw [List.append_nil, List.intercalate_singleton, List.splitOn_eq_singleton whole]
    · refine ⟨rest, ?_⟩
      rw [List.cons_append, List.intercalate_cons_of_ne_nil last, List.append_assoc,
        List.singleton_append, List.splitOn_append_cons_self_of_not_mem whole, cut]
      rfl

theorem splitOnce?_eq_some {before behind : List Char} :
    splitOnce? separator cs = some (before, behind) ↔
      cs = before ++ separator :: behind ∧ separator ∉ before := by
  induction cs generalizing before with
  | nil => simp [splitOnce?]
  | cons c cs ih =>
    rw [splitOnce?]
    by_cases cut : c = separator
    · rw [if_pos cut]
      cases before with
      | nil => simp [cut]
      | cons d before => simp +contextual [← cut]
    · rw [if_neg cut, Option.map_eq_some_iff]
      constructor
      · rintro ⟨⟨l, r⟩, found, same⟩
        obtain ⟨rfl, rfl⟩ := Prod.mk.inj same
        obtain ⟨rfl, closed⟩ := ih.mp found
        exact ⟨rfl, List.not_mem_cons_of_ne_of_not_mem (Ne.symm cut) closed⟩
      · rintro ⟨split, closed⟩
        cases before with
        | nil => exact absurd (List.cons.inj split).1 cut
        | cons d before =>
          obtain ⟨rfl, rest⟩ := List.cons.inj split
          exact ⟨(before, behind), ih.mpr ⟨rest, List.not_mem_of_not_mem_cons closed⟩, rfl⟩

end PageWatch.Text
