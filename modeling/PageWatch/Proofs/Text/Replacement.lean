import Mathlib.Data.List.Infix
import PageWatch.Text.Substring

/-!
# Replacing from left to right

A text is gone through from the left. Where an occurrence begins it is passed over as a
whole, and everywhere else one character is kept. So texts that no occurrence crosses
between can be gone through one after the other.
-/

set_option autoImplicit false

namespace PageWatch.Text

variable {pat new : List Char}

theorem replaceFrom_eq (skip : Nat) (cs : List Char) :
    replaceFrom pat new skip cs = replaceAll pat new (cs.drop skip) := by
  induction skip generalizing cs with
  | zero => rfl
  | succ skip ih =>
    cases cs with
    | nil => rfl
    | cons c cs => exact ih cs

theorem replaceAll_cons_of_not_begins {c : Char} {cs : List Char} (h : ¬ pat <+: c :: cs) :
    replaceAll pat new (c :: cs) = c :: replaceAll pat new cs := by
  rw [replaceAll, replaceFrom, if_neg (mt List.isPrefixOf_iff_prefix.mp h)]
  rfl

theorem replaceAll_append_left (nonempty : pat ≠ []) (rest : List Char) :
    replaceAll pat new (pat ++ rest) = new ++ replaceAll pat new rest := by
  obtain ⟨c, tail, rfl⟩ := List.exists_cons_of_ne_nil nonempty
  have begins : (c :: tail).isPrefixOf (c :: (tail ++ rest)) = true :=
    List.isPrefixOf_iff_prefix.mpr (List.prefix_append (c :: tail) rest)
  rw [List.cons_append, replaceAll, replaceFrom, if_pos begins, replaceFrom_eq,
    List.length_cons, Nat.add_sub_cancel, List.drop_left]

theorem replacing_induction {P : List Char → Prop} (nonempty : pat ≠ []) (nil : P [])
    (passed : ∀ rest, P rest → P (pat ++ rest))
    (kept : ∀ c cs, ¬ pat <+: c :: cs → P cs → P (c :: cs)) (cs : List Char) : P cs := by
  induction hn : cs.length using Nat.strongRecOn generalizing cs with
  | ind n ih =>
    cases cs with
    | nil => exact nil
    | cons c cs =>
      by_cases begins : pat <+: c :: cs
      · obtain ⟨rest, whole⟩ := begins
        have positive := List.length_pos_iff.mpr nonempty
        have length := congrArg List.length whole
        rw [List.length_append, hn] at length
        rw [← whole]
        exact passed rest (ih rest.length (by omega) rest rfl)
      · exact kept c cs begins (ih cs.length (by simp [← hn]) cs rfl)

/-- An occurrence begins in the first text and ends in the second. -/
def Crosses (pat before after : List Char) : Prop :=
  ∃ s t, pat = s ++ t ∧ s ≠ [] ∧ t ≠ [] ∧ s <:+ before ∧ t <+: after

theorem begins_or_crosses {before after : List Char} (nonempty : before ≠ [])
    (begins : pat <+: before ++ after) : pat <+: before ∨ Crosses pat before after := by
  rcases List.prefix_or_prefix_of_prefix begins (List.prefix_append before after) with
    inside | ⟨t, rfl⟩
  · exact .inl inside
  · by_cases ends : t = []
    · exact .inl (by simp [ends])
    · refine .inr ⟨before, t, rfl, nonempty, ends, List.suffix_refl _, ?_⟩
      exact (List.prefix_append_right_inj before).mp begins

/-- Texts that no occurrence crosses between. -/
theorem replaceAll_append (nonempty : pat ≠ []) {before after : List Char}
    (apart : ¬ Crosses pat before after) :
    replaceAll pat new (before ++ after) =
      replaceAll pat new before ++ replaceAll pat new after := by
  have narrow (front : List Char) {rest : List Char} (h : ¬ Crosses pat (front ++ rest) after) :
      ¬ Crosses pat rest after := by
    rintro ⟨s, t, whole, hs, ht, ends, starts⟩
    exact h ⟨s, t, whole, hs, ht, ends.trans (List.suffix_append front rest), starts⟩
  induction before using replacing_induction nonempty with
  | nil => rfl
  | passed rest ih =>
    rw [List.append_assoc, replaceAll_append_left nonempty, replaceAll_append_left nonempty,
      ih (narrow _ apart), List.append_assoc]
  | kept c cs missing ih =>
    have missing' : ¬ pat <+: c :: (cs ++ after) := fun begins =>
      (begins_or_crosses (List.cons_ne_nil c cs) begins).elim missing apart
    rw [List.cons_append, replaceAll_cons_of_not_begins missing',
      replaceAll_cons_of_not_begins missing, ih (narrow [c] apart), List.cons_append]

def Opens (pat text : List Char) : Prop := ∃ s ∈ text.tails, s ≠ [] ∧ (s <+: pat ∨ pat <+: s)

instance (pat text : List Char) : Decidable (Opens pat text) :=
  inferInstanceAs (Decidable (∃ s ∈ text.tails, s ≠ [] ∧ (s <+: pat ∨ pat <+: s)))

theorem replaceAll_append_of_not_opens {before : List Char} (closed : ¬ Opens pat before)
    (after : List Char) :
    replaceAll pat new (before ++ after) = before ++ replaceAll pat new after := by
  induction before with
  | nil => rfl
  | cons c cs ih =>
    have missing : ¬ pat <+: c :: (cs ++ after) := by
      intro begins
      refine closed ⟨c :: cs, (List.mem_tails _ _).mpr (List.suffix_refl _),
        List.cons_ne_nil c cs, ?_⟩
      exact List.prefix_or_prefix_of_prefix (List.prefix_append (c :: cs) after) begins
    have closed' : ¬ Opens pat cs := by
      rintro ⟨s, ends, opens⟩
      have ends' := ((List.mem_tails _ _).mp ends).trans (List.suffix_cons c cs)
      exact closed ⟨s, (List.mem_tails _ _).mpr ends', opens⟩
    rw [List.cons_append, replaceAll_cons_of_not_begins missing, ih closed', List.cons_append]

end PageWatch.Text
