import Mathlib.Data.List.TakeWhile
import PageWatch.Url.Parse

/-!
# Texts with a scheme

A text is a link that needs a base if and only if it has no scheme. The scheme of a
URL can be written before any text and is found there again.
-/

set_option autoImplicit false

namespace PageWatch.Url

open Text

theorem dropWhile_append_of_ne_nil {α : Type} {p : α → Bool} {xs : List α} (ys : List α)
    (h : xs.dropWhile p ≠ []) : (xs ++ ys).dropWhile p = xs.dropWhile p ++ ys := by
  rw [List.dropWhile_append]
  simp [h]

theorem dropWhile_append_cons {α : Type} {p : α → Bool} {x : α} (stays : p x = false)
    (xs ys : List α) : (xs ++ x :: ys).dropWhile p = xs.dropWhile p ++ x :: ys := by
  rw [List.dropWhile_append]
  by_cases empty : xs.dropWhile p = []
  · simp [empty, stays]
  · simp [empty]

theorem significant_append_cons {c : Char} (solid : isTrimmed c = false)
    (before after : List Char) :
    significant (before ++ c :: after) = (before.dropWhile isTrimmed).filter (!isIgnored ·) ++
      c :: (after.reverse.dropWhile isTrimmed).reverse.filter (!isIgnored ·) := by
  have kept : (!isIgnored c) = true := by
    have apart : ∀ d, isTrimmed d = true → c ≠ d := by
      rintro d trimmed rfl
      rw [solid] at trimmed
      cases trimmed
    simp [isIgnored, apart '\t' rfl, apart '\n' rfl, apart '\r' rfl]
  rw [significant, dropWhile_append_cons solid, List.reverse_append, List.reverse_cons,
    List.append_assoc, List.singleton_append, dropWhile_append_cons solid]
  simp [kept]

theorem takeWhile_append_cons {α : Type} {p : α → Bool} {x : α} (stops : p x = false)
    {xs : List α} (all : ∀ y ∈ xs, p y = true) (ys : List α) :
    (xs ++ x :: ys).takeWhile p = xs ∧ (xs ++ x :: ys).dropWhile p = x :: ys := by
  rw [List.takeWhile_append_of_pos all, List.takeWhile_cons_of_neg (by simp [stops]),
    List.dropWhile_append_of_pos all, List.dropWhile_cons_of_neg (by simp [stops])]
  simp

theorem splitScheme?_eq_some {cs scheme rest : List Char} :
    splitScheme? cs = some (scheme, rest) ↔
      ∃ name, cs = name ++ ':' :: rest ∧ name.head?.any isLetter = true ∧
        (∀ c ∈ name, isSchemeCharacter c = true) ∧ scheme = name.map lower := by
  constructor
  · intro h
    unfold splitScheme? at h
    split at h
    · rename_i letter
      split at h
      · rename_i tail after
        obtain ⟨rfl, rfl⟩ := Prod.mk.inj (Option.some.inj h)
        have whole : cs = cs.takeWhile isSchemeCharacter ++ ':' :: tail := by
          rw [← after, List.takeWhile_append_dropWhile]
        refine ⟨cs.takeWhile isSchemeCharacter, whole, ?_, fun c mem => ?_, rfl⟩
        · cases cs with
          | nil => cases after
          | cons c cs =>
            have first : isSchemeCharacter c = true := by
              have letter : isLetter c = true := letter
              simp [isSchemeCharacter, letter]
            rw [List.takeWhile_cons_of_pos first]
            exact letter
        · exact List.mem_takeWhile_imp mem
      · cases h
    · cases h
  · rintro ⟨name, rfl, letter, all, rfl⟩
    have stops : isSchemeCharacter ':' = false := rfl
    obtain ⟨taken, dropped⟩ := takeWhile_append_cons stops all rest
    have first : (name ++ ':' :: rest).head?.any isLetter = true := by
      cases name with
      | nil => cases letter
      | cons c name => exact letter
    unfold splitScheme?
    simp only [first, dropped, taken, if_true]

theorem splitScheme?_append {cs scheme rest : List Char}
    (h : splitScheme? cs = some (scheme, rest)) (more : List Char) :
    splitScheme? (cs ++ more) = some (scheme, rest ++ more) := by
  obtain ⟨name, rfl, letter, all, rfl⟩ := splitScheme?_eq_some.mp h
  exact splitScheme?_eq_some.mpr ⟨name, by simp, letter, all, rfl⟩

theorem isAscii_of_scheme {c : Char} (h : isSchemeCharacter c = true) : c.toNat < 128 := by
  have bound {c d : Char} (le : c ≤ d) : c.toNat ≤ d.toNat := UInt32.le_iff_toNat_le.mp le
  simp only [isSchemeCharacter, isLetter, isDigit, Bool.or_eq_true, Bool.and_eq_true,
    decide_eq_true_eq, beq_iff_eq] at h
  rcases h with ((((⟨-, le⟩ | ⟨-, le⟩) | ⟨-, le⟩) | rfl) | rfl) | rfl
  · exact Nat.lt_of_le_of_lt (bound le) (by decide)
  · exact Nat.lt_of_le_of_lt (bound le) (by decide)
  · exact Nat.lt_of_le_of_lt (bound le) (by decide)
  · decide
  · decide
  · decide

theorem lower_of_scheme {c : Char} (h : isSchemeCharacter c = true) :
    isSchemeCharacter (lower c) = true ∧ (isLetter c = true → isLetter (lower c) = true) ∧
      isTrimmed c = false ∧ isIgnored c = false := by
  have table : ∀ n < 128, isSchemeCharacter (Char.ofNat n) = true →
      isSchemeCharacter (lower (Char.ofNat n)) = true ∧
        (isLetter (Char.ofNat n) = true → isLetter (lower (Char.ofNat n)) = true) ∧
        isTrimmed (Char.ofNat n) = false ∧ isIgnored (Char.ofNat n) = false := by
    decide +kernel
  have found := table c.toNat (isAscii_of_scheme h)
  rw [Char.ofNat_toNat] at found
  exact found h

structure IsScheme (scheme : List Char) : Prop where
  letter : scheme.head?.any isLetter = true
  all : ∀ c ∈ scheme, isSchemeCharacter c = true

theorem isScheme_of_splitScheme? {cs scheme rest : List Char}
    (h : splitScheme? cs = some (scheme, rest)) : IsScheme scheme := by
  obtain ⟨name, -, letter, all, rfl⟩ := splitScheme?_eq_some.mp h
  constructor
  · cases name with
    | nil => cases letter
    | cons c name => exact (lower_of_scheme (all c List.mem_cons_self)).2.1 letter
  · intro c mem
    obtain ⟨d, hd, rfl⟩ := List.mem_map.mp mem
    exact (lower_of_scheme (all d hd)).1

/-- A text that begins with a scheme and a colon has a scheme. -/
theorem splitScheme?_significant {scheme : List Char} (isScheme : IsScheme scheme)
    (after : List Char) : splitScheme? (significant (scheme ++ ':' :: after)) ≠ none := by
  have solid : ∀ c ∈ scheme, isTrimmed c = false ∧ isIgnored c = false := fun c mem =>
    (lower_of_scheme (isScheme.all c mem)).2.2
  have whole : (scheme.dropWhile isTrimmed).filter (!isIgnored ·) = scheme := by
    have first : scheme.dropWhile isTrimmed = scheme := by
      cases scheme with
      | nil => rfl
      | cons c scheme =>
        rw [List.dropWhile_cons_of_neg]
        simp [(solid c List.mem_cons_self).1]
    rw [first, List.filter_eq_self]
    intro c mem
    simp [(solid c mem).2]
  rw [significant_append_cons rfl, whole]
  intro none
  rw [splitScheme?_eq_some.mpr ⟨scheme, rfl, isScheme.letter, isScheme.all, rfl⟩] at none
  cases none

end PageWatch.Url
