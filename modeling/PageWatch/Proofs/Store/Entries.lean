import Mathlib.Data.List.Nodup
import Mathlib.Data.List.Perm.Basic
import PageWatch.Store.Fingerprints

/-!
# Fingerprints as a map

What is read after something was put, and when the order of changes does not
matter. Changes to different sites commute on every list of entries, sorted or
not; that the entries are sorted matters only where they are written and read.
-/

set_option autoImplicit false

namespace PageWatch

namespace Datum

variable {α : Type}

theorem key_lt_of_not_lt {a b : String} (hlt : ¬ a < b) (hne : a ≠ b) : b < a := by
  by_contra h
  exact hne (String.le_antisymm h hlt)

theorem find?_insertEntry_self (key : String) (value : α) (entries : List (String × α)) :
    (insertEntry key value entries).find? (·.1 == key) = some (key, value) := by
  induction entries with
  | nil => simp [insertEntry]
  | cons entry rest ih =>
    obtain ⟨k, v⟩ := entry
    unfold insertEntry
    split
    · simp
    · split
      · simp
      · rename_i hne
        rw [List.find?_cons_of_neg (by simpa using Ne.symm hne), ih]

theorem find?_insertEntry_of_ne {key other : String} (h : other ≠ key) (value : α)
    (entries : List (String × α)) :
    (insertEntry key value entries).find? (·.1 == other) = entries.find? (·.1 == other) := by
  have hk : (key == other) = false := by simpa using Ne.symm h
  induction entries with
  | nil => simp [insertEntry, hk]
  | cons entry rest ih =>
    obtain ⟨k, v⟩ := entry
    unfold insertEntry
    split
    · simp only [List.find?_cons, hk]
    · split
      · rename_i he
        subst he
        simp only [List.find?_cons, hk]
      · simp only [List.find?_cons, ih]

theorem insertEntry_comm_of_lt {k₁ k₂ : String} (h : k₁ < k₂) (v₁ v₂ : α)
    (entries : List (String × α)) :
    insertEntry k₁ v₁ (insertEntry k₂ v₂ entries) =
      insertEntry k₂ v₂ (insertEntry k₁ v₁ entries) := by
  have h21 : ¬ k₂ < k₁ := String.lt_asymm h
  have hne : k₁ ≠ k₂ := fun he => String.lt_irrefl k₂ (he ▸ h)
  induction entries with
  | nil => simp [insertEntry, h, h21, hne.symm]
  | cons entry rest ih =>
    obtain ⟨k, v⟩ := entry
    by_cases h1 : k₁ < k
    · by_cases h2 : k₂ < k
      · simp [insertEntry, h, h1, h2, h21, hne.symm]
      · by_cases he : k₂ = k
        · subst he
          simp [insertEntry, h, h21, hne.symm]
        · simp [insertEntry, h1, h2, h21, hne.symm, he]
    · have h2 : ¬ k₂ < k := fun h2 => h1 (String.lt_trans h h2)
      by_cases he : k₁ = k
      · subst he
        simp [insertEntry, h21, hne.symm]
      · have he2 : k₂ ≠ k := fun he2 => h1 (he2 ▸ h)
        simp [insertEntry, h1, h2, he, he2, ih]

theorem insertEntry_comm {k₁ k₂ : String} (h : k₁ ≠ k₂) (v₁ v₂ : α)
    (entries : List (String × α)) :
    insertEntry k₁ v₁ (insertEntry k₂ v₂ entries) =
      insertEntry k₂ v₂ (insertEntry k₁ v₁ entries) := by
  by_cases hlt : k₁ < k₂
  · exact insertEntry_comm_of_lt hlt v₁ v₂ entries
  · exact (insertEntry_comm_of_lt (key_lt_of_not_lt hlt h) v₂ v₁ entries).symm

end Datum

namespace Fingerprints

theorem get?_put_self (s : Fingerprints) (site endpoint : String) :
    (s.put site endpoint).get? site = some endpoint := by
  simp [get?, put, Datum.find?_insertEntry_self]

theorem get?_put_of_ne (s : Fingerprints) {site other : String} (h : other ≠ site)
    (endpoint : String) : (s.put site endpoint).get? other = s.get? other := by
  simp [get?, put, Datum.find?_insertEntry_of_ne h]

theorem put_comm (s : Fingerprints) {site other : String} (h : site ≠ other)
    (endpoint endpoint' : String) :
    (s.put site endpoint).put other endpoint' = (s.put other endpoint').put site endpoint := by
  simp only [put, Datum.insertEntry_comm h.symm]

def putAll (s : Fingerprints) (changes : List (String × String)) : Fingerprints :=
  changes.foldl (fun s change => s.put change.1 change.2) s

theorem putAll_append (s : Fingerprints) (before after : List (String × String)) :
    s.putAll (before ++ after) = (s.putAll before).putAll after :=
  List.foldl_append

theorem get?_putAll_of_not_mem (s : Fingerprints) (changes : List (String × String))
    {site : String} (h : site ∉ changes.map (·.1)) : (s.putAll changes).get? site = s.get? site := by
  induction changes generalizing s with
  | nil => rfl
  | cons change rest ih =>
    simp only [List.map_cons, List.mem_cons, not_or] at h
    rw [show s.putAll (change :: rest) = (s.put change.1 change.2).putAll rest from rfl,
      ih _ h.2, get?_put_of_ne _ h.1]

/-- Where every site is changed at most once, the changes lie over what was there before. -/
theorem get?_putAll (s : Fingerprints) (changes : List (String × String))
    (once : (changes.map (·.1)).Nodup) (site : String) :
    (s.putAll changes).get? site = (changes.lookup site).or (s.get? site) := by
  induction changes generalizing s with
  | nil => rfl
  | cons change rest ih =>
    obtain ⟨key, endpoint⟩ := change
    simp only [List.map_cons, List.nodup_cons] at once
    rw [show s.putAll ((key, endpoint) :: rest) = (s.put key endpoint).putAll rest from rfl]
    by_cases h : site = key
    · subst h
      rw [get?_putAll_of_not_mem _ _ once.1, get?_put_self, List.lookup_cons_self, Option.some_or]
    · rw [ih _ once.2, get?_put_of_ne _ h, List.lookup_cons, beq_eq_false_iff_ne.mpr h]

theorem putAll_perm (s : Fingerprints) {changes changes' : List (String × String)}
    (perm : changes.Perm changes') (once : (changes.map (·.1)).Nodup) :
    s.putAll changes = s.putAll changes' := by
  refine perm.foldl_eq' ?_ s
  intro x hx y hy z
  by_cases h : x.1 = y.1
  · rw [List.inj_on_of_nodup_map once hx hy h]
  · exact put_comm z h x.2 y.2

end Fingerprints

end PageWatch
