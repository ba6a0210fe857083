import Mathlib.Data.List.DropRight
import PageWatch.Data.Json

/-!
# Texts that read back

Every character of a written string is read back from its escape, whatever comes
after it, so a written string reads back. What reads a value passes over the space
before it.
-/

set_option autoImplicit false

namespace PageWatch.Json

open Text

theorem readString_pass (passed done rest : List Char) :
    readString passed.length done (passed ++ rest) = readString 0 done rest := by
  induction passed with
  | nil => rfl
  | cons c passed ih =>
    rw [List.length_cons, List.cons_append, readString]
    exact ih

def controlDigits (n : Nat) : List Char :=
  '0' :: '0' :: (List.replicate (2 - (hex n).length) '0' ++ hex n)

theorem controlDigits_read :
    ∀ n < 0x20, (controlDigits n).length = 4 ∧ unit? (controlDigits n) = some n := by
  decide +kernel

theorem escapedUnits?_control {n : Nat} (h : n < 0x20) (rest : List Char) :
    escapedUnits? (controlDigits n ++ rest) = some (Char.ofNat n, 4) := by
  obtain ⟨length, read⟩ := controlDigits_read n h
  have same : unit? (controlDigits n ++ rest) = some n := by
    rw [← read, unit?, unit?, List.take_left' length, List.take_of_length_le (by omega)]
  have high : isHighUnit n = false := by
    simp [isHighUnit]
    omega
  have low : isLowUnit n = false := by
    simp [isLowUnit]
    omega
  simp [escapedUnits?, same, high, low]

theorem readString_letter {e d : Char} (letter : e ≠ 'u') (h : unescape? e = some d)
    (done rest : List Char) :
    readString 0 done ('\\' :: e :: rest) = readString 0 (d :: done) rest := by
  simp [readString, letter, h]

theorem readString_escape (c : Char) (done rest : List Char) :
    readString 0 done (escape c ++ rest) = readString 0 (c :: done) rest := by
  unfold escape
  by_cases quote : c = '"'
  · subst quote
    exact readString_letter (by decide) rfl done rest
  rw [if_neg quote]
  by_cases slash : c = '\\'
  · subst slash
    exact readString_letter (by decide) rfl done rest
  rw [if_neg slash]
  by_cases newline : c = '\n'
  · subst newline
    exact readString_letter (by decide) rfl done rest
  rw [if_neg newline]
  by_cases home : c = '\r'
  · subst home
    exact readString_letter (by decide) rfl done rest
  rw [if_neg home]
  by_cases tab : c = '\t'
  · subst tab
    exact readString_letter (by decide) rfl done rest
  rw [if_neg tab]
  by_cases back : c = '\x08'
  · subst back
    exact readString_letter (by decide) rfl done rest
  rw [if_neg back]
  by_cases page : c = '\x0c'
  · subst page
    exact readString_letter (by decide) rfl done rest
  rw [if_neg page]
  by_cases control : c.toNat < 0x20
  · rw [if_pos control]
    change readString 0 done ('\\' :: 'u' :: (controlDigits c.toNat ++ rest)) = _
    have digits : ('u' :: controlDigits c.toNat).length = 5 := by
      rw [List.length_cons, (controlDigits_read _ control).1]
    have passed := readString_pass ('u' :: controlDigits c.toNat) (c :: done) rest
    rw [digits, List.cons_append] at passed
    rw [← passed]
    simp [readString, escapedUnits?_control control, Char.ofNat_toNat]
  · rw [if_neg control]
    simp [readString, quote, slash, control]

theorem readString_escapes (cs done rest : List Char) :
    readString 0 done (cs.flatMap escape ++ '"' :: rest) =
      some (String.ofList (done.reverse ++ cs), rest) := by
  induction cs generalizing done with
  | nil => simp [readString]
  | cons c cs ih =>
    rw [List.flatMap_cons, List.append_assoc, readString_escape, ih]
    simp

/-- A string reads back, and what comes after it is left. -/
theorem readString_writeString (s : String) (rest : List Char) :
    ∃ written, writeString s ++ rest = '"' :: written ∧
      readString 0 [] written = some (s, rest) := by
  refine ⟨s.toList.flatMap escape ++ '"' :: rest, by simp [writeString], ?_⟩
  simp [readString_escapes]

theorem skip_cons_of_space {c : Char} (h : isSpace c = true) (cs : List Char) :
    skip (c :: cs) = skip cs := by
  simp [skip, h]

theorem skip_cons_of_ne {c : Char} (h : isSpace c = false) (cs : List Char) :
    skip (c :: cs) = c :: cs := by
  simp [skip, h]

theorem skip_skip (cs : List Char) : skip (skip cs) = skip cs :=
  List.dropWhile_idempotent _ _

theorem readEntries_skip (fuel : Nat) (cs : List Char) :
    readEntries (fuel + 1) (skip cs) = readEntries (fuel + 1) cs := by
  rw [readEntries, readEntries, skip_skip]

theorem readValue_table (fuel : Nat) {r more : List Char} (h : skip r = '"' :: more) :
    readValue (fuel + 2) ('\x7b' :: r) =
      (readEntries (fuel + 1) r).map fun (entries, rest) => (.table entries, rest) := by
  rw [readValue, skip_cons_of_ne rfl, ← readEntries_skip fuel r]
  simp [h]

end PageWatch.Json
