import Mathlib.Data.List.Forall2
import Mathlib.Data.List.TakeWhile
import Mathlib.Tactic.SplitIfs
import PageWatch.Charset.Declared
import PageWatch.Proofs.Text.Digits

/-!
# Words and labels

A word is found in any case. A label stands after the word `charset`, an equals sign and at
most one quote, with blanks between them, and goes on as long as its characters can belong
to a label.
-/

set_option autoImplicit false

namespace PageWatch.Charset

open Text

def Alike (a c : Char) : Prop :=
  c = a ∨ c = upper a ∨ (a = 's' ∧ c = 'ſ') ∨ a = 'k' ∧ c = '\u212A'

def Spells (word : String) (cs : List Char) : Prop := List.Forall₂ Alike word.toList cs

def InLabels (a : Char) : Prop :=
  'a' ≤ a ∧ a ≤ 'z' ∨ '0' ≤ a ∧ a ≤ '9' ∨ a = '_' ∨ a = '-' ∨ a = ':' ∨ a = '.'

def OfLabel (c : Char) : Prop := ∃ a, InLabels a ∧ Alike a c

theorem toNat_ofNat {n : Nat} (low : n < 0xD800) : (Char.ofNat n).toNat = n := by
  have valid : n.isValidChar := .inl low
  rw [Char.ofNat, dif_pos valid]
  rfl

theorem lower_toNat (c : Char) :
    (lower c).toNat = if 65 ≤ c.toNat ∧ c.toNat ≤ 90 then c.toNat + 32 else c.toNat := by
  have capital : ('A' ≤ c ∧ c ≤ 'Z') ↔ 65 ≤ c.toNat ∧ c.toNat ≤ 90 := .rfl
  simp only [lower, capital]
  split_ifs
  · exact toNat_ofNat (by omega)
  · rfl

theorem upper_toNat (c : Char) :
    (upper c).toNat = if 97 ≤ c.toNat ∧ c.toNat ≤ 122 then c.toNat - 32 else c.toNat := by
  have small : ('a' ≤ c ∧ c ≤ 'z') ↔ 97 ≤ c.toNat ∧ c.toNat ≤ 122 := .rfl
  simp only [upper, small]
  split_ifs
  · exact toNat_ofNat (by omega)
  · rfl

theorem fold_toNat (c : Char) :
    (fold c).toNat =
      if c.toNat = 383 then 115
      else if c.toNat = 8490 then 107
      else if 65 ≤ c.toNat ∧ c.toNat ≤ 90 then c.toNat + 32
      else c.toNat := by
  have long : c = 'ſ' ↔ c.toNat = 383 := Char.toNat_inj.symm
  have kelvin : c = '\u212A' ↔ c.toNat = 8490 := Char.toNat_inj.symm
  simp only [fold, long, kelvin]
  split_ifs with h h' h''
  · rfl
  · rfl
  · rw [lower_toNat, if_pos h'']
  · rw [lower_toNat, if_neg h'']

theorem alike_iff_toNat {a c : Char} :
    Alike a c ↔ c.toNat = a.toNat ∨
      c.toNat = (if 97 ≤ a.toNat ∧ a.toNat ≤ 122 then a.toNat - 32 else a.toNat) ∨
      (a.toNat = 115 ∧ c.toNat = 383) ∨ a.toNat = 107 ∧ c.toNat = 8490 := by
  rw [← upper_toNat]
  simp only [Alike, ← Char.toNat_inj]
  rfl

/-- Folding takes the characters that are alike to one. -/
theorem fold_eq_iff {a c : Char} (folded : fold a = a) : fold c = a ↔ Alike a c := by
  rw [← Char.toNat_inj, fold_toNat] at folded
  rw [alike_iff_toNat, ← Char.toNat_inj, fold_toNat]
  split_ifs at folded ⊢ <;> omega

theorem fold_fold (c : Char) : fold (fold c) = fold c := by
  rw [← Char.toNat_inj, fold_toNat (fold c), fold_toNat c]
  split_ifs <;> omega

theorem inLabels_iff_toNat {a : Char} :
    InLabels a ↔ 97 ≤ a.toNat ∧ a.toNat ≤ 122 ∨ 48 ≤ a.toNat ∧ a.toNat ≤ 57 ∨
      a.toNat = 95 ∨ a.toNat = 45 ∨ a.toNat = 58 ∨ a.toNat = 46 := by
  simp only [InLabels, ← Char.toNat_inj]
  rfl

theorem ofLabel_iff_toNat {c : Char} :
    OfLabel c ↔ 97 ≤ c.toNat ∧ c.toNat ≤ 122 ∨ 65 ≤ c.toNat ∧ c.toNat ≤ 90 ∨ c.toNat = 383 ∨
      c.toNat = 8490 ∨ 48 ≤ c.toNat ∧ c.toNat ≤ 57 ∨
      c.toNat = 95 ∨ c.toNat = 45 ∨ c.toNat = 58 ∨ c.toNat = 46 := by
  constructor
  · rintro ⟨a, h, alike⟩
    rw [inLabels_iff_toNat] at h
    rw [alike_iff_toNat] at alike
    split_ifs at alike <;> omega
  · intro h
    refine ⟨fold c, inLabels_iff_toNat.mpr ?_, (fold_eq_iff (fold_fold c)).mp rfl⟩
    rw [fold_toNat]
    split_ifs <;> omega

theorem isLabelChar_iff {c : Char} : isLabelChar c = true ↔ OfLabel c := by
  have letter (c : Char) : isLetter c = true ↔
      97 ≤ c.toNat ∧ c.toNat ≤ 122 ∨ 65 ≤ c.toNat ∧ c.toNat ≤ 90 := by
    simp only [isLetter, Bool.or_eq_true, Bool.and_eq_true, decide_eq_true_eq]
    rfl
  have named : isLabelChar c = true ↔ isLetter (fold c) = true ∨ 48 ≤ c.toNat ∧ c.toNat ≤ 57 ∨
      c.toNat = 95 ∨ c.toNat = 45 ∨ c.toNat = 58 ∨ c.toNat = 46 := by
    simp only [isLabelChar, isDigit, Bool.or_eq_true, Bool.and_eq_true, decide_eq_true_eq,
      beq_iff_eq, or_assoc, ← Char.toNat_inj]
    rfl
  rw [named, letter, ofLabel_iff_toNat, fold_toNat]
  split_ifs <;> omega

theorem OfLabel.not_blank {c : Char} (label : OfLabel c) : isBlank c = false := by
  rw [ofLabel_iff_toNat] at label
  simp only [isBlank, Bool.or_eq_false_iff, Bool.and_eq_false_iff, decide_eq_false_iff_not,
    beq_eq_false_iff_ne]
  omega

theorem OfLabel.not_quote {c : Char} (label : OfLabel c) : isQuote c = false := by
  have signs : ¬ OfLabel '"' ∧ ¬ OfLabel '\'' := by
    rw [ofLabel_iff_toNat, ofLabel_iff_toNat]
    decide
  rw [isQuote, Bool.or_eq_false_iff, beq_eq_false_iff_ne, beq_eq_false_iff_ne]
  exact ⟨fun same => signs.1 (same ▸ label), fun same => signs.2 (same ▸ label)⟩

theorem folded_of_all {f : Char → Char} {word : List Char}
    (all : (word.all fun a => f a == a) = true) : ∀ a ∈ word, f a = a :=
  fun a mem => eq_of_beq (List.all_eq_true.mp all a mem)

theorem map_eq_iff {f : Char → Char} {R : Char → Char → Prop} {word spelt : List Char}
    (same : ∀ a ∈ word, ∀ c, f c = a ↔ R a c) : spelt.map f = word ↔ List.Forall₂ R word spelt := by
  induction spelt generalizing word with
  | nil => rw [List.map_nil, List.forall₂_nil_right_iff, eq_comm]
  | cons c spelt ih =>
    cases word with
    | nil => simp
    | cons a word =>
      obtain ⟨first, rest⟩ := List.forall_mem_cons.mp same
      rw [List.map_cons, List.cons.injEq, List.forall₂_cons, first c, ih rest]

theorem map_fold_iff {word spelt : List Char} (folded : ∀ a ∈ word, fold a = a) :
    spelt.map fold = word ↔ List.Forall₂ Alike word spelt :=
  map_eq_iff fun a mem _ => fold_eq_iff (folded a mem)

theorem beginsWith_iff {word cs : List Char} (folded : ∀ a ∈ word, fold a = a) :
    beginsWith word cs = true ↔
      ∃ spelt, cs = spelt ++ cs.drop word.length ∧ List.Forall₂ Alike word spelt := by
  rw [beginsWith, beq_iff_eq, map_fold_iff folded]
  constructor
  · intro alike
    exact ⟨_, (List.take_append_drop _ _).symm, alike⟩
  · rintro ⟨spelt, split, alike⟩
    rw [split, alike.length_eq, List.take_left]
    exact alike

theorem beginsWith_append {word spelt : List Char} (folded : ∀ a ∈ word, fold a = a)
    (alike : List.Forall₂ Alike word spelt) (rest : List Char) :
    beginsWith word (spelt ++ rest) = true ∧ (spelt ++ rest).drop word.length = rest := by
  have dropped : (spelt ++ rest).drop word.length = rest := by
    rw [alike.length_eq, List.drop_left]
  exact ⟨(beginsWith_iff folded).mpr ⟨spelt, by rw [dropped], alike⟩, dropped⟩

def Blank (cs : List Char) : Prop := ∀ c ∈ cs, isBlank c = true

theorem trimStart_append {blanks rest : List Char} (blank : Blank blanks)
    (solid : ∀ c ∈ rest.head?, isBlank c = false) : trimStart (blanks ++ rest) = rest := by
  rw [trimStart, List.dropWhile_append_of_pos blank]
  cases rest with
  | nil => rfl
  | cons c rest => exact trimStart_of_not_blank (solid c rfl) rest

theorem exists_trimStart (cs : List Char) : ∃ blanks, cs = blanks ++ trimStart cs ∧ Blank blanks :=
  ⟨cs.takeWhile isBlank, List.takeWhile_append_dropWhile.symm, fun _ => List.mem_takeWhile_imp⟩

def Quoted (quote : List Char) : Prop := quote = [] ∨ quote = ['"'] ∨ quote = ['\'']

def afterQuote (cs : List Char) : List Char := if cs.head?.any isQuote then cs.drop 1 else cs

theorem exists_afterQuote (cs : List Char) :
    ∃ quote, cs = quote ++ afterQuote cs ∧ Quoted quote := by
  unfold afterQuote
  by_cases opened : cs.head?.any isQuote = true
  · rw [if_pos opened]
    cases cs with
    | nil => cases opened
    | cons q rest => exact ⟨[q], rfl, .inr (by simpa [isQuote] using opened)⟩
  · rw [if_neg opened]
    exact ⟨[], rfl, .inl rfl⟩

theorem afterQuote_cons {q : Char} (quote : isQuote q = true) (rest : List Char) :
    afterQuote (q :: rest) = rest := if_pos quote

theorem afterQuote_of_label {cs : List Char} (labelled : ∃ c ∈ cs.head?, OfLabel c) :
    afterQuote cs = cs := by
  obtain ⟨c, first, label⟩ := labelled
  refine if_neg ?_
  rw [Option.mem_def.mp first]
  exact Bool.eq_false_iff.mp label.not_quote

/-- The text begins with the word `charset`, an equals sign and at most one quote, and after them
with a label. Blanks may stand between. -/
inductive Assigns : List Char → List Char → Prop where
  | intro {word before between quote after value : List Char} (spelt : Spells "charset" word)
      (blank : Blank before) (blank' : Blank between) (quoted : Quoted quote)
      (blank'' : Blank after) (labelled : ∃ c ∈ value.head?, OfLabel c) :
      Assigns (word ++ (before ++ '=' :: (between ++ (quote ++ (after ++ value))))) value

/-- The longest part at the beginning of a text that may be part of a label. -/
def Leading (label value : List Char) : Prop :=
  (∀ c ∈ label, OfLabel c) ∧ ∃ rest, value = label ++ rest ∧ ∀ c ∈ rest.head?, ¬ OfLabel c

theorem leading_iff {label value : List Char} :
    Leading label value ↔ value.takeWhile isLabelChar = label := by
  constructor
  · rintro ⟨inside, rest, rfl, outside⟩
    rw [List.takeWhile_append_of_pos fun c mem => isLabelChar_iff.mpr (inside c mem)]
    cases rest with
    | nil => rw [List.takeWhile_nil, List.append_nil]
    | cons c rest =>
      rw [List.takeWhile_cons_of_neg fun label => outside c rfl (isLabelChar_iff.mp label),
        List.append_nil]
  · rintro rfl
    refine ⟨fun c mem => isLabelChar_iff.mp (List.mem_takeWhile_imp mem),
      value.dropWhile isLabelChar, List.takeWhile_append_dropWhile.symm, ?_⟩
    intro c first label
    have stop := List.head?_dropWhile_not isLabelChar value
    rw [Option.mem_def.mp first] at stop
    simp [isLabelChar_iff.mpr label] at stop

theorem takeWhile_ne_nil {value : List Char} :
    value.takeWhile isLabelChar ≠ [] ↔ ∃ c ∈ value.head?, OfLabel c := by
  cases value with
  | nil => simp
  | cons c value =>
    by_cases label : isLabelChar c = true
    · simp [List.takeWhile_cons_of_pos label, isLabelChar_iff.mp label]
    · simp [List.takeWhile_cons_of_neg label, mt isLabelChar_iff.mpr label]

def valueIn (cs : List Char) : List Char := trimStart (afterQuote (trimStart cs))

theorem labelAt?_eq_some {cs label : List Char} :
    labelAt? cs = some label ↔ beginsWith "charset".toList cs = true ∧
      ∃ r, trimStart (cs.drop "charset".toList.length) = '=' :: r ∧ label ≠ [] ∧
        (valueIn r).takeWhile isLabelChar = label := by
  rw [show "charset".toList.length = 7 from rfl, labelAt?]
  generalize "charset".toList = word
  by_cases begins : beginsWith word cs = true
  · rw [if_pos begins]
    split
    · rename_i r equals
      have named : (if ((valueIn r).takeWhile isLabelChar).isEmpty then none
          else some ((valueIn r).takeWhile isLabelChar)) = some label ↔
            label ≠ [] ∧ (valueIn r).takeWhile isLabelChar = label := by
        cases (valueIn r).takeWhile isLabelChar with
        | nil => simp
        | cons c run => simp +contextual [eq_comm]
      simp only [equals, begins, true_and, List.cons.injEq, exists_eq_left']
      exact named
    · rename_i unequal
      refine ⟨nofun, ?_⟩
      rintro ⟨-, r, equals, -⟩
      exact absurd equals (unequal r)
  · rw [if_neg begins]
    exact ⟨nofun, fun ⟨begun, _⟩ => absurd begun begins⟩

theorem exists_valueIn (cs : List Char) :
    ∃ between quote after, cs = between ++ (quote ++ (after ++ valueIn cs)) ∧
      Blank between ∧ Quoted quote ∧ Blank after := by
  obtain ⟨between, split, blank⟩ := exists_trimStart cs
  obtain ⟨quote, split', quoted⟩ := exists_afterQuote (trimStart cs)
  obtain ⟨after, split'', blank'⟩ := exists_trimStart (afterQuote (trimStart cs))
  refine ⟨between, quote, after, ?_, blank, quoted, blank'⟩
  rw [valueIn, ← split'', ← split', ← split]

theorem valueIn_append {between quote after value : List Char} (blank : Blank between)
    (quoted : Quoted quote) (blank' : Blank after) (labelled : ∃ c ∈ value.head?, OfLabel c) :
    valueIn (between ++ (quote ++ (after ++ value))) = value := by
  have solid : ∀ d ∈ value.head?, isBlank d = false := by
    obtain ⟨c, first, label⟩ := labelled
    intro d first'
    obtain rfl : c = d := Option.some.inj (first.symm.trans first')
    exact label.not_blank
  have behind (q : Char) (quote : isQuote q = true) (unblank : isBlank q = false) :
      valueIn (between ++ ([q] ++ (after ++ value))) = value := by
    have opened : trimStart (between ++ ([q] ++ (after ++ value))) = q :: (after ++ value) := by
      refine trimStart_append blank ?_
      rintro d ⟨⟩
      exact unblank
    rw [valueIn, opened, afterQuote_cons quote]
    exact trimStart_append blank' solid
  rcases quoted with rfl | rfl | rfl
  · -- Without a quote the blanks before and behind it are one run.
    have blanks : Blank (between ++ after) := List.forall_mem_append.mpr ⟨blank, blank'⟩
    rw [List.nil_append, ← List.append_assoc, valueIn, trimStart_append blanks solid,
      afterQuote_of_label labelled]
    exact trimStart_append (fun _ mem => (List.not_mem_nil mem).elim) solid
  · exact behind '"' rfl rfl
  · exact behind '\'' rfl rfl

theorem trimStart_equals {before : List Char} (blank : Blank before) (rest : List Char) :
    trimStart (before ++ '=' :: rest) = '=' :: rest := by
  refine trimStart_append blank ?_
  rintro c ⟨⟩
  rfl

theorem charset_folded : ∀ a ∈ "charset".toList, fold a = a := folded_of_all (by decide)

theorem labelAt?_iff {cs label : List Char} :
    labelAt? cs = some label ↔ ∃ value, Assigns cs value ∧ Leading label value := by
  rw [labelAt?_eq_some]
  constructor
  · rintro ⟨begins, r, equals, named, rfl⟩
    obtain ⟨word, split, spelt⟩ := (beginsWith_iff charset_folded).mp begins
    obtain ⟨before, split', blank⟩ := exists_trimStart (cs.drop "charset".toList.length)
    obtain ⟨between, quote, after, split'', blank', quoted, blank''⟩ := exists_valueIn r
    refine ⟨valueIn r, ?_, leading_iff.mpr rfl⟩
    rw [split, split', equals]
    have assigns := Assigns.intro spelt blank blank' quoted blank'' (takeWhile_ne_nil.mp named)
    rwa [← split''] at assigns
  · rintro ⟨value, ⟨spelt, blank, blank', quoted, blank'', labelled⟩, leading⟩
    obtain ⟨begins, dropped⟩ := beginsWith_append charset_folded spelt _
    refine ⟨begins, _, (congrArg trimStart dropped).trans (trimStart_equals blank _), ?_, ?_⟩
    · rw [← leading_iff.mp leading]
      exact takeWhile_ne_nil.mpr labelled
    · rw [valueIn_append blank' quoted blank'' labelled, leading_iff.mp leading]

theorem labelAt?_eq_none {cs : List Char} : labelAt? cs = none ↔ ∀ value, ¬ Assigns cs value := by
  constructor
  · intro unread value assigns
    have read := labelAt?_iff.mpr ⟨value, assigns, leading_iff.mpr rfl⟩
    rw [unread] at read
    cases read
  · intro unassigned
    cases read : labelAt? cs with
    | none => rfl
    | some label =>
      obtain ⟨value, assigns, -⟩ := labelAt?_iff.mp read
      exact absurd assigns (unassigned value)

end PageWatch.Charset
