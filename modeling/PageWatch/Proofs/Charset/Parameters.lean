import PageWatch.Proofs.Charset.Labels
import PageWatch.Proofs.Text.Segments
import PageWatch.Proofs.Text.Stripping

/-!
# Charsets in content types

A content type is a media type with parameters behind it, each after a semicolon. A parameter
names a charset when its key is the word `charset` in any case and something is left of its
value without blanks and quotes. The first parameter that does so counts, whatever others
stand before it.
-/

set_option autoImplicit false

namespace PageWatch.Charset

open Text

def InCase (a c : Char) : Prop := c = a ∨ c = upper a

def Spelt (word : String) (cs : List Char) : Prop := List.Forall₂ InCase word.toList cs

theorem lower_eq_iff {a c : Char} (small : lower a = a) : lower c = a ↔ InCase a c := by
  rw [← Char.toNat_inj, lower_toNat] at small
  rw [InCase, ← Char.toNat_inj, ← Char.toNat_inj, ← Char.toNat_inj, lower_toNat, upper_toNat]
  split_ifs at small ⊢ <;> omega

theorem charset_small : ∀ a ∈ "charset".toList, lower a = a := folded_of_all (by decide)

theorem map_lower_iff {cs : List Char} : cs.map lower = "charset".toList ↔ Spelt "charset" cs :=
  map_eq_iff fun a mem _ => lower_eq_iff (charset_small a mem)

theorem Spelt.not_sign {cs : List Char} (spelt : Spelt "charset" cs) {c : Char} (mem : c ∈ cs) :
    isBlank c = false ∧ c ≠ '=' ∧ c ≠ ';' := by
  have letters : ("charset".toList.all fun a =>
      [a, upper a].all fun c => !isBlank c && c != '=' && c != ';') = true := by decide
  have known : lower c ∈ "charset".toList := map_lower_iff.mpr spelt ▸ List.mem_map_of_mem mem
  have inCase : InCase (lower c) c := (lower_eq_iff (charset_small _ known)).mp rfl
  have plain := List.all_eq_true.mp (List.all_eq_true.mp letters _ known) c
    (List.mem_pair.mpr inCase)
  simpa [and_assoc] using plain

theorem unquoted_iff {cs inside : List Char} :
    unquoted cs = inside ↔ Wrapped isQuote inside cs ∧ Bare isQuote inside := strip_iff

/-- The parameter names a charset by this label: in front of its first equals sign stands the word
`charset` with blanks around it, and behind it the label with quotes around it, and blanks around
these. -/
def Names (parameter label : List Char) : Prop :=
  ∃ key value word inside, parameter = key ++ '=' :: value ∧ '=' ∉ key ∧
    (Wrapped isBlank word key ∧ Spelt "charset" word) ∧
    (Wrapped isBlank inside value ∧ Bare isBlank inside) ∧
    (Wrapped isQuote label inside ∧ Bare isQuote label) ∧ label ≠ []

variable {parameter label : List Char}

theorem Names.label_ne_nil (names : Names parameter label) : label ≠ [] := by
  obtain ⟨key, value, word, inside, -, -, -, -, -, nonempty⟩ := names
  exact nonempty

theorem charsetParameter?_eq_some :
    charsetParameter? parameter = some label ↔ Names parameter label := by
  unfold charsetParameter?
  constructor
  · intro named
    split at named
    · cases named
    · rename_i key value cut
      obtain ⟨split, closed⟩ := splitOnce?_eq_some.mp cut
      split at named
      · rename_i spelt
        simp only at named
        split at named
        · cases named
        · rename_i nonempty
          obtain rfl := Option.some.inj named
          exact ⟨key, value, trim key, trim value, split, closed,
            ⟨(trim_iff.mp rfl).1, map_lower_iff.mp spelt⟩, trim_iff.mp rfl, unquoted_iff.mp rfl,
            by simpa using nonempty⟩
      · cases named
  · rintro ⟨key, value, word, inside, split, closed, ⟨around, spelt⟩, within, quoted, nonempty⟩
    have bare : Bare isBlank word := bare_of_forall fun c mem => (spelt.not_sign mem).1
    have keyed : trim key = word := trim_iff.mpr ⟨around, bare⟩
    have valued : trim value = inside := trim_iff.mpr within
    have labelled : unquoted inside = label := unquoted_iff.mpr quoted
    rw [splitOnce?_eq_some.mpr ⟨split, closed⟩]
    simp [keyed, valued, labelled, map_lower_iff.mpr spelt, nonempty]

theorem charsetParameter?_eq_none :
    charsetParameter? parameter = none ↔ ∀ label, ¬ Names parameter label := by
  simp only [Option.eq_none_iff_forall_ne_some, ne_eq, charsetParameter?_eq_some]

/-- The first parameter that names a charset is the one that counts. -/
theorem ofContentType?_eq_some {value label : String} :
    ofContentType? value = some label ↔ ∃ earlier parameter later,
      (value.toList.splitOn ';').drop 1 = earlier ++ parameter :: later ∧
        (∀ p ∈ earlier, ∀ l, ¬ Names p l) ∧ Names parameter label.toList := by
  rw [ofContentType?, Option.map_eq_some_iff]
  constructor
  · rintro ⟨cs, found, rfl⟩
    obtain ⟨earlier, parameter, later, split, named, passed⟩ :=
      List.findSome?_eq_some_iff.mp found
    rw [String.toList_ofList]
    exact ⟨earlier, parameter, later, split,
      fun p mem => charsetParameter?_eq_none.mp (passed p mem), charsetParameter?_eq_some.mp named⟩
  · rintro ⟨earlier, parameter, later, split, unnamed, named⟩
    refine ⟨label.toList, List.findSome?_eq_some_iff.mpr ?_, String.ofList_toList⟩
    exact ⟨earlier, parameter, later, split, charsetParameter?_eq_some.mpr named,
      fun p mem => charsetParameter?_eq_none.mpr (unnamed p mem)⟩

def InQuotes (label text : String) : Prop :=
  text = label ∨ text = "\"" ++ label ++ "\"" ∨ text = "'" ++ label ++ "'"

/-- The word `charset` in any case, an equals sign and the label, in quotes or not. Blanks may be
around the key and around the value. -/
def Writes (label parameter : String) : Prop :=
  ∃ key word value text : String, parameter = key ++ "=" ++ value ∧
    (Spelt "charset" word.toList ∧ Wrapped isBlank word.toList key.toList) ∧
    InQuotes label text ∧ Wrapped isBlank text.toList value.toList

/-- Something in which none of the signs around it occur. -/
structure IsLabel (label : String) : Prop where
  nonempty : label ≠ ""
  plain : ∀ c ∈ label.toList, c ≠ ';' ∧ isQuote c = false ∧ isBlank c = false

theorem plain_of_blank {c : Char} (blank : isBlank c = true) : c ≠ '=' ∧ c ≠ ';' := by
  constructor
  · rintro rfl
    exact absurd blank (by decide)
  · rintro rfl
    exact absurd blank (by decide)

theorem plain_of_quote {c : Char} (quote : isQuote c = true) : isBlank c = false ∧ c ≠ ';' := by
  rw [isQuote, Bool.or_eq_true, beq_iff_eq, beq_iff_eq] at quote
  rcases quote with rfl | rfl
  · decide
  · decide

theorem InQuotes.wrapped {label text : String} (quoted : InQuotes label text) :
    Wrapped isQuote label.toList text.toList := by
  rcases quoted with rfl | rfl | rfl
  · exact ⟨[], [], by simp, by simp, by simp⟩
  · exact ⟨['"'], ['"'], by simp, List.forall_mem_singleton.mpr rfl,
      List.forall_mem_singleton.mpr rfl⟩
  · exact ⟨['\''], ['\''], by simp, List.forall_mem_singleton.mpr rfl,
      List.forall_mem_singleton.mpr rfl⟩

section

variable {label parameter : String} (isLabel : IsLabel label) (writes : Writes label parameter)

include isLabel writes

theorem names_of_writes : Names parameter.toList label.toList := by
  obtain ⟨key, word, value, text, rfl, ⟨spelt, around⟩, quoted, within⟩ := writes
  have closed := around.forall_mem (fun c mem => (spelt.not_sign mem).2.1)
    fun c blank => (plain_of_blank blank).1
  have solid := quoted.wrapped.forall_mem (fun c mem => (isLabel.plain c mem).2.2)
    fun c quote => (plain_of_quote quote).1
  have bare : Bare isQuote label.toList :=
    bare_of_forall fun c mem => (isLabel.plain c mem).2.1
  refine ⟨key.toList, value.toList, word.toList, text.toList, by simp, ?_, ⟨around, spelt⟩,
    ⟨within, bare_of_forall solid⟩, ⟨quoted.wrapped, bare⟩, ?_⟩
  · exact fun mem => closed '=' mem rfl
  · exact mt String.toList_eq_nil_iff.mp isLabel.nonempty

theorem not_mem_of_writes : ';' ∉ parameter.toList := by
  obtain ⟨key, word, value, text, rfl, ⟨spelt, around⟩, quoted, within⟩ := writes
  have keyed := around.forall_mem (fun c mem => (spelt.not_sign mem).2.2)
    fun c blank => (plain_of_blank blank).2
  have labelled := quoted.wrapped.forall_mem (fun c mem => (isLabel.plain c mem).1)
    fun c quote => (plain_of_quote quote).2
  have valued := within.forall_mem labelled fun c blank => (plain_of_blank blank).2
  have whole : ∀ c ∈ (key ++ "=" ++ value).toList, c ≠ ';' := by
    simp only [String.toList_append, List.forall_mem_append]
    exact ⟨⟨keyed, by simp⟩, valued⟩
  exact fun mem => whole ';' mem rfl

end

theorem ofContentType?_of_writes {media label parameter : String} {earlier : List String}
    (plain : ';' ∉ media.toList) (isLabel : IsLabel label) (writes : Writes label parameter)
    (unnamed : ∀ p ∈ earlier, ';' ∉ p.toList ∧ ∀ l, ¬ Names p.toList l) (later : List String) :
    ofContentType? (";".intercalate (media :: (earlier ++ parameter :: later))) = some label := by
  have closed : ∀ p ∈ (media :: (earlier ++ [parameter])).map String.toList, ';' ∉ p := by
    simp only [List.forall_mem_map, List.forall_mem_cons, List.forall_mem_append]
    exact ⟨plain, fun p mem => (unnamed p mem).1, not_mem_of_writes isLabel writes, nofun⟩
  obtain ⟨rest, cut⟩ := splitOn_intercalate_append closed (later.map String.toList)
  have joined : (";".intercalate (media :: (earlier ++ parameter :: later))).toList =
      [';'].intercalate ((media :: (earlier ++ [parameter])).map String.toList ++
        later.map String.toList) := by
    simp [String.toList_intercalate]
  refine ofContentType?_eq_some.mpr ⟨earlier.map String.toList, parameter.toList, rest, ?_, ?_,
    names_of_writes isLabel writes⟩
  · rw [joined, cut]
    simp
  · exact List.forall_mem_map.mpr fun p mem => (unnamed p mem).2

theorem ofContentType?_ne_empty (value : String) : ofContentType? value ≠ some "" := by
  intro found
  obtain ⟨earlier, parameter, later, -, -, named⟩ := ofContentType?_eq_some.mp found
  exact named.label_ne_nil rfl

/-- A charset is found behind all parameters that name none, in whatever case and with whatever
blanks its parameter is written, and with or without quotes; and what is found is never empty. -/
theorem charset_however_written :
    (∀ (media label parameter : String) (earlier later : List String),
        ';' ∉ media.toList → IsLabel label → Writes label parameter →
        (∀ p ∈ earlier, ';' ∉ p.toList ∧ ∀ l, ¬ Names p.toList l) →
        ofContentType? (";".intercalate (media :: (earlier ++ parameter :: later))) = some label) ∧
      ∀ value, ofContentType? value ≠ some "" := by
  refine ⟨?_, ofContentType?_ne_empty⟩
  intro media label parameter earlier later plain isLabel writes unnamed
  exact ofContentType?_of_writes plain isLabel writes unnamed later

theorem charset_however_written_behind :
    ';' ∉ "text/html".toList ∧ IsLabel "utf-8" ∧
      Writes "utf-8" " CharSet\t= \"utf-8\" " ∧
      (∀ p ∈ ["charset", "", "q=1", "charset=", "charset = '' "],
        ';' ∉ p.toList ∧ ∀ l, ¬ Names p.toList l) ∧
      ofContentType?
          "text/html;charset;;q=1;charset=;charset = '' ; CharSet\t= \"utf-8\" ;charset=gbk" =
        some "utf-8" := by
  have letters : ("utf-8".toList.all fun c => c != ';' && !isQuote c && !isBlank c) = true := by
    decide
  have isLabel : IsLabel "utf-8" :=
    ⟨by decide, fun c mem => by simpa [and_assoc] using List.all_eq_true.mp letters c mem⟩
  have spelt : Spelt "charset" "CharSet".toList := map_lower_iff.mp (by decide)
  have writes : Writes "utf-8" " CharSet\t= \"utf-8\" " := by
    refine ⟨" CharSet\t", "CharSet", " \"utf-8\" ", "\"utf-8\"", by decide, ⟨spelt, ?_⟩,
      .inr (.inl (by decide)), ?_⟩
    · exact ⟨[' '], ['\t'], by decide, List.forall_mem_singleton.mpr rfl,
        List.forall_mem_singleton.mpr rfl⟩
    · exact ⟨[' '], [' '], by decide, List.forall_mem_singleton.mpr rfl,
        List.forall_mem_singleton.mpr rfl⟩
  have unnamed : ∀ p ∈ ["charset", "", "q=1", "charset=", "charset = '' "],
      ';' ∉ p.toList ∧ ∀ l, ¬ Names p.toList l := by
    simp only [← charsetParameter?_eq_none]
    decide
  have plain : ';' ∉ "text/html".toList := by decide
  have found := charset_however_written.1 "text/html" "utf-8" _ _ ["charset=gbk"] plain isLabel
    writes unnamed
  exact ⟨plain, isLabel, writes, unnamed, found⟩

end PageWatch.Charset
