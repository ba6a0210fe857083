import PageWatch.Proofs.Charset.Labels

/-!
# What a page declares

A page declares a charset where a tag begins with `<meta` and the word `charset` stands in
it before an equals sign and a label. Of the tags that do so the first counts, and in it the
last such word before the tag ends.
-/

set_option autoImplicit false

namespace PageWatch.Charset

def Reaches (cs gap value : List Char) : Prop :=
  ∃ rest, cs = gap ++ rest ∧ '>' ∉ gap ∧ Assigns rest value

/-- Of all the gaps behind which a value can be reached this is the longest. -/
def Last (reaches : List Char → List Char → Prop) (gap value : List Char) : Prop :=
  reaches gap value ∧ ∀ gap' value', reaches gap' value' → gap'.length ≤ gap.length

theorem last_cons_iff {reaches later : List Char → List Char → Prop} {c : Char}
    (behind : ∀ d gap value, reaches (d :: gap) value ↔ d = c ∧ later gap value)
    (some_value : ∃ gap value, later gap value) {gap value : List Char} :
    Last reaches gap value ↔ ∃ gap', gap = c :: gap' ∧ Last later gap' value := by
  constructor
  · rintro ⟨reached, longest⟩
    cases gap with
    | nil =>
      obtain ⟨gap', value', reached'⟩ := some_value
      have longer := longest (c :: gap') value' ((behind ..).mpr ⟨rfl, reached'⟩)
      simp at longer
    | cons d gap =>
      obtain ⟨rfl, reached⟩ := (behind ..).mp reached
      refine ⟨gap, rfl, reached, fun gap' value' reached' => ?_⟩
      have longer := longest (d :: gap') value' ((behind ..).mpr ⟨rfl, reached'⟩)
      simpa using longer
  · rintro ⟨gap', rfl, reached, longest⟩
    refine ⟨(behind ..).mpr ⟨rfl, reached⟩, fun gap'' value'' reached'' => ?_⟩
    cases gap'' with
    | nil => exact Nat.zero_le _
    | cons d gap'' =>
      obtain ⟨rfl, reached''⟩ := (behind ..).mp reached''
      exact Nat.succ_le_succ (longest gap'' value'' reached'')

theorem not_assigns_nil {value : List Char} : ¬ Assigns [] value := by
  generalize none : ([] : List Char) = cs
  rintro ⟨spelt⟩
  simp at none

theorem Assigns.ne_close {c : Char} {cs value : List Char} (assigns : Assigns (c :: cs) value) :
    c ≠ '>' := by
  generalize whole : c :: cs = text at assigns
  obtain ⟨spelt⟩ := assigns
  cases spelt with
  | cons alike rest =>
    obtain ⟨rfl, -⟩ := List.cons.inj whole
    rintro rfl
    revert alike
    rw [alike_iff_toNat]
    decide

theorem reaches_cons_iff {c d : Char} {cs gap value : List Char} (inside : c ≠ '>') :
    Reaches (c :: cs) (d :: gap) value ↔ d = c ∧ Reaches cs gap value := by
  constructor
  · rintro ⟨rest, split, unclosed, assigns⟩
    obtain ⟨rfl, behind⟩ := List.cons.inj split
    exact ⟨rfl, rest, behind, fun mem => unclosed (List.mem_cons_of_mem _ mem), assigns⟩
  · rintro ⟨rfl, rest, rfl, unclosed, assigns⟩
    refine ⟨rest, rfl, ?_, assigns⟩
    rw [List.mem_cons, not_or]
    exact ⟨inside.symm, unclosed⟩

theorem reaches_nil_iff {cs value : List Char} : Reaches cs [] value ↔ Assigns cs value := by
  constructor
  · rintro ⟨rest, rfl, -, assigns⟩
    exact assigns
  · intro assigns
    exact ⟨cs, rfl, List.not_mem_nil, assigns⟩

theorem not_reaches_nil {gap value : List Char} : ¬ Reaches [] gap value := by
  rintro ⟨rest, split, -, assigns⟩
  obtain ⟨rfl, rfl⟩ := List.append_eq_nil_iff.mp split.symm
  exact not_assigns_nil assigns

theorem not_reaches_close {cs gap value : List Char} : ¬ Reaches ('>' :: cs) gap value := by
  rintro ⟨rest, split, unclosed, assigns⟩
  cases gap with
  | nil =>
    rw [List.nil_append] at split
    subst split
    exact assigns.ne_close rfl
  | cons c gap =>
    obtain ⟨rfl, -⟩ := List.cons.inj split
    exact unclosed List.mem_cons_self

theorem lastLabel?_cons {c : Char} (inside : c ≠ '>') (cs : List Char) :
    lastLabel? (c :: cs) = (lastLabel? cs).or (labelAt? (c :: cs)) := by
  rw [lastLabel?, if_neg inside]
  cases lastLabel? cs <;> rfl

theorem lastLabel?_eq_none {cs : List Char} :
    lastLabel? cs = none ↔ ∀ gap value, ¬ Reaches cs gap value := by
  induction cs with
  | nil => exact ⟨fun _ _ _ => not_reaches_nil, fun _ => rfl⟩
  | cons c cs ih =>
    by_cases close : c = '>'
    · subst close
      exact ⟨fun _ _ _ => not_reaches_close, fun _ => if_pos rfl⟩
    · rw [lastLabel?_cons close, Option.or_eq_none_iff, ih, labelAt?_eq_none]
      constructor
      · rintro ⟨unreached, unassigned⟩ gap value reached
        cases gap with
        | nil => exact unassigned value (reaches_nil_iff.mp reached)
        | cons d gap => exact unreached gap value ((reaches_cons_iff close).mp reached).2
      · intro unreached
        refine ⟨fun gap value reached => ?_, fun value assigns => ?_⟩
        · exact unreached (c :: gap) value ((reaches_cons_iff close).mpr ⟨rfl, reached⟩)
        · exact unreached [] value (reaches_nil_iff.mpr assigns)

theorem lastLabel?_eq_some {cs label : List Char} :
    lastLabel? cs = some label ↔
      ∃ gap value, Last (Reaches cs) gap value ∧ Leading label value := by
  induction cs with
  | nil =>
    refine ⟨nofun, ?_⟩
    rintro ⟨gap, value, ⟨reached, -⟩, -⟩
    exact absurd reached not_reaches_nil
  | cons c cs ih =>
    by_cases close : c = '>'
    · subst close
      rw [lastLabel?, if_pos rfl]
      refine ⟨nofun, ?_⟩
      rintro ⟨gap, value, ⟨reached, -⟩, -⟩
      exact absurd reached not_reaches_close
    · rw [lastLabel?_cons close]
      cases later : lastLabel? cs with
      | some found =>
        -- The word is found behind `c`, and so it does not matter whether it stands at `c` too.
        have some_value : ∃ gap value, Reaches cs gap value := by
          by_contra unreached
          simp only [not_exists] at unreached
          rw [lastLabel?_eq_none.mpr unreached] at later
          cases later
        rw [Option.some_or, ← later, ih]
        simp only [last_cons_iff (fun d gap value => reaches_cons_iff close) some_value]
        constructor
        · rintro ⟨gap, value, last, leading⟩
          exact ⟨c :: gap, value, ⟨gap, rfl, last⟩, leading⟩
        · rintro ⟨-, value, ⟨gap, -, last⟩, leading⟩
          exact ⟨gap, value, last, leading⟩
      | none =>
        -- The word is nowhere behind `c`, and so it stands at `c` or not at all.
        have here {gap value : List Char} (reached : Reaches (c :: cs) gap value) : gap = [] := by
          cases gap with
          | nil => rfl
          | cons d gap =>
            obtain ⟨-, reached⟩ := (reaches_cons_iff close).mp reached
            exact absurd reached (lastLabel?_eq_none.mp later gap value)
        rw [Option.none_or, labelAt?_iff]
        constructor
        · rintro ⟨value, assigns, leading⟩
          refine ⟨[], value, ⟨reaches_nil_iff.mpr assigns, fun gap value' reached => ?_⟩, leading⟩
          rw [here reached]
        · rintro ⟨gap, value, ⟨reached, -⟩, leading⟩
          obtain rfl := here reached
          exact ⟨value, reaches_nil_iff.mp reached, leading⟩

/-- A tag begins with `<meta`, and behind a gap within it the word stands. -/
def Declares (cs gap value : List Char) : Prop :=
  ∃ tag rest, cs = tag ++ rest ∧ Spells "<meta" tag ∧ gap ≠ [] ∧ Reaches rest gap value

theorem meta_folded : ∀ a ∈ "<meta".toList, fold a = a := folded_of_all (by decide)

theorem declares_iff {cs gap value : List Char} :
    Declares cs gap value ↔ beginsWith "<meta".toList cs = true ∧ gap ≠ [] ∧
      Reaches (cs.drop "<meta".toList.length) gap value := by
  constructor
  · rintro ⟨tag, rest, rfl, spelt, some_gap, reached⟩
    obtain ⟨begins, dropped⟩ := beginsWith_append meta_folded spelt rest
    exact ⟨begins, some_gap, dropped.symm ▸ reached⟩
  · rintro ⟨begins, some_gap, reached⟩
    obtain ⟨tag, split, spelt⟩ := (beginsWith_iff meta_folded).mp begins
    exact ⟨tag, _, split, spelt, some_gap, reached⟩

theorem not_declares_nil {gap value : List Char} : ¬ Declares [] gap value := by
  rw [declares_iff]
  rintro ⟨begins, -⟩
  cases begins

theorem metaLabel?_eq (cs : List Char) :
    (∃ c rest, c ≠ '>' ∧ metaLabel? cs = lastLabel? rest ∧
        ∀ gap value, Declares cs gap value ↔ ∃ gap', gap = c :: gap' ∧ Reaches rest gap' value) ∨
      metaLabel? cs = none ∧ ∀ gap value, ¬ Declares cs gap value := by
  have length : "<meta".toList.length = 5 := rfl
  simp only [declares_iff, length]
  unfold metaLabel?
  generalize "<meta".toList = word
  by_cases begins : beginsWith word cs = true
  · rw [if_pos begins]
    simp only [begins, true_and]
    cases cs.drop 5 with
    | nil => exact .inr ⟨rfl, fun gap value reached => not_reaches_nil reached.2⟩
    | cons c rest =>
      by_cases close : c = '>'
      · subst close
        exact .inr ⟨if_pos rfl, fun gap value reached => not_reaches_close reached.2⟩
      · refine .inl ⟨c, rest, close, if_neg close, fun gap value => ?_⟩
        cases gap with
        | nil => simp
        | cons d gap => simp [reaches_cons_iff close]
  · rw [if_neg begins]
    exact .inr ⟨rfl, fun gap value declared => begins declared.1⟩

theorem metaLabel?_eq_none {cs : List Char} :
    metaLabel? cs = none ↔ ∀ gap value, ¬ Declares cs gap value := by
  rcases metaLabel?_eq cs with ⟨c, rest, -, same, declares⟩ | ⟨unread, undeclared⟩
  · rw [same, lastLabel?_eq_none]
    simp only [declares]
    constructor
    · rintro unreached gap value ⟨gap', -, reached⟩
      exact unreached gap' value reached
    · intro unreached gap value reached
      exact unreached (c :: gap) value ⟨gap, rfl, reached⟩
  · exact ⟨fun _ => undeclared, fun _ => unread⟩

theorem metaLabel?_eq_some {cs label : List Char} :
    metaLabel? cs = some label ↔
      ∃ gap value, Last (Declares cs) gap value ∧ Leading label value := by
  rcases metaLabel?_eq cs with ⟨c, rest, -, same, declares⟩ | ⟨unread, undeclared⟩
  · have behind (d : Char) (gap value : List Char) :
        Declares cs (d :: gap) value ↔ d = c ∧ Reaches rest gap value := by
      simp [declares]
    rw [same, lastLabel?_eq_some]
    constructor
    · rintro ⟨gap, value, last, leading⟩
      have whole := (last_cons_iff behind ⟨gap, value, last.1⟩).mpr ⟨gap, rfl, last⟩
      exact ⟨c :: gap, value, whole, leading⟩
    · rintro ⟨gap, value, last, leading⟩
      obtain ⟨gap', -, reached⟩ := (declares gap value).mp last.1
      obtain ⟨gap'', -, last'⟩ := (last_cons_iff behind ⟨gap', value, reached⟩).mp last
      exact ⟨gap'', value, last', leading⟩
  · rw [unread]
    refine ⟨nofun, ?_⟩
    rintro ⟨gap, value, ⟨declared, -⟩, -⟩
    exact absurd declared (undeclared gap value)

/-- The text declares a charset behind `before`, and nowhere earlier. -/
structure First (text before cs : List Char) : Prop where
  split : text = before ++ cs
  declares : ∃ gap value, Declares cs gap value
  shortest : ∀ before' cs' gap value, text = before' ++ cs' → Declares cs' gap value →
    before.length ≤ before'.length

theorem first_nil_iff {c : Char} {text : List Char}
    (declares : ∃ gap value, Declares (c :: text) gap value) {before cs : List Char} :
    First (c :: text) before cs ↔ before = [] ∧ cs = c :: text := by
  constructor
  · rintro ⟨split, -, shortest⟩
    obtain ⟨gap, value, declared⟩ := declares
    obtain rfl := List.length_eq_zero_iff.mp (Nat.le_zero.mp (shortest [] _ gap value rfl declared))
    exact ⟨rfl, split.symm⟩
  · rintro ⟨rfl, rfl⟩
    exact ⟨rfl, declares, fun _ _ _ _ _ _ => Nat.zero_le _⟩

theorem first_cons_iff {c : Char} {text : List Char}
    (undeclared : ∀ gap value, ¬ Declares (c :: text) gap value) {before cs : List Char} :
    First (c :: text) before cs ↔ ∃ before', before = c :: before' ∧ First text before' cs := by
  constructor
  · rintro ⟨split, declares, shortest⟩
    cases before with
    | nil =>
      obtain ⟨gap, value, declared⟩ := declares
      rw [List.nil_append] at split
      exact absurd (split ▸ declared) (undeclared gap value)
    | cons d before =>
      obtain ⟨rfl, behind⟩ := List.cons.inj split
      refine ⟨before, rfl, behind, declares, fun before' cs' gap value split' declared => ?_⟩
      exact Nat.le_of_succ_le_succ
        (shortest (c :: before') cs' gap value (congrArg (c :: ·) split') declared)
  · rintro ⟨before', rfl, rfl, declares, shortest⟩
    refine ⟨rfl, declares, fun before'' cs' gap value split declared => ?_⟩
    cases before'' with
    | nil =>
      rw [List.nil_append] at split
      exact absurd (split ▸ declared) (undeclared gap value)
    | cons d before'' =>
      obtain ⟨-, behind⟩ := List.cons.inj split
      exact Nat.succ_le_succ (shortest before'' cs' gap value behind declared)

theorem firstMetaLabel?_eq_some {text label : List Char} :
    firstMetaLabel? text = some label ↔ ∃ before cs gap value,
      First text before cs ∧ Last (Declares cs) gap value ∧ Leading label value := by
  induction text with
  | nil =>
    refine ⟨nofun, ?_⟩
    rintro ⟨before, cs, gap, value, ⟨split, -, -⟩, ⟨declared, -⟩, -⟩
    obtain ⟨rfl, rfl⟩ := List.append_eq_nil_iff.mp split.symm
    exact absurd declared not_declares_nil
  | cons c text ih =>
    rw [firstMetaLabel?]
    cases here : metaLabel? (c :: text) with
    | some found =>
      -- No tag comes before the one that begins here.
      obtain ⟨gap, value, last, -⟩ := metaLabel?_eq_some.mp here
      simp only [first_nil_iff ⟨gap, value, last.1⟩]
      rw [← here, metaLabel?_eq_some]
      constructor
      · rintro ⟨gap, value, last, leading⟩
        exact ⟨[], _, gap, value, ⟨rfl, rfl⟩, last, leading⟩
      · rintro ⟨-, -, gap, value, ⟨rfl, rfl⟩, last, leading⟩
        exact ⟨gap, value, last, leading⟩
    | none =>
      simp only [first_cons_iff (metaLabel?_eq_none.mp here), ih]
      constructor
      · rintro ⟨before, cs, gap, value, first, last, leading⟩
        exact ⟨c :: before, cs, gap, value, ⟨before, rfl, first⟩, last, leading⟩
      · rintro ⟨-, cs, gap, value, ⟨before, -, first⟩, last, leading⟩
        exact ⟨before, cs, gap, value, first, last, leading⟩

theorem firstMetaLabel?_eq_none {text : List Char} :
    firstMetaLabel? text = none ↔
      ∀ before cs gap value, text = before ++ cs → ¬ Declares cs gap value := by
  induction text with
  | nil =>
    refine ⟨fun _ before cs gap value split declared => ?_, fun _ => rfl⟩
    obtain ⟨rfl, rfl⟩ := List.append_eq_nil_iff.mp split.symm
    exact not_declares_nil declared
  | cons c text ih =>
    have split : firstMetaLabel? (c :: text) = none ↔
        metaLabel? (c :: text) = none ∧ firstMetaLabel? text = none := by
      rw [firstMetaLabel?]
      cases metaLabel? (c :: text) <;> simp
    rw [split, metaLabel?_eq_none, ih]
    constructor
    · rintro ⟨here, later⟩ before cs gap value split
      cases before with
      | nil =>
        rw [List.nil_append] at split
        exact split ▸ here gap value
      | cons d before =>
        exact later before cs gap value (List.cons.inj split).2
    · intro nowhere
      refine ⟨fun gap value => nowhere [] _ gap value rfl, fun before cs gap value split => ?_⟩
      exact nowhere (c :: before) cs gap value (congrArg (c :: ·) split)

def searchedText (page : List UInt8) : List Char :=
  (utf8Decoder.run (page.take searchedBytes)).text.toList

/-- The charset that a page declares is told by the beginning of its bytes alone. One is found
exactly where the text of these declares one, and it is the longest label behind the last word in
the first tag that declares any. -/
theorem declaredIn?_iff_declares (page : List UInt8) :
    declaredIn? page = declaredIn? (page.take 2048) ∧
    ((declaredIn? page).isSome = true ↔
      ∃ before cs gap value, searchedText page = before ++ cs ∧ Declares cs gap value) ∧
    ∀ label : String, declaredIn? page = some label ↔ ∃ before cs gap value,
      First (searchedText page) before cs ∧ Last (Declares cs) gap value ∧
        Leading label.toList value := by
  refine ⟨?_, ?_, ?_⟩
  · rw [declaredIn?, declaredIn?, searchedBytes, List.take_take, Nat.min_self]
  · rw [declaredIn?, Option.isSome_map, ← searchedText.eq_def]
    constructor
    · intro found
      by_contra nowhere
      simp only [not_exists, not_and] at nowhere
      rw [firstMetaLabel?_eq_none.mpr nowhere] at found
      cases found
    · rintro ⟨before, cs, gap, value, split, declared⟩
      cases found : firstMetaLabel? (searchedText page) with
      | none => exact absurd declared (firstMetaLabel?_eq_none.mp found before cs gap value split)
      | some label => rfl
  · intro label
    rw [← firstMetaLabel?_eq_some, declaredIn?, ← searchedText.eq_def]
    constructor
    · intro named
      obtain ⟨found, read, rfl⟩ := Option.map_eq_some_iff.mp named
      rw [read, String.toList_ofList]
    · intro read
      rw [read, Option.map_some, String.ofList_toList]

/-- In a tag the last word counts, and after a tag that names nothing a later one. -/
example :
    declaredIn? "<meta x><META charset=a, char\u017Fet = 'B-1 >".toUTF8.toList = some "B-1" := by
  decide +kernel

end PageWatch.Charset
