import Mathlib.Data.List.Nodup
import PageWatch.Calendar.Layout

/-!
# Layouts and their patterns

A layout is cut in one way only, and the pattern that it is turned into can be read
in one way only: as the fields and the characters of the layout, in their order. The
first rests on the order of the tokens, the second on the codes of the fields, of
which none begins as another code does.
-/

set_option autoImplicit false

namespace PageWatch.Calendar

/-- Segments that cover a text one after the other. Each is the longest token that begins where it
stands, or a single character where no token begins. -/
inductive Cut : List Char → List Segment → Prop where
  | nil : Cut [] []
  | token {r : Reference} {rest : List Char} {segments : List Segment} (known : r ∈ references)
      (longest : ∀ other ∈ references, other.text.toList <+: r.text.toList ++ rest →
        other.text.toList.length ≤ r.text.toList.length)
      (later : Cut rest segments) : Cut (r.text.toList ++ rest) (.token r :: segments)
  | literal {c : Char} {rest : List Char} {segments : List Segment}
      (plain : ∀ r ∈ references, ¬ r.text.toList <+: c :: rest) (later : Cut rest segments) :
      Cut (c :: rest) (.literal c :: segments)

theorem references_ordered : references.Pairwise fun earlier later =>
    earlier.text.toList.isPrefixOf later.text.toList = true →
      later.text.toList.length ≤ earlier.text.toList.length := by
  decide +kernel

theorem references_distinct : (references.map fun r => r.text.toList).Nodup := by
  decide +kernel

theorem references_nonempty : ∀ r ∈ references, r.text.toList ≠ [] := by
  decide +kernel

theorem begins_of_find? {cs : List Char} {r : Reference}
    (h : references.find? (·.text.toList.isPrefixOf cs) = some r) : r.text.toList <+: cs :=
  List.isPrefixOf_iff_prefix.mp (List.find?_eq_some_iff_append.mp h).1

theorem longest_of_find? {cs : List Char} {r : Reference}
    (h : references.find? (·.text.toList.isPrefixOf cs) = some r) {other : Reference}
    (known : other ∈ references) (begins : other.text.toList <+: cs) :
    other.text.toList.length ≤ r.text.toList.length := by
  obtain ⟨-, before, after, split, missed⟩ := List.find?_eq_some_iff_append.mp h
  have ordered := references_ordered
  rw [split] at known ordered
  rcases List.mem_append.mp known with early | late
  · have miss := missed other early
    rw [List.isPrefixOf_iff_prefix.mpr begins] at miss
    cases miss
  · rcases List.mem_cons.mp late with rfl | late
    · exact Nat.le_refl _
    · have apart := List.rel_of_pairwise_cons (List.pairwise_append.mp ordered).2.1 late
      rcases Nat.le_total other.text.toList.length r.text.toList.length with shorter | longer
      · exact shorter
      · have inside : r.text.toList <+: other.text.toList :=
          List.prefix_of_prefix_length_le (begins_of_find? h) begins longer
        exact apart (List.isPrefixOf_iff_prefix.mpr inside)

theorem reference_eq {cs : List Char} {r other : Reference} (hr : r ∈ references)
    (ho : other ∈ references) (begins : r.text.toList <+: cs) (begins' : other.text.toList <+: cs)
    (length : r.text.toList.length = other.text.toList.length) : r = other := by
  have same : r.text.toList = other.text.toList :=
    (List.prefix_of_prefix_length_le begins begins' (Nat.le_of_eq length)).eq_of_length length
  exact List.inj_on_of_nodup_map references_distinct hr ho same

namespace Segment

theorem scanFrom_eq (passed : Nat) (cs : List Char) :
    scanFrom passed cs = scan (cs.drop passed) := by
  induction passed generalizing cs with
  | zero => rfl
  | succ passed ih =>
    cases cs with
    | nil => rfl
    | cons c cs => exact ih cs

theorem scan_cons (c : Char) (cs : List Char) :
    scan (c :: cs) =
      match references.find? (·.text.toList.isPrefixOf (c :: cs)) with
      | some r => .token r :: scan ((c :: cs).drop r.text.toList.length)
      | none => .literal c :: scan cs := by
  rw [scan, scanFrom]
  cases h : references.find? (·.text.toList.isPrefixOf (c :: cs)) with
  | none => rfl
  | some r =>
    have nonempty := references_nonempty r (List.mem_of_find?_eq_some h)
    obtain ⟨n, hn⟩ := Nat.exists_eq_succ_of_ne_zero (mt List.length_eq_zero_iff.mp nonempty)
    rw [String.length_toList] at hn
    simp only [scanFrom_eq, String.length_toList, hn]
    rfl

theorem scan_token {r : Reference} {rest : List Char} (known : r ∈ references)
    (longest : ∀ other ∈ references, other.text.toList <+: r.text.toList ++ rest →
      other.text.toList.length ≤ r.text.toList.length) :
    scan (r.text.toList ++ rest) = .token r :: scan rest := by
  obtain ⟨c, cs, whole⟩ := List.exists_cons_of_ne_nil
    (List.append_ne_nil_of_left_ne_nil (references_nonempty r known) rest)
  have begins : r.text.toList <+: c :: cs := whole ▸ List.prefix_append _ rest
  rw [whole] at longest ⊢
  rw [scan_cons]
  cases h : references.find? (·.text.toList.isPrefixOf (c :: cs)) with
  | none =>
    have miss := List.find?_eq_none.mp h r known
    exact absurd (List.isPrefixOf_iff_prefix.mpr begins) miss
  | some other =>
    have known' := List.mem_of_find?_eq_some h
    have begins' : other.text.toList <+: c :: cs := begins_of_find? h
    have length := Nat.le_antisymm (longest_of_find? h known begins) (longest other known' begins')
    obtain rfl : r = other := reference_eq known known' begins begins' length
    have left : (c :: cs).drop r.text.toList.length = rest := by
      rw [← whole, List.drop_left]
    simp only [left]

theorem scan_literal {c : Char} {rest : List Char}
    (plain : ∀ r ∈ references, ¬ r.text.toList <+: c :: rest) :
    scan (c :: rest) = .literal c :: scan rest := by
  have none : references.find? (·.text.toList.isPrefixOf (c :: rest)) = none := by
    refine List.find?_eq_none.mpr fun r known begins => ?_
    exact plain r known (List.isPrefixOf_iff_prefix.mp begins)
  rw [scan_cons, none]

theorem cut_scan (cs : List Char) : Cut cs (scan cs) := by
  induction hn : cs.length using Nat.strongRecOn generalizing cs with
  | ind n ih =>
    cases cs with
    | nil => exact .nil
    | cons c cs =>
      rw [scan_cons]
      cases h : references.find? (·.text.toList.isPrefixOf (c :: cs)) with
      | none =>
        refine .literal (fun r known begins => ?_) (ih cs.length (by simp [← hn]) cs rfl)
        exact List.find?_eq_none.mp h r known (List.isPrefixOf_iff_prefix.mpr begins)
      | some r =>
        have known := List.mem_of_find?_eq_some h
        have nonempty := List.length_pos_iff.mpr (references_nonempty r known)
        obtain ⟨rest, whole⟩ := begins_of_find? h
        have left : (c :: cs).drop r.text.toList.length = rest := by rw [← whole, List.drop_left]
        have shorter : rest.length < n := by
          rw [← hn, ← whole, List.length_append]
          omega
        simp only [left]
        rw [← whole]
        refine .token known (fun other known' begins => ?_) (ih _ shorter rest rfl)
        exact longest_of_find? h known' (whole ▸ begins)

/-- There is no other way to cut a text. -/
theorem cut_iff {cs : List Char} {segments : List Segment} :
    Cut cs segments ↔ segments = scan cs := by
  constructor
  · intro cut
    induction cut with
    | nil => rfl
    | token known longest later ih => rw [scan_token known longest, ih]
    | literal plain later ih => rw [scan_literal plain, ih]
  · intro h
    rw [h]
    exact cut_scan cs

theorem text_of_cut {cs : List Char} {segments : List Segment} (cut : Cut cs segments) :
    segments.flatMap text = cs := by
  induction cut with
  | nil => rfl
  | token known longest later ih => rw [List.flatMap_cons, ih, text]
  | literal plain later ih =>
    rw [List.flatMap_cons, ih, text]
    rfl

end Segment

namespace Specifier

def otherCodes : List (List Char) :=
  ["C", "q", "h", "w", "u", "U", "W", "G", "g", "V", "j", "D", "x", "F", "v", "k", "l", "P", "f",
    "3f", "6f", "9f", "R", "T", "X", "r", "::z", ":::z", "c", "+", "s", "t", "n"].map String.toList

def fillings : List Char := ['-', '0', '_']

theorem mem_all (s : Specifier) : s ∈ all := by
  cases s <;> decide

theorem codes_apart : ∀ s ∈ all, ∀ other ∈ all,
    s.code.isPrefixOf other.code = true → s = other := by
  decide +kernel

theorem otherCodes_apart : ∀ s ∈ all, ∀ code ∈ otherCodes,
    s.code.isPrefixOf code = false ∧ code.isPrefixOf s.code = false := by
  decide +kernel

theorem code_starts : ∀ s ∈ all, ∃ c tail, s.code = c :: tail ∧ c ≠ '%' ∧ c ∉ fillings := by
  intro s _
  cases s <;> exact ⟨_, _, rfl, by decide, by decide⟩

theorem otherCode_starts : ∀ code ∈ otherCodes, code.head? ≠ none ∧ code.head? ≠ some '%' := by
  decide +kernel

theorem eq_of_code_append {s other : Specifier} {rest rest' : List Char}
    (h : s.code ++ rest = other.code ++ rest') : s = other ∧ rest = rest' := by
  have begins : s.code <+: other.code ++ rest' := h ▸ List.prefix_append s.code rest
  have begins' : other.code <+: other.code ++ rest' := List.prefix_append _ _
  have same : s = other := by
    rcases List.prefix_or_prefix_of_prefix begins begins' with inside | inside
    · exact codes_apart s s.mem_all other other.mem_all (List.isPrefixOf_iff_prefix.mpr inside)
    · have eq := codes_apart other other.mem_all s s.mem_all (List.isPrefixOf_iff_prefix.mpr inside)
      exact eq.symm
  rw [same] at h
  exact ⟨same, List.append_cancel_left h⟩

theorem otherCode_append_ne {s : Specifier} {code : List Char} (known : code ∈ otherCodes)
    (rest rest' : List Char) : code ++ rest ≠ s.code ++ rest' := by
  intro h
  obtain ⟨apart, apart'⟩ := otherCodes_apart s s.mem_all code known
  have begins : code <+: s.code ++ rest' := h ▸ List.prefix_append code rest
  have begins' : s.code <+: s.code ++ rest' := List.prefix_append _ _
  rcases List.prefix_or_prefix_of_prefix begins begins' with inside | inside
  · rw [List.isPrefixOf_iff_prefix.mpr inside] at apart'
    cases apart'
  · rw [List.isPrefixOf_iff_prefix.mpr inside] at apart
    cases apart

end Specifier

/-- The ways to cut a pattern into items. A code that no field of a layout has is some item, too. -/
inductive Reads : List Char → List Item → Prop where
  | nil : Reads [] []
  | field (s : Specifier) {rest : List Char} {items : List Item} (later : Reads rest items) :
    Reads ('%' :: (s.code ++ rest)) (.field s :: items)
  | other {code rest : List Char} {items : List Item} (known : code ∈ Specifier.otherCodes)
      (later : Reads rest items) : Reads ('%' :: (code ++ rest)) (.unknown :: items)
  | filled {c : Char} {code rest : List Char} {items : List Item} (filling : c ∈ Specifier.fillings)
      (known : code ∈ Specifier.otherCodes ++ Specifier.all.map Specifier.code)
      (later : Reads rest items) : Reads ('%' :: c :: (code ++ rest)) (.unknown :: items)
  | percent {rest : List Char} {items : List Item} (later : Reads rest items) :
    Reads ('%' :: '%' :: rest) (.literal '%' :: items)
  | plain {c : Char} {rest : List Char} {items : List Item} (h : c ≠ '%')
      (later : Reads rest items) : Reads (c :: rest) (plainItem c :: items)

namespace Reads

variable {rest : List Char} {items : List Item}

theorem field_iff {s : Specifier} :
    Reads ('%' :: (s.code ++ rest)) items ↔
      ∃ later, items = .field s :: later ∧ Reads rest later := by
  constructor
  · intro h
    obtain ⟨first, tail, starts, notPercent, notFilling⟩ := Specifier.code_starts s s.mem_all
    generalize whole : s.code ++ rest = cs at h
    generalize percent : '%' = p at h
    cases h with
    | field other later =>
      obtain ⟨rfl, rfl⟩ := Specifier.eq_of_code_append whole
      exact ⟨_, rfl, later⟩
    | other known later => exact absurd whole.symm (Specifier.otherCode_append_ne known _ _)
    | filled filling known later =>
      rw [starts] at whole
      obtain ⟨rfl, -⟩ := List.cons.inj whole
      exact absurd filling notFilling
    | percent later =>
      rw [starts] at whole
      exact absurd (List.cons.inj whole).1 notPercent
    | plain h later => exact absurd percent.symm h
  · rintro ⟨later, rfl, h⟩
    exact .field s h

theorem percent_iff :
    Reads ('%' :: '%' :: rest) items ↔
      ∃ later, items = .literal '%' :: later ∧ Reads rest later := by
  constructor
  · intro h
    generalize whole : '%' :: rest = cs at h
    generalize percent : '%' = p at h
    cases h with
    | field s later =>
      obtain ⟨first, tail, starts, notPercent, -⟩ := Specifier.code_starts s s.mem_all
      rw [starts] at whole
      exact absurd (List.cons.inj whole).1.symm notPercent
    | @other code rest' items' known later =>
      obtain ⟨nonempty, notPercent⟩ := Specifier.otherCode_starts code known
      cases code with
      | nil => exact absurd rfl nonempty
      | cons first tail =>
        obtain ⟨rfl, -⟩ := List.cons.inj whole
        exact absurd rfl notPercent
    | filled filling known later =>
      rw [← (List.cons.inj whole).1] at filling
      exact absurd filling (by decide)
    | percent later =>
      obtain rfl := (List.cons.inj whole).2
      exact ⟨_, rfl, later⟩
    | plain h later => exact absurd percent.symm h
  · rintro ⟨later, rfl, h⟩
    exact .percent h

theorem plain_iff {c : Char} (h : c ≠ '%') :
    Reads (c :: rest) items ↔ ∃ later, items = plainItem c :: later ∧ Reads rest later := by
  constructor
  · intro read
    cases read with
    | plain _ later => exact ⟨_, rfl, later⟩
    | _ => exact absurd rfl h
  · rintro ⟨later, rfl, read⟩
    exact .plain h read

end Reads

theorem itemsFrom_eq (passed : Nat) (cs : List Char) :
    itemsFrom passed cs = items (cs.drop passed) := by
  induction passed generalizing cs with
  | zero => rfl
  | succ passed ih =>
    cases cs with
    | nil => rfl
    | cons c cs => exact ih cs

theorem itemAfterPercent_code (s : Specifier) (rest : List Char) :
    itemAfterPercent (s.code ++ rest) = (.field s, s.code.length) := by
  obtain ⟨first, tail, starts, notPercent, -⟩ := Specifier.code_starts s s.mem_all
  have head : (s.code ++ rest).head? ≠ some '%' := by
    rw [starts]
    simpa using notPercent
  have found : Specifier.all.find? (·.code.isPrefixOf (s.code ++ rest)) = some s := by
    cases h : Specifier.all.find? (·.code.isPrefixOf (s.code ++ rest)) with
    | none =>
      have miss := List.find?_eq_none.mp h s s.mem_all
      exact absurd (List.isPrefixOf_iff_prefix.mpr (List.prefix_append _ _)) miss
    | some other =>
      have hit := (List.find?_eq_some_iff_append.mp h).1
      obtain ⟨rest', whole⟩ := List.isPrefixOf_iff_prefix.mp hit
      rw [(Specifier.eq_of_code_append whole).1]
  rw [itemAfterPercent, if_neg head, found]

namespace Segment

def item : Segment → Item
  | token r => .field r.field
  | literal c => plainItem c

theorem plainItem_percent : plainItem '%' = .literal '%' := by
  decide

theorem items_pattern_append (segment : Segment) (rest : List Char) :
    items (segment.pattern ++ rest) = segment.item :: items rest := by
  cases segment with
  | token r =>
    show itemsFrom 0 ('%' :: (r.field.code ++ rest)) = .field r.field :: items rest
    rw [itemsFrom, if_pos rfl, itemAfterPercent_code, itemsFrom_eq, List.drop_left]
  | literal c =>
    by_cases percent : c = '%'
    · subst percent
      show itemsFrom 0 ('%' :: '%' :: rest) = plainItem '%' :: items rest
      have escaped : itemAfterPercent ('%' :: rest) = (.literal '%', 1) := rfl
      rw [itemsFrom, if_pos rfl, escaped, itemsFrom_eq, plainItem_percent]
      rfl
    · rw [pattern, if_neg percent]
      show itemsFrom 0 (c :: rest) = plainItem c :: items rest
      rw [itemsFrom, if_neg percent]
      rfl

theorem reads_pattern_append {segment : Segment} {rest : List Char} {read : List Item} :
    Reads (segment.pattern ++ rest) read ↔
      ∃ later, read = segment.item :: later ∧ Reads rest later := by
  cases segment with
  | token r => exact Reads.field_iff
  | literal c =>
    by_cases percent : c = '%'
    · subst percent
      show Reads ('%' :: '%' :: rest) read ↔
        ∃ later, read = plainItem '%' :: later ∧ Reads rest later
      rw [plainItem_percent]
      exact Reads.percent_iff
    · rw [pattern, if_neg percent]
      exact Reads.plain_iff percent

theorem items_pattern (segments : List Segment) :
    items (segments.flatMap pattern) = segments.map item := by
  induction segments with
  | nil => rfl
  | cons segment segments ih => rw [List.flatMap_cons, items_pattern_append, ih, List.map_cons]

/-- The pattern of segments can be read as these segments only. -/
theorem reads_pattern {segments : List Segment} {read : List Item} :
    Reads (segments.flatMap pattern) read ↔ read = segments.map item := by
  induction segments generalizing read with
  | nil =>
    constructor
    · intro h
      cases h
      rfl
    · rintro rfl
      exact .nil
  | cons segment segments ih =>
    rw [List.flatMap_cons, reads_pattern_append, List.map_cons]
    constructor
    · rintro ⟨later, rfl, h⟩
      rw [ih.mp h]
    · intro h
      exact ⟨_, h, ih.mpr rfl⟩

end Segment

namespace Layout

theorem ofText?_eq_some {layout : String} {l : Layout} :
    ofText? layout = some l ↔ l.segments = Segment.scan layout.toList := by
  unfold ofText?
  obtain ⟨segments, dated⟩ := l
  by_cases h : (Segment.scan layout.toList).any (·.part? == some .date) = true
  · simp only [dif_pos h, Option.some.injEq, Layout.mk.injEq]
    exact eq_comm
  · simp only [dif_neg h, reduceCtorEq, false_iff]
    intro same
    exact h (same ▸ dated)

theorem isSome_ofText? {layout : String} :
    (ofText? layout).isSome ↔
      ∃ r, Segment.token r ∈ Segment.scan layout.toList ∧ r.field.part = .date := by
  rw [Option.isSome_iff_exists]
  constructor
  · rintro ⟨l, h⟩
    have dated := l.dated
    rw [ofText?_eq_some.mp h, List.any_eq_true] at dated
    obtain ⟨segment, mem, part⟩ := dated
    cases segment with
    | token r => exact ⟨r, mem, by simpa [Segment.part?] using part⟩
    | literal c => cases part
  · rintro ⟨r, mem, part⟩
    have dated : (Segment.scan layout.toList).any (·.part? == some .date) = true :=
      List.any_eq_true.mpr ⟨_, mem, by simp [Segment.part?, part]⟩
    exact ⟨⟨_, dated⟩, ofText?_eq_some.mpr rfl⟩

/-- A layout is cut into the longest tokens that begin where the one before ends and into single
characters where none does. It is accepted just when one of the tokens is for a field of a date.
Its pattern can be read in one way only, as the fields of the tokens and the characters between. -/
theorem read_as_cut (layout : String) :
    ∃ segments, (∀ other, Cut layout.toList other ↔ other = segments) ∧
      segments.flatMap Segment.text = layout.toList ∧
      ((ofText? layout).isSome ↔ ∃ r, Segment.token r ∈ segments ∧ r.field.part = .date) ∧
      ∀ l, ofText? layout = some l → l.text = layout ∧
        items l.pattern = segments.map Segment.item ∧
        ∀ read, Reads l.pattern read ↔ read = segments.map Segment.item := by
  have cut : Cut layout.toList (Segment.scan layout.toList) := Segment.cut_scan layout.toList
  refine ⟨Segment.scan layout.toList, fun other => Segment.cut_iff, Segment.text_of_cut cut,
    isSome_ofText?, ?_⟩
  intro l accepted
  have segments : l.segments = Segment.scan layout.toList := ofText?_eq_some.mp accepted
  have pattern : l.pattern = (Segment.scan layout.toList).flatMap Segment.pattern := by
    rw [Layout.pattern, segments]
  refine ⟨?_, ?_, fun read => ?_⟩
  · rw [text, segments, Segment.text_of_cut cut, String.ofList_toList]
  · rw [pattern, Segment.items_pattern]
  · rw [pattern, Segment.reads_pattern]

theorem read_as_cut_sample :
    ∃ l, ofText? "2006-1-2 %d" = some l ∧ l.pattern = "%Y-%m-%d %%d".toList ∧
      ∀ read, Reads l.pattern read ↔
        read = [.field .year, .literal '-', .field .month, .literal '-', .field .day, .blank ' ',
          .literal '%', .literal 'd'] := by
  obtain ⟨segments, cut, -, accepted, reads⟩ := read_as_cut "2006-1-2 %d"
  have scanned : segments = [.token ⟨"2006", .year⟩, .literal '-', .token ⟨"1", .month⟩,
      .literal '-', .token ⟨"2", .day⟩, .literal ' ', .literal '%', .literal 'd'] := by
    rw [Segment.cut_iff.mp ((cut segments).mpr rfl)]
    decide +kernel
  obtain ⟨l, found⟩ := Option.isSome_iff_exists.mp
    (accepted.mpr ⟨⟨"2006", .year⟩, by simp [scanned], rfl⟩)
  refine ⟨l, found, ?_, ?_⟩
  · rw [pattern, ofText?_eq_some.mp found]
    decide +kernel
  · have only := (reads l found).2.2
    rw [scanned] at only
    exact only

end Layout

end PageWatch.Calendar
