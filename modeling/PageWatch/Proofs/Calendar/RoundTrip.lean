import PageWatch.Proofs.Calendar.Fields
import PageWatch.Proofs.Calendar.Translation

/-!
# Dates that are read as they were written

A layout is legible where its tokens have values of a full width and tell the day,
and, if it has anything to do with the time of the clock, the hour and the minute. A
local time that is written with a legible layout is read back, whatever stands
between the tokens.
-/

set_option autoImplicit false

namespace PageWatch.Calendar

open Text

namespace Segment

def mentions (tokens : List String) (segments : List Segment) : Bool :=
  segments.any fun
    | .token r => tokens.contains r.text
    | .literal _ => false

def field? : Segment → Option Specifier
  | token r => some r.field
  | literal _ => none

def fields (segments : List Segment) : List Specifier := segments.filterMap field?

def yearTokens : List String := ["2006"]
def monthTokens : List String := ["01", "1", "Jan", "January"]
def dayTokens : List String := ["02", "2", "_2"]
def hourTokens : List String := ["15"]
def minuteTokens : List String := ["04", "4"]
def secondTokens : List String := ["05", "5"]
def offsetTokens : List String := ["-07:00", "-0700", "Z07:00"]

def clockTokens : List String := hourTokens ++ minuteTokens ++ secondTokens ++ offsetTokens

structure Legible (segments : List Segment) : Prop where
  tokens : ∀ r, .token r ∈ segments →
    r.text ∈ yearTokens ++ monthTokens ++ dayTokens ++ clockTokens
  year : mentions yearTokens segments = true
  month : mentions monthTokens segments = true
  day : mentions dayTokens segments = true
  clock : mentions clockTokens segments = true →
    mentions hourTokens segments = true ∧ mentions minuteTokens segments = true

theorem mem_references_of_cut {cs : List Char} {segments : List Segment} (cut : Cut cs segments)
    {r : Reference} (mem : .token r ∈ segments) : r ∈ references := by
  induction cut with
  | nil => cases mem
  | token known _ _ ih =>
    rcases List.mem_cons.mp mem with same | mem
    · rwa [Segment.token.inj same]
    · exact ih mem
  | literal _ _ ih =>
    rcases List.mem_cons.mp mem with same | mem
    · cases same
    · exact ih mem

theorem mem_fields {segments : List Segment} {s : Specifier} :
    s ∈ fields segments ↔ ∃ r, .token r ∈ segments ∧ r.field = s := by
  simp only [fields, List.mem_filterMap]
  constructor
  · rintro ⟨segment, mem, h⟩
    cases segment with
    | token r => exact ⟨r, mem, Option.some.inj h⟩
    | literal c => cases h
  · rintro ⟨r, mem, rfl⟩
    exact ⟨_, mem, rfl⟩

theorem mentions_iff {tokens : List String} {segments : List Segment} :
    mentions tokens segments = true ↔ ∃ r, .token r ∈ segments ∧ r.text ∈ tokens := by
  simp only [mentions, List.any_eq_true]
  constructor
  · rintro ⟨segment, mem, h⟩
    cases segment with
    | token r => exact ⟨r, mem, List.contains_iff_mem.mp h⟩
    | literal c => cases h
  · rintro ⟨r, mem, h⟩
    exact ⟨_, mem, List.contains_iff_mem.mpr h⟩

theorem mentions_append (tokens more : List String) (segments : List Segment) :
    mentions (tokens ++ more) segments = (mentions tokens segments || mentions more segments) := by
  rw [Bool.eq_iff_iff, Bool.or_eq_true, mentions_iff, mentions_iff, mentions_iff]
  constructor
  · rintro ⟨r, mem, h⟩
    rcases List.mem_append.mp h with h | h
    · exact .inl ⟨r, mem, h⟩
    · exact .inr ⟨r, mem, h⟩
  · rintro (⟨r, mem, h⟩ | ⟨r, mem, h⟩)
    · exact ⟨r, mem, List.mem_append_left _ h⟩
    · exact ⟨r, mem, List.mem_append_right _ h⟩

theorem mem_references_of_scan {layout : List Char} {r : Reference}
    (mem : .token r ∈ scan layout) : r ∈ references :=
  mem_references_of_cut (cut_scan layout) mem

theorem mentions_scan {layout : List Char} {tokens : List String} {kinds : List Specifier}
    (stand : ∀ r ∈ references, r.text ∈ tokens ↔ r.field ∈ kinds) :
    mentions tokens (scan layout) = true ↔ ∃ s ∈ kinds, s ∈ fields (scan layout) := by
  rw [mentions_iff]
  constructor
  · rintro ⟨r, mem, h⟩
    have kind := (stand r (mem_references_of_scan mem)).mp h
    exact ⟨r.field, kind, mem_fields.mpr ⟨r, mem, rfl⟩⟩
  · rintro ⟨s, h, field⟩
    obtain ⟨r, mem, rfl⟩ := mem_fields.mp field
    exact ⟨r, mem, (stand r (mem_references_of_scan mem)).mpr h⟩

/-- The fields of a legible layout are legible, and tell what its tokens are for. -/
structure Told (segments : List Segment) : Prop where
  legible : ∀ s ∈ fields segments, s ∈ Specifier.legible
  year : .year ∈ fields segments
  month : .month ∈ fields segments ∨ .monthShort ∈ fields segments ∨ .monthName ∈ fields segments
  day : .day ∈ fields segments ∨ .dayOrBlank ∈ fields segments
  hour : mentions hourTokens segments = true ↔ .hour ∈ fields segments
  minute : mentions minuteTokens segments = true ↔ .minute ∈ fields segments
  second : mentions secondTokens segments = true ↔ .second ∈ fields segments
  offset : mentions offsetTokens segments = true ↔
    .offset ∈ fields segments ∨ .offsetColon ∈ fields segments ∨ .offsetOrZ ∈ fields segments

theorem Legible.told {layout : List Char} (legible : Legible (scan layout)) :
    Told (scan layout) where
  legible := by
    intro s field
    obtain ⟨r, mem, rfl⟩ := mem_fields.mp field
    have stand : ∀ r ∈ references,
        r.text ∈ yearTokens ++ monthTokens ++ dayTokens ++ clockTokens →
          r.field ∈ Specifier.legible := by
      decide +kernel
    exact stand r (mem_references_of_scan mem) (legible.tokens r mem)
  year := by
    have stand : ∀ r ∈ references, r.text ∈ yearTokens ↔ r.field ∈ [Specifier.year] := by
      decide +kernel
    simpa using (mentions_scan stand).mp legible.year
  month := by
    have stand : ∀ r ∈ references, r.text ∈ monthTokens ↔
        r.field ∈ [Specifier.month, .monthShort, .monthName] := by
      decide +kernel
    simpa using (mentions_scan stand).mp legible.month
  day := by
    have stand : ∀ r ∈ references, r.text ∈ dayTokens ↔
        r.field ∈ [Specifier.day, .dayOrBlank] := by
      decide +kernel
    simpa using (mentions_scan stand).mp legible.day
  hour := by
    have stand : ∀ r ∈ references, r.text ∈ hourTokens ↔ r.field ∈ [Specifier.hour] := by
      decide +kernel
    simpa using mentions_scan stand
  minute := by
    have stand : ∀ r ∈ references, r.text ∈ minuteTokens ↔ r.field ∈ [Specifier.minute] := by
      decide +kernel
    simpa using mentions_scan stand
  second := by
    have stand : ∀ r ∈ references, r.text ∈ secondTokens ↔ r.field ∈ [Specifier.second] := by
      decide +kernel
    simpa using mentions_scan stand
  offset := by
    have stand : ∀ r ∈ references, r.text ∈ offsetTokens ↔
        r.field ∈ [Specifier.offset, .offsetColon, .offsetOrZ] := by
      decide +kernel
    simpa using mentions_scan stand

end Segment

namespace LocalTime

variable (t : LocalTime) (shown : List Specifier)

def writeSegment : Segment → List Char
  | .token r => t.write r.field
  | .literal c => [c]

def writeAll (segments : List Segment) : List Char := segments.flatMap t.writeSegment

def Left (text cs : List Char) : Prop := cs = text ∨ cs = trimStart text

theorem Left.eq_of_visible {text rest cs : List Char} (visible : Visible text)
    (left : Left (text ++ rest) cs) : cs = text ++ rest := by
  rcases left with rfl | rfl
  · rfl
  · exact visible.trimStart rest

theorem Left.trimStart_eq {text cs : List Char} (left : Left text cs) :
    trimStart cs = trimStart text := by
  rcases left with rfl | rfl
  · rfl
  · exact List.dropWhile_idempotent ..

theorem readItem_literal {c : Char} {text cs : List Char} (f : Fields)
    (left : Left (c :: text) cs) :
    ∃ rest, readItem f cs (Segment.item (.literal c)) = some (f, rest) ∧ Left text rest := by
  rw [Segment.item, plainItem]
  by_cases blank : isBlank c
  · have passed : trimStart (c :: text) = trimStart text := List.dropWhile_cons_of_pos blank
    rw [if_pos blank]
    exact ⟨trimStart cs, rfl, .inr (left.trimStart_eq.trans passed)⟩
  · have visible : Visible [c] := by simp [Visible, blank]
    obtain rfl : cs = c :: text := left.eq_of_visible visible
    rw [if_neg blank]
    exact ⟨text, if_pos rfl, .inl rfl⟩

theorem readItem_writeSegment {segment : Segment} {text cs : List Char}
    (legible : ∀ s ∈ segment.field?, s ∈ Specifier.legible)
    (left : Left (t.writeSegment segment ++ text) cs) :
    ∃ rest, readItem (t.fields shown) cs segment.item =
        some (t.fields (segment.field?.toList ++ shown), rest) ∧ Left text rest := by
  cases segment with
  | token r =>
    have legible : r.field ∈ Specifier.legible := legible _ rfl
    obtain rfl : cs = t.write r.field ++ text := left.eq_of_visible (t.visible_write legible)
    exact ⟨text, t.readField_write shown legible text, .inl rfl⟩
  | literal c => exact readItem_literal _ left

/-- A text is read by the layout with which it was written. -/
theorem readItems_writeAll {segments : List Segment}
    (legible : ∀ s ∈ Segment.fields segments, s ∈ Specifier.legible) {cs : List Char}
    (left : Left (t.writeAll segments) cs) :
    readItems (segments.map Segment.item) (t.fields shown) cs =
      some (t.fields ((Segment.fields segments).reverse ++ shown), []) := by
  induction segments generalizing shown cs with
  | nil =>
    obtain rfl : cs = [] := by rcases left with rfl | rfl <;> rfl
    rfl
  | cons segment segments ih =>
    have fields : Segment.fields (segment :: segments) =
        segment.field?.toList ++ Segment.fields segments := by
      cases segment <;> rfl
    have whole : t.writeAll (segment :: segments) =
        t.writeSegment segment ++ t.writeAll segments := List.flatMap_cons
    rw [whole] at left
    rw [fields] at legible ⊢
    obtain ⟨rest, read, left⟩ := t.readItem_writeSegment shown
      (fun s mem => legible s (by simp [Option.mem_def.mp mem])) left
    have later := ih (segment.field?.toList ++ shown)
      (fun s mem => legible s (List.mem_append_right _ mem)) left
    rw [List.map_cons, readItems, read, List.reverse_append, List.append_assoc]
    cases segment <;> exact later

def moment (t : LocalTime) (shown : List Specifier) : Timestamp where
  date := t.date
  second := t.hour * 3600 + t.minute * 60 + if .second ∈ shown then t.second else 0
  nano := 0
  second_lt := by
    have hour := t.hour_lt
    have minute := t.minute_lt
    have second := t.second_lt
    split <;> omega
  nano_lt := (Timestamp.midnight t.date).nano_lt

theorem ofClock?_moment :
    Timestamp.ofClock? t.date t.hour t.minute (if .second ∈ shown then t.second else 0) 0 =
      some (t.moment shown) := by
  have bounds := And.intro t.hour_lt (And.intro t.minute_lt t.second_lt)
  have regular : (if .second ∈ shown then t.second else 0) < 60 := by split <;> omega
  simp only [Timestamp.ofClock?, Nat.ne_of_lt regular]
  simp [regular, bounds, moment]

section Told

variable {shown}

variable (year : .year ∈ shown)
  (month : .month ∈ shown ∨ .monthShort ∈ shown ∨ .monthName ∈ shown)
  (day : .day ∈ shown ∨ .dayOrBlank ∈ shown)

include year month day

theorem date?_fields : (t.fields shown).date? = some t.date := by
  have made : Date.ofYmd? t.date.year t.date.month t.date.day = some t.date :=
    Date.ofYmd?_eq_some.mpr ⟨rfl, rfl, rfl⟩
  simp [Fields.date?, Fields.year?, fields, year, month, day, made]

theorem timestamp?_fields (hour : .hour ∈ shown) (minute : .minute ∈ shown) :
    (t.fields shown).timestamp? = some (t.moment shown) := by
  have date := t.date?_fields year month day
  have clock := t.ofClock?_moment shown
  have hours : (if decide (12 ≤ t.hour) = true then 12 else 0) + t.hour % 12 = t.hour := by
    have bound := t.hour_lt
    simp only [decide_eq_true_eq]
    split <;> omega
  have afternoon : (t.fields shown).afternoon = some (decide (12 ≤ t.hour)) := if_pos hour
  have hour12 : (t.fields shown).hour12 = some (t.hour % 12) := if_pos hour
  have minutes : (t.fields shown).minute = some t.minute := if_pos minute
  have nano : (t.fields shown).nano = none := rfl
  have seconds : (t.fields shown).second.getD 0 = if .second ∈ shown then t.second else 0 := by
    unfold fields
    split_ifs <;> rfl
  simp only [Fields.timestamp?, date, afternoon, hour12, minutes, nano, seconds,
    Option.bind_eq_bind, Option.bind_some, hours, Option.isSome_none, Bool.and_false,
    Bool.false_eq_true, if_false, Option.getD_none, clock]

theorem universal?_fields (hour : .hour ∈ shown) (minute : .minute ∈ shown)
    (offset : .offset ∈ shown ∨ .offsetColon ∈ shown ∨ .offsetOrZ ∈ shown) :
    ∃ u, (t.fields shown).universal? = some u ∧ u.nano = 0 ∧
      u.instant = (t.moment shown).instant - 60 * t.ahead := by
  have clock := t.timestamp?_fields year month day hour minute
  have known : (t.fields shown).offset = some (60 * t.ahead) := if_pos offset
  have less : (60 * t.ahead).natAbs < 86400 := by
    have bound := t.ahead_lt
    omega
  have years : -262143 < (t.moment shown).date.year ∧ (t.moment shown).date.year < 262142 := by
    have bounds := t.year_bounds
    change -262143 < t.date.year ∧ t.date.year < 262142
    omega
  obtain ⟨u, taken, nano, instant⟩ := Timestamp.exists_minusSeconds years less
  refine ⟨u, ?_, nano, instant⟩
  simp only [Fields.universal?, clock, known, Option.bind_eq_bind, Option.bind_some, if_pos less,
    taken]

end Told

open Segment

def secondsShown (segments : List Segment) : Nat :=
  (if mentions hourTokens segments then t.hour * 3600 else 0) +
    (if mentions minuteTokens segments then t.minute * 60 else 0) +
    if mentions secondTokens segments then t.second else 0

def offsetShown (segments : List Segment) : Int :=
  if mentions offsetTokens segments then 60 * t.ahead else 0

/-- How far what a layout shows is from day 0. -/
def instantShown (segments : List Segment) : Int :=
  t.date.number * 86400 + t.secondsShown segments - t.offsetShown segments

theorem instant_moment {segments : List Segment} (told : Told segments)
    (hour : mentions hourTokens segments = true) (minute : mentions minuteTokens segments = true) :
    (t.moment (Segment.fields segments)).instant =
      t.date.number * 86400 + t.secondsShown segments := by
  simp only [Timestamp.instant, moment, secondsShown, hour, minute, told.second, if_true]

end LocalTime

namespace Layout

variable {l : Layout} {part : Specifier.Part} {tokens : List String}

theorem has_eq_mentions
    (stand : ∀ r, .token r ∈ l.segments → (r.field.part = part ↔ r.text ∈ tokens)) :
    l.has part = Segment.mentions tokens l.segments := by
  rw [Bool.eq_iff_iff, Segment.mentions_iff, has, List.any_eq_true]
  constructor
  · rintro ⟨segment, mem, h⟩
    cases segment with
    | token r => exact ⟨r, mem, (stand r mem).mp (by simpa [Segment.part?] using h)⟩
    | literal c => cases h
  · rintro ⟨r, mem, h⟩
    exact ⟨_, mem, by simp [Segment.part?, (stand r mem).mpr h]⟩

def write (l : Layout) (t : LocalTime) : String := String.ofList (t.writeAll l.segments)

theorem readAll?_write (legible : ∀ s ∈ Segment.fields l.segments, s ∈ Specifier.legible)
    (t : LocalTime) :
    readAll? l.pattern (l.write t).toList = some (t.fields (Segment.fields l.segments)) := by
  have read := t.readItems_writeAll [] legible (.inl rfl)
  have nothing : t.fields [] = {} := by simp [LocalTime.fields]
  have order : t.fields (Segment.fields l.segments).reverse = t.fields (Segment.fields l.segments) := by
    simp [LocalTime.fields]
  rw [List.append_nil, nothing, order] at read
  rw [readAll?, pattern, Segment.items_pattern, write, String.toList_ofList, read]

theorem has_of_legible {layout : String} (legible : Segment.Legible l.segments)
    (segments : l.segments = Segment.scan layout.toList) :
    l.has .offset = Segment.mentions Segment.offsetTokens l.segments ∧
      l.has .time = Segment.mentions
        (Segment.hourTokens ++ Segment.minuteTokens ++ Segment.secondTokens) l.segments := by
  have known {r : Reference} (mem : .token r ∈ l.segments) : r ∈ references :=
    Segment.mem_references_of_scan (segments ▸ mem)
  constructor
  · have stand : ∀ r ∈ references, r.field.part = .offset ↔ r.text ∈ Segment.offsetTokens := by
      decide +kernel
    exact has_eq_mentions fun r mem => stand r (known mem)
  · have stand : ∀ r ∈ references,
        r.text ∈ Segment.yearTokens ++ Segment.monthTokens ++ Segment.dayTokens ++
            Segment.clockTokens →
          (r.field.part = .time ↔
            r.text ∈ Segment.hourTokens ++ Segment.minuteTokens ++ Segment.secondTokens) := by
      decide +kernel
    exact has_eq_mentions fun r mem => stand r (known mem) (legible.tokens r mem)

/-- What was written is read, as far as the layout shows it. -/
theorem parse?_write {layout : String} (legible : Segment.Legible l.segments)
    (segments : l.segments = Segment.scan layout.toList) (t : LocalTime) :
    ∃ u, l.parse? (l.write t) = some u ∧ u.nano = 0 ∧ u.instant = t.instantShown l.segments := by
  have told : Segment.Told l.segments := by
    rw [segments] at legible ⊢
    exact legible.told
  have read := readAll?_write told.legible t
  obtain ⟨offset, time⟩ := has_of_legible legible segments
  rw [Segment.mentions_append, Segment.mentions_append] at time
  rw [parse?, read, Option.bind_eq_bind, Option.bind_some]
  by_cases clock : Segment.mentions Segment.clockTokens l.segments = true
  · obtain ⟨hour, minute⟩ := legible.clock clock
    have instant := t.instant_moment told hour minute
    rw [LocalTime.instantShown, LocalTime.offsetShown, ← instant]
    cases shown : Segment.mentions Segment.offsetTokens l.segments with
    | true =>
      rw [if_pos (offset.trans shown), if_pos rfl]
      exact t.universal?_fields told.year told.month told.day (told.hour.mp hour)
        (told.minute.mp minute) (told.offset.mp shown)
    | false =>
      have notOffset : ¬ l.has .offset = true := by simp [offset, shown]
      have isTime : l.has .time = true := by simp [time, hour]
      rw [if_neg notOffset, if_pos isTime, if_neg Bool.false_ne_true, Int.sub_zero]
      exact ⟨_, t.timestamp?_fields told.year told.month told.day (told.hour.mp hour)
        (told.minute.mp minute), rfl, rfl⟩
  · rw [Segment.clockTokens, Segment.mentions_append, Segment.mentions_append,
      Segment.mentions_append] at clock
    simp only [Bool.or_eq_true, not_or, Bool.not_eq_true] at clock
    obtain ⟨⟨⟨hour, minute⟩, second⟩, noOffset⟩ := clock
    have notOffset : ¬ l.has .offset = true := by simp [offset, noOffset]
    have notTime : ¬ l.has .time = true := by simp [time, hour, minute, second]
    rw [if_neg notOffset, if_neg notTime, t.date?_fields told.year told.month told.day]
    refine ⟨.midnight t.date, rfl, rfl, ?_⟩
    simp [LocalTime.instantShown, LocalTime.secondsShown, LocalTime.offsetShown, hour, minute,
      second, noOffset, Timestamp.instant, Timestamp.midnight]

/-- A layout whose tokens tell the day, and with any of the time the hour and the minute, is
accepted, and it reads what was written with it. The moment that is read is the one that is as far
from day 0 as what the layout shows. -/
theorem written_read_back (layout : String)
    (legible : Segment.Legible (Segment.scan layout.toList)) (t : LocalTime) :
    ∃ l, ofText? layout = some l ∧ ∃ u, l.parse? (l.write t) = some u ∧
      ∀ v : Timestamp, v = u ↔ v.nano = 0 ∧ v.instant = t.instantShown l.segments := by
  obtain ⟨r, mem, field⟩ := Segment.mem_fields.mp legible.told.year
  obtain ⟨l, accepted⟩ := Option.isSome_iff_exists.mp
    (isSome_ofText?.mpr ⟨r, mem, by rw [field]; rfl⟩)
  have segments := ofText?_eq_some.mp accepted
  obtain ⟨u, parsed, nano, instant⟩ := parse?_write (segments ▸ legible) segments t
  refine ⟨l, accepted, u, parsed, fun v => ⟨?_, ?_⟩⟩
  · rintro rfl
    exact ⟨nano, instant⟩
  · rintro ⟨nano', instant'⟩
    exact Timestamp.eq_of_instant (instant'.trans instant.symm) (nano'.trans nano.symm)

def sampleTime : LocalTime where
  date := ⟨2024, 12, 31, by decide⟩
  hour := 23
  minute := 30
  second := 15
  ahead := -300

theorem written_read_back_sample :
    Segment.Legible (Segment.scan "January _2, 2006 (15:04 -0700)".toList) ∧
      ∃ l, ofText? "January _2, 2006 (15:04 -0700)" = some l ∧
        l.parse? "December 31, 2024 (23:30 -0500)" =
          some { Timestamp.midnight ⟨2025, 1, 1, by decide⟩ with
            second := 16200
            second_lt := by decide } := by
  have scanned : Segment.scan "January _2, 2006 (15:04 -0700)".toList =
      [.token ⟨"January", .monthName⟩, .literal ' ', .token ⟨"_2", .dayOrBlank⟩, .literal ',',
        .literal ' ', .token ⟨"2006", .year⟩, .literal ' ', .literal '(', .token ⟨"15", .hour⟩,
        .literal ':', .token ⟨"04", .minute⟩, .literal ' ', .token ⟨"-0700", .offset⟩,
        .literal ')'] := by
    decide +kernel
  have legible : Segment.Legible (Segment.scan "January _2, 2006 (15:04 -0700)".toList) := by
    rw [scanned]
    refine ⟨?_, by decide +kernel, by decide +kernel, by decide +kernel, by decide +kernel⟩
    intro r mem
    simp at mem
    rcases mem with rfl | rfl | rfl | rfl | rfl | rfl <;> decide +kernel
  obtain ⟨l, accepted, u, parsed, only⟩ := written_read_back _ legible sampleTime
  refine ⟨legible, l, accepted, ?_⟩
  have segments := (ofText?_eq_some.mp accepted).trans scanned
  have written : l.write sampleTime = "December 31, 2024 (23:30 -0500)" := by
    rw [write, segments]
    decide +kernel
  rw [← written, parsed, Option.some.injEq, eq_comm, only, segments]
  exact ⟨rfl, by decide +kernel⟩

end Layout

end PageWatch.Calendar
