import PageWatch.Proofs.Calendar.Fronts

/-!
# Texts of the reference moment

Where a front is known with which the rest of a text may begin, a text can be put
together from its end: each field is written at the reference moment, in front of a
rest that fits. What is known once it was read determines a moment, if the fields do.
-/

set_option autoImplicit false

namespace PageWatch.Calendar

open Text

/-- Monday, January 2, 2006, at 15:04:05 by universal time. -/
def reference : Fields where
  year := some 2006
  yearOfCentury := some 6
  month := some 1
  day := some 2
  weekday := some 0
  afternoon := some true
  hour12 := some 3
  minute := some 4
  second := some 5
  nano := some 0
  offset := some 0

namespace Specifier

def fractions : List Specifier := [.fraction, .fraction3, .fraction6, .fraction9]

def names : List Specifier := [.monthName, .monthShort, .weekdayName, .weekdayShort, .meridiem]

def sample : Specifier → List Char
  | .monthName => "January".toList
  | .monthShort => "Jan".toList
  | .weekdayName => "Monday".toList
  | .weekdayShort => "Mon".toList
  | .zoneName => "UTC".toList
  | .year => "2006".toList
  | .yearOfCentury => "06".toList
  | .month => "01".toList
  | .day | .dayOrBlank => "02".toList
  | .hour => "15".toList
  | .hour12 => "03".toList
  | .minute => "04".toList
  | .second => "05".toList
  | .meridiem => "PM".toList
  | .offset => "+0000".toList
  | .offsetColon => "+00:00".toList
  | .offsetOrZ => "Z".toList
  | .fraction | .fraction9 => ".000000000".toList
  | .fraction6 => ".000000".toList
  | .fraction3 => ".000".toList

end Specifier

section Samples

variable {s : Specifier} (shown : List Specifier) (rest : List Char)

theorem readField_sample (solid : s ∉ Specifier.fractions) (unzoned : s ≠ .zoneName) :
    readField (reference.only shown) (s.sample ++ rest) s =
      some (reference.only (s :: shown), rest) := by
  cases s with
  | fraction | fraction3 | fraction6 | fraction9 => exact absurd (by decide) solid
  | zoneName => exact absurd rfl unzoned
  | monthName =>
    have read : readLong monthNames (Specifier.sample .monthName ++ rest) = some (0, rest) := rfl
    simp [readField, read, Fields.only, reference, LocalTime.agree_shown]
  | monthShort =>
    have read : readShort monthNames (Specifier.sample .monthShort ++ rest) = some (0, rest) := rfl
    simp [readField, read, Fields.only, reference, LocalTime.agree_shown]
  | weekdayName =>
    have read : readLong weekdayNames (Specifier.sample .weekdayName ++ rest) = some (0, rest) :=
      rfl
    simp [readField, read, Fields.only, reference, LocalTime.agree_shown]
  | weekdayShort =>
    have read : readShort weekdayNames (Specifier.sample .weekdayShort ++ rest) = some (0, rest) :=
      rfl
    simp [readField, read, Fields.only, reference, LocalTime.agree_shown]
  | year =>
    have read : readYear (Specifier.sample .year ++ rest) = some (2006, rest) := rfl
    simp [readField, read, Fields.only, reference, LocalTime.agree_shown]
  | yearOfCentury =>
    have read : readNumber 2 0 99 (Specifier.sample .yearOfCentury ++ rest) = some (6, rest) := rfl
    simp [readField, read, Fields.only, reference, LocalTime.agree_shown]
  | month =>
    have read : readNumber 2 1 12 (Specifier.sample .month ++ rest) = some (1, rest) := rfl
    simp [readField, read, Fields.only, reference, LocalTime.agree_shown]
  | day =>
    have read : readNumber 2 1 31 (Specifier.sample .day ++ rest) = some (2, rest) := rfl
    simp [readField, read, Fields.only, reference, LocalTime.agree_shown]
  | dayOrBlank =>
    have read : readNumber 2 1 31 (Specifier.sample .dayOrBlank ++ rest) = some (2, rest) := rfl
    simp [readField, read, Fields.only, reference, LocalTime.agree_shown]
  | hour =>
    have read : readNumber 2 0 23 (Specifier.sample .hour ++ rest) = some (15, rest) := rfl
    simp [readField, read, Fields.only, reference, LocalTime.agree_shown, Fields.setHour,
      Fields.setHour12]
  | hour12 =>
    have read : readNumber 2 1 12 (Specifier.sample .hour12 ++ rest) = some (3, rest) := rfl
    simp [readField, read, Fields.only, reference, LocalTime.agree_shown, Fields.setHour12]
  | minute =>
    have read : readNumber 2 0 59 (Specifier.sample .minute ++ rest) = some (4, rest) := rfl
    simp [readField, read, Fields.only, reference, LocalTime.agree_shown]
  | second =>
    have read : readNumber 2 0 60 (Specifier.sample .second ++ rest) = some (5, rest) := rfl
    simp [readField, read, Fields.only, reference, LocalTime.agree_shown]
  | meridiem =>
    have read : readMeridiem (Specifier.sample .meridiem ++ rest) = some (true, rest) := rfl
    simp [readField, read, Fields.only, reference, LocalTime.agree_shown]
  | offset =>
    have read : readOffset false (trimStart (Specifier.sample .offset ++ rest)) = some (0, rest) :=
      rfl
    simp [readField, read, Fields.only, reference, LocalTime.agree_shown]
  | offsetColon =>
    have read : readOffset false (trimStart (Specifier.sample .offsetColon ++ rest)) =
        some (0, rest) := rfl
    simp [readField, read, Fields.only, reference, LocalTime.agree_shown]
  | offsetOrZ =>
    have read : readOffsetOrZ (Specifier.sample .offsetOrZ ++ rest) = some (0, rest) := rfl
    simp [readField, read, Fields.only, reference, LocalTime.agree_shown]

theorem readField_blank (f : Fields) (solid : s ∉ Specifier.fractions) (unzoned : s ≠ .zoneName)
    (unnamed : s ∉ Specifier.names) (cs : List Char) :
    readField f (' ' :: cs) s = readField f cs s := by
  cases s with
  | fraction | fraction3 | fraction6 | fraction9 => exact absurd (by decide) solid
  | zoneName => exact absurd rfl unzoned
  | monthName | monthShort | weekdayName | weekdayShort | meridiem =>
    exact absurd (by decide) unnamed
  | _ => rfl

variable {rest}

theorem readFixedFraction_zeros {width : Nat} {zeros : List Char} (length : zeros.length = width)
    (digits : readDigits width (zeros ++ rest) = some (0, rest)) :
    readFixedFraction width (zeros ++ rest) = some (0, rest) := by
  simp [readFixedFraction, digits, length]

theorem only_fraction (fraction : s ∈ Specifier.fractions) :
    { reference.only shown with nano := some 0 } = reference.only (s :: shown) := by
  cases s with
  | fraction | fraction3 | fraction6 | fraction9 => simp [Fields.only, reference]
  | _ => exact absurd fraction (by decide)

theorem setNano_zero (fraction : s ∈ Specifier.fractions) :
    (reference.only shown).setNano 0 = some (reference.only (s :: shown)) :=
  Fields.setNano_eq_some.mpr
    ⟨(ite_eq_or_eq _ _ _).symm, (only_fraction shown fraction).symm⟩

theorem readOptionalFraction_zeros {read : List Char → Option (Nat × List Char)}
    {zeros : List Char} (fraction : s ∈ Specifier.fractions)
    (taken : read (zeros ++ rest) = some (0, rest)) :
    readOptionalFraction read (reference.only shown) ('.' :: zeros ++ rest) =
      some (reference.only (s :: shown), rest) := by
  simp only [readOptionalFraction, List.cons_append, taken, Option.bind_eq_bind, Option.bind_some,
    setNano_zero shown fraction, Option.pure_def]

theorem readField_fraction (fraction : s ∈ Specifier.fractions)
    (ends : ∀ c ∈ rest.head?, isDigit c = false) :
    readField (reference.only shown) (s.sample ++ rest) s =
      some (reference.only (s :: shown), rest) := by
  cases s with
  | fraction =>
    have stop : rest.dropWhile isDigit = rest := by
      cases rest with
      | nil => rfl
      | cons c cs => exact List.dropWhile_cons_of_neg (by simp [ends c rfl])
    have digits : readDigits 9 ("000000000".toList ++ rest) = some (0, rest) := rfl
    have taken : readFraction ("000000000".toList ++ rest) = some (0, rest) := by
      simp only [readFraction, digits, Option.map_some, Nat.zero_mul, stop]
    exact readOptionalFraction_zeros shown fraction taken
  | fraction3 =>
    have taken : readFixedFraction 3 ("000".toList ++ rest) = some (0, rest) :=
      readFixedFraction_zeros rfl rfl
    exact readOptionalFraction_zeros shown fraction taken
  | fraction6 =>
    have taken : readFixedFraction 6 ("000000".toList ++ rest) = some (0, rest) :=
      readFixedFraction_zeros rfl rfl
    exact readOptionalFraction_zeros shown fraction taken
  | fraction9 =>
    have taken : readFixedFraction 9 ("000000000".toList ++ rest) = some (0, rest) :=
      readFixedFraction_zeros rfl rfl
    exact readOptionalFraction_zeros shown fraction taken
  | _ => exact absurd fraction (by decide)

theorem readField_no_fraction (f : Fields) (fraction : s ∈ Specifier.fractions)
    (unpointed : rest.head? ≠ some '.') : readField f rest s = some (f, rest) := by
  have left (read : List Char → Option (Nat × List Char)) :
      readOptionalFraction read f rest = some (f, rest) := by
    cases rest with
    | nil => rfl
    | cons c cs =>
      have point : c ≠ '.' := fun same => unpointed (congrArg some same)
      unfold readOptionalFraction
      split
      · rename_i r same
        exact absurd (List.cons.inj same).1 point
      · rfl
  cases s with
  | fraction | fraction3 | fraction6 | fraction9 => exact left _
  | _ => exact absurd fraction (by decide)

theorem readField_zone (f : Fields) (fits : Front.blankOnly.Fits rest) :
    readField f rest .zoneName = some (f, rest) ∧
      readField f (Specifier.sample .zoneName ++ rest) .zoneName = some (f, rest) := by
  have stop : rest.dropWhile (!isBlank ·) = rest := by
    cases rest with
    | nil => rfl
    | cons c cs =>
      exact List.dropWhile_cons_of_neg (by simp [Front.blank_of_admits (Front.fits_cons.mp fits)])
  constructor
  · exact congrArg (fun left => some (f, left)) stop
  · exact congrArg (fun left => some (f, left)) stop

end Samples

/-- A text shows all fields of a layout but fractions, and those only beside seconds. -/
structure Shows (seconds : Bool) (fields shown : List Specifier) : Prop where
  solid : ∀ s ∈ fields, s ∉ Specifier.fractions → s ∈ shown
  timed : ∀ s ∈ shown, s ∈ Specifier.fractions → seconds = true

theorem shows_solid {s : Specifier} (seconds : Bool) (solid : s ∉ Specifier.fractions) :
    Shows seconds [s] [s] :=
  ⟨fun _ mem _ => mem, fun _ mem fraction => absurd (List.mem_singleton.mp mem ▸ fraction) solid⟩

theorem shows_fraction {s : Specifier} : Shows true [s] [s] :=
  ⟨fun _ mem _ => mem, fun _ _ _ => rfl⟩

theorem shows_no_fraction {s : Specifier} (seconds : Bool) (fraction : s ∈ Specifier.fractions) :
    Shows seconds [s] [] :=
  ⟨fun _ mem solid => absurd (List.mem_singleton.mp mem ▸ fraction) solid, nofun⟩

theorem Shows.append {seconds : Bool} {fields later shown more : List Specifier}
    (shows : Shows seconds fields shown) (shows' : Shows seconds later more) :
    Shows seconds (fields ++ later) (more ++ shown) where
  solid s mem solid := by
    rcases List.mem_append.mp mem with mem | mem
    · exact List.mem_append_right _ (shows.solid s mem solid)
    · exact List.mem_append_left _ (shows'.solid s mem solid)
  timed s mem fraction := by
    rcases List.mem_append.mp mem with mem | mem
    · exact shows'.timed s mem fraction
    · exact shows.timed s mem fraction

theorem Shows.offset {seconds : Bool} {fields shown : List Specifier}
    (shows : Shows seconds fields shown) (offset : ∃ s ∈ fields, s.part = .offset) :
    .offset ∈ shown ∨ .offsetColon ∈ shown ∨ .offsetOrZ ∈ shown := by
  obtain ⟨s, mem, part⟩ := offset
  cases s with
  | offset => exact .inl (shows.solid _ mem (by decide))
  | offsetColon => exact .inr (.inl (shows.solid _ mem (by decide)))
  | offsetOrZ => exact .inr (.inr (shows.solid _ mem (by decide)))
  | _ => cases part

theorem TellsDay.of_shows {seconds : Bool} {fields shown : List Specifier}
    (day : TellsDay fields) (shows : Shows seconds fields shown) : TellsDay shown where
  year := day.year.imp (shows.solid _ · (by decide)) (shows.solid _ · (by decide))
  month := day.month.imp (shows.solid _ · (by decide))
    (Or.imp (shows.solid _ · (by decide)) (shows.solid _ · (by decide)))
  day := day.day.imp (shows.solid _ · (by decide)) (shows.solid _ · (by decide))

theorem TellsTime.of_shows {seconds : Bool} {fields shown : List Specifier}
    (time : TellsTime fields) (shows : Shows seconds fields shown) : TellsTime shown where
  hour := time.hour.imp (shows.solid _ · (by decide))
    (And.imp (shows.solid _ · (by decide)) (shows.solid _ · (by decide)))
  minute := shows.solid _ time.minute (by decide)

namespace Front

def Writes (front : Front) (seconds : Bool) (fields : List Specifier)
    (read : Fields → List Char → Option (Fields × List Char)) (rest : List Char) : Prop :=
  ∃ cs more, front.Fits cs ∧ Shows seconds fields more ∧
    ∀ shown, read (reference.only shown) cs = some (reference.only (more ++ shown), rest)

variable {seconds : Bool} {front next : Front} {rest : List Char} {s : Specifier}

theorem fits_sample (solid : s ∉ Specifier.fractions) (other : front.other = true) :
    front.Fits (s.sample ++ rest) := by
  cases s with
  | fraction | fraction3 | fraction6 | fraction9 => exact absurd (by decide) solid
  | _ => exact fits_cons.mpr other

theorem fits_digit (other : front.other = true) (digit : rest.head?.any isDigit = true) :
    front.unpointed.Fits rest := by
  cases rest with
  | nil => exact fits_nil _
  | cons c cs =>
    have point : c ≠ '.' := by
      rintro rfl
      exact absurd (show isDigit '.' = true from digit) (by decide)
    rw [fits_cons, admits, not_blank_of_digit digit, if_neg Bool.false_ne_true, if_neg point]
    exact other

theorem writes_fraction (fraction : s ∈ Specifier.fractions)
    (fits : (if seconds && front.point then any else front.unpointed).Fits rest) :
    front.Writes seconds [s] (readField · · s) rest := by
  have skipped (fits : front.unpointed.Fits rest) :
      front.Writes seconds [s] (readField · · s) rest :=
    ⟨rest, [], fits_of_unpointed fits, shows_no_fraction seconds fraction,
      fun shown => readField_no_fraction _ fraction (unpointed_of_fits fits)⟩
  cases pointed : seconds && front.point with
  | false =>
    rw [pointed] at fits
    exact skipped fits
  | true =>
    obtain ⟨rfl, point⟩ := Bool.and_eq_true_iff.mp pointed
    by_cases endless : rest.head?.any isDigit = true
    · have other : front.other = true :=
        front.begins.resolve_right fun h => Bool.false_ne_true (h.2.symm.trans point)
      exact skipped (fits_digit other endless)
    · refine ⟨s.sample ++ rest, [s], ?_, shows_fraction, fun shown => ?_⟩
      · cases s with
        | fraction | fraction3 | fraction6 | fraction9 => exact fits_cons.mpr point
        | _ => exact absurd fraction (by decide)
      · refine readField_fraction shown fraction fun c first => ?_
        rw [Option.mem_def.mp first] at endless
        exact Bool.eq_false_iff.mpr endless

theorem writes_zone (fits : blankOnly.Fits rest) :
    front.Writes seconds [.zoneName] (readField · · .zoneName) rest := by
  have shows := shows_solid seconds (s := .zoneName) (by decide)
  have same (shown : List Specifier) : some (reference.only shown, rest) =
      some (reference.only ([.zoneName] ++ shown), rest) := by
    simp [Fields.only]
  rcases front.begins with other | ⟨blank, -⟩
  · exact ⟨Specifier.sample .zoneName ++ rest, _, fits_cons.mpr other, shows,
      fun shown => (readField_zone _ fits).2.trans (same shown)⟩
  · refine ⟨rest, _, fun c first => ?_, shows,
      fun shown => (readField_zone _ fits).1.trans (same shown)⟩
    rwa [admits, if_pos (blank_of_admits (fits c first))]

theorem other_of_name (named : s ∈ Specifier.names)
    (after : front.afterField seconds s = some next) : front.other = true := by
  cases s with
  | monthName | monthShort | weekdayName | weekdayShort | meridiem =>
    exact (Option.ite_none_right_eq_some.mp after).1
  | _ => exact absurd named (by decide)

/-- Before any rest that fits there is a text that passes a field. -/
theorem writes_field (after : front.afterField seconds s = some next) (fits : next.Fits rest) :
    front.Writes seconds [s] (readField · · s) rest := by
  by_cases fraction : s ∈ Specifier.fractions
  · refine writes_fraction fraction ?_
    cases s with
    | fraction | fraction3 | fraction6 | fraction9 =>
      obtain rfl := Option.some.inj after
      exact fits
    | _ => exact absurd fraction (by decide)
  · have shows := shows_solid seconds fraction
    by_cases zone : s = .zoneName
    · subst zone
      obtain rfl := Option.some.inj after
      exact writes_zone fits
    · by_cases other : front.other = true
      · exact ⟨s.sample ++ rest, [s], fits_sample fraction other, shows,
          fun shown => readField_sample shown rest fraction zone⟩
      · have unnamed : s ∉ Specifier.names := fun named => other (other_of_name named after)
        have blank : front.blank = true := (front.begins.resolve_left other).1
        refine ⟨' ' :: s.sample ++ rest, [s], fits_cons.mpr blank, shows, fun shown => ?_⟩
        exact (readField_blank _ fraction zone unnamed _).trans
          (readField_sample shown rest fraction zone)

theorem writes_segment {segment : Segment} (after : front.after seconds segment = some next)
    (fits : next.Fits rest) :
    front.Writes seconds segment.field?.toList (readItem · · segment.item) rest := by
  cases segment with
  | token r => exact writes_field after fits
  | literal c =>
    have nothing : Shows seconds [] [] := ⟨nofun, nofun⟩
    rw [Front.after] at after
    rw [Segment.item, plainItem]
    by_cases blank : isBlank c = true
    · rw [if_pos blank] at after ⊢
      obtain rfl := Option.some.inj after
      by_cases free : front.blank = true
      · rw [if_pos free] at fits
        have passed : trimStart (c :: rest) = rest :=
          (List.dropWhile_cons_of_pos blank).trans (trimStart_of_fits fits rfl)
        refine ⟨c :: rest, [], ?_, nothing, fun shown => ?_⟩
        · rwa [fits_cons, admits, if_pos blank]
        · exact congrArg (fun left => some (reference.only shown, left)) passed
      · rw [if_neg free] at fits
        have passed : trimStart rest = rest := trimStart_of_fits fits (Bool.eq_false_iff.mpr free)
        exact ⟨rest, [], fits, nothing,
          fun shown => congrArg (fun left => some (reference.only shown, left)) passed⟩
    · rw [if_neg blank] at after ⊢
      obtain ⟨admitted, -⟩ := Option.ite_none_right_eq_some.mp after
      exact ⟨c :: rest, [], fits_cons.mpr admitted, nothing, fun shown => if_pos rfl⟩

theorem writes_of_passes {segments : List Segment}
    (passes : front.passes seconds segments = true) :
    front.Writes seconds (Segment.fields segments) (readItems (segments.map Segment.item)) [] := by
  induction segments generalizing front with
  | nil => exact ⟨[], [], fits_nil front, ⟨nofun, nofun⟩, fun shown => rfl⟩
  | cons segment segments ih =>
    rw [Front.passes] at passes
    cases after : front.after seconds segment with
    | none =>
      rw [after] at passes
      cases passes
    | some next =>
      rw [after] at passes
      obtain ⟨rest, later, fits, shows, read⟩ := ih passes
      obtain ⟨cs, more, begins, shows', first⟩ := writes_segment after fits
      refine ⟨cs, later ++ more, begins, ?_, fun shown => ?_⟩
      · rw [Segment.fields_cons]
        exact shows'.append shows
      · have first : readItem (reference.only shown) cs segment.item = _ := first shown
        rw [List.map_cons, readItems, first, List.append_assoc]
        exact read (more ++ shown)

end Front

section Reference

def referenceDay : Date := ⟨2006, 1, 2, by decide⟩

variable {shown : List Specifier}

theorem date?_reference (day : TellsDay shown) :
    (reference.only shown).date? = some referenceDay := by
  have years : (reference.only shown).year? = some 2006 := by
    have told := day.year
    by_cases full : .year ∈ shown <;> by_cases short : .yearOfCentury ∈ shown <;>
      simp_all [Fields.year?, Fields.only, reference]
  have months : (reference.only shown).month = some 1 := if_pos day.month
  have days : (reference.only shown).day = some 2 := if_pos day.day
  have weekday : (reference.only shown).weekday.all (· == referenceDay.weekday) = true := by
    by_cases told : .weekdayShort ∈ shown ∨ .weekdayName ∈ shown
    · simp [Fields.only, told, reference]
      decide
    · simp [Fields.only, told]
  have made : Date.ofYmd? 2006 1 2 = some referenceDay := rfl
  simp [Fields.date?, years, months, days, made, weekday]

variable (day : TellsDay shown) (time : TellsTime shown)
  (timed : ∀ s ∈ shown, s ∈ Specifier.fractions → .second ∈ shown)

include day time timed

theorem timestamp?_reference :
    ∃ t, (reference.only shown).timestamp? = some t ∧ t.date = referenceDay := by
  have dated := date?_reference day
  have afternoon : (reference.only shown).afternoon = some true :=
    if_pos (time.hour.imp_right And.right)
  have hours : (reference.only shown).hour12 = some 3 :=
    if_pos (time.hour.imp_right And.left)
  have minutes : (reference.only shown).minute = some 4 := if_pos time.minute
  have nano : (reference.only shown).nano.getD 0 = 0 := by
    show (if _ then some 0 else none).getD 0 = 0
    split <;> rfl
  by_cases second : .second ∈ shown
  · have seconds : (reference.only shown).second = some 5 := if_pos second
    refine ⟨{ date := referenceDay, second := 54245, nano := 0 }, ?_, rfl⟩
    simp only [Fields.timestamp?, dated, afternoon, hours, minutes, seconds, nano,
      Option.bind_eq_bind, Option.bind_some, Option.isNone_some, Bool.false_and, Option.getD_some]
    rfl
  · have seconds : (reference.only shown).second = none := if_neg second
    have nano' : (reference.only shown).nano = none := by
      refine if_neg ?_
      rintro (h | h | h | h) <;> exact second (timed _ h (by decide))
    refine ⟨{ date := referenceDay, second := 54240, nano := 0 }, ?_, rfl⟩
    simp only [Fields.timestamp?, dated, afternoon, hours, minutes, seconds, nano',
      Option.bind_eq_bind, Option.bind_some]
    rfl

theorem universal?_reference
    (offset : .offset ∈ shown ∨ .offsetColon ∈ shown ∨ .offsetOrZ ∈ shown) :
    ∃ t, (reference.only shown).universal? = some t := by
  obtain ⟨t, read, same⟩ := timestamp?_reference day time timed
  have offsets : (reference.only shown).offset = some 0 := if_pos offset
  have years : -262143 < t.date.year ∧ t.date.year < 262142 := by
    rw [same]
    decide
  obtain ⟨u, taken, -⟩ := Timestamp.exists_minusSeconds years (by decide : (0 : Int).natAbs < 86400)
  refine ⟨u, ?_⟩
  simp only [Fields.universal?, read, offsets, Option.bind_eq_bind, Option.bind_some, taken]
  rfl

end Reference

end PageWatch.Calendar
