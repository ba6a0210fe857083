import Mathlib.Data.List.DropRight
import PageWatch.Calendar.Reading
import PageWatch.Proofs.Calendar.Days
import PageWatch.Proofs.Text.Digits

/-!
# Fields that are read as they were written

A local time is a day, a time of the clock and how far the clock is ahead. Each field
of it is written in its full width, so that reading it ends where it ends, whatever
follows. What was read so far is told by the fields that were read.
-/

set_option autoImplicit false

namespace PageWatch.Calendar

open Text

def Visible (cs : List Char) : Prop := cs.head?.any (!isBlank ·) = true

theorem Visible.trimStart {cs : List Char} (visible : Visible cs) (rest : List Char) :
    Text.trimStart (cs ++ rest) = cs ++ rest := by
  cases cs with
  | nil => cases visible
  | cons c cs => exact trimStart_of_not_blank (by simpa [Visible] using visible) _

section Numbers

variable {width n : Nat} (rest : List Char)

theorem padded_starts (width n : Nat) :
    ∃ c cs, padded width n = c :: cs ∧ isDigit c = true := by
  have nonempty : padded width n ≠ [] := List.append_ne_nil_of_right_ne_nil _ Nat.toDigits_ne_nil
  obtain ⟨c, cs, starts⟩ := List.exists_cons_of_ne_nil nonempty
  exact ⟨c, cs, starts, isDigit_of_mem_padded (starts ▸ List.mem_cons_self)⟩

theorem visible_padded (width n : Nat) : Visible (padded width n) := by
  obtain ⟨c, cs, starts, digit⟩ := padded_starts width n
  simp [Visible, starts, not_blank_of_digit digit]

theorem readDigits_padded (positive : 0 < width) (h : n < Nat.pow 10 width) :
    readDigits width (padded width n ++ rest) = some (n, rest) := by
  obtain ⟨c, cs, starts, -⟩ := padded_starts width n
  have length := length_padded positive h
  have front : (padded width n ++ rest).take width = padded width n := List.take_left' length
  have digits : (padded width n).takeWhile isDigit = padded width n :=
    List.takeWhile_eq_self_iff.mpr fun c mem => isDigit_of_mem_padded mem
  have nonempty : (padded width n).isEmpty = false := by
    rw [starts]
    rfl
  simp only [readDigits, front, digits, nonempty, decimalNumber_padded, List.drop_left]
  rfl

theorem readTwo_padded {low high : Nat} (bounds : low ≤ n ∧ n ≤ high) (two : high < 100) :
    readNumber 2 low high (padded 2 n ++ rest) = some (n, rest) := by
  have digits := readDigits_padded rest (by decide : 0 < 2) (by omega : n < 100)
  simp [readNumber, (visible_padded 2 n).trimStart, digits, guardRange, bounds]

theorem readYear_padded (h : n < 10000) :
    readYear (padded 4 n ++ rest) = some ((n : Int), rest) := by
  obtain ⟨c, cs, starts, digit⟩ := padded_starts 4 n
  have number := readDigits_padded rest (by decide : 0 < 4) h
  have unsigned : c ≠ '-' ∧ c ≠ '+' := by
    constructor <;> (rintro rfl; revert digit; decide)
  unfold readYear
  rw [(visible_padded 4 n).trimStart]
  rw [starts] at number ⊢
  split
  · rename_i sign
    exact absurd (List.cons.inj sign).1 unsigned.1
  · rename_i sign
    exact absurd (List.cons.inj sign).1 unsigned.2
  · rw [number]
    rfl

theorem twoDigits?_padded (h : n < 100) : twoDigits? (padded 2 n ++ rest) = some n := by
  have number := decimalNumber_padded 2 n
  obtain ⟨a, b, two⟩ := List.length_eq_two.mp (length_padded (by decide : 0 < 2) h)
  have digits : ∀ c ∈ padded 2 n, isDigit c = true := fun c mem => isDigit_of_mem_padded mem
  rw [two] at number digits ⊢
  rw [← number]
  simp [twoDigits?, digits a, digits b, decimalNumber]

end Numbers

def monthTexts : List (List Char) :=
  ["January", "February", "March", "April", "May", "June", "July", "August", "September",
   "October", "November", "December"].map String.toList

def monthText (month : Nat) : List Char := monthTexts.getD (month - 1) []

section Months

variable {month : Nat} (rest : List Char)

theorem monthTexts_known : ∀ i < 12, ((monthTexts.getD i []).take 3).length = 3 ∧
    monthNames.findIdx? (·.take 3 == ((monthTexts.getD i []).take 3).map lower) = some i ∧
    (monthNames.getD i []).drop 3 = ((monthTexts.getD i []).drop 3).map lower := by
  decide +kernel

theorem visible_monthTexts : ∀ i < 12, (monthTexts.getD i []).head?.any (!isBlank ·) = true := by
  decide +kernel

theorem visible_monthText (h : 1 ≤ month ∧ month ≤ 12) : Visible (monthText month) :=
  visible_monthTexts (month - 1) (by omega)

theorem readShort_monthText (h : 1 ≤ month ∧ month ≤ 12) :
    readShort monthNames ((monthText month).take 3 ++ rest) = some (month - 1, rest) := by
  obtain ⟨length, found, -⟩ := monthTexts_known (month - 1) (by omega)
  have front : ((monthText month).take 3 ++ rest).take 3 = (monthText month).take 3 :=
    List.take_left' length
  have behind : ((monthText month).take 3 ++ rest).drop 3 = rest := List.drop_left' length
  rw [readShort, front, behind, monthText, found]
  rfl

theorem readLong_monthText (h : 1 ≤ month ∧ month ≤ 12) :
    readLong monthNames (monthText month ++ rest) = some (month - 1, rest) := by
  obtain ⟨-, -, tail⟩ := monthTexts_known (month - 1) (by omega)
  have short := readShort_monthText ((monthText month).drop 3 ++ rest) h
  rw [← List.append_assoc, List.take_append_drop] at short
  have taken : ((monthText month).drop 3 ++ rest).take ((monthNames.getD (month - 1) []).drop 3).length =
      (monthText month).drop 3 := by
    rw [tail, List.length_map]
    exact List.take_left
  simp only [readLong, short, Option.map_some, taken]
  rw [tail, if_pos (by simp [monthText]), List.length_map]
  exact congrArg (fun cs => some (month - 1, cs)) List.drop_left

end Months

def offsetText (between : List Char) (ahead : Int) : List Char :=
  (if ahead < 0 then '-' else '+') :: padded 2 (ahead.natAbs / 60) ++ between ++
    padded 2 (ahead.natAbs % 60)

theorem offsetText_starts (between : List Char) (ahead : Int) :
    ∃ sign cs, offsetText between ahead = sign :: cs ∧ (sign = '-' ∨ sign = '+') := by
  refine ⟨_, _, rfl, ?_⟩
  split <;> simp

theorem visible_offsetText (between : List Char) (ahead : Int) :
    Visible (offsetText between ahead) := by
  obtain ⟨sign, cs, starts, which⟩ := offsetText_starts between ahead
  rcases which with rfl | rfl <;> simp [Visible, starts] <;> decide

theorem readOffset_offsetText {between : List Char} {ahead : Int}
    (colons : ∀ c ∈ between, c = ':') (h : ahead.natAbs < 1440) (minutesOptional : Bool)
    (rest : List Char) :
    readOffset minutesOptional (offsetText between ahead ++ rest) = some (60 * ahead, rest) := by
  have hours := twoDigits?_padded (between ++ (padded 2 (ahead.natAbs % 60) ++ rest))
    (by omega : ahead.natAbs / 60 < 100)
  have minutes := twoDigits?_padded rest (by omega : ahead.natAbs % 60 < 100)
  have afterHours : (padded 2 (ahead.natAbs / 60) ++
      (between ++ (padded 2 (ahead.natAbs % 60) ++ rest))).drop 2 =
        between ++ (padded 2 (ahead.natAbs % 60) ++ rest) :=
    List.drop_left' (length_padded (by decide) (by omega : ahead.natAbs / 60 < 100))
  have afterMinutes : (padded 2 (ahead.natAbs % 60) ++ rest).drop 2 = rest :=
    List.drop_left' (length_padded (by decide) (by omega : ahead.natAbs % 60 < 100))
  obtain ⟨c, cs, starts, digit⟩ := padded_starts 2 (ahead.natAbs % 60)
  have skipped : (between ++ (padded 2 (ahead.natAbs % 60) ++ rest)).dropWhile
      (fun c => c == ':' || isBlank c) = padded 2 (ahead.natAbs % 60) ++ rest := by
    have stop : c ≠ ':' := by
      rintro rfl
      revert digit
      decide
    rw [List.dropWhile_append_of_pos fun c mem => by simp [colons c mem], starts, List.cons_append,
      List.dropWhile_cons_of_neg (by simp [stop, not_blank_of_digit digit])]
  have nonempty : (padded 2 (ahead.natAbs % 60) ++ rest).isEmpty = false := by
    rw [starts]
    rfl
  have range : guardRange 0 59 (ahead.natAbs % 60) = some () := if_pos (by omega)
  unfold readOffset offsetText
  by_cases behind : ahead < 0
  · simp only [if_pos behind, List.cons_append, List.append_assoc, Option.bind_eq_bind,
      Option.bind_some, hours, afterHours, skipped, nonempty, minutes, range, afterMinutes,
      Bool.false_and, Bool.false_eq_true, if_false, if_true]
    refine congrArg (fun seconds => some (seconds, rest)) ?_
    omega
  · simp only [if_neg behind, List.cons_append, List.append_assoc, Option.bind_eq_bind,
      Option.bind_some, hours, afterHours, skipped, nonempty, minutes, range, afterMinutes,
      Bool.false_and, Bool.false_eq_true, if_false]
    refine congrArg (fun seconds => some (seconds, rest)) ?_
    omega

theorem readOffsetOrZ_offsetText {ahead : Int} (h : ahead.natAbs < 1440) (rest : List Char) :
    readOffsetOrZ (offsetText [':'] ahead ++ rest) = some (60 * ahead, rest) := by
  have read := readOffset_offsetText (List.forall_mem_singleton.mpr rfl) h true rest
  obtain ⟨sign, cs, starts, which⟩ := offsetText_starts [':'] ahead
  unfold readOffsetOrZ
  rw [(visible_offsetText [':'] ahead).trimStart]
  rw [starts] at read ⊢
  rcases which with rfl | rfl <;> exact read

/-- A day of a year with four digits, a time of the clock, and by how many minutes the clock is
ahead of universal time. -/
structure LocalTime where
  date : Date
  hour : Nat
  minute : Nat
  second : Nat
  ahead : Int
  year_bounds : 0 ≤ date.year ∧ date.year ≤ 9999 := by decide
  hour_lt : hour < 24 := by decide
  minute_lt : minute < 60 := by decide
  second_lt : second < 60 := by decide
  ahead_lt : ahead.natAbs < 24 * 60 := by decide

def Specifier.legible : List Specifier :=
  [.year, .month, .monthShort, .monthName, .day, .dayOrBlank, .hour, .minute, .second, .offset,
   .offsetColon, .offsetOrZ]

namespace LocalTime

variable (t : LocalTime) (shown : List Specifier)

def write : Specifier → List Char
  | .year => padded 4 t.date.year.toNat
  | .month => padded 2 t.date.month
  | .monthShort => (monthText t.date.month).take 3
  | .monthName => monthText t.date.month
  | .day | .dayOrBlank => padded 2 t.date.day
  | .hour => padded 2 t.hour
  | .minute => padded 2 t.minute
  | .second => padded 2 t.second
  | .offset => offsetText [] t.ahead
  | .offsetColon => offsetText [':'] t.ahead
  | .offsetOrZ => if t.ahead = 0 then ['Z'] else offsetText [':'] t.ahead
  | _ => []

def fields : Fields where
  year := if .year ∈ shown then some t.date.year else none
  month :=
    if .month ∈ shown ∨ .monthShort ∈ shown ∨ .monthName ∈ shown then some t.date.month else none
  day := if .day ∈ shown ∨ .dayOrBlank ∈ shown then some t.date.day else none
  afternoon := if .hour ∈ shown then some (decide (12 ≤ t.hour)) else none
  hour12 := if .hour ∈ shown then some (t.hour % 12) else none
  minute := if .minute ∈ shown then some t.minute else none
  second := if .second ∈ shown then some t.second else none
  offset :=
    if .offset ∈ shown ∨ .offsetColon ∈ shown ∨ .offsetOrZ ∈ shown then some (60 * t.ahead)
    else none

theorem agree_shown {α : Type} [DecidableEq α] (p : Prop) [Decidable p] (value : α) :
    agree (if p then some value else none) value = some (some value) := by
  unfold agree
  split_ifs <;> simp

theorem readField_write {s : Specifier} (legible : s ∈ Specifier.legible) (rest : List Char) :
    readField (t.fields shown) (t.write s ++ rest) s = some (t.fields (s :: shown), rest) := by
  obtain ⟨-, month, day⟩ := isDate_iff.mp t.date.exists_day
  have year := t.year_bounds
  have days : t.date.day ≤ 31 := by
    have := daysInMonth_cases t.date.year t.date.month
    omega
  have hour := t.hour_lt
  have minute := t.minute_lt
  have second := t.second_lt
  cases s with
  | year =>
    have read : readYear (padded 4 t.date.year.toNat ++ rest) = some (t.date.year, rest) := by
      rw [readYear_padded rest (by omega), Int.toNat_of_nonneg year.1]
    simp [readField, write, read, fields, agree_shown]
  | month =>
    have read := readTwo_padded rest month (by decide)
    simp [readField, write, read, fields, agree_shown]
  | monthShort =>
    have read := readShort_monthText rest month
    simp [readField, write, read, fields, agree_shown, Nat.sub_add_cancel month.1]
  | monthName =>
    have read := readLong_monthText rest month
    simp [readField, write, read, fields, agree_shown, Nat.sub_add_cancel month.1]
  | day =>
    have read := readTwo_padded rest
      (⟨day.1, days⟩ : 1 ≤ t.date.day ∧ t.date.day ≤ 31) (by decide)
    simp [readField, write, read, fields, agree_shown]
  | dayOrBlank =>
    have read := readTwo_padded rest
      (⟨day.1, days⟩ : 1 ≤ t.date.day ∧ t.date.day ≤ 31) (by decide)
    simp [readField, write, read, fields, agree_shown]
  | hour =>
    have read := readTwo_padded rest
      (⟨Nat.zero_le _, by omega⟩ : 0 ≤ t.hour ∧ t.hour ≤ 23) (by decide)
    simp [readField, write, read, fields, agree_shown, Fields.setHour, Fields.setHour12]
  | minute =>
    have read := readTwo_padded rest
      (⟨Nat.zero_le _, by omega⟩ : 0 ≤ t.minute ∧ t.minute ≤ 59) (by decide)
    simp [readField, write, read, fields, agree_shown]
  | second =>
    have read := readTwo_padded rest
      (⟨Nat.zero_le _, by omega⟩ : 0 ≤ t.second ∧ t.second ≤ 60) (by decide)
    simp [readField, write, read, fields, agree_shown]
  | offset =>
    have read := readOffset_offsetText (List.forall_mem_nil _) t.ahead_lt false rest
    simp [readField, write, (visible_offsetText _ _).trimStart, read, fields, agree_shown]
  | offsetColon =>
    have read := readOffset_offsetText (List.forall_mem_singleton.mpr rfl) t.ahead_lt false rest
    simp [readField, write, (visible_offsetText _ _).trimStart, read, fields, agree_shown]
  | offsetOrZ =>
    have read : readOffsetOrZ (t.write .offsetOrZ ++ rest) = some (60 * t.ahead, rest) := by
      by_cases zero : t.ahead = 0
      · rw [write, if_pos zero, zero]
        rfl
      · rw [write, if_neg zero]
        exact readOffsetOrZ_offsetText t.ahead_lt rest
    simp [readField, read, fields, agree_shown]
  | _ => exact absurd legible (by decide)

theorem visible_write {s : Specifier} (legible : s ∈ Specifier.legible) : Visible (t.write s) := by
  have month := (isDate_iff.mp t.date.exists_day).2.1
  cases s with
  | monthShort =>
    have visible := visible_monthText month
    rwa [Visible, write, List.head?_take, if_neg (by decide)]
  | monthName => exact visible_monthText month
  | offset => exact visible_offsetText [] t.ahead
  | offsetColon => exact visible_offsetText [':'] t.ahead
  | offsetOrZ =>
    by_cases zero : t.ahead = 0
    · rw [write, if_pos zero]
      rfl
    · rw [write, if_neg zero]
      exact visible_offsetText [':'] t.ahead
  | year | month | day | dayOrBlank | hour | minute | second => exact visible_padded _ _
  | _ => exact absurd legible (by decide)

end LocalTime

end PageWatch.Calendar
