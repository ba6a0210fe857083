import PageWatch.Calendar.Timestamp

/-!
# Days in a row

The number of a day tells it from all other days, and the next day has the next
number. So a moment is known by its distance from the first day, which is what
taking an offset off changes.
-/

set_option autoImplicit false

namespace PageWatch.Calendar

theorem isLeap_iff {year : Int} :
    isLeap year = true ↔ year % 4 = 0 ∧ (year % 100 ≠ 0 ∨ year % 400 = 0) := by
  simp [isLeap]

theorem isDate_iff {year : Int} {month day : Nat} :
    isDate year month day = true ↔
      (-262143 ≤ year ∧ year ≤ 262142) ∧ (1 ≤ month ∧ month ≤ 12) ∧
        1 ≤ day ∧ day ≤ daysInMonth year month := by
  simp [isDate, and_assoc]

theorem daysInMonth_cases (year : Int) (month : Nat) :
    (month = 2 ∧ isLeap year = true ∧ daysInMonth year month = 29) ∨
      (month = 2 ∧ isLeap year = false ∧ daysInMonth year month = 28) ∨
      ((month = 4 ∨ month = 6 ∨ month = 9 ∨ month = 11) ∧ daysInMonth year month = 30) ∨
      ((month ≠ 2 ∧ month ≠ 4 ∧ month ≠ 6 ∧ month ≠ 9 ∧ month ≠ 11) ∧
        daysInMonth year month = 31) := by
  unfold daysInMonth
  cases isLeap year <;> grind

/-- The number of the first of March of a year. -/
def daysBefore (year : Int) : Int := 365 * year + year / 4 - year / 100 + year / 400

theorem daysBefore_succ (year : Int) :
    daysBefore (year + 1) = daysBefore year + 365 + if isLeap (year + 1) then 1 else 0 := by
  unfold daysBefore
  split
  · rename_i leap
    rw [isLeap_iff] at leap
    omega
  · rename_i common
    rw [isLeap_iff] at common
    omega

theorem daysBefore_mono {year later : Int} (h : year ≤ later) :
    daysBefore year ≤ daysBefore later := by
  unfold daysBefore
  omega

namespace Date

variable {d e : Date}

def marchYear (d : Date) : Int := if d.month ≤ 2 then d.year - 1 else d.year

def marchMonth (d : Date) : Int := if d.month ≤ 2 then d.month + 9 else d.month - 3

theorem number_eq (d : Date) :
    d.number = daysBefore d.marchYear + (153 * d.marchMonth + 2) / 5 + d.day - 1 := rfl

theorem day_bounds (d : Date) :
    1 ≤ d.day ∧ (153 * d.marchMonth + 2) / 5 + d.day ≤ (153 * (d.marchMonth + 1) + 2) / 5 := by
  obtain ⟨-, month, day⟩ := isDate_iff.mp d.exists_day
  have length := daysInMonth_cases d.year d.month
  unfold marchMonth
  grind

theorem number_bounds (d : Date) :
    daysBefore d.marchYear ≤ d.number ∧ d.number < daysBefore (d.marchYear + 1) := by
  obtain ⟨-, month, day⟩ := isDate_iff.mp d.exists_day
  have year := daysBefore_succ d.marchYear
  have length := daysInMonth_cases d.year d.month
  rw [number_eq]
  unfold marchYear marchMonth at *
  constructor <;> grind

theorem marchYear_le_of_number_le (h : d.number ≤ e.number) : d.marchYear ≤ e.marchYear := by
  refine Int.not_lt.mp fun less => ?_
  have first := d.number_bounds.1
  have last := e.number_bounds.2
  have years : daysBefore (e.marchYear + 1) ≤ daysBefore d.marchYear :=
    daysBefore_mono (by omega)
  omega

theorem eq_of_march (year : d.marchYear = e.marchYear) (month : d.marchMonth = e.marchMonth)
    (day : d.day = e.day) : d = e := by
  obtain ⟨-, monthD, -⟩ := isDate_iff.mp d.exists_day
  obtain ⟨-, monthE, -⟩ := isDate_iff.mp e.exists_day
  obtain ⟨y, m, n, _⟩ := d
  obtain ⟨y', m', n', _⟩ := e
  simp only [marchYear, marchMonth] at year month
  obtain rfl : n = n' := day
  obtain rfl : m = m' := by grind
  obtain rfl : y = y' := by grind
  rfl

/-- No two days have the same number. -/
theorem eq_of_number (h : d.number = e.number) : d = e := by
  have year : d.marchYear = e.marchYear :=
    Int.le_antisymm (marchYear_le_of_number_le (Int.le_of_eq h))
      (marchYear_le_of_number_le (Int.le_of_eq h.symm))
  have dayD := d.day_bounds
  have dayE := e.day_bounds
  rw [number_eq, number_eq, year] at h
  have month : d.marchMonth = e.marchMonth := by omega
  rw [month] at h
  exact eq_of_march year month (by omega)

theorem ofYmd?_eq_some {year : Int} {month day : Nat} :
    ofYmd? year month day = some d ↔ d.year = year ∧ d.month = month ∧ d.day = day := by
  obtain ⟨y, m, n, exists_day⟩ := d
  unfold ofYmd?
  split
  · simp [eq_comm]
  · rename_i none
    simp only [reduceCtorEq, false_iff]
    rintro ⟨rfl, rfl, rfl⟩
    exact none exists_day

theorem isSome_ofYmd? {year : Int} {month day : Nat} (h : isDate year month day = true) :
    (ofYmd? year month day).isSome := by
  rw [ofYmd?, dif_pos h]
  rfl

theorem number_next (h : d.next? = some e) : e.number = d.number + 1 := by
  obtain ⟨-, month, day⟩ := isDate_iff.mp d.exists_day
  have length := daysInMonth_cases d.year d.month
  have year := daysBefore_succ (d.year - 1)
  rw [Int.sub_add_cancel] at year
  rw [number_eq, number_eq]
  unfold next? at h
  split at h
  · obtain ⟨year', month', day'⟩ := ofYmd?_eq_some.mp h
    simp only [marchYear, marchMonth, year', month', day']
    omega
  · split at h
    all_goals
      obtain ⟨year', month', day'⟩ := ofYmd?_eq_some.mp h
      simp only [marchYear, marchMonth, year', month', day']
      grind

theorem number_previous (h : d.previous? = some e) : e.number = d.number - 1 := by
  obtain ⟨-, month, day⟩ := isDate_iff.mp d.exists_day
  have length := daysInMonth_cases d.year (d.month - 1)
  have year := daysBefore_succ (d.year - 1)
  rw [Int.sub_add_cancel] at year
  rw [number_eq, number_eq]
  unfold previous? at h
  split at h
  · obtain ⟨year', month', day'⟩ := ofYmd?_eq_some.mp h
    simp only [marchYear, marchMonth, year', month', day']
    omega
  · split at h
    all_goals
      obtain ⟨year', month', day'⟩ := ofYmd?_eq_some.mp h
      simp only [marchYear, marchMonth, year', month', day']
      grind

theorem one_le_daysInMonth (year : Int) (month : Nat) : 1 ≤ daysInMonth year month := by
  have length := daysInMonth_cases year month
  omega

theorem isSome_next? (h : d.year < 262142) : d.next?.isSome := by
  obtain ⟨year, month, day⟩ := isDate_iff.mp d.exists_day
  unfold next?
  split
  · exact isSome_ofYmd? (isDate_iff.mpr ⟨year, month, by omega⟩)
  · split
    · have first := one_le_daysInMonth d.year (d.month + 1)
      exact isSome_ofYmd? (isDate_iff.mpr ⟨year, by omega, by omega⟩)
    · have first := one_le_daysInMonth (d.year + 1) 1
      exact isSome_ofYmd? (isDate_iff.mpr ⟨by omega, by omega, by omega⟩)

theorem isSome_previous? (h : -262143 < d.year) : d.previous?.isSome := by
  obtain ⟨year, month, day⟩ := isDate_iff.mp d.exists_day
  unfold previous?
  split
  · exact isSome_ofYmd? (isDate_iff.mpr ⟨year, month, by omega⟩)
  · split
    · have last := one_le_daysInMonth d.year (d.month - 1)
      exact isSome_ofYmd? (isDate_iff.mpr ⟨year, by omega, by omega⟩)
    · have december : daysInMonth (d.year - 1) 12 = 31 := rfl
      exact isSome_ofYmd? (isDate_iff.mpr ⟨by omega, by omega, by omega⟩)

end Date

namespace Timestamp

variable {t u : Timestamp}

/-- The seconds since the beginning of day 0. -/
def instant (t : Timestamp) : Int := t.date.number * 86400 + t.second

theorem eq_of_instant (instant : t.instant = u.instant) (nano : t.nano = u.nano) : t = u := by
  have boundT := t.second_lt
  have boundU := u.second_lt
  obtain ⟨d, s, n, _, _⟩ := t
  obtain ⟨e, s', n', _, _⟩ := u
  simp only [Timestamp.instant] at instant boundT boundU
  obtain rfl : n = n' := nano
  obtain rfl : d = e := Date.eq_of_number (by omega)
  obtain rfl : s = s' := by omega
  rfl

theorem exists_minusSeconds {offset : Int}
    (years : -262143 < t.date.year ∧ t.date.year < 262142) (less : offset.natAbs < 86400) :
    ∃ u, t.minusSeconds? offset = some u ∧ u.nano = t.nano ∧ u.instant = t.instant - offset := by
  have bound := t.second_lt
  unfold minusSeconds?
  by_cases early : (t.second : Int) - offset < 0
  · obtain ⟨d, before⟩ := Option.isSome_iff_exists.mp (Date.isSome_previous? years.1)
    have number := Date.number_previous before
    simp only [if_pos early, before, Option.map_some]
    refine ⟨_, rfl, rfl, ?_⟩
    simp only [instant, number]
    omega
  · by_cases late : 86400 ≤ (t.second : Int) - offset
    · obtain ⟨d, after⟩ := Option.isSome_iff_exists.mp (Date.isSome_next? years.2)
      have number := Date.number_next after
      simp only [if_neg early, if_pos late, after, Option.map_some]
      refine ⟨_, rfl, rfl, ?_⟩
      simp only [instant, number]
      omega
    · simp only [if_neg early, if_neg late, Option.map_some]
      refine ⟨_, rfl, rfl, ?_⟩
      simp only [instant]
      omega

end Timestamp

end PageWatch.Calendar
