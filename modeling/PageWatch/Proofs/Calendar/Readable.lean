import PageWatch.Proofs.Calendar.Reference

/-!
# Layouts that can read something

Of the layouts that are accepted some can read no text at all: those without a field
that a moment needs, and those with a part that no text can go on with. Every other
layout reads some text in which the reference moment is written.
-/

set_option autoImplicit false

namespace PageWatch.Calendar

/-- The fields of a layout determine a moment, and a text can pass all of its parts. -/
structure Readable (segments : List Segment) : Prop where
  day : TellsDay (Segment.fields segments)
  clock : (∃ s ∈ Segment.fields segments, s.part ≠ .date) → TellsTime (Segment.fields segments)
  passes : Front.any.passes (.second ∈ Segment.fields segments) segments = true

instance (segments : List Segment) : Decidable (Readable segments) :=
  decidable_of_iff
    (TellsDay (Segment.fields segments) ∧
      ((∃ s ∈ Segment.fields segments, s.part ≠ .date) → TellsTime (Segment.fields segments)) ∧
      Front.any.passes (.second ∈ Segment.fields segments) segments = true)
    ⟨fun ⟨day, clock, passes⟩ => ⟨day, clock, passes⟩,
      fun ⟨day, clock, passes⟩ => ⟨day, clock, passes⟩⟩

namespace Layout

variable {l : Layout}

theorem has_iff {part : Specifier.Part} :
    l.has part = true ↔ ∃ s ∈ Segment.fields l.segments, s.part = part := by
  rw [has, List.any_eq_true]
  constructor
  · rintro ⟨segment, mem, h⟩
    cases segment with
    | token r =>
      exact ⟨r.field, Segment.mem_fields.mpr ⟨r, mem, rfl⟩, by simpa [Segment.part?] using h⟩
    | literal c => cases h
  · rintro ⟨s, field, rfl⟩
    obtain ⟨r, mem, rfl⟩ := Segment.mem_fields.mp field
    exact ⟨_, mem, by simp [Segment.part?]⟩

/-- What is read of a text is a day, and a moment where the layout has more than a day. -/
theorem moment_of_parse? {raw : String} {t : Timestamp} (parsed : l.parse? raw = some t) :
    ∃ f, readItems (l.segments.map Segment.item) {} raw.toList = some (f, []) ∧
      (∃ d, f.date? = some d) ∧
      ((∃ s ∈ Segment.fields l.segments, s.part ≠ .date) → ∃ u, f.timestamp? = some u) := by
  obtain ⟨f, read, moment⟩ := Option.bind_eq_some_iff.mp parsed
  refine ⟨f, ?_, ?_⟩
  · rw [readAll?, pattern, Segment.items_pattern] at read
    split at read
    · rename_i h
      rw [h, ← Option.some.inj read]
    · cases read
  · split at moment
    · obtain ⟨u, timed⟩ := Fields.timestamp?_of_universal? moment
      exact ⟨Fields.date?_of_timestamp? timed, fun _ => ⟨u, timed⟩⟩
    · rename_i noOffset
      split at moment
      · exact ⟨Fields.date?_of_timestamp? moment, fun _ => ⟨t, moment⟩⟩
      · rename_i noTime
        obtain ⟨d, dated, -⟩ := Option.map_eq_some_iff.mp moment
        refine ⟨⟨d, dated⟩, ?_⟩
        rintro ⟨s, mem, notDate⟩
        cases part : s.part with
        | date => exact absurd part notDate
        | time => exact absurd (has_iff.mpr ⟨s, mem, part⟩) noTime
        | offset => exact absurd (has_iff.mpr ⟨s, mem, part⟩) noOffset

theorem readable_of_parse? {raw : String} {t : Timestamp} (parsed : l.parse? raw = some t) :
    Readable l.segments := by
  obtain ⟨f, read, ⟨d, dated⟩, timed⟩ := moment_of_parse? parsed
  have known : f.only (Segment.fields l.segments) = f := by
    have nothing : ({} : Fields).only [] = {} := rfl
    have known := Fields.only_of_readItems read nothing
    rwa [List.append_nil] at known
  refine ⟨Fields.tellsDay_of_date? known dated, fun clock => ?_,
    (Front.fits_any raw.toList).passes read fun untimed => ?_⟩
  · obtain ⟨u, timed⟩ := timed clock
    exact Fields.tellsTime_of_timestamp? known timed
  · by_cases clock : ∃ s ∈ Segment.fields l.segments, s.part ≠ .date
    · obtain ⟨u, timed⟩ := timed clock
      have second : f.second = none := by
        have second := congrArg Fields.second known
        rw [← second]
        exact if_neg (of_decide_eq_false untimed)
      exact Fields.nano_eq_none_of_timestamp? timed second
    · by_contra nano
      apply clock
      rcases Fields.shown_of_known (congrArg Fields.nano known) nano with h | h | h | h <;>
        exact ⟨_, h, by decide⟩

theorem exists_read_of_readable (readable : Readable l.segments) :
    ∃ raw t, l.parse? raw = some t := by
  obtain ⟨cs, shown, -, shows, read⟩ := Front.writes_of_passes readable.passes
  have read : readAll? l.pattern (String.ofList cs).toList = some (reference.only shown) := by
    have nothing : reference.only [] = {} := rfl
    have read := read []
    rw [nothing, List.append_nil] at read
    rw [readAll?, pattern, Segment.items_pattern, String.toList_ofList, read]
  have day := readable.day.of_shows shows
  have timed : ∀ s ∈ shown, s ∈ Specifier.fractions → .second ∈ shown := fun s mem fraction =>
    shows.solid _ (of_decide_eq_true (shows.timed s mem fraction)) (by decide)
  refine ⟨String.ofList cs, ?_⟩
  rw [parse?, read, Option.bind_eq_bind, Option.bind_some]
  by_cases clock : ∃ s ∈ Segment.fields l.segments, s.part ≠ .date
  · have time := (readable.clock clock).of_shows shows
    split
    · rename_i offset
      exact universal?_reference day time timed (shows.offset (has_iff.mp offset))
    · split
      · obtain ⟨t, read, -⟩ := timestamp?_reference day time timed
        exact ⟨t, read⟩
      · exact ⟨_, congrArg (Option.map _) (date?_reference day)⟩
  · have untimed : l.has .offset = false ∧ l.has .time = false := by
      constructor <;> refine Bool.eq_false_iff.mpr fun has => clock ?_
      · obtain ⟨s, mem, part⟩ := has_iff.mp has
        exact ⟨s, mem, by rw [part]; decide⟩
      · obtain ⟨s, mem, part⟩ := has_iff.mp has
        exact ⟨s, mem, by rw [part]; decide⟩
    rw [untimed.1, untimed.2]
    exact ⟨_, congrArg (Option.map _) (date?_reference day)⟩

/-- A layout is accepted and reads some text just where its fields determine a moment and a text can
pass all of its parts. -/
theorem exists_read_iff_readable (layout : String) :
    (∃ l, ofText? layout = some l ∧ ∃ raw t, l.parse? raw = some t) ↔
      Readable (Segment.scan layout.toList) := by
  constructor
  · rintro ⟨l, accepted, raw, t, parsed⟩
    rw [← ofText?_eq_some.mp accepted]
    exact readable_of_parse? parsed
  · intro readable
    obtain ⟨s, field, dated⟩ : ∃ s ∈ Segment.fields (Segment.scan layout.toList),
        s.part = .date := by
      rcases readable.day.year with year | century
      · exact ⟨_, year, rfl⟩
      · exact ⟨_, century, rfl⟩
    obtain ⟨r, mem, rfl⟩ := Segment.mem_fields.mp field
    obtain ⟨l, accepted⟩ := Option.isSome_iff_exists.mp (isSome_ofText?.mpr ⟨r, mem, dated⟩)
    rw [← ofText?_eq_some.mp accepted] at readable
    exact ⟨l, accepted, exists_read_of_readable readable⟩

/-- A year alone is accepted. -/
theorem nothing_read_by_year : ∃ l, ofText? "2006" = some l ∧ ∀ raw, l.parse? raw = none := by
  have scanned : Segment.scan "2006".toList = [.token ⟨"2006", .year⟩] := by decide +kernel
  obtain ⟨l, accepted⟩ := Option.isSome_iff_exists.mp
    (isSome_ofText?.mpr ⟨⟨"2006", .year⟩, scanned ▸ List.mem_singleton_self _, rfl⟩)
  refine ⟨l, accepted, fun raw => ?_⟩
  cases parsed : l.parse? raw with
  | none => rfl
  | some t =>
    have readable := readable_of_parse? parsed
    rw [ofText?_eq_some.mp accepted, scanned] at readable
    exact absurd readable (by decide)

example : Readable (Segment.scan "Mon, 02 Jan 2006 15:04:05.999 MST".toList) := by decide +kernel

/-- An hour without its minute, a zone without a time, and a bracket that a zone passes over. -/
example : ∀ layout ∈ ["2006-01-02 15", "2006-01-02 MST", "2006-01-02 15:04 (MST)"],
    ¬ Readable (Segment.scan layout.toList) := by decide +kernel

end Layout

end PageWatch.Calendar
