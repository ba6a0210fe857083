import PageWatch.Proofs.Calendar.RoundTrip

/-!
# What is learnt from a field

A field adds a value of its own kind to what is known, and a value that is known
stays as it is. So after a layout nothing is known but what its fields are for, and a
moment that is determined is told by them.
-/

set_option autoImplicit false

namespace PageWatch.Calendar

theorem agree_eq_some {α : Type} [DecidableEq α] {old new : Option α} {value : α} :
    agree old value = some new ↔ (old = none ∨ old = some value) ∧ new = some value := by
  unfold agree
  cases old with
  | none => simp [eq_comm]
  | some known =>
    by_cases same : known = value
    · simp [same, eq_comm]
    · simp [same]

theorem Segment.fields_cons (segment : Segment) (segments : List Segment) :
    fields (segment :: segments) = segment.field?.toList ++ fields segments := by
  cases segment <;> rfl

namespace Fields

variable {f g : Fields} {s : Specifier} {cs rest : List Char} {shown : List Specifier}

theorem setNano_eq_some {n : Nat} :
    f.setNano n = some g ↔ (f.nano = none ∨ f.nano = some n) ∧ g = { f with nano := some n } := by
  constructor
  · intro set
    obtain ⟨nano, agreed, made⟩ := Option.bind_eq_some_iff.mp set
    obtain ⟨known, rfl⟩ := agree_eq_some.mp agreed
    exact ⟨known, (Option.some.inj made).symm⟩
  · rintro ⟨known, rfl⟩
    exact Option.bind_eq_some_iff.mpr ⟨_, agree_eq_some.mpr ⟨known, rfl⟩, rfl⟩

/-- What is known before a field and after it. -/
def Learns (f g : Fields) : Specifier → Prop
  | .year => ∃ v, g = { f with year := some v }
  | .yearOfCentury => ∃ v, g = { f with yearOfCentury := some v }
  | .monthName | .monthShort | .month => ∃ v, g = { f with month := some v }
  | .day | .dayOrBlank => ∃ v, g = { f with day := some v }
  | .weekdayName | .weekdayShort => ∃ v, g = { f with weekday := some v }
  | .hour => ∃ v w, g = { f with afternoon := some v, hour12 := some w }
  | .hour12 => ∃ v, g = { f with hour12 := some v }
  | .meridiem => ∃ v, g = { f with afternoon := some v }
  | .minute => ∃ v, g = { f with minute := some v }
  | .second => ∃ v, g = { f with second := some v }
  | .fraction | .fraction3 | .fraction6 | .fraction9 => g = f ∨ ∃ v, g = { f with nano := some v }
  | .offset | .offsetColon | .offsetOrZ => ∃ v, g = { f with offset := some v }
  | .zoneName => g = f

theorem learns_of_readOptionalFraction {read : List Char → Option (Nat × List Char)}
    (taken : readOptionalFraction read f cs = some (g, rest)) :
    g = f ∨ ∃ v, g = { f with nano := some v } := by
  unfold readOptionalFraction at taken
  split at taken
  · obtain ⟨⟨n, left⟩, -, taken⟩ := Option.bind_eq_some_iff.mp taken
    obtain ⟨h, set, taken⟩ := Option.bind_eq_some_iff.mp taken
    obtain ⟨rfl, -⟩ := Prod.mk.inj (Option.some.inj taken)
    exact .inr ⟨n, (setNano_eq_some.mp set).2⟩
  · exact .inl (Prod.mk.inj (Option.some.inj taken)).1.symm

theorem learns_of_readField (read : readField f cs s = some (g, rest)) : f.Learns g s := by
  cases s with
  | fraction | fraction3 | fraction6 | fraction9 => exact learns_of_readOptionalFraction read
  | _ =>
    simp only [readField, setHour, setHour12, Option.pure_def, Option.bind_eq_bind,
      Option.bind_eq_some_iff, agree_eq_some] at read
    grind [Learns]

def only (f : Fields) (shown : List Specifier) : Fields where
  year := if .year ∈ shown then f.year else none
  yearOfCentury := if .yearOfCentury ∈ shown then f.yearOfCentury else none
  month :=
    if .month ∈ shown ∨ .monthShort ∈ shown ∨ .monthName ∈ shown then f.month else none
  day := if .day ∈ shown ∨ .dayOrBlank ∈ shown then f.day else none
  weekday := if .weekdayShort ∈ shown ∨ .weekdayName ∈ shown then f.weekday else none
  afternoon := if .hour ∈ shown ∨ .meridiem ∈ shown then f.afternoon else none
  hour12 := if .hour ∈ shown ∨ .hour12 ∈ shown then f.hour12 else none
  minute := if .minute ∈ shown then f.minute else none
  second := if .second ∈ shown then f.second else none
  nano :=
    if .fraction ∈ shown ∨ .fraction3 ∈ shown ∨ .fraction6 ∈ shown ∨ .fraction9 ∈ shown then f.nano
    else none
  offset :=
    if .offset ∈ shown ∨ .offsetColon ∈ shown ∨ .offsetOrZ ∈ shown then f.offset else none

theorem only_congr {others : List Specifier} (same : ∀ s, s ∈ shown ↔ s ∈ others) :
    f.only shown = f.only others := by
  simp only [only, same]

theorem Learns.only_eq (learns : f.Learns g s) (known : f.only shown = f) :
    g.only (s :: shown) = g := by
  cases f
  simp only [only, Fields.mk.injEq] at known
  cases s with
  | zoneName =>
    obtain rfl := learns
    simp [only, known]
  | fraction | fraction3 | fraction6 | fraction9 =>
    obtain rfl | ⟨v, rfl⟩ := learns <;> simp [only, known]
  | hour =>
    obtain ⟨v, w, rfl⟩ := learns
    simp [only, known]
  | _ =>
    obtain ⟨v, rfl⟩ := learns
    simp [only, known]

theorem Learns.nano_eq_none (learns : f.Learns g s) (bare : g.nano = none) : f.nano = none := by
  cases s with
  | zoneName =>
    obtain rfl := learns
    exact bare
  | fraction | fraction3 | fraction6 | fraction9 =>
    obtain rfl | ⟨v, rfl⟩ := learns
    · exact bare
    · cases bare
  | hour =>
    obtain ⟨v, w, rfl⟩ := learns
    exact bare
  | _ =>
    obtain ⟨v, rfl⟩ := learns
    exact bare

variable {segment : Segment} {segments : List Segment}

theorem learns_of_readItem (read : readItem f cs segment.item = some (g, rest)) :
    (∃ r, segment = .token r ∧ f.Learns g r.field) ∨ ∃ c, segment = .literal c ∧ g = f := by
  cases segment with
  | token r => exact .inl ⟨r, rfl, learns_of_readField read⟩
  | literal c =>
    refine .inr ⟨c, rfl, ?_⟩
    simp only [Segment.item, plainItem] at read
    split at read
    · exact (Prod.mk.inj (Option.some.inj read)).1.symm
    · cases cs with
      | nil => cases read
      | cons d cs =>
        obtain ⟨-, read⟩ := Option.ite_none_right_eq_some.mp read
        exact (Prod.mk.inj (Option.some.inj read)).1.symm

theorem only_of_readItem (read : readItem f cs segment.item = some (g, rest))
    (known : f.only shown = f) : g.only (segment.field?.toList ++ shown) = g := by
  rcases learns_of_readItem read with ⟨r, rfl, learns⟩ | ⟨c, rfl, rfl⟩
  · exact learns.only_eq known
  · exact known

theorem only_of_readItems (read : readItems (segments.map Segment.item) f cs = some (g, rest))
    (known : f.only shown = f) : g.only (Segment.fields segments ++ shown) = g := by
  induction segments generalizing f cs shown with
  | nil =>
    obtain ⟨rfl, -⟩ := Prod.mk.inj (Option.some.inj read)
    exact known
  | cons segment segments ih =>
    obtain ⟨⟨h, left⟩, first, later⟩ := Option.bind_eq_some_iff.mp read
    have same : ∀ s, s ∈ Segment.fields (segment :: segments) ++ shown ↔
        s ∈ Segment.fields segments ++ (segment.field?.toList ++ shown) := by
      intro s
      simp only [Segment.fields_cons, List.mem_append]
      tauto
    rw [only_congr same]
    exact ih later (only_of_readItem first known)

theorem nano_eq_none_of_readItems
    (read : readItems (segments.map Segment.item) f cs = some (g, rest))
    (bare : g.nano = none) : f.nano = none := by
  induction segments generalizing f cs with
  | nil =>
    obtain ⟨rfl, -⟩ := Prod.mk.inj (Option.some.inj read)
    exact bare
  | cons segment segments ih =>
    obtain ⟨⟨h, left⟩, first, later⟩ := Option.bind_eq_some_iff.mp read
    have bare := ih later
    rcases learns_of_readItem first with ⟨r, rfl, learns⟩ | ⟨c, rfl, rfl⟩
    · exact learns.nano_eq_none bare
    · exact bare

end Fields

structure TellsDay (shown : List Specifier) : Prop where
  year : .year ∈ shown ∨ .yearOfCentury ∈ shown
  month : .month ∈ shown ∨ .monthShort ∈ shown ∨ .monthName ∈ shown
  day : .day ∈ shown ∨ .dayOrBlank ∈ shown

structure TellsTime (shown : List Specifier) : Prop where
  hour : .hour ∈ shown ∨ .hour12 ∈ shown ∧ .meridiem ∈ shown
  minute : .minute ∈ shown

instance (shown : List Specifier) : Decidable (TellsDay shown) :=
  decidable_of_iff
    ((.year ∈ shown ∨ .yearOfCentury ∈ shown) ∧
      (.month ∈ shown ∨ .monthShort ∈ shown ∨ .monthName ∈ shown) ∧
      (.day ∈ shown ∨ .dayOrBlank ∈ shown))
    ⟨fun ⟨year, month, day⟩ => ⟨year, month, day⟩, fun ⟨year, month, day⟩ => ⟨year, month, day⟩⟩

instance (shown : List Specifier) : Decidable (TellsTime shown) :=
  decidable_of_iff
    ((.hour ∈ shown ∨ .hour12 ∈ shown ∧ .meridiem ∈ shown) ∧ .minute ∈ shown)
    ⟨fun ⟨hour, minute⟩ => ⟨hour, minute⟩, fun ⟨hour, minute⟩ => ⟨hour, minute⟩⟩

namespace Fields

variable {f : Fields} {shown : List Specifier}

theorem shown_of_known {α : Type} {p : Prop} [Decidable p] {value : Option α}
    (known : (if p then value else none) = value) (some : value ≠ none) : p := by
  by_contra missing
  rw [if_neg missing] at known
  exact some known.symm

theorem tellsDay_of_date? {d : Date} (known : f.only shown = f) (dated : f.date? = some d) :
    TellsDay shown := by
  have month : f.month ≠ none := fun none => by simp [date?, none] at dated
  have day : f.day ≠ none := fun none => by simp [date?, none] at dated
  refine ⟨?_, shown_of_known (congrArg Fields.month known) month,
    shown_of_known (congrArg Fields.day known) day⟩
  by_cases year : f.year = none
  · have century : f.yearOfCentury ≠ none := fun none => by
      simp [date?, year?, year, none] at dated
    exact .inr (shown_of_known (congrArg Fields.yearOfCentury known) century)
  · exact .inl (shown_of_known (congrArg Fields.year known) year)

theorem tellsTime_of_timestamp? {t : Timestamp} (known : f.only shown = f)
    (timed : f.timestamp? = some t) : TellsTime shown := by
  have afternoon : f.afternoon ≠ none := fun none => by simp [timestamp?, none] at timed
  have hour12 : f.hour12 ≠ none := fun none => by simp [timestamp?, none] at timed
  have minute : f.minute ≠ none := fun none => by simp [timestamp?, none] at timed
  refine ⟨?_, shown_of_known (congrArg Fields.minute known) minute⟩
  have half := shown_of_known (congrArg Fields.afternoon known) afternoon
  have hours := shown_of_known (congrArg Fields.hour12 known) hour12
  tauto

theorem nano_eq_none_of_timestamp? {t : Timestamp} (timed : f.timestamp? = some t)
    (untimed : f.second = none) : f.nano = none := by
  cases nano : f.nano with
  | none => rfl
  | some n => simp [timestamp?, untimed, nano] at timed

theorem date?_of_timestamp? {t : Timestamp} (timed : f.timestamp? = some t) :
    ∃ d, f.date? = some d := by
  obtain ⟨d, dated, -⟩ := Option.bind_eq_some_iff.mp timed
  exact ⟨d, dated⟩

theorem timestamp?_of_universal? {t : Timestamp} (timed : f.universal? = some t) :
    ∃ u, f.timestamp? = some u := by
  obtain ⟨u, timed, -⟩ := Option.bind_eq_some_iff.mp timed
  exact ⟨u, timed⟩

end Fields

end PageWatch.Calendar
