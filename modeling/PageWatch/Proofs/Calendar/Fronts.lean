import PageWatch.Proofs.Calendar.Learning

/-!
# What a text may go on with

Of most parts of a layout any text can follow what they read. But no blank follows
blanks, nothing but a blank follows the name of a zone, and where a fraction was left
out no point follows. So for each part of a layout it is known with what the rest of a
text can begin, and whether there is a rest that the part can read.
-/

set_option autoImplicit false

namespace PageWatch.Calendar

open Text

theorem isLetter_of_lower {c : Char} (h : isLetter (lower c) = true) : isLetter c = true := by
  by_cases upper : 'A' ≤ c ∧ c ≤ 'Z'
  · simp [isLetter, upper]
  · rwa [lower, if_neg upper] at h

theorem not_blank_of_letter {c : Char} (h : isLetter c = true) : isBlank c = false := by
  have bounds : 65 ≤ c.toNat ∧ c.toNat ≤ 122 := by
    simp only [isLetter, Bool.or_eq_true, Bool.and_eq_true, decide_eq_true_eq] at h
    rcases h with ⟨low, high⟩ | ⟨low, high⟩
    · have low : 'a'.toNat ≤ c.toNat := low
      have high : c.toNat ≤ 'z'.toNat := high
      simp only [show 'a'.toNat = 97 from rfl, show 'z'.toNat = 122 from rfl] at low high
      omega
    · have low : 'A'.toNat ≤ c.toNat := low
      have high : c.toNat ≤ 'Z'.toNat := high
      simp only [show 'A'.toNat = 65 from rfl, show 'Z'.toNat = 90 from rfl] at low high
      omega
  simp only [isBlank, Bool.or_eq_false_iff, Bool.and_eq_false_iff, decide_eq_false_iff_not,
    beq_eq_false_iff_ne]
  omega

/-- With what a text may begin: with a blank, a point, or any other character. -/
structure Front where
  blank : Bool := true
  point : Bool := true
  other : Bool := true
  -- where neither a letter nor a digit may stand, a blank may, and a point may not
  begins : other = true ∨ blank = true ∧ point = false := by decide
  deriving DecidableEq

namespace Front

def admits (front : Front) (c : Char) : Bool :=
  if isBlank c then front.blank else if c = '.' then front.point else front.other

def Fits (front : Front) (cs : List Char) : Prop := ∀ c ∈ cs.head?, front.admits c = true

def any : Front := {}

def unblank : Front := { blank := false }

def blankOnly : Front := { point := false, other := false }

def unpointed (front : Front) : Front :=
  { front with
    point := false
    begins := front.begins.imp_right fun h => ⟨h.1, rfl⟩ }

theorem fits_any (cs : List Char) : any.Fits cs := by
  intro c _
  unfold admits any
  split_ifs <;> rfl

@[simp] theorem fits_nil (front : Front) : front.Fits [] := by
  simp [Fits]

@[simp] theorem fits_cons {front : Front} {c : Char} {cs : List Char} :
    front.Fits (c :: cs) ↔ front.admits c = true := by
  simp [Fits]

theorem blank_of_admits {c : Char} (admitted : blankOnly.admits c = true) : isBlank c = true := by
  by_contra visible
  rw [admits, if_neg visible] at admitted
  split at admitted <;> cases admitted

theorem admits_letter {front : Front} {c : Char} (letter : isLetter c = true) :
    front.admits c = front.other := by
  have point : c ≠ '.' := by
    rintro rfl
    exact absurd letter (by decide)
  rw [admits, not_blank_of_letter letter, if_neg Bool.false_ne_true, if_neg point]

def afterField (seconds : Bool) (front : Front) : Specifier → Option Front
  | .zoneName => some blankOnly
  | .monthName | .monthShort | .weekdayName | .weekdayShort | .meridiem =>
    if front.other then some any else none
  | .fraction | .fraction3 | .fraction6 | .fraction9 =>
    some (if seconds && front.point then any else front.unpointed)
  | _ => some any

def after (seconds : Bool) (front : Front) : Segment → Option Front
  | .token r => front.afterField seconds r.field
  | .literal c =>
    if isBlank c then some (if front.blank then unblank else front)
    else if front.admits c then some any
    else none

def passes (seconds : Bool) (front : Front) (segments : List Segment) : Bool :=
  match segments with
  | [] => true
  | segment :: segments =>
    match front.after seconds segment with
    | some next => next.passes seconds segments
    | none => false

end Front

section Passing

variable {names : List (List Char)} {cs rest : List Char} {i : Nat}

theorem letter_of_readShort (lettered : ∀ name ∈ names, (name.take 3).head?.any isLetter = true)
    (read : readShort names cs = some (i, rest)) : cs.head?.any isLetter = true := by
  obtain ⟨j, found, -⟩ := Option.map_eq_some_iff.mp read
  obtain ⟨bound, same, -⟩ := List.findIdx?_eq_some_iff_getElem.mp found
  have letter := lettered _ (List.getElem_mem bound)
  rw [beq_iff_eq.mp same] at letter
  cases cs with
  | nil => cases letter
  | cons c cs => exact isLetter_of_lower letter

theorem letter_of_readLong (lettered : ∀ name ∈ names, (name.take 3).head?.any isLetter = true)
    (read : readLong names cs = some (i, rest)) : cs.head?.any isLetter = true := by
  obtain ⟨short, found, -⟩ := Option.map_eq_some_iff.mp read
  exact letter_of_readShort lettered found

theorem letter_of_readMeridiem {afternoon : Bool}
    (read : readMeridiem cs = some (afternoon, rest)) :
    cs.head?.any isLetter = true := by
  cases cs with
  | nil => cases read
  | cons c cs =>
    refine isLetter_of_lower ?_
    unfold readMeridiem at read
    split at read
    · rename_i letters
      rw [(List.cons.inj letters).1]
      rfl
    · rename_i letters
      rw [(List.cons.inj letters).1]
      rfl
    · cases read

theorem monthNames_lettered : ∀ name ∈ monthNames, (name.take 3).head?.any isLetter = true := by
  decide +kernel

theorem weekdayNames_lettered :
    ∀ name ∈ weekdayNames, (name.take 3).head?.any isLetter = true := by
  decide +kernel

end Passing

namespace Front

variable {seconds : Bool} {front : Front} {f g : Fields} {cs rest : List Char}

theorem Fits.other (fits : front.Fits cs) (letter : cs.head?.any isLetter = true) :
    front.other = true := by
  cases cs with
  | nil => cases letter
  | cons c cs => rwa [fits_cons, admits_letter letter] at fits

theorem head_dropWhile_neg {p : Char → Bool} {cs : List Char} {c : Char}
    (first : c ∈ (cs.dropWhile p).head?) : p c = false := by
  have stop := List.head?_dropWhile_not p cs
  rw [Option.mem_def.mp first] at stop
  simpa using stop

theorem fits_trimStart (cs : List Char) : unblank.Fits (trimStart cs) := by
  intro c first
  rw [admits, if_neg (Bool.eq_false_iff.mp (head_dropWhile_neg first))]
  split_ifs <;> rfl

theorem trimStart_of_fits (fits : front.Fits cs) (unblank : front.blank = false) :
    trimStart cs = cs := by
  cases cs with
  | nil => rfl
  | cons c cs =>
    refine trimStart_of_not_blank (Bool.eq_false_iff.mpr fun blank => ?_) cs
    rw [fits_cons, admits, if_pos blank, unblank] at fits
    cases fits

theorem fits_zone (cs : List Char) : blankOnly.Fits (cs.dropWhile (!isBlank ·)) := by
  intro c first
  have blank : (!isBlank c) = false := head_dropWhile_neg first
  rw [admits, if_pos (by simpa using blank)]
  rfl

theorem fits_of_unpointed (fits : front.unpointed.Fits cs) : front.Fits cs := by
  intro c first
  have admitted := fits c first
  by_cases point : c = '.'
  · subst point
    cases admitted
  · rw [admits, if_neg point] at admitted ⊢
    exact admitted

theorem unpointed_of_fits (fits : front.unpointed.Fits cs) : cs.head? ≠ some '.' := by
  intro first
  cases fits '.' first

theorem fits_unpointed (fits : front.Fits cs) (unpointed : cs.head? ≠ some '.') :
    front.unpointed.Fits cs := by
  intro c first
  have point : c ≠ '.' := by
    rintro rfl
    exact unpointed first
  have admitted := fits c first
  rw [admits, if_neg point] at admitted ⊢
  exact admitted

theorem Fits.afterFraction {read : List Char → Option (Nat × List Char)} (fits : front.Fits cs)
    (taken : readOptionalFraction read f cs = some (g, rest))
    (bare : seconds = false → g.nano = none) :
    (if seconds && front.point then any else front.unpointed).Fits rest := by
  unfold readOptionalFraction at taken
  split at taken
  · obtain ⟨⟨n, left⟩, -, taken⟩ := Option.bind_eq_some_iff.mp taken
    obtain ⟨h, set, taken⟩ := Option.bind_eq_some_iff.mp taken
    obtain ⟨rfl, rfl⟩ := Prod.mk.inj (Option.some.inj taken)
    have timed : seconds = true := by
      refine Bool.of_not_eq_false fun untimed => ?_
      rw [(Fields.setNano_eq_some.mp set).2] at bare
      cases bare untimed
    have point : front.point = true := fits_cons.mp fits
    rw [timed, point]
    exact fits_any left
  · rename_i unpointed
    obtain ⟨rfl, rfl⟩ := Prod.mk.inj (Option.some.inj taken)
    split
    · exact fits_any cs
    · refine fits_unpointed fits fun first => ?_
      obtain ⟨r, rfl⟩ := List.head?_eq_some_iff.mp first
      exact unpointed r rfl

theorem Fits.afterField {s : Specifier} (fits : front.Fits cs)
    (read : readField f cs s = some (g, rest)) (bare : seconds = false → g.nano = none) :
    ∃ next, front.afterField seconds s = some next ∧ next.Fits rest := by
  have lettered (letter : cs.head?.any isLetter = true) :
      ∃ next, (if front.other then some any else none) = some next ∧ next.Fits rest :=
    ⟨any, if_pos (fits.other letter), fits_any rest⟩
  cases s with
  | monthName =>
    obtain ⟨⟨i, rest⟩, found, -⟩ := Option.bind_eq_some_iff.mp read
    exact lettered (letter_of_readLong monthNames_lettered found)
  | monthShort =>
    obtain ⟨⟨i, rest⟩, found, -⟩ := Option.bind_eq_some_iff.mp read
    exact lettered (letter_of_readShort monthNames_lettered found)
  | weekdayName =>
    obtain ⟨⟨i, rest⟩, found, -⟩ := Option.bind_eq_some_iff.mp read
    exact lettered (letter_of_readLong weekdayNames_lettered found)
  | weekdayShort =>
    obtain ⟨⟨i, rest⟩, found, -⟩ := Option.bind_eq_some_iff.mp read
    exact lettered (letter_of_readShort weekdayNames_lettered found)
  | meridiem =>
    obtain ⟨⟨i, rest⟩, found, -⟩ := Option.bind_eq_some_iff.mp read
    exact lettered (letter_of_readMeridiem found)
  | zoneName =>
    obtain ⟨rfl, rfl⟩ := Prod.mk.inj (Option.some.inj read)
    exact ⟨blankOnly, rfl, fits_zone cs⟩
  | fraction | fraction3 | fraction6 | fraction9 =>
    exact ⟨_, rfl, fits.afterFraction read bare⟩
  | _ => exact ⟨any, rfl, fits_any rest⟩

theorem Fits.after {segment : Segment} (fits : front.Fits cs)
    (read : readItem f cs segment.item = some (g, rest)) (bare : seconds = false → g.nano = none) :
    ∃ next, front.after seconds segment = some next ∧ next.Fits rest := by
  cases segment with
  | token r => exact fits.afterField read bare
  | literal c =>
    rw [Segment.item, plainItem] at read
    by_cases blank : isBlank c = true
    · rw [if_pos blank] at read
      obtain ⟨rfl, rfl⟩ := Prod.mk.inj (Option.some.inj read)
      refine ⟨_, if_pos blank, ?_⟩
      by_cases open_ : front.blank = true
      · rw [if_pos open_]
        exact fits_trimStart cs
      · rw [if_neg open_, trimStart_of_fits fits (Bool.eq_false_iff.mpr open_)]
        exact fits
    · rw [if_neg blank] at read
      cases cs with
      | nil => cases read
      | cons d cs =>
        obtain ⟨rfl, -⟩ := Option.ite_none_right_eq_some.mp read
        have admitted : front.admits c = true := fits_cons.mp fits
        exact ⟨any, by rw [Front.after, if_neg blank, if_pos admitted], fits_any rest⟩

/-- Whoever reads a text to the end has passed all segments. -/
theorem Fits.passes {segments : List Segment} (fits : front.Fits cs)
    (read : readItems (segments.map Segment.item) f cs = some (g, rest))
    (bare : seconds = false → g.nano = none) : front.passes seconds segments = true := by
  induction segments generalizing front f cs with
  | nil => rfl
  | cons segment segments ih =>
    obtain ⟨⟨h, left⟩, first, later⟩ := Option.bind_eq_some_iff.mp read
    obtain ⟨next, after, fits⟩ := fits.after first fun untimed =>
      Fields.nano_eq_none_of_readItems later (bare untimed)
    rw [Front.passes, after]
    exact ih fits later

end Front

end PageWatch.Calendar
