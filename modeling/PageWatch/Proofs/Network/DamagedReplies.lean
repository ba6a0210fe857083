import PageWatch.Network.Translator
import PageWatch.Proofs.Charset.Utf8
import PageWatch.Proofs.Data.JsonText

/-!
# Replies with damaged places

A reply comes as bytes, and some of them may make up no character. A string with such a place in
it is passed over as if a character stood there, but it is never read. A reply without damage is
read as the text that it is.
-/

set_option autoImplicit false

namespace PageWatch

open Charset Text

namespace Json

variable {out : Output} {mark cs : List Char}

@[simp] theorem marked_nil : Output.marked mark [] = [] := rfl

@[simp] theorem marked_some (c : Char) :
    Output.marked mark (some c :: out) = c :: out.marked mark := rfl

@[simp] theorem marked_none :
    Output.marked mark (none :: out) = '\uFFFD' :: (mark ++ out.marked mark) := rfl

theorem marked_append (cs : List Char) :
    Output.marked mark (cs.map some ++ out) = cs ++ out.marked mark := by
  induction cs with
  | nil => rfl
  | cons c cs ih => rw [List.map_cons, List.cons_append, marked_some, ih, List.cons_append]

theorem marked_nothing (out : Output) : out.marked [] = out.text.toList := by
  rw [Output.text, String.toList_ofList]
  induction out with
  | nil => rfl
  | cons c out ih => cases c <;> simp [ih]

theorem unit?_eq_none (h : (cs.take 4).all isHexDigit = false ∨ cs.length < 4) :
    unit? cs = none := by
  refine if_neg ?_
  rintro ⟨length, digits⟩
  rcases h with other | short
  · rw [digits] at other
    cases other
  · rw [List.length_take] at length
    omega

theorem unit?_four (a b c d : Char) : unit? (a :: b :: c :: d :: cs) = unit? [a, b, c, d] := rfl

theorem unit?_marked (out : Output) :
    (∃ a b c d later, out = some a :: some b :: some c :: some d :: later) ∨
      ∀ mark, unit? (out.marked mark) = none := by
  have damaged : isHexDigit '\uFFFD' = false := by decide
  match out with
  | some a :: some b :: some c :: some d :: later => exact .inl ⟨a, b, c, d, later, rfl⟩
  | [] | [some _] | [some _, some _] | [some _, some _, some _] =>
    exact .inr fun mark => unit?_eq_none (.inr (by simp))
  | none :: _ | some _ :: none :: _ | some _ :: some _ :: none :: _
  | some _ :: some _ :: some _ :: none :: _ =>
    exact .inr fun mark => unit?_eq_none (.inl (by simp [damaged]))

def Passed (mark : List Char) : Prop := ∀ cs, passString 0 (mark ++ cs) = passString 0 cs

theorem passed_nil : Passed [] := fun _ => rfl

theorem passed_unreadable : Passed unreadable := fun _ => rfl

theorem passString_plain {c : Char} (quote : c ≠ '"') (slash : c ≠ '\\') :
    passString 0 (c :: cs) = if c.toNat < 0x20 then none else passString 0 cs := by
  simp [passString, quote, slash]

theorem passString_letter {e : Char} (letter : e ≠ 'u') :
    passString 0 ('\\' :: e :: cs) = if (unescape? e).isSome then passString 0 cs else none := by
  simp [passString, letter]

theorem passString_unit (a b c d : Char) :
    passString 0 ('\\' :: 'u' :: a :: b :: c :: d :: cs) =
      if (unit? [a, b, c, d]).isSome then passString 0 cs else none := by
  rw [← unit?_four]
  rfl

theorem passString_marked (out : Output) :
    ∃ rest : Option Output, ∀ mark, Passed mark →
      passString 0 (out.marked mark) = rest.map (·.marked mark) := by
  match out with
  | [] => exact ⟨none, fun _ _ => rfl⟩
  | none :: later =>
    obtain ⟨rest, same⟩ := passString_marked later
    refine ⟨rest, fun mark passed => ?_⟩
    rw [← same mark passed, ← passed (Output.marked mark later)]
    exact passString_plain (by decide) (by decide)
  | some c :: later =>
    by_cases quote : c = '"'
    · subst quote
      exact ⟨some later, fun _ _ => rfl⟩
    by_cases slash : c = '\\'
    · subst slash
      match later with
      | [] | none :: _ => exact ⟨none, fun _ _ => rfl⟩
      | some e :: later =>
        by_cases letter : e = 'u'
        · subst letter
          rcases unit?_marked later with ⟨a, b, c, d, later, rfl⟩ | bad
          · obtain ⟨rest, same⟩ := passString_marked later
            refine ⟨if (unit? [a, b, c, d]).isSome then rest else none, fun mark passed => ?_⟩
            simp only [marked_some, passString_unit, same mark passed]
            split <;> rfl
          · exact ⟨none, fun mark _ => by simp [passString, bad mark]⟩
        · obtain ⟨rest, same⟩ := passString_marked later
          refine ⟨if (unescape? e).isSome then rest else none, fun mark passed => ?_⟩
          simp only [marked_some, passString_letter letter, same mark passed]
          split <;> rfl
    · obtain ⟨rest, same⟩ := passString_marked later
      refine ⟨if c.toNat < 0x20 then none else rest, fun mark passed => ?_⟩
      simp only [marked_some, passString_plain quote slash, same mark passed]
      split <;> rfl
termination_by out.length

/-- A string with damaged places is passed over as if they were characters. -/
theorem passString_damaged (out : Output) :
    ∃ rest : Option Output,
      passString 0 (out.marked unreadable) = rest.map (·.marked unreadable) ∧
        passString 0 out.text.toList = rest.map (·.text.toList) := by
  obtain ⟨rest, same⟩ := passString_marked out
  refine ⟨rest, same unreadable passed_unreadable, ?_⟩
  simpa only [marked_nothing] using same [] passed_nil

/-- The text that was read begins with characters, and what is left stands behind these. -/
def Whole (out : Output) (rest : List Char) : Prop :=
  ∃ (read : List Char) (later : Output),
    out = read.map some ++ later ∧ rest = later.marked unreadable

theorem Whole.append {rest : List Char} (whole : Whole out rest) (cs : List Char) :
    Whole (cs.map some ++ out) rest := by
  obtain ⟨more, later, rfl, rfl⟩ := whole
  exact ⟨cs ++ more, later, by simp, rfl⟩

theorem escapedUnits?_eq_some {d : Char} {n : Nat} (read : escapedUnits? cs = some (d, n)) :
    unit? cs ≠ none ∧ (n = 4 ∨
      n = 10 ∧ ['\\', 'u'].isPrefixOf (cs.drop 4) = true ∧ unit? (cs.drop 6) ≠ none) := by
  grind [escapedUnits?]

theorem escapedUnits?_marked {d : Char} {n : Nat}
    (read : escapedUnits? (out.marked mark) = some (d, n)) :
    ∃ (cs : List Char) (later : Output), out = cs.map some ++ later ∧ cs.length = n := by
  obtain ⟨first, alone | ⟨pair, begins, second⟩⟩ := escapedUnits?_eq_some read
  · rcases unit?_marked out with ⟨a, b, c, e, later, rfl⟩ | bad
    · exact ⟨[a, b, c, e], later, rfl, alone.symm⟩
    · exact absurd (bad mark) first
  · rcases unit?_marked out with ⟨a, b, c, e, later, rfl⟩ | bad
    · match later with
      | some x :: some y :: later =>
        rcases unit?_marked later with ⟨a', b', c', e', later, rfl⟩ | bad
        · exact ⟨[a, b, c, e, x, y, a', b', c', e'], later, rfl, pair.symm⟩
        · exact absurd (bad mark) second
      | [] | none :: _ | [some _] | some _ :: none :: _ => simp at begins
    · exact absurd (bad mark) first

theorem readString_unreadable (done : List Char) :
    readString 0 done (unreadable ++ cs) = none := by
  have low : unit? ['D', 'C', '0', '0'] = some 0xDC00 := by decide
  have none_there : escapedUnits? ('D' :: 'C' :: '0' :: '0' :: cs) = none := by
    simp only [escapedUnits?, unit?_four, low]
    rfl
  change readString 0 done ('\\' :: 'u' :: 'D' :: 'C' :: '0' :: '0' :: cs) = none
  simp [readString, none_there]

theorem readString_escaped {d : Char} {n : Nat} (units : escapedUnits? cs = some (d, n))
    (done : List Char) :
    readString 0 done ('\\' :: 'u' :: cs) = readString (n + 1) (d :: done) ('u' :: cs) := by
  simp [readString, units]

theorem readString_plain {c : Char} (quote : c ≠ '"') (slash : c ≠ '\\') (done : List Char) :
    readString 0 done (c :: cs) = if c.toNat < 0x20 then none else readString 0 (c :: done) cs := by
  simp [readString, quote, slash]

/-- A string that is read consists of characters, without a damaged place. -/
theorem whole_of_readString (done : List Char) {s : String} {rest : List Char}
    (read : readString 0 done (out.marked unreadable) = some (s, rest)) : Whole out rest := by
  induction length : out.length using Nat.strong_induction_on generalizing out done with
  | _ n ih =>
    subst length
    rcases out with _ | ⟨_ | c, later⟩
    · cases read
    · rw [marked_none, readString_plain (by decide) (by decide), if_neg (by decide),
        readString_unreadable] at read
      cases read
    by_cases quote : c = '"'
    · subst quote
      obtain ⟨-, rfl⟩ := Prod.mk.inj (Option.some.inj read)
      exact ⟨['"'], later, rfl, rfl⟩
    by_cases slash : c = '\\'
    · subst slash
      rcases later with _ | ⟨_ | e, later⟩
      · cases read
      · cases read
      by_cases letter : e = 'u'
      · subst letter
        cases units : escapedUnits? (Output.marked unreadable later) with
        | none => simp [readString, units] at read
        | some pair =>
          obtain ⟨d, n⟩ := pair
          rw [marked_some, marked_some, readString_escaped units] at read
          obtain ⟨cs, later, rfl, rfl⟩ := escapedUnits?_marked units
          rw [marked_append, ← List.cons_append, ← List.length_cons, readString_pass] at read
          exact (ih _ (by simp; omega) _ read rfl).append ('\\' :: 'u' :: cs)
      · cases known : unescape? e with
        | none => simp [readString, letter, known] at read
        | some d =>
          rw [marked_some, marked_some, readString_letter letter known] at read
          exact (ih _ (Nat.lt_succ_of_lt (Nat.lt_succ_self _)) _ read rfl).append ['\\', e]
    · rw [marked_some, readString_plain quote slash] at read
      split at read
      · cases read
      · exact (ih _ (by simp) _ read rfl).append [c]

end Json

/-- A reply without damage is read as the text that it is. -/
theorem Translator.textOfBody?_of_text (text : String) :
    textOfBody? text.toUTF8.toList =
      (Json.readOnly? ["translatedText"] text.toList).bind fun d => (textOfDatum d).toOption.join := by
  have decoded : utf8Decoder.run text.toUTF8.toList = text.toList.map some := by
    rw [← run_toUTF8 text.toList, String.ofList_toList]
  have read : Output.marked Json.unreadable (text.toList.map some) = text.toList := by
    rw [← List.append_nil (text.toList.map some), Json.marked_append, Json.marked_nil,
      List.append_nil]
  rw [textOfBody?, decoded, read]
  rfl

/-- The damage is in a member that is passed over. -/
example : Translator.textOfBody? ("\x7b\"a\":\"".toUTF8.toList ++ [0xFF] ++
    "\",\"translatedText\":\"b\"\x7d".toUTF8.toList) = some "b" := by
  decide +kernel

end PageWatch
