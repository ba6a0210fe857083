import PageWatch.Charset.Unicode

/-!
# Decoding what was encoded

The bytes of a text are those of its characters one after another, and from each
character the decoder comes back to where it started.
-/

set_option autoImplicit false

namespace PageWatch.Charset

theorem toList_loop (bytes : ByteArray) (i : Nat) (done : List UInt8) :
    ByteArray.toList.loop bytes i done = done.reverse ++ bytes.data.toList.drop i := by
  induction h : bytes.size - i generalizing i done with
  | zero =>
    rw [ByteArray.toList.loop, if_neg (by omega), List.drop_of_length_le, List.append_nil]
    simpa using Nat.le_of_sub_eq_zero h
  | succ n ih =>
    have hi : i < bytes.size := by omega
    have here : i < bytes.data.toList.length := hi
    have get : bytes.get! i = bytes.data.toList.get ⟨i, here⟩ := by
      change bytes.data[i]! = _
      rw [getElem!_pos bytes.data i hi]
      rfl
    rw [ByteArray.toList.loop, if_pos hi, ih _ _ (by omega), get, List.reverse_cons,
      List.append_assoc, List.singleton_append, List.drop_eq_getElem_cons here]
    rfl

theorem toList_toByteArray (bytes : List UInt8) : bytes.toByteArray.toList = bytes := by
  rw [ByteArray.toList, toList_loop]
  simp

theorem toUTF8_toList (text : List Char) :
    (String.ofList text).toUTF8.toList = text.flatMap String.utf8EncodeChar := by
  rw [String.toUTF8_eq_toByteArray, String.toByteArray_ofList]
  exact toList_toByteArray _

theorem between_ofNat {low high : UInt8} {n : Nat} (h : n < 256) :
    between low high (UInt8.ofNat n) = (decide (low.toNat ≤ n) && decide (n ≤ high.toNat)) := by
  simp only [between, UInt8.le_iff_toNat_le, UInt8.toNat_ofNat', Nat.reducePow, Nat.mod_eq_of_lt h]

theorem ofNat_lt {n : Nat} (h : n < 256) : UInt8.ofNat n < 0x80 ↔ n < 0x80 := by
  simp only [UInt8.lt_iff_toNat_lt, UInt8.toNat_ofNat', Nat.reducePow, Nat.mod_eq_of_lt h]
  rfl

theorem ofNat_eq {n m : Nat} (h : n < 256) (hm : m < 256) :
    UInt8.ofNat n = UInt8.ofNat m ↔ n = m := by
  simp only [← UInt8.toNat_inj, UInt8.toNat_ofNat', Nat.reducePow, Nat.mod_eq_of_lt h,
    Nat.mod_eq_of_lt hm]

theorem utf8First_ofNat {n : Nat} (h : n < 256) :
    utf8First (UInt8.ofNat n) =
      if n < 0x80 then ({}, [some (Char.ofNat n)])
      else if 0xC2 ≤ n ∧ n ≤ 0xDF then ({ missing := 1, code := n - 0xC0 }, [])
      else if 0xE0 ≤ n ∧ n ≤ 0xEF then
        ({ missing := 2, code := n - 0xE0, low := if n = 0xE0 then 0xA0 else 0x80,
           high := if n = 0xED then 0x9F else 0xBF }, [])
      else if 0xF0 ≤ n ∧ n ≤ 0xF4 then
        ({ missing := 3, code := n - 0xF0, low := if n = 0xF0 then 0x90 else 0x80,
           high := if n = 0xF4 then 0x8F else 0xBF }, [])
      else ({}, [none]) := by
  have same (m : Nat) (hm : m < 256) : UInt8.ofNat n = UInt8.ofNat m ↔ n = m := ofNat_eq h hm
  have toNat : (UInt8.ofNat n).toNat = n := by
    rw [UInt8.toNat_ofNat']
    exact Nat.mod_eq_of_lt h
  simp only [utf8First, asciiChar, ofNat_lt h, toNat, between_ofNat h, Bool.and_eq_true,
    decide_eq_true_eq]
  have e0 : UInt8.ofNat n = 0xE0 ↔ n = 0xE0 := same 0xE0 (by omega)
  have ed : UInt8.ofNat n = 0xED ↔ n = 0xED := same 0xED (by omega)
  have f0 : UInt8.ofNat n = 0xF0 ↔ n = 0xF0 := same 0xF0 (by omega)
  have f4 : UInt8.ofNat n = 0xF4 ↔ n = 0xF4 := same 0xF4 (by omega)
  simp only [e0, ed, f0, f4]
  rfl

theorem utf8Step_first (b : UInt8) : utf8Step {} b = utf8First b := rfl

theorem utf8Step_more {missing code n : Nat} {low high : UInt8} (h : n < 256)
    (above : low.toNat ≤ n) (below : n ≤ high.toNat) :
    utf8Step ⟨missing + 2, low, high, code⟩ (UInt8.ofNat n) =
      ({ missing := missing + 1, code := code * 64 + (n - 0x80) }, []) := by
  have fits : between low high (UInt8.ofNat n) = true := by simp [between_ofNat h, above, below]
  simp [utf8Step, fits, Nat.mod_eq_of_lt h]

theorem utf8Step_last {code n : Nat} {low high : UInt8} (h : n < 256)
    (above : low.toNat ≤ n) (below : n ≤ high.toNat) :
    utf8Step ⟨1, low, high, code⟩ (UInt8.ofNat n) =
      ({}, [some (Char.ofNat (code * 64 + (n - 0x80)))]) := by
  have fits : between low high (UInt8.ofNat n) = true := by simp [between_ofNat h, above, below]
  simp [utf8Step, fits, Nat.mod_eq_of_lt h]

theorem utf8Step_digit {missing v : Nat} {low high : UInt8} (above : low.toNat ≤ v % 0x40 + 0x80)
    (below : v % 0x40 + 0x80 ≤ high.toNat) :
    utf8Step ⟨missing + 2, low, high, v / 64⟩ (UInt8.ofNat (v % 0x40 + 0x80)) =
      ({ missing := missing + 1, code := v }, []) := by
  have digits : v / 64 * 64 + v % 0x40 = v := by omega
  rw [utf8Step_more (by omega) above below, Nat.add_sub_cancel, digits]

theorem utf8Step_last_digit (v : Nat) :
    utf8Step { missing := 1, code := v / 64 } (UInt8.ofNat (v % 0x40 + 0x80)) =
      ({}, [some (Char.ofNat v)]) := by
  have digits : v / 64 * 64 + v % 0x40 = v := by omega
  rw [utf8Step_last (by omega) (by simp) (by simp; omega), Nat.add_sub_cancel, digits]

theorem foldl_of_step {s next : Utf8State} {b : UInt8} {out : Output} (bytes : List UInt8)
    (done : Output) (step : utf8Step s b = (next, out)) :
    (b :: bytes).foldl utf8Decoder.advance (s, done) =
      bytes.foldl utf8Decoder.advance (next, out.reverse ++ done) := by
  change bytes.foldl utf8Decoder.advance ((utf8Step s b).1, (utf8Step s b).2.reverse ++ done) = _
  rw [step]

theorem foldl_last (v : Nat) (done : Output) :
    [UInt8.ofNat (v % 0x40 + 0x80)].foldl utf8Decoder.advance
      ({ missing := 1, code := v / 64 }, done) = ({}, some (Char.ofNat v) :: done) :=
  foldl_of_step [] done (utf8Step_last_digit v)

theorem foldl_last_two {v : Nat} {low high : UInt8} (above : low.toNat ≤ v / 64 % 0x40 + 0x80)
    (below : v / 64 % 0x40 + 0x80 ≤ high.toNat) (done : Output) :
    [UInt8.ofNat (v / 64 % 0x40 + 0x80), UInt8.ofNat (v % 0x40 + 0x80)].foldl utf8Decoder.advance
      (⟨2, low, high, v / 64 / 64⟩, done) = ({}, some (Char.ofNat v) :: done) := by
  rw [foldl_of_step _ done (utf8Step_digit above below)]
  exact foldl_last v done

theorem foldl_two {v : Nat} (least : 0x7F < v) (most : v ≤ 0x7FF) (done : Output) :
    [UInt8.ofNat (v / 64 % 0x20 + 0xC0), UInt8.ofNat (v % 0x40 + 0x80)].foldl utf8Decoder.advance
      ({}, done) = ({}, some (Char.ofNat v) :: done) := by
  have whole : v / 64 % 0x20 = v / 64 := by omega
  have first : utf8Step {} (UInt8.ofNat (v / 64 + 0xC0)) =
      ({ missing := 1, code := v / 64 }, []) := by
    rw [utf8Step_first, utf8First_ofNat (by omega), if_neg (by omega), if_pos (by omega),
      Nat.add_sub_cancel]
  rw [whole, foldl_of_step _ done first]
  exact foldl_last v done

theorem foldl_three {v : Nat} (least : 0x7FF < v) (most : v ≤ 0xFFFF)
    (valid : v < 0xD800 ∨ 0xDFFF < v) (done : Output) :
    [UInt8.ofNat (v / 4096 % 0x10 + 0xE0), UInt8.ofNat (v / 64 % 0x40 + 0x80),
      UInt8.ofNat (v % 0x40 + 0x80)].foldl utf8Decoder.advance ({}, done) =
        ({}, some (Char.ofNat v) :: done) := by
  have whole : v / 4096 % 0x10 = v / 64 / 64 := by omega
  have first : utf8Step {} (UInt8.ofNat (v / 64 / 64 + 0xE0)) =
      ({ missing := 2, code := v / 64 / 64,
         low := if v / 64 / 64 + 0xE0 = 0xE0 then 0xA0 else 0x80,
         high := if v / 64 / 64 + 0xE0 = 0xED then 0x9F else 0xBF }, []) := by
    rw [utf8Step_first, utf8First_ofNat (by omega), if_neg (by omega), if_neg (by omega),
      if_pos (by omega), Nat.add_sub_cancel]
  rw [whole, foldl_of_step _ done first]
  -- no shorter form, and no surrogate
  refine foldl_last_two ?_ ?_ done
  · split
    · simp
      omega
    · simp
  · split
    · simp
      omega
    · simp
      omega

theorem foldl_four {v : Nat} (least : 0xFFFF < v) (most : v < 0x110000) (done : Output) :
    [UInt8.ofNat (v / 262144 % 0x08 + 0xF0), UInt8.ofNat (v / 4096 % 0x40 + 0x80),
      UInt8.ofNat (v / 64 % 0x40 + 0x80), UInt8.ofNat (v % 0x40 + 0x80)].foldl utf8Decoder.advance
        ({}, done) = ({}, some (Char.ofNat v) :: done) := by
  have whole : v / 262144 % 0x08 = v / 64 / 64 / 64 := by omega
  have digit : v / 4096 = v / 64 / 64 := by omega
  have first : utf8Step {} (UInt8.ofNat (v / 64 / 64 / 64 + 0xF0)) =
      ({ missing := 3, code := v / 64 / 64 / 64,
         low := if v / 64 / 64 / 64 + 0xF0 = 0xF0 then 0x90 else 0x80,
         high := if v / 64 / 64 / 64 + 0xF0 = 0xF4 then 0x8F else 0xBF }, []) := by
    rw [utf8Step_first, utf8First_ofNat (by omega), if_neg (by omega), if_neg (by omega),
      if_neg (by omega), if_pos (by omega), Nat.add_sub_cancel]
  have second : utf8Step
      { missing := 3, code := v / 64 / 64 / 64,
        low := if v / 64 / 64 / 64 + 0xF0 = 0xF0 then 0x90 else 0x80,
        high := if v / 64 / 64 / 64 + 0xF0 = 0xF4 then 0x8F else 0xBF }
      (UInt8.ofNat (v / 64 / 64 % 0x40 + 0x80)) = ({ missing := 2, code := v / 64 / 64 }, []) := by
    -- no shorter form, and nothing past the last character
    refine utf8Step_digit ?_ ?_
    · split
      · simp
        omega
      · simp
    · split
      · simp
        omega
      · simp
        omega
  rw [whole, digit, foldl_of_step _ done first, foldl_of_step _ _ second]
  exact foldl_last_two (by simp) (by simp; omega) done

theorem foldl_char (c : Char) (done : Output) :
    (String.utf8EncodeChar c).foldl utf8Decoder.advance ({}, done) = ({}, some c :: done) := by
  have valid : c.val.toNat < 0xD800 ∨ 0xDFFF < c.val.toNat ∧ c.val.toNat < 0x110000 := c.valid
  have back : Char.ofNat c.val.toNat = c := Char.ofNat_toNat c
  unfold String.utf8EncodeChar
  generalize c.val.toNat = v at valid back
  subst back
  by_cases one : v ≤ 0x7F
  · have only : utf8Step {} (UInt8.ofNat v) = ({}, [some (Char.ofNat v)]) := by
      rw [utf8Step_first, utf8First_ofNat (by omega), if_pos (by omega)]
    rw [if_pos one]
    exact foldl_of_step _ done only
  rw [if_neg one]
  by_cases two : v ≤ 0x7FF
  · rw [if_pos two]
    exact foldl_two (by omega) two done
  rw [if_neg two]
  by_cases three : v ≤ 0xFFFF
  · rw [if_pos three]
    exact foldl_three (by omega) three (by omega) done
  rw [if_neg three]
  exact foldl_four (by omega) (by omega) done

/-- Whatever is encoded is decoded to itself. -/
theorem run_toUTF8 (text : List Char) :
    utf8Decoder.run (String.ofList text).toUTF8.toList = text.map some := by
  have chars (done : Output) : (text.flatMap String.utf8EncodeChar).foldl utf8Decoder.advance
      ({}, done) = ({}, (text.map some).reverse ++ done) := by
    induction text generalizing done with
    | nil => rfl
    | cons c text ih =>
      rw [List.flatMap_cons, List.foldl_append, foldl_char, ih]
      simp
  rw [toUTF8_toList]
  change (fun read : utf8Decoder.State × Output => read.2.reverse ++ utf8Decoder.finish read.1)
    ((text.flatMap String.utf8EncodeChar).foldl utf8Decoder.advance ({}, [])) = _
  rw [chars]
  simp [utf8Decoder]

end PageWatch.Charset
