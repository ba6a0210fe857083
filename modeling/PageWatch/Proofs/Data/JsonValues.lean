import PageWatch.Proofs.Data.JsonText

/-!
# Values that read back

A value is written without any space, and its text tells where it ends: reading stops right
after it, whatever follows. So values read back inside lists and tables, and a list or a
table of values that read back reads back itself.
-/

set_option autoImplicit false

namespace PageWatch.Json

/-- The text of a value begins with something that no list ends with, and the value is read back
from the front of any text that begins with it, in as many steps as it has characters. -/
structure ReadsBack (d : Datum) : Prop where
  starts : ∃ c rest, write d = c :: rest ∧ isSpace c = false ∧ c ≠ ']'
  reads : ∀ fuel rest, (write d).length ≤ fuel →
    readValue fuel (write d ++ rest) = some (d, rest)

theorem readsBack_text (s : String) : ReadsBack (.text s) where
  starts := ⟨'"', _, rfl, rfl, by decide⟩
  reads fuel rest enough := by
    obtain ⟨written, starts, read⟩ := readString_writeString s rest
    cases fuel with
    | zero => simp [write, writeString] at enough
    | succ fuel =>
      rw [write, starts, readValue, skip_cons_of_ne rfl]
      simp [read]

theorem commaSeparated_starts (x : List Char) (more : List (List Char)) :
    ∃ rest, commaSeparated (x :: more) = x ++ rest := by
  cases more with
  | nil => exact ⟨[], (List.append_nil x).symm⟩
  | cons y more => exact ⟨_, rfl⟩

section Lists

variable {d : Datum} {items : List Datum}

theorem readItems_item (back : ReadsBack d) {fuel : Nat} (enough : (write d).length ≤ fuel)
    (after : List Char) :
    readItems (fuel + 1) (write d ++ after) =
      match skip after with
      | ']' :: rest => some ([d], rest)
      | ',' :: rest => (readItems fuel rest).map fun (items, rest) => (d :: items, rest)
      | _ => none := by
  rewrite [readItems, back.reads fuel after enough]
  rfl

theorem readItems_write (back : ReadsBack d) (later : ∀ e ∈ items, ReadsBack e) (fuel : Nat)
    (rest : List Char) (enough : (commaSeparated (writeItems (d :: items))).length ≤ fuel) :
    readItems (fuel + 1) (commaSeparated (writeItems (d :: items)) ++ ']' :: rest) =
      some (d :: items, rest) := by
  induction items generalizing d fuel with
  | nil =>
    have bracket : skip (']' :: rest) = ']' :: rest := skip_cons_of_ne rfl rest
    show readItems (fuel + 1) (write d ++ ']' :: rest) = some ([d], rest)
    rewrite [readItems_item back enough, bracket]
    rfl
  | cons e items ih =>
    obtain ⟨next, later⟩ := List.forall_mem_cons.mp later
    have cut : commaSeparated (writeItems (d :: e :: items)) =
        write d ++ ',' :: commaSeparated (writeItems (e :: items)) := rfl
    have comma (cs : List Char) : skip (',' :: cs) = ',' :: cs := skip_cons_of_ne rfl cs
    rw [cut, List.length_append, List.length_cons] at enough
    rw [cut, List.append_assoc, List.cons_append, readItems_item back (by omega), comma]
    cases fuel with
    | zero => omega
    | succ fuel =>
      show (readItems (fuel + 1) _).map _ = _
      rw [ih next later fuel (by omega)]
      rfl

theorem readValue_list (fuel : Nat) {c : Char} {r more : List Char} (h : skip r = c :: more)
    (other : c ≠ ']') :
    readValue (fuel + 1) ('[' :: r) =
      (readItems fuel (skip r)).map fun (items, rest) => (.list items, rest) := by
  rw [readValue, skip_cons_of_ne rfl]
  simp [h, other]

theorem readsBack_list (all : ∀ d ∈ items, ReadsBack d) : ReadsBack (.list items) where
  starts := ⟨'[', _, rfl, rfl, by decide⟩
  reads fuel rest enough := by
    have written : write (.list items) = '[' :: commaSeparated (writeItems items) ++ [']'] := rfl
    rw [written, List.length_append, List.length_cons, List.length_singleton] at enough
    obtain ⟨fuel, rfl⟩ := Nat.exists_eq_add_of_le' enough
    rw [written, List.append_assoc, List.cons_append, List.singleton_append]
    cases items with
    | nil => rfl
    | cons d items =>
      obtain ⟨back, later⟩ := List.forall_mem_cons.mp all
      obtain ⟨c, more, starts, visible, other⟩ := back.starts
      obtain ⟨tail, first⟩ := commaSeparated_starts (write d) (writeItems items)
      have begins : commaSeparated (writeItems (d :: items)) ++ ']' :: rest =
          c :: (more ++ tail ++ ']' :: rest) := by
        rw [writeItems, first, starts]
        simp
      have inside : skip (commaSeparated (writeItems (d :: items)) ++ ']' :: rest) =
          commaSeparated (writeItems (d :: items)) ++ ']' :: rest := by
        rw [begins, skip_cons_of_ne visible]
      rw [← Nat.add_assoc, ← Nat.add_assoc, readValue_list _ (inside.trans begins) other, inside,
        readItems_write back later _ rest (by omega)]
      rfl

end Lists

section Tables

variable {entry : String × Datum} {entries : List (String × Datum)}

def writeMember (entry : String × Datum) : List Char := writeString entry.1 ++ ':' :: write entry.2

theorem readEntries_entry (back : ReadsBack entry.2) {fuel : Nat}
    (enough : (write entry.2).length ≤ fuel) (after : List Char) :
    readEntries (fuel + 1) (writeMember entry ++ after) =
      match skip after with
      | '\x7d' :: rest => some ([entry], rest)
      | ',' :: rest => (readEntries fuel rest).map fun (entries, rest) => (entry :: entries, rest)
      | _ => none := by
  obtain ⟨written, starts, read⟩ :=
    readString_writeString entry.1 (':' :: (write entry.2 ++ after))
  have quote (cs : List Char) : skip ('"' :: cs) = '"' :: cs := skip_cons_of_ne rfl cs
  have colon (cs : List Char) : skip (':' :: cs) = ':' :: cs := skip_cons_of_ne rfl cs
  rw [writeMember, List.append_assoc, List.cons_append, starts, readEntries, quote]
  simp only [read, colon]
  rewrite [back.reads fuel after enough]
  rfl

theorem readEntries_write (back : ReadsBack entry.2) (later : ∀ e ∈ entries, ReadsBack e.2)
    (fuel : Nat) (rest : List Char)
    (enough : (commaSeparated (writeEntries (entry :: entries))).length ≤ fuel) :
    readEntries (fuel + 1) (commaSeparated (writeEntries (entry :: entries)) ++ '\x7d' :: rest) =
      some (entry :: entries, rest) := by
  induction entries generalizing entry fuel with
  | nil =>
    have brace : skip ('\x7d' :: rest) = '\x7d' :: rest := skip_cons_of_ne rfl rest
    have written : commaSeparated (writeEntries [entry]) = writeMember entry := rfl
    rw [written, writeMember, List.length_append, List.length_cons] at enough
    rewrite [written, readEntries_entry back (by omega), brace]
    rfl
  | cons next entries ih =>
    obtain ⟨following, later⟩ := List.forall_mem_cons.mp later
    have cut : commaSeparated (writeEntries (entry :: next :: entries)) =
        writeMember entry ++ ',' :: commaSeparated (writeEntries (next :: entries)) := rfl
    have comma (cs : List Char) : skip (',' :: cs) = ',' :: cs := skip_cons_of_ne rfl cs
    rw [cut, List.length_append, List.length_cons, writeMember, List.length_append,
      List.length_cons] at enough
    rw [cut, List.append_assoc, List.cons_append, readEntries_entry back (by omega), comma]
    cases fuel with
    | zero => omega
    | succ fuel =>
      show (readEntries (fuel + 1) _).map _ = _
      rw [ih following later fuel (by omega)]
      rfl

theorem readsBack_table (all : ∀ e ∈ entries, ReadsBack e.2) : ReadsBack (.table entries) where
  starts := ⟨'\x7b', _, rfl, rfl, by decide⟩
  reads fuel rest enough := by
    have written : write (.table entries) =
        '\x7b' :: commaSeparated (writeEntries entries) ++ ['\x7d'] := rfl
    rw [written, List.length_append, List.length_cons, List.length_singleton] at enough
    obtain ⟨fuel, rfl⟩ := Nat.exists_eq_add_of_le' enough
    rw [written, List.append_assoc, List.cons_append, List.singleton_append]
    cases entries with
    | nil => rfl
    | cons entry entries =>
      obtain ⟨back, later⟩ := List.forall_mem_cons.mp all
      obtain ⟨tail, first⟩ := commaSeparated_starts (writeMember entry) (writeEntries entries)
      have begins : commaSeparated (writeEntries (entry :: entries)) ++ '\x7d' :: rest =
          '"' :: (entry.1.toList.flatMap escape ++ ['"'] ++ (':' :: write entry.2) ++ tail ++
            '\x7d' :: rest) := by
        show commaSeparated (writeMember entry :: writeEntries entries) ++ _ = _
        rw [first, writeMember, writeString]
        simp
      have inside : skip (commaSeparated (writeEntries (entry :: entries)) ++ '\x7d' :: rest) =
          commaSeparated (writeEntries (entry :: entries)) ++ '\x7d' :: rest := by
        rw [begins, skip_cons_of_ne rfl]
      rw [← Nat.add_assoc, ← Nat.add_assoc, readValue_table _ (inside.trans begins),
        readEntries_write back later _ rest (by omega)]
      rfl

end Tables

/-- A value that reads back is read from its own text. -/
theorem ReadsBack.read? {d : Datum} (back : ReadsBack d) : Json.read? (write d) = some d := by
  have read := back.reads (2 * (write d).length + 2) [] (by omega)
  rw [List.append_nil] at read
  rw [Json.read?, read]
  rfl

end PageWatch.Json
