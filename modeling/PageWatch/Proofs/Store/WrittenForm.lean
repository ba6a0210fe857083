import PageWatch.Proofs.Charset.Utf8
import PageWatch.Proofs.Data.JsonText
import PageWatch.Proofs.Store.Entries

/-!
# Fingerprints that read back

What is written into a file is read back as it was, provided the entries are
sorted. All fingerprints that were read are, and they stay so.
-/

set_option autoImplicit false

namespace PageWatch

namespace Json

theorem skip_writeEntry (entry : String × String) (rest : List Char) :
    skip (Fingerprints.writeEntry entry ++ rest) =
      writeString entry.1 ++ (": ".toList ++ (writeString entry.2 ++ rest)) := by
  simp [Fingerprints.writeEntry, writeString, skip, isSpace]

theorem readValue_text (fuel : Nat) (s : String) (rest : List Char) :
    readValue (fuel + 1) (' ' :: (writeString s ++ rest)) = some (.text s, rest) := by
  obtain ⟨written, he, read⟩ := readString_writeString s rest
  rw [he, readValue, skip_cons_of_space rfl, skip_cons_of_ne rfl]
  simp [read]

theorem readEntries_writeEntry (fuel : Nat) (entry : String × String) (rest : List Char) :
    readEntries (fuel + 2) (Fingerprints.writeEntry entry ++ rest) =
      match skip rest with
      | '\x7d' :: rest => some ([(entry.1, .text entry.2)], rest)
      | ',' :: rest =>
        (readEntries (fuel + 1) rest).map fun (entries, rest) =>
          ((entry.1, .text entry.2) :: entries, rest)
      | _ => none := by
  obtain ⟨written, he, read⟩ := readString_writeString entry.1
    (": ".toList ++ (writeString entry.2 ++ rest))
  have colon : skip (": ".toList ++ (writeString entry.2 ++ rest)) =
      ':' :: ' ' :: (writeString entry.2 ++ rest) := skip_cons_of_ne rfl _
  rw [readEntries, skip_writeEntry, he]
  simp only [read, colon]
  rewrite [readValue_text]
  rfl

theorem readEntries_space {c : Char} (h : isSpace c = true) (fuel : Nat) (cs : List Char) :
    readEntries (fuel + 1) (c :: cs) = readEntries (fuel + 1) cs := by
  rw [readEntries, readEntries, skip_cons_of_space h]

theorem readEntries_written (entry : String × String) (entries : List (String × String))
    (fuel : Nat) (enough : entries.length < fuel) (rest : List Char) :
    readEntries (fuel + 1)
        ([',', '\n'].intercalate ((entry :: entries).map Fingerprints.writeEntry) ++
          ('\n' :: '\x7d' :: rest)) =
      some ((entry :: entries).map fun e => (e.1, .text e.2), rest) := by
  induction entries generalizing entry fuel with
  | nil =>
    obtain ⟨fuel, rfl⟩ := Nat.exists_eq_succ_of_ne_zero (Nat.ne_of_gt enough)
    have brace : skip ('\n' :: '\x7d' :: rest) = '\x7d' :: rest := rfl
    rw [List.map_singleton, List.intercalate_singleton, readEntries_writeEntry, brace]
    rfl
  | cons next entries ih =>
    obtain ⟨fuel, rfl⟩ := Nat.exists_eq_succ_of_ne_zero (Nat.ne_of_gt (Nat.zero_lt_of_lt enough))
    have later := ih next fuel (Nat.lt_of_succ_lt_succ enough)
    rw [List.map_cons, List.map_cons, List.intercalate_cons_cons, ← List.map_cons,
      List.append_assoc, List.append_assoc, List.cons_append, List.cons_append, List.nil_append,
      Nat.succ_eq_add_one, readEntries_writeEntry, skip_cons_of_ne rfl]
    have newline : isSpace '\n' = true := rfl
    simp only [readEntries_space newline, later]
    rfl

theorem length_le_intercalate (entry : String × String) (entries : List (String × String)) :
    entries.length ≤
      ([',', '\n'].intercalate ((entry :: entries).map Fingerprints.writeEntry)).length := by
  induction entries generalizing entry with
  | nil => exact Nat.zero_le _
  | cons next entries ih =>
    have later := ih next
    rw [List.map_cons] at later
    rw [List.map_cons, List.map_cons, List.intercalate_cons_cons]
    simp only [List.length_append, List.length_cons]
    omega

theorem intercalate_starts (entry : String × String) (entries : List (String × String)) :
    ∃ more, [',', '\n'].intercalate ((entry :: entries).map Fingerprints.writeEntry) =
      Fingerprints.writeEntry entry ++ more := by
  cases entries with
  | nil => exact ⟨[], by simp⟩
  | cons next entries =>
    rw [List.map_cons, List.map_cons, List.intercalate_cons_cons, List.append_assoc]
    exact ⟨_, rfl⟩

theorem read?_written (entry : String × String) (entries : List (String × String)) :
    read? (Fingerprints.write ⟨entry :: entries⟩) =
      some (.table ((entry :: entries).map fun e => (e.1, .text e.2))) := by
  have written : Fingerprints.write ⟨entry :: entries⟩ =
      '\x7b' :: '\n' :: ([',', '\n'].intercalate ((entry :: entries).map Fingerprints.writeEntry) ++
        ['\n', '\x7d']) := rfl
  have length : entries.length < 2 * (Fingerprints.write ⟨entry :: entries⟩).length := by
    have few := length_le_intercalate entry entries
    rw [written]
    simp only [List.length_cons, List.length_append]
    omega
  have newline : isSpace '\n' = true := rfl
  have key : ∃ more, skip ('\n' :: ([',', '\n'].intercalate
      ((entry :: entries).map Fingerprints.writeEntry) ++ ['\n', '\x7d'])) = '"' :: more := by
    obtain ⟨more, starts⟩ := intercalate_starts entry entries
    rw [skip_cons_of_space newline, starts, List.append_assoc, skip_writeEntry]
    exact ⟨_, rfl⟩
  obtain ⟨more, key⟩ := key
  have read := readEntries_written entry entries _ length []
  rw [← readEntries_space newline] at read
  have value := readValue_table (2 * (Fingerprints.write ⟨entry :: entries⟩).length) key
  rw [read, ← written] at value
  rw [read?, value]
  rfl

end Json

namespace Datum

variable {α : Type}

def Ascending (entries : List (String × α)) : Prop := entries.Pairwise (·.1 < ·.1)

theorem mem_insertEntry {key : String} {value : α} {entries : List (String × α)}
    {entry : String × α} (h : entry ∈ insertEntry key value entries) :
    entry = (key, value) ∨ entry ∈ entries := by
  induction entries with
  | nil => exact .inl (List.mem_singleton.mp h)
  | cons first rest ih =>
    obtain ⟨k, v⟩ := first
    unfold insertEntry at h
    split at h
    · simpa using h
    · split at h
      · rcases List.mem_cons.mp h with h | h
        · exact .inl h
        · exact .inr (List.mem_cons_of_mem _ h)
      · rcases List.mem_cons.mp h with rfl | h
        · exact .inr List.mem_cons_self
        · exact (ih h).imp_right (List.mem_cons_of_mem _)

theorem ascending_insertEntry (key : String) (value : α) {entries : List (String × α)}
    (h : Ascending entries) : Ascending (insertEntry key value entries) := by
  induction entries with
  | nil => exact List.pairwise_singleton _ _
  | cons first rest ih =>
    obtain ⟨k, v⟩ := first
    obtain ⟨above, later⟩ := List.pairwise_cons.mp h
    unfold insertEntry
    split
    · rename_i hlt
      refine List.pairwise_cons.mpr ⟨fun entry mem => ?_, h⟩
      rcases List.mem_cons.mp mem with rfl | mem
      · exact hlt
      · exact String.lt_trans hlt (above entry mem)
    · rename_i hnot
      split
      · rename_i he
        subst he
        exact List.pairwise_cons.mpr ⟨above, later⟩
      · rename_i hne
        refine List.pairwise_cons.mpr ⟨fun entry mem => ?_, ih later⟩
        rcases mem_insertEntry mem with rfl | mem
        · exact key_lt_of_not_lt hnot hne
        · exact above entry mem

theorem insertEntry_last {key : String} (value : α) {entries : List (String × α)}
    (h : ∀ entry ∈ entries, entry.1 < key) :
    insertEntry key value entries = entries ++ [(key, value)] := by
  induction entries with
  | nil => rfl
  | cons first rest ih =>
    obtain ⟨k, v⟩ := first
    have hlt : k < key := h (k, v) List.mem_cons_self
    have hne : key ≠ k := fun he => String.lt_irrefl k (he ▸ hlt)
    rw [insertEntry, if_neg (String.lt_asymm hlt), if_neg hne,
      ih fun entry mem => h entry (List.mem_cons_of_mem _ mem)]
    rfl

end Datum

namespace Fingerprints

def Sorted (s : Fingerprints) : Prop := Datum.Ascending s.entries

theorem sorted_empty : Sorted {} := List.Pairwise.nil

theorem Sorted.put {s : Fingerprints} (sorted : s.Sorted) (site endpoint : String) :
    (s.put site endpoint).Sorted :=
  Datum.ascending_insertEntry site endpoint sorted

theorem ofEntries_ascending (before after : List (String × String))
    (h : Datum.Ascending (before ++ after)) :
    ofEntries (after.map fun e => (e.1, .text e.2)) ⟨before⟩ = some ⟨before ++ after⟩ := by
  induction after generalizing before with
  | nil => simp [ofEntries]
  | cons entry after ih =>
    have below : ∀ e ∈ before, e.1 < entry.1 := fun e mem =>
      (List.pairwise_append.mp h).2.2 e mem entry List.mem_cons_self
    rw [List.map_cons, ofEntries, put, Datum.insertEntry_last entry.2 below, ih _ (by simpa using h)]
    simp

theorem ofEntries_sorted {entries : List (String × Datum)} {s s' : Fingerprints}
    (sorted : s.Sorted) (h : ofEntries entries s = some s') : s'.Sorted := by
  induction entries generalizing s with
  | nil =>
    obtain rfl : s = s' := by simpa [ofEntries] using h
    exact sorted
  | cons entry entries ih =>
    obtain ⟨site, d⟩ := entry
    cases d with
    | text endpoint => exact ih (sorted.put site endpoint) h
    | _ => cases h

theorem sorted_of_bytes {bytes : List UInt8} {s : Fingerprints} (h : ofBytes? bytes = some s) :
    s.Sorted := by
  unfold ofBytes? at h
  split at h
  · obtain rfl := Option.some.inj h
    exact sorted_empty
  · simp only at h
    split at h
    · cases h
    · obtain ⟨d, -, hd⟩ := Option.bind_eq_some_iff.mp h
      cases d with
      | table entries => exact ofEntries_sorted sorted_empty hd
      | _ => cases hd

theorem write_starts (s : Fingerprints) : ∃ more, s.write = '\x7b' :: more := by
  unfold write
  split
  · exact ⟨_, rfl⟩
  · exact ⟨_, rfl⟩

theorem bytes_not_blank (s : Fingerprints) : s.bytes.all isBlankByte = false := by
  obtain ⟨more, starts⟩ := s.write_starts
  have brace : String.utf8EncodeChar '\x7b' = [0x7B] := by decide
  rw [bytes, Charset.toUTF8_toList, starts, List.flatMap_cons, brace]
  rfl

theorem read?_write {s : Fingerprints} (sorted : s.Sorted) :
    (Json.read? s.write).bind ofDatum? = some s := by
  obtain ⟨entries⟩ := s
  cases entries with
  | nil => rfl
  | cons entry entries =>
    rw [Json.read?_written]
    exact ofEntries_ascending [] (entry :: entries) sorted

/-- What is written is read back. -/
theorem ofBytes?_bytes {s : Fingerprints} (sorted : s.Sorted) : ofBytes? s.bytes = some s := by
  have errors : Charset.Output.hasErrors (s.write.map some) = false := by
    simp [Charset.Output.hasErrors]
  have text : (Charset.Output.text (s.write.map some)).toList = s.write := by
    simp [Charset.Output.text, Function.comp_def]
  rw [ofBytes?, if_neg (by simp [bytes_not_blank])]
  simp only [bytes, Charset.run_toUTF8, errors, text]
  exact read?_write sorted

end Fingerprints

end PageWatch
