import PageWatch.Data.Decode
import PageWatch.Proofs.Data.Results

/-!
# Records that are read

Whatever a record is read from, it comes from its start by fields that are read one
after another. What holds at the start and is kept by every field holds of the record.
-/

set_option autoImplicit false

namespace PageWatch

namespace Datum

variable {α : Type} {fields : List (Field α)} {Holds : α → Prop}

def Keep (fields : List (Field α)) (Holds : α → Prop) : Prop :=
  ∀ field ∈ fields, ∀ a d a', Holds a → field.2 a d = .ok a' → Holds a'

theorem Keep.nil : Keep [] Holds := fun _ mem => absurd mem List.not_mem_nil

theorem Keep.cons {field : Field α}
    (first : ∀ a d a', Holds a → field.2 a d = .ok a' → Holds a') (rest : Keep fields Holds) :
    Keep (field :: fields) Holds :=
  List.forall_mem_cons.mpr ⟨first, rest⟩

theorem keeps_part {β : Type} {read : Datum → Decoded β} {put : α → β → α}
    (kept : ∀ a b, Holds a → Holds (put a b)) (a : α) (d : Datum) (a' : α) (holds : Holds a)
    (h : (do return put a (← read d)) = Except.ok a') : Holds a' := by
  obtain ⟨b, -, h⟩ := bind_eq_ok.mp h
  obtain rfl := Except.ok.inj h
  exact kept a b holds

theorem Keep.readEntry (keep : Keep fields Holds) {a a' : α} {entry : String × Datum}
    (holds : Holds a) (read : readEntry fields a entry = .ok a') : Holds a' := by
  unfold Datum.readEntry at read
  split at read
  · rename_i found
    exact keep _ (List.mem_of_find?_eq_some found) a entry.2 a' holds read
  · obtain rfl := Except.ok.inj read
    exact holds

theorem Keep.readEntries (keep : Keep fields Holds) {entries : List (String × Datum)} {a a' : α}
    (holds : Holds a) (read : entries.foldlM (Datum.readEntry fields) a = .ok a') : Holds a' := by
  induction entries generalizing a with
  | nil =>
    obtain rfl := Except.ok.inj read
    exact holds
  | cons entry rest ih =>
    rw [List.foldlM_cons] at read
    obtain ⟨next, first, read⟩ := bind_eq_ok.mp read
    exact ih (keep.readEntry holds first) read

theorem Keep.readInOrder (keep : Keep fields Holds) {items : List Datum} {a a' : α}
    (holds : Holds a) (read : readInOrder a fields items = .ok a') : Holds a' := by
  induction fields generalizing a items with
  | nil =>
    obtain rfl := Except.ok.inj read
    exact holds
  | cons field rest ih =>
    cases items with
    | nil =>
      obtain rfl := Except.ok.inj read
      exact holds
    | cons d items =>
      obtain ⟨next, first, read⟩ := bind_eq_ok.mp read
      have later : Keep rest Holds := fun other mem => keep other (List.mem_cons_of_mem field mem)
      exact ih later (keep field (List.mem_cons_self ..) a d next holds first) read

/-- What holds at the start of a record and is kept by its fields holds of the record. -/
theorem asRecord_induction {f : DataFormat} {name : String}
    {needed : List (String × (α → Bool))} {start a : α} {d : Datum} (keep : Keep fields Holds)
    (holds : Holds start) (read : d.asRecord f name fields needed start = .ok a) : Holds a := by
  unfold asRecord at read
  split at read
  · obtain ⟨a', entries, read⟩ := bind_eq_ok.mp read
    split at read
    · cases read
    · obtain rfl := Except.ok.inj read
      exact keep.readEntries holds entries
  · split at read
    · cases read
    · obtain rfl := Except.ok.inj read
      exact holds
  · obtain ⟨a', items, read⟩ := bind_eq_ok.mp read
    split at read
    · cases read
    · split at read
      · cases read
      · obtain rfl := Except.ok.inj read
        exact keep.readInOrder holds items
  · cases read

end Datum

end PageWatch
