import Mathlib.Data.List.DropRight
import PageWatch.Text.Blank

/-!
# Texts stripped at both ends

Blanks are taken off both ends of a text, and quotes off both ends of a label. What was taken
off is of the kind, and what is left neither begins nor ends with a character of it. Only one
part of a text stands so, and stripping finds it.
-/

set_option autoImplicit false

namespace PageWatch.Text

def strip (p : Char → Bool) (cs : List Char) : List Char := (cs.dropWhile p).rdropWhile p

/-- The text is the inside with characters of a kind around it. -/
def Wrapped (p : Char → Bool) (inside cs : List Char) : Prop :=
  ∃ l r, cs = l ++ inside ++ r ∧ (∀ c ∈ l, p c = true) ∧ ∀ c ∈ r, p c = true

def Bare (p : Char → Bool) (cs : List Char) : Prop :=
  (∀ c ∈ cs.head?, p c = false) ∧ ∀ c ∈ cs.getLast?, p c = false

instance (p : Char → Bool) (cs : List Char) : Decidable (Bare p cs) :=
  decidable_of_iff (cs.head?.all (!p ·) = true ∧ cs.getLast?.all (!p ·) = true)
    (by simp [Bare, Option.all_eq_true])

variable {p : Char → Bool} {inside outer cs : List Char}

theorem Wrapped.trans (inner : Wrapped p inside outer) (around : Wrapped p outer cs) :
    Wrapped p inside cs := by
  obtain ⟨l, r, rfl, before, after⟩ := inner
  obtain ⟨l', r', rfl, before', after'⟩ := around
  exact ⟨l' ++ l, r ++ r', by simp only [List.append_assoc],
    List.forall_mem_append.mpr ⟨before', before⟩, List.forall_mem_append.mpr ⟨after, after'⟩⟩

theorem Wrapped.forall_mem {P : Char → Prop} (wrapped : Wrapped p inside cs)
    (within : ∀ c ∈ inside, P c) (around : ∀ c, p c = true → P c) : ∀ c ∈ cs, P c := by
  obtain ⟨l, r, rfl, before, after⟩ := wrapped
  simp only [List.forall_mem_append]
  exact ⟨⟨fun c mem => around c (before c mem), within⟩, fun c mem => around c (after c mem)⟩

theorem bare_of_forall (solid : ∀ c ∈ cs, p c = false) : Bare p cs :=
  ⟨fun c first => solid c (List.mem_of_mem_head? first),
    fun c last => solid c (List.mem_of_mem_getLast? last)⟩

theorem wrapped_strip (p : Char → Bool) (cs : List Char) : Wrapped p (strip p cs) cs := by
  refine ⟨cs.takeWhile p, (cs.dropWhile p).rtakeWhile p, ?_, fun c => List.mem_takeWhile_imp,
    fun c => List.mem_rtakeWhile_imp⟩
  rw [List.append_assoc, strip, List.rdropWhile_append_rtakeWhile,
    List.takeWhile_append_dropWhile]

theorem bare_strip (p : Char → Bool) (cs : List Char) : Bare p (strip p cs) := by
  constructor
  · intro c first
    -- The first character that is left is the first one behind the front.
    obtain ⟨back, whole⟩ := List.rdropWhile_prefix p (cs.dropWhile p)
    have behind : (cs.dropWhile p).head? = some c := by
      rw [← whole, List.head?_append, ← strip, Option.mem_def.mp first, Option.some_or]
    have stop := List.head?_dropWhile_not p cs
    rw [behind] at stop
    simpa using stop
  · intro c last
    have nonempty : strip p cs ≠ [] := by
      intro empty
      rw [empty] at last
      cases last
    rw [Option.mem_def, List.getLast?_eq_some_getLast nonempty] at last
    obtain rfl := Option.some.inj last
    exact Bool.eq_false_iff.mpr (List.rdropWhile_last_not p _ nonempty)

theorem strip_of_wrapped (wrapped : Wrapped p inside cs) (bare : Bare p inside) :
    strip p cs = inside := by
  obtain ⟨l, r, rfl, before, after⟩ := wrapped
  rw [strip, List.append_assoc, List.dropWhile_append_of_pos before]
  cases inside with
  | nil =>
    rw [List.nil_append, List.dropWhile_eq_nil_iff.mpr after]
    rfl
  | cons c inside =>
    have behind : ∀ d ∈ r.reverse, p d = true := fun d mem => after d (List.mem_reverse.mp mem)
    have ends : (c :: inside).rdropWhile p = c :: inside := by
      rw [List.rdropWhile_eq_self_iff]
      intro nonempty
      exact Bool.eq_false_iff.mp (bare.2 _ (List.getLast?_eq_some_getLast nonempty))
    rw [List.cons_append, List.dropWhile_cons_of_neg (Bool.eq_false_iff.mp (bare.1 c rfl)),
      ← List.cons_append, List.rdropWhile, List.reverse_append,
      List.dropWhile_append_of_pos behind]
    exact ends

/-- What is left of a text is told by what was taken off and by where that ends. -/
theorem strip_iff : strip p cs = inside ↔ Wrapped p inside cs ∧ Bare p inside := by
  constructor
  · rintro rfl
    exact ⟨wrapped_strip p cs, bare_strip p cs⟩
  · rintro ⟨wrapped, bare⟩
    exact strip_of_wrapped wrapped bare

theorem trim_iff : trim cs = inside ↔ Wrapped isBlank inside cs ∧ Bare isBlank inside := strip_iff

theorem trim_of_bare (bare : Bare isBlank cs) : trim cs = cs :=
  trim_iff.mpr ⟨⟨[], [], by simp, List.forall_mem_nil _, List.forall_mem_nil _⟩, bare⟩

theorem mem_strip {c : Char} (solid : p c = false) : c ∈ strip p cs ↔ c ∈ cs := by
  obtain ⟨l, r, whole, before, after⟩ := wrapped_strip p cs
  have off {cs' : List Char} (kind : ∀ d ∈ cs', p d = true) : c ∉ cs' := by
    intro mem
    rw [kind c mem] at solid
    cases solid
  have inside : c ∈ l ++ strip p cs ++ r ↔ c ∈ strip p cs := by simp [off before, off after]
  rw [← inside, ← whole]

theorem strip_eq_nil : strip p cs = [] ↔ ∀ c ∈ cs, p c = true := by
  constructor
  · intro empty c mem
    by_contra solid
    have kept := (mem_strip (Bool.eq_false_iff.mpr solid)).mpr mem
    rw [empty] at kept
    cases kept
  · intro all
    have none_left : Wrapped p [] cs :=
      ⟨cs, [], by simp, all, List.forall_mem_nil _⟩
    exact strip_iff.mpr ⟨none_left, bare_of_forall (List.forall_mem_nil _)⟩

end PageWatch.Text
