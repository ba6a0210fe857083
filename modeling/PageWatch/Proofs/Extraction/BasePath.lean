import Mathlib.Data.List.DropRight
import PageWatch.Extraction.Link
import PageWatch.Proofs.Text.Nesting

/-!
# The base path of a link

A link is put behind the base path after the copies of the base path were taken out of
it. So the base path occurs once, unless a copy of it stood inside another: then the
rest of the outer one comes together.
-/

set_option autoImplicit false

namespace PageWatch.Link

def stem (basePath : List Char) : List Char := (basePath.reverse.dropWhile (· == '/')).reverse

/-- A link as it is put behind a base path: from its first slash on, and with one slash in front. -/
def behind (link : List Char) : List Char :=
  let tail := link.dropWhile (· ≠ '/')
  '/' :: (if tail.isEmpty then link else tail).dropWhile (· == '/')

variable {basePath link : List Char}

theorem stem_ne_nil (named : ∃ c ∈ basePath, c ≠ '/') : stem basePath ≠ [] := by
  obtain ⟨c, mem, solid⟩ := named
  intro empty
  have slashes : ∀ c ∈ basePath, (c == '/') = true := List.rdropWhile_eq_nil_iff.mp empty
  exact solid (beq_iff_eq.mp (slashes c mem))

theorem joinOnce_unfold (basePath link : List Char) :
    joinOnce basePath link =
      if (stem basePath).isEmpty then stem basePath ++ behind link
      else stem basePath ++ Text.replaceAll (stem basePath) [] (stem basePath ++ behind link) := rfl

theorem joinOnce_root (root : stem basePath = []) : joinOnce basePath link = behind link := by
  rw [joinOnce_unfold, root]
  rfl

theorem joinOnce_eq (nonempty : stem basePath ≠ []) :
    joinOnce basePath link =
      stem basePath ++ Text.replaceAll (stem basePath) [] (behind link) := by
  rw [joinOnce_unfold, if_neg (by simpa using nonempty), Text.replaceAll_append_left nonempty,
    List.nil_append]

theorem unbordered_of_name {name : List Char} (single : '/' ∉ name) :
    Text.Unbordered ('/' :: name) := by
  intro s begins ends
  rcases List.prefix_cons_iff.mp begins with rfl | ⟨t, rfl, -⟩
  · exact .inl rfl
  · refine .inr ?_
    rcases List.suffix_cons_iff.mp ends with whole | inside
    · exact whole
    · exact absurd (inside.subset List.mem_cons_self) single

/-- The base path stands in front, and behind it it does not occur again unless a copy of it in the
link has others inside it. A base path that does not overlap itself does occur again then. -/
theorem base_path_once (basePath link : List Char) (named : ∃ c ∈ basePath, c ≠ '/') :
    ∃ rest, joinOnce basePath link = stem basePath ++ rest ∧
      (¬ Text.Nested (stem basePath) (behind link) → ¬ stem basePath <:+: rest) ∧
      (Text.Unbordered (stem basePath) → Text.Nested (stem basePath) (behind link) →
        stem basePath <:+: rest) := by
  have nonempty := stem_ne_nil named
  refine ⟨_, joinOnce_eq nonempty, ?_, ?_⟩
  · exact fun apart occurs => apart (Text.nested_of_infix nonempty occurs)
  · exact fun unbordered nested => unbordered.infix_of_nested nested

theorem base_path_once_sample :
    (∃ c ∈ "/news/".toList, c ≠ '/') ∧
      joinOnce "/news/".toList "news/news/news-1".toList = "/news-1".toList ∧
      ¬ Text.Nested "/news".toList (behind "news/news/news-1".toList) ∧
      ¬ "/news".toList <:+: "-1".toList := by
  have named : ∃ c ∈ "/news/".toList, c ≠ '/' := ⟨'n', by decide, by decide⟩
  have joined : joinOnce "/news/".toList "news/news/news-1".toList =
      "/news".toList ++ "-1".toList := by decide +kernel
  obtain ⟨rest, split, once, again⟩ :=
    base_path_once "/news/".toList "news/news/news-1".toList named
  have stems : stem "/news/".toList = "/news".toList := by decide +kernel
  rw [stems] at split once again
  obtain rfl : rest = "-1".toList := List.append_cancel_left (split.symm.trans joined)
  have apart : ¬ Text.Nested "/news".toList (behind "news/news/news-1".toList) := by
    intro nested
    exact absurd (again (unbordered_of_name (by decide)) nested) (by decide)
  exact ⟨named, joined, apart, once apart⟩

/-- In this link the base path stands inside a copy of itself. -/
theorem base_path_twice :
    ¬ ∀ basePath link : List Char, basePath.head? = some '/' → (∃ c ∈ basePath, c ≠ '/') →
      ∃ rest, joinOnce basePath link = stem basePath ++ rest ∧ ¬ stem basePath <:+: rest := by
  intro always
  obtain ⟨rest, split, once⟩ := always "/news".toList "/ne/newsws/item".toList rfl
    ⟨'n', by decide, by decide⟩
  have joined : joinOnce "/news".toList "/ne/newsws/item".toList =
      "/news".toList ++ "/news/item".toList := by decide +kernel
  have stems : stem "/news".toList = "/news".toList := by decide +kernel
  rw [stems] at split once
  obtain rfl : rest = "/news/item".toList := List.append_cancel_left (split.symm.trans joined)
  exact once (by decide)

end PageWatch.Link
