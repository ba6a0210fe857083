import PageWatch.Proofs.Extraction.BasePath

/-!
# Spellings of a link

Pages write a link to the same item in many ways: with something before its first slash,
and with the base path in front of it as often as they like. Below a base path that the
rest of the link does not hold, all of them give one path.
-/

set_option autoImplicit false

namespace PageWatch

namespace Text

variable {word text : List Char}

theorem replaceAll_of_not_infix {new : List Char} (absent : ¬ word <:+: text) :
    replaceAll word new text = text := by
  induction text with
  | nil => rfl
  | cons c cs ih =>
    have missing : ¬ word <+: c :: cs := fun begins => absent begins.isInfix
    have later : ¬ word <:+: cs :=
      fun occurs => absent (occurs.trans (List.suffix_cons c cs).isInfix)
    rw [replaceAll_cons_of_not_begins missing, ih later]

def copies (word : List Char) (n : Nat) : List Char := (List.replicate n word).flatten

theorem copies_succ (word : List Char) (n : Nat) : copies word (n + 1) = word ++ copies word n := by
  rw [copies, copies, List.replicate_succ, List.flatten_cons]

/-- All copies in front of a text are taken out one after the other. -/
theorem replaceAll_copies (nonempty : word ≠ []) (n : Nat) (text : List Char) :
    replaceAll word [] (copies word n ++ text) = replaceAll word [] text := by
  induction n with
  | zero => rfl
  | succ n ih => rw [copies_succ, List.append_assoc, replaceAll_append_left nonempty, ih,
      List.nil_append]

end Text

namespace Link

structure IsBase (path : List Char) : Prop where
  begins : path.head? = some '/'
  single : path.tail.head? ≠ some '/'
  ends : path.getLast? ≠ some '/'

def IsSlug (slug : List Char) : Prop := slug ≠ [] ∧ slug.head? ≠ some '/'

theorem IsBase.eq_cons {path : List Char} (base : IsBase path) :
    ∃ c name, path = '/' :: c :: name ∧ c ≠ '/' := by
  obtain ⟨begins, single, ends⟩ := base
  cases path with
  | nil => cases begins
  | cons d path =>
    obtain rfl := Option.some.inj begins
    cases path with
    | nil => exact absurd rfl ends
    | cons c name => exact ⟨c, name, rfl, fun slash => single (congrArg some slash)⟩

theorem IsBase.ne_nil {path : List Char} (base : IsBase path) : path ≠ [] := by
  rintro rfl
  cases base.begins

theorem IsBase.stem_eq {path : List Char} (base : IsBase path) (j : Nat) :
    stem (path ++ List.replicate j '/') = path := by
  have slashes : ∀ c ∈ List.replicate j '/', (c == '/') = true := by
    intro c mem
    rw [(List.mem_replicate.mp mem).2]
    rfl
  have stays : path.reverse.dropWhile (· == '/') = path.reverse := by
    cases last : path.reverse with
    | nil => rfl
    | cons c rest =>
      have solid : c ≠ '/' := by
        rintro rfl
        apply base.ends
        rw [← List.head?_reverse, last]
        rfl
      rw [List.dropWhile_cons_of_neg (by simpa using solid)]
  rw [stem, List.reverse_append, List.reverse_replicate, List.dropWhile_append_of_pos slashes,
    stays, List.reverse_reverse]

theorem stem_slashes {path : List Char} (slashes : ∀ c ∈ path, c = '/') : stem path = [] := by
  rw [stem, List.reverse_eq_nil_iff, List.dropWhile_eq_nil_iff]
  intro c mem
  simpa using slashes c (List.mem_reverse.mp mem)

variable {lead slug : List Char}

theorem behind_of_slash {c : Char} (plain : '/' ∉ lead) (solid : c ≠ '/') (rest : List Char) :
    behind (lead ++ '/' :: c :: rest) = '/' :: c :: rest := by
  have passed : (lead ++ '/' :: c :: rest).dropWhile (· ≠ '/') = '/' :: c :: rest := by
    rw [List.dropWhile_append_of_pos, List.dropWhile_cons_of_neg (by simp)]
    intro d mem
    have other : d ≠ '/' := fun slash => plain (slash ▸ mem)
    simpa using other
  have kept : (c :: rest).dropWhile (· == '/') = c :: rest :=
    List.dropWhile_cons_of_neg (by simpa using solid)
  rw [behind, passed]
  show '/' :: (c :: rest).dropWhile (· == '/') = '/' :: c :: rest
  rw [kept]

theorem behind_copies {base : List Char} (isBase : IsBase base) (plain : '/' ∉ lead)
    (named : IsSlug slug) (n : Nat) :
    behind (lead ++ Text.copies base n ++ '/' :: slug) = Text.copies base n ++ '/' :: slug := by
  rw [List.append_assoc]
  cases n with
  | zero =>
    obtain ⟨c, rest, rfl⟩ := List.exists_cons_of_ne_nil named.1
    exact behind_of_slash plain (fun slash => named.2 (congrArg some slash)) rest
  | succ n =>
    obtain ⟨c, name, rfl, solid⟩ := isBase.eq_cons
    rw [Text.copies_succ]
    exact behind_of_slash plain solid (name ++ Text.copies ('/' :: c :: name) n ++ '/' :: slug)

/-- All spellings of a link give one path: whatever slashes end the base path, whatever stands
before the first slash of the link, and however often the link repeats the base path. Below the root
nothing but the slug counts. -/
theorem spellings_joined (plain : '/' ∉ lead) (named : IsSlug slug) :
    (∀ base, IsBase base → ¬ base <:+: '/' :: slug → ∀ j n,
        joinOnce (base ++ List.replicate j '/') (lead ++ Text.copies base n ++ '/' :: slug) =
          base ++ '/' :: slug) ∧
      ∀ root, (∀ c ∈ root, c = '/') → joinOnce root (lead ++ '/' :: slug) = '/' :: slug := by
  constructor
  · intro base isBase apart j n
    have stems := isBase.stem_eq j
    rw [joinOnce_eq (by rw [stems]; exact isBase.ne_nil), stems, behind_copies isBase plain named,
      Text.replaceAll_copies isBase.ne_nil, Text.replaceAll_of_not_infix apart]
  · intro root slashes
    obtain ⟨c, rest, rfl⟩ := List.exists_cons_of_ne_nil named.1
    rw [joinOnce_root (stem_slashes slashes)]
    exact behind_of_slash plain (fun slash => named.2 (congrArg some slash)) rest

theorem spellings_joined_overlap :
    '/' ∉ "p".toList ∧ IsSlug "x/y".toList ∧ IsBase "/x/x".toList ∧
      ¬ "/x/x".toList <:+: '/' :: "x/y".toList ∧
      joinOnce "/x/x//".toList "p/x/x/x/x/x/y".toList = "/x/x/x/y".toList ∧
      joinOnce "//".toList "p/x/y".toList = "/x/y".toList := by
  have plain : '/' ∉ "p".toList := by decide
  have named : IsSlug "x/y".toList := ⟨by decide, by decide⟩
  have isBase : IsBase "/x/x".toList := ⟨by decide, by decide, by decide⟩
  have apart : ¬ "/x/x".toList <:+: '/' :: "x/y".toList := by decide +kernel
  have main := spellings_joined plain named
  have slashes : ∀ c ∈ "//".toList, c = '/' := by simp
  exact ⟨plain, named, isBase, apart, main.1 _ isBase apart 2 2, main.2 "//".toList slashes⟩

end Link

end PageWatch
