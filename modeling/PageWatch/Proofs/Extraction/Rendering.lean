import PageWatch.Extraction.Message
import PageWatch.Proofs.Text.Replacement

/-!
# Messages that are filled at once

A template is cut into its placeholders and the characters between them. Filling one
placeholder after the other comes to the same as filling all of them at once, as long as
nothing that was put in takes part in a placeholder that is filled later.
-/

set_option autoImplicit false

namespace PageWatch

inductive Piece where
  | slot (p : Placeholder)
  | char (c : Char)

/-- A template is cut into the placeholders that stand in it and single characters. -/
inductive Pieces : List Char → List Piece → Prop where
  | nil : Pieces [] []
  | slot (p : Placeholder) {rest : List Char} {pieces : List Piece} (later : Pieces rest pieces) :
    Pieces (p.text.toList ++ rest) (.slot p :: pieces)
  | char {c : Char} {rest : List Char} {pieces : List Piece}
      (plain : ∀ p : Placeholder, ¬ p.text.toList <+: c :: rest) (later : Pieces rest pieces) :
    Pieces (c :: rest) (.char c :: pieces)

def Piece.filled (value : Placeholder → List Char) : Piece → List Char
  | slot p => value p
  | char c => [c]

namespace Placeholder

theorem text_opens (p : Placeholder) :
    ∃ tail, p.text.toList = '\x7b' :: tail ∧ '\x7b' ∉ tail := by
  cases p <;> exact ⟨_, rfl, by decide⟩

theorem text_closed {p q : Placeholder} (apart : q ≠ p) :
    ¬ Text.Opens p.text.toList q.text.toList := by
  cases p <;> cases q <;> first | exact absurd rfl apart | decide

theorem text_ne_nil (p : Placeholder) : p.text.toList ≠ [] := by
  obtain ⟨tail, whole, -⟩ := p.text_opens
  exact whole ▸ List.cons_ne_nil _ tail

theorem eq_of_text_append {p q : Placeholder} {rest rest' : List Char}
    (h : p.text.toList ++ rest = q.text.toList ++ rest') : p = q ∧ rest = rest' := by
  have same : p = q := by
    by_contra apart
    refine text_closed apart ⟨_, (List.mem_tails _ _).mpr (List.suffix_refl _), p.text_ne_nil, ?_⟩
    exact List.prefix_or_prefix_of_prefix (h ▸ List.prefix_append _ rest)
      (List.prefix_append _ rest')
  rw [same] at h
  exact ⟨same, List.append_cancel_left h⟩

end Placeholder

namespace Pieces

variable {template : List Char} {pieces other : List Piece}

/-- There is one way to cut a template. -/
theorem unique (cut : Pieces template pieces) (cut' : Pieces template other) : other = pieces := by
  induction cut generalizing other with
  | nil =>
    generalize whole : ([] : List Char) = text at cut'
    cases cut' with
    | nil => rfl
    | slot p later => exact absurd whole.symm (List.append_ne_nil_of_left_ne_nil p.text_ne_nil _)
    | char plain later => cases whole
  | slot p later ih =>
    generalize whole : p.text.toList ++ _ = text at cut'
    cases cut' with
    | nil => exact absurd whole (List.append_ne_nil_of_left_ne_nil p.text_ne_nil _)
    | slot q later' =>
      obtain ⟨rfl, rfl⟩ := Placeholder.eq_of_text_append whole
      rw [ih later']
    | char plain later' => exact absurd (whole ▸ List.prefix_append _ _) (plain p)
  | @char c rest pieces plain later ih =>
    generalize whole : c :: rest = text at cut'
    cases cut' with
    | nil => cases whole
    | slot q later' => exact absurd (whole ▸ List.prefix_append _ _) (plain q)
    | char plain' later' =>
      obtain ⟨rfl, rfl⟩ := List.cons.inj whole
      rw [ih later']

theorem exists_pieces (template : List Char) : ∃ pieces, Pieces template pieces := by
  induction hn : template.length using Nat.strongRecOn generalizing template with
  | ind n ih =>
    cases template with
    | nil => exact ⟨[], .nil⟩
    | cons c rest =>
      by_cases plain : ∀ p : Placeholder, ¬ p.text.toList <+: c :: rest
      · obtain ⟨pieces, later⟩ := ih rest.length (by simp [← hn]) rest rfl
        exact ⟨_, .char plain later⟩
      · simp only [not_forall, not_not] at plain
        obtain ⟨p, after, whole⟩ := plain
        have positive := List.length_pos_iff.mpr p.text_ne_nil
        have length := congrArg List.length whole
        rw [List.length_append, hn] at length
        obtain ⟨pieces, later⟩ := ih after.length (by omega) after rfl
        exact ⟨.slot p :: pieces, whole ▸ Pieces.slot p later⟩

end Pieces

section Filling

variable (value : Placeholder → List Char) (done : List Placeholder)

def Piece.shown : Piece → List Char
  | slot p => if p ∈ done then value p else p.text.toList
  | char c => [c]

variable {value done} {template : List Char} {pieces : List Piece}

theorem Pieces.text_eq (cut : Pieces template pieces) :
    pieces.flatMap (Piece.shown value []) = template := by
  induction cut with
  | nil => rfl
  | slot p later ih => rw [List.flatMap_cons, ih, Piece.shown, if_neg List.not_mem_nil]
  | char plain later ih => rw [List.flatMap_cons, ih, Piece.shown, List.singleton_append]

theorem Pieces.begins (cut : Pieces template pieces) {s : List Char} (braceless : '\x7b' ∉ s)
    (starts : s <+: pieces.flatMap (Piece.shown value done)) :
    s <+: template ∨
      ∃ q ∈ done, ∃ u, u <+: s ∧ u ≠ s ∧ u ++ q.text.toList <+: template := by
  induction cut generalizing s with
  | nil => exact .inl starts
  | @slot q rest pieces later ih =>
    cases s with
    | nil => exact .inl List.nil_prefix
    | cons c s =>
      rw [List.flatMap_cons, Piece.shown] at starts
      split at starts
      · rename_i filled
        exact .inr ⟨q, filled, [], List.nil_prefix, (List.cons_ne_nil c s).symm,
          List.prefix_append q.text.toList rest⟩
      · obtain ⟨tail, whole, -⟩ := q.text_opens
        rw [whole, List.cons_append, List.cons_prefix_cons] at starts
        exact absurd (starts.1 ▸ List.mem_cons_self) braceless
  | @char c rest pieces plain later ih =>
    rw [List.flatMap_cons, Piece.shown, List.singleton_append] at starts
    rcases List.prefix_cons_iff.mp starts with rfl | ⟨s, rfl, later⟩
    · exact .inl List.nil_prefix
    · rcases ih (fun mem => braceless (List.mem_cons_of_mem c mem)) later with
        here | ⟨q, filled, u, inside, proper, place⟩
      · exact .inl ((List.prefix_cons_inj c).mpr here)
      · exact .inr ⟨q, filled, c :: u, (List.prefix_cons_inj c).mpr inside,
          fun same => proper (List.cons.inj same).2, (List.prefix_cons_inj c).mpr place⟩

/-- The value of `q` takes no part in an occurrence of `p`: none can begin in it, and in the
template nothing that `p` begins with stands right before `q`. -/
structure Harmless (value : Placeholder → List Char) (template : List Char) (q p : Placeholder) :
    Prop where
  closed : ¬ Text.Opens p.text.toList (value q)
  apart : ∀ s ∈ p.text.toList.inits, s ≠ [] → s ≠ p.text.toList →
    ¬ s ++ q.text.toList <:+: template

instance (value : Placeholder → List Char) (template : List Char) (q p : Placeholder) :
    Decidable (Harmless value template q p) :=
  decidable_of_iff
    (¬ Text.Opens p.text.toList (value q) ∧
      ∀ s ∈ p.text.toList.inits, s ≠ [] → s ≠ p.text.toList → ¬ s ++ q.text.toList <:+: template)
    ⟨fun h => ⟨h.1, h.2⟩, fun h => ⟨h.closed, h.apart⟩⟩

theorem Harmless.mono {more : List Char} {q p : Placeholder} (harmless : Harmless value more q p)
    (inside : template <:+: more) : Harmless value template q p :=
  { harmless with
    apart := fun s mem nonempty proper place =>
      harmless.apart s mem nonempty proper (place.trans inside) }

/-- After values that are harmless a placeholder is found just where the template has it. -/
theorem Pieces.replaceAll_shown (cut : Pieces template pieces) {p : Placeholder}
    (unfilled : p ∉ done) (harmless : ∀ q ∈ done, Harmless value template q p) :
    Text.replaceAll p.text.toList (value p) (pieces.flatMap (Piece.shown value done)) =
      pieces.flatMap (Piece.shown value (done ++ [p])) := by
  induction cut with
  | nil => rfl
  | @slot q rest pieces later ih =>
    have ih := ih fun q filled => (harmless q filled).mono (List.suffix_append _ rest).isInfix
    rw [List.flatMap_cons, List.flatMap_cons, ← ih]
    by_cases same : q = p
    · subst same
      simp [Piece.shown, unfilled, Text.replaceAll_append_left q.text_ne_nil]
    · by_cases filled : q ∈ done
      · simp [Piece.shown, filled, same,
          Text.replaceAll_append_of_not_opens (harmless q filled).closed]
      · simp [Piece.shown, filled, same,
          Text.replaceAll_append_of_not_opens (Placeholder.text_closed same)]
  | @char c rest pieces plain later ih =>
    have ih := ih fun q filled => (harmless q filled).mono (List.suffix_cons c rest).isInfix
    have missing : ¬ p.text.toList <+: c :: pieces.flatMap (Piece.shown value done) := by
      intro starts
      obtain ⟨tail, whole, braceless⟩ := p.text_opens
      rw [whole, List.cons_prefix_cons] at starts
      obtain ⟨rfl, starts⟩ := starts
      rcases later.begins braceless starts with here | ⟨q, filled, u, inside, proper, place⟩
      · exact plain p (whole ▸ (List.prefix_cons_inj _).mpr here)
      · refine (harmless q filled).apart ('\x7b' :: u) ((List.mem_inits _ _).mpr ?_)
          (List.cons_ne_nil _ u) ?_ ?_
        · exact whole ▸ (List.prefix_cons_inj _).mpr inside
        · exact fun same => proper (List.cons.inj (same.trans whole)).2
        · exact List.IsPrefix.isInfix ((List.prefix_cons_inj '\x7b').mpr place)
    rw [List.flatMap_cons, List.flatMap_cons, ← ih]
    exact Text.replaceAll_cons_of_not_begins missing

theorem Pieces.foldl_shown (cut : Pieces template pieces) (done todo : List Placeholder)
    (distinct : (done ++ todo).Nodup)
    (harmless : (done ++ todo).Pairwise (Harmless value template)) :
    todo.foldl (fun text p => Text.replaceAll p.text.toList (value p) text)
        (pieces.flatMap (Piece.shown value done)) =
      pieces.flatMap (Piece.shown value (done ++ todo)) := by
  induction todo generalizing done with
  | nil => rw [List.append_nil, List.foldl_nil]
  | cons p todo ih =>
    have unfilled : p ∉ done := fun filled =>
      (List.nodup_append.mp distinct).2.2 p filled p List.mem_cons_self rfl
    have before : ∀ q ∈ done, Harmless value template q p := fun q filled =>
      (List.pairwise_append.mp harmless).2.2 q filled p List.mem_cons_self
    rw [List.append_cons] at distinct harmless ⊢
    rw [List.foldl_cons, cut.replaceAll_shown unfilled before, ih _ distinct harmless]

end Filling

def Placeholder.order : List Placeholder := [.site, .title, .link, .date]

theorem Item.message_toList (i : Item) (template site : String) :
    (i.message template site).toList =
      Placeholder.order.foldl
        (fun text p => Text.replaceAll p.text.toList (i.value site p).toList text)
        template.toList := by
  simp only [message, Placeholder.order, List.foldl_cons, List.foldl_nil, Text.replaced,
    String.toList_ofList]

/-- A message is the template with all placeholders filled at once, where no value takes part in a
placeholder that is filled after it. -/
theorem Item.filled_at_once (i : Item) (template site : String)
    (harmless : Placeholder.order.Pairwise
      (Harmless (fun p => (i.value site p).toList) template.toList)) :
    ∃ pieces, (∀ other, Pieces template.toList other ↔ other = pieces) ∧
      (i.message template site).toList =
        pieces.flatMap (Piece.filled fun p => (i.value site p).toList) := by
  obtain ⟨pieces, cut⟩ := Pieces.exists_pieces template.toList
  refine ⟨pieces, fun other => ⟨cut.unique, fun same => same ▸ cut⟩, ?_⟩
  have filled := cut.foldl_shown [] Placeholder.order (by decide) harmless
  rw [cut.text_eq] at filled
  rw [Item.message_toList, filled]
  refine List.flatMap_congr fun piece _ => ?_
  rcases piece with (_ | _ | _ | _) | c <;> rfl

def sampleNews (title : String) : Item where
  title
  endpoint := "https://example.com/1"
  publishedAt := .midnight ⟨2024, 10, 25, by decide⟩

theorem Item.filled_at_once_sample :
    (Placeholder.order.Pairwise
      (Harmless (fun p => ((sampleNews "\x7b1\x7d").value "A" p).toList)
        "\x7btitle\x7d \x7bdate\x7d".toList)) ∧
      (sampleNews "\x7b1\x7d").message "\x7btitle\x7d \x7bdate\x7d" "A" =
        "\x7b1\x7d 2024-10-25" := by
  have harmless : Placeholder.order.Pairwise
      (Harmless (fun p => ((sampleNews "\x7b1\x7d").value "A" p).toList)
        "\x7btitle\x7d \x7bdate\x7d".toList) := by decide +kernel
  obtain ⟨pieces, cut, filled⟩ := Item.filled_at_once _ _ _ harmless
  have blank : ∀ p : Placeholder, ¬ p.text.toList <+: ' ' :: Placeholder.date.text.toList := by
    intro p
    cases p <;> decide
  obtain rfl : [.slot .title, .char ' ', .slot .date] = pieces :=
    (cut _).mp (.slot .title (.char blank (.slot .date .nil)))
  refine ⟨harmless, String.toList_injective (filled.trans ?_)⟩
  decide +kernel

/-- A placeholder in a title is filled, too. -/
theorem Item.filled_again :
    ¬ ∀ (i : Item) (template site : String) (pieces : List Piece),
      Pieces template.toList pieces → (i.message template site).toList =
        pieces.flatMap (Piece.filled fun p => (i.value site p).toList) := by
  intro always
  have filled := always (sampleNews "\x7blink\x7d") "\x7btitle\x7d" "A" [.slot .title]
    (.slot .title .nil)
  have changed : (sampleNews "\x7blink\x7d").message "\x7btitle\x7d" "A" =
      "https://example.com/1" := by decide +kernel
  rw [changed] at filled
  exact absurd filled (by decide +kernel)

end PageWatch
