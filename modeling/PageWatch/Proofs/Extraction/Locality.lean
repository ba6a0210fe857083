import PageWatch.Proofs.Extraction.Endpoints

/-!
# Where an extraction looks

Title and link are read off the content block and what is inside it, and so is the
date, unless the rules say that it may stand anywhere. Of the page around the block
an extraction sees no more than the text of the first element with such a date.
-/

set_option autoImplicit false

namespace PageWatch

namespace Node

mutual

theorem preorder_infix_of_mem {m : Node} :
    ∀ {n : Node}, m ∈ n.preorder → m.preorder <:+: n.preorder
  | element tag attributes children, h => by
    rcases List.mem_cons.mp h with rfl | h
    · exact List.infix_rfl
    · exact (preorderAll_infix_of_mem h).trans (List.suffix_cons ..).isInfix
  | text content, h => by
    obtain rfl := List.mem_singleton.mp h
    exact List.infix_rfl
  | comment content, h => by
    obtain rfl := List.mem_singleton.mp h
    exact List.infix_rfl

theorem preorderAll_infix_of_mem {m : Node} :
    ∀ {nodes : List Node}, m ∈ preorderAll nodes → m.preorder <:+: preorderAll nodes
  | [], h => absurd h List.not_mem_nil
  | n :: rest, h => by
    rcases List.mem_append.mp h with h | h
    · exact (preorder_infix_of_mem h).trans (List.prefix_append ..).isInfix
    · exact (preorderAll_infix_of_mem h).trans (List.suffix_append ..).isInfix

end

theorem descendants_suffix (n : Node) : n.descendants <:+ n.preorder := by
  cases n with
  | element tag attributes children => exact List.suffix_cons ..
  | _ => exact List.nil_suffix

theorem elements_subset {m n : Node} (h : m ∈ n.elements) : m.elements ⊆ n.elements := by
  have below : m.preorder <:+: n.descendants :=
    preorderAll_infix_of_mem (List.mem_of_mem_filter h)
  intro x hx
  obtain ⟨hx, element⟩ := List.mem_filter.mp hx
  exact List.mem_filter.mpr ⟨below.subset (m.descendants_suffix.subset hx), element⟩

def Holds (n x : Node) : Prop := x = n ∨ x ∈ n.elements

theorem Holds.trans {n m x : Node} (outer : n.Holds m) (inner : m.Holds x) : n.Holds x := by
  rcases outer with rfl | outer
  · exact inner
  · rcases inner with rfl | inner
    · exact .inr outer
    · exact .inr (elements_subset outer inner)

theorem holds_of_find? {n x : Node} {m : Matcher} (h : n.find? m = some x) : n.Holds x :=
  .inr (List.mem_of_find?_eq_some h)

theorem holds_of_findTag? {n x : Node} {tag : String} (h : n.findTag? tag = some x) : n.Holds x :=
  .inr (List.mem_of_find?_eq_some h)

end Node

theorem holds_of_descend {tags : List String} {block x : Node}
    (h : descend block tags = some x) : block.Holds x := by
  induction tags generalizing block with
  | nil => exact .inl (Option.some.inj h).symm
  | cons tag tags ih =>
    rw [descend, List.foldlM_cons] at h
    obtain ⟨next, first, rest⟩ := Option.bind_eq_some_iff.mp h
    exact (Node.holds_of_findTag? first).trans (ih rest)

/-- The date may stand outside the content block. -/
def DateLocator.Global (l : DateLocator) : Prop := ∃ m, l = .anywhere m

section

variable {d d' : Document} {block : Node} {rules : RuleSet} {cutoff : Calendar.Timestamp}

theorem dateNode?_of_nested {l : DateLocator} (nested : ¬ l.Global) :
    dateNode? d block l = dateNode? d' block l := by
  cases l with
  | inBlock m => rfl
  | alongTags tags => rfl
  | anywhere m => exact absurd ⟨m, rfl⟩ nested

theorem holds_of_dateNode? {l : DateLocator} {x : Node} (h : dateNode? d block l = some x) :
    block.Holds x ∨ ∃ m, l = .anywhere m ∧ d.find? m = some x := by
  cases l with
  | inBlock m => exact .inl (Node.holds_of_find? h)
  | alongTags tags => exact .inl (holds_of_descend h)
  | anywhere m => exact .inr ⟨m, rfl, h⟩

theorem holds_of_titleNode? {l : TitleLocator} {x : Node} (h : titleNode? block l = some x) :
    block.Holds x := by
  cases l with
  | block => exact .inl (Option.some.inj h).symm
  | alternatives q =>
    obtain ⟨m, -, found⟩ := List.exists_of_findSome?_eq_some h
    exact Node.holds_of_find? found

theorem titleAndLink_source {node : Node} {title link : String}
    (h : titleAndLink node = .ok (title, link)) :
    ∃ source, node.Holds source ∧ source.readableText = title ∧
      (source.attribute? "href").map Text.trimmed = some link := by
  simp only [titleAndLink] at h
  split at h
  · rename_i given
    obtain ⟨rfl, rfl⟩ := Prod.mk.inj (Except.ok.inj h)
    refine ⟨_, ?_, rfl, (Option.filter_eq_some_iff.mp given).1⟩
    cases anchor : node.findTag? "a" with
    | none => exact .inl rfl
    | some a => exact Node.holds_of_findTag? anchor
  · cases h

/-- Title, link and date of an item are those of elements of a block, except for a date that may
stand anywhere. -/
structure Item.TakenFrom (d : Document) (block : Node) (rules : RuleSet) (i : Item) : Prop where
  dated : ∃ date, (block.Holds date ∨ ∃ m, rules.date = .anywhere m ∧ d.find? m = some date) ∧
    Calendar.Layout.parseFirst? rules.dateFormats date.readableText = some i.publishedAt
  linked : ∃ source link, block.Holds source ∧ source.readableText = i.title ∧
    (source.attribute? "href").map Text.trimmed = some link ∧
    Link.resolve rules.baseUrl rules.realUrl link = .ok i.endpoint

theorem dated_of_locateDate {t : Calendar.Timestamp} (h : locateDate d block rules = .ok t) :
    ∃ date, (block.Holds date ∨ ∃ m, rules.date = .anywhere m ∧ d.find? m = some date) ∧
      Calendar.Layout.parseFirst? rules.dateFormats date.readableText = some t := by
  simp only [locateDate] at h
  split at h
  · cases h
  · rename_i date found
    refine ⟨date, holds_of_dateNode? found, ?_⟩
    split at h
    · cases h
    · split at h
      · rename_i t read
        rw [read, Except.ok.inj h]
      · cases h

theorem linked_of_locateTitle {l : TitleLocator} {title link : String}
    (h : locateTitle block l = .ok (title, link)) :
    ∃ source, block.Holds source ∧ source.readableText = title ∧
      (source.attribute? "href").map Text.trimmed = some link := by
  simp only [locateTitle] at h
  split at h
  · rename_i node found
    obtain ⟨source, inside, text, href⟩ := titleAndLink_source h
    exact ⟨source, (holds_of_titleNode? found).trans inside, text, href⟩
  · cases h

theorem takenFrom_of_extract {i : Item} (found : extract d rules cutoff = .ok (.item i)) :
    ∃ block, (contentBlocks d rules.content).head? = some block ∧ i.TakenFrom d block rules := by
  obtain ⟨block, first, dated, -, link, titled, resolved⟩ := extract_eq_item.mp found
  obtain ⟨source, inside, text, href⟩ := linked_of_locateTitle titled
  exact ⟨block, first, dated_of_locateDate dated, source, link, inside, text, href, resolved⟩

theorem locateDate_congr
    (texts : (dateNode? d block rules.date).map Node.readableText =
      (dateNode? d' block rules.date).map Node.readableText) :
    locateDate d block rules = locateDate d' block rules := by
  unfold locateDate
  cases found : dateNode? d block rules.date with
  | none =>
    rw [found, Option.map_none, eq_comm, Option.map_eq_none_iff] at texts
    rw [texts]
  | some node =>
    rw [found, Option.map_some, eq_comm, Option.map_eq_some_iff] at texts
    obtain ⟨node', found', text⟩ := texts
    simp only [found', text]

/-- The document matters only for a date that may stand anywhere. -/
theorem extractFrom_congr
    (dates : ∀ m, rules.date = .anywhere m →
      (d.find? m).map Node.readableText = (d'.find? m).map Node.readableText) :
    extractFrom d block rules cutoff = extractFrom d' block rules cutoff := by
  have dated : locateDate d block rules = locateDate d' block rules := by
    refine locateDate_congr ?_
    by_cases nested : rules.date.Global
    · obtain ⟨m, anywhere⟩ := nested
      rw [anywhere]
      exact dates m anywhere
    · rw [dateNode?_of_nested nested]
  rw [extractFrom, extractFrom, dated]

theorem extract_of_head (first : (contentBlocks d rules.content).head? = some block) :
    extract d rules cutoff = extractFrom d block rules cutoff := by
  unfold extract
  cases blocks : contentBlocks d rules.content with
  | nil =>
    rw [blocks] at first
    cases first
  | cons other rest =>
    rw [blocks] at first
    rw [Option.some.inj first]

/-- Two documents with the same first content block give the same, if the first elements with a
date that may stand anywhere have the same text. What the block gives, if its date must stand inside
it, is the same in every document, and an item is always taken from the block. -/
theorem extract_local (d d' : Document) (rules : RuleSet) (cutoff : Calendar.Timestamp)
    (blocks : (contentBlocks d rules.content).head? = (contentBlocks d' rules.content).head?)
    (dates : ∀ m, rules.date = .anywhere m →
      (d.find? m).map Node.readableText = (d'.find? m).map Node.readableText) :
    extract d rules cutoff = extract d' rules cutoff ∧
      (¬ rules.date.Global → ∀ block, (contentBlocks d rules.content).head? = some block →
        ∀ elsewhere, extract d rules cutoff = extractFrom elsewhere block rules cutoff) ∧
      ∀ i, extract d rules cutoff = .ok (.item i) →
        ∃ block, (contentBlocks d rules.content).head? = some block ∧ i.TakenFrom d block rules := by
  refine ⟨?_, ?_, fun i => takenFrom_of_extract⟩
  · cases first : (contentBlocks d rules.content).head? with
    | none =>
      have none' := blocks.symm.trans first
      rw [List.head?_eq_none_iff] at first none'
      rw [extract, extract, first, none']
    | some block =>
      rw [extract_of_head first, extract_of_head (blocks.symm.trans first)]
      exact extractFrom_congr dates
  · intro nested block first elsewhere
    rw [extract_of_head first]
    exact extractFrom_congr fun m anywhere => absurd ⟨m, anywhere⟩ nested

end

section Sample

open Watching

def sampleCrowded : Document where
  nodes := [.element "a" [] [.text " 2025-1-2 "], sampleBlock,
    .element "a" [("id", "n"), ("href", "x:z")] [.text "2026-2-3"]]

def sampleNested : RuleSet :=
  { sampleSite "A" with content := ⟨"p", "id", ["n"], .exact⟩, date := .alongTags ["a"] }

def sampleNestedPage : Document where
  nodes := [.element "p" [("id", "n")] [sampleBlock]]

theorem extract_local_sample :
    (extract (Document.parse samplePage) (sampleSite "A") (.midnight firstCutoff) =
        .ok (.item sampleItem) ∧
      extract sampleCrowded (sampleSite "A") (.midnight firstCutoff) = .ok (.item sampleItem)) ∧
      ¬ sampleNested.date.Global ∧
      extract sampleNestedPage sampleNested (.midnight firstCutoff) =
        extractFrom sampleCrowded (.element "p" [("id", "n")] [sampleBlock]) sampleNested
          (.midnight firstCutoff) := by
  have first : (contentBlocks (Document.parse samplePage) (sampleSite "A").content).head? =
      (contentBlocks sampleCrowded (sampleSite "A").content).head? := by decide +kernel
  have dates (m) (anywhere : (sampleSite "A").date = .anywhere m) :
      ((Document.parse samplePage).find? m).map Node.readableText =
        (sampleCrowded.find? m).map Node.readableText := by
    obtain rfl := DateLocator.anywhere.inj anywhere
    decide +kernel
  have nested : ¬ sampleNested.date.Global := by
    rintro ⟨m, anywhere⟩
    cases anywhere
  have alone := (extract_local _ _ (sampleSite "A") (.midnight firstCutoff) first dates).1
  have block : (contentBlocks sampleNestedPage sampleNested.content).head? =
      some (.element "p" [("id", "n")] [sampleBlock]) := by decide +kernel
  have inside := (extract_local sampleNestedPage sampleNestedPage sampleNested
    (.midnight firstCutoff) rfl fun _ _ => rfl).2.1 nested _ block
  exact ⟨⟨sample_extract "A", alone ▸ sample_extract "A"⟩, nested, inside sampleCrowded⟩

end Sample

end PageWatch
