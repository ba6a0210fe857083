import PageWatch.Extraction.Extract
import PageWatch.Proofs.Document.Searches
import PageWatch.Proofs.Text.Spacing

/-!
# Texts of nodes

The texts below a node are put together in document order, and only then cut into words, so a
word may begin in one element and end in another. The words are read with single spaces
between them. Nodes whose texts differ in blanks only are read alike, as a title and as a
date.
-/

set_option autoImplicit false

namespace PageWatch

open Text

namespace Node

def text? : Node → Option String
  | text content => some content
  | _ => none

/-- All texts below a node with their places, in document order and each once. -/
structure TextsBelow (n : Node) (texts : List (Place × String)) : Prop where
  ordered : texts.Pairwise (·.1 < ·.1)
  complete : ∀ p s, (p, s) ∈ texts ↔ p ≠ [] ∧ n.at? p = some (.text s)

theorem text?_eq_some {x : Node} {s : String} : x.text? = some s ↔ x = .text s := by
  cases x <;> simp [text?]

theorem ownText_eq (x : Node) : x.ownText = x.text?.getD "" := by
  cases x <;> rfl

def placedTexts (placed : List (Place × Node)) : List (Place × String) :=
  placed.filterMap fun (p, x) => x.text?.map fun s => (p, s)

theorem mem_placedTexts {placed : List (Place × Node)} {p : Place} {s : String} :
    (p, s) ∈ placedTexts placed ↔ (p, .text s) ∈ placed := by
  simp [placedTexts, text?_eq_some]

theorem ordered_placedTexts {placed : List (Place × Node)} (ordered : placed.Pairwise (·.1 < ·.1)) :
    (placedTexts placed).Pairwise (·.1 < ·.1) := by
  refine ordered.filterMap _ fun (p, x) (q, y) less => ?_
  rintro _ given _ given'
  obtain ⟨s, -, rfl⟩ := Option.map_eq_some_iff.mp given
  obtain ⟨s', -, rfl⟩ := Option.map_eq_some_iff.mp given'
  exact less

theorem join_placedTexts (placed : List (Place × Node)) :
    String.join ((placedTexts placed).map (·.2)) = String.join (placed.map (·.2.ownText)) := by
  induction placed with
  | nil => rfl
  | cons first placed ih =>
    obtain ⟨p, x⟩ := first
    rw [List.map_cons, String.join_cons, ownText_eq, ← ih]
    cases given : x.text? <;> simp [placedTexts, given, String.join_cons]

theorem textsBelow (n : Node) : n.TextsBelow (placedTexts (placedAll 0 n.children)) where
  ordered := ordered_placedTexts (ordered_placedAll 0 n.children)
  complete p s := by rw [mem_placedTexts, mem_placedAll_children]

theorem rawText_eq_join (n : Node) :
    n.rawText = String.join ((placedTexts (placedAll 0 n.children)).map (·.2)) := by
  rw [join_placedTexts, rawText, descendants, ← placedAll_nodes 0, List.map_map]
  rfl

theorem toList_readableText (n : Node) : n.readableText.toList = collapse n.rawText.toList := by
  rw [readableText, collapsed, String.toList_ofList]

theorem readableText_eq_iff {n n' : Node} :
    n.readableText = n'.readableText ↔ Respaced n.rawText.toList n'.rawText.toList := by
  rw [← String.toList_inj, toList_readableText, toList_readableText, collapse_eq_iff]

end Node

def titleSource? (block : Node) (l : TitleLocator) : Option Node :=
  (titleNode? block l).map fun node => (node.findTag? "a").getD node

def Node.link? (n : Node) : Option String :=
  ((n.attribute? "href").map trimmed).filter (!·.isEmpty)

theorem locateTitle_of_source {block n : Node} {l : TitleLocator}
    (source : titleSource? block l = some n) :
    locateTitle block l = match n.link? with
      | some link => .ok (n.readableText, link)
      | none => .error .noLink := by
  obtain ⟨node, found, rfl⟩ := Option.map_eq_some_iff.mp source
  rw [locateTitle, found]
  rfl

/-- Wherever the one node and the other are read, they are read as the same title and as the same
date. -/
structure ReadAlike (n n' : Node) : Prop where
  text : n.readableText = n'.readableText
  date : ∀ {d d' : Document} {block block' : Node} {rules rules' : RuleSet},
    dateNode? d block rules.date = some n → dateNode? d' block' rules'.date = some n' →
    rules.dateFormats = rules'.dateFormats →
    locateDate d block rules = locateDate d' block' rules'
  title : ∀ {block block' : Node} {l l' : TitleLocator} {title link title' link' : String},
    titleSource? block l = some n → titleSource? block' l' = some n' →
    locateTitle block l = .ok (title, link) → locateTitle block' l' = .ok (title', link') →
    title = title'
  linked : ∀ {block block' : Node} {l l' : TitleLocator},
    titleSource? block l = some n → titleSource? block' l' = some n' →
    n.attribute? "href" = n'.attribute? "href" → locateTitle block l = locateTitle block' l'

theorem title_of_source {block n : Node} {l : TitleLocator} {title link : String}
    (source : titleSource? block l = some n) (read : locateTitle block l = .ok (title, link)) :
    title = n.readableText := by
  rw [locateTitle_of_source source] at read
  split at read
  · exact (congrArg Prod.fst (Except.ok.inj read)).symm
  · cases read

theorem readAlike_of_text {n n' : Node} (same : n.readableText = n'.readableText) :
    ReadAlike n n' where
  text := same
  date found found' formats := by simp only [locateDate, found, found', same, formats]
  title source source' read read' := by
    rw [title_of_source source read, title_of_source source' read', same]
  linked source source' links := by
    rw [locateTitle_of_source source, locateTitle_of_source source', Node.link?, Node.link?, links,
      same]

/-- The text of a node is that of all texts below it in document order, with its words kept and one
space between neighbours for all other blanks; nothing is left exactly where there are only blanks.
Two nodes with texts of the same words are read alike. -/
theorem node_text_single_spaced (n : Node) :
    (∃ texts, n.TextsBelow texts ∧ n.rawText = String.join (texts.map (·.2))) ∧
      SingleSpaced n.readableText.toList ∧
      (∀ ws, Spaced ws n.readableText.toList ↔ Spaced ws n.rawText.toList) ∧
      (n.readableText = "" ↔ ∀ c ∈ n.rawText.toList, isBlank c = true) ∧
      ∀ n' : Node, Respaced n.rawText.toList n'.rawText.toList → ReadAlike n n' := by
  refine ⟨⟨_, n.textsBelow, n.rawText_eq_join⟩, ?_, fun ws => ?_, ?_, fun n' respaced => ?_⟩
  · rw [n.toList_readableText]
    exact singleSpaced_collapse _
  · rw [n.toList_readableText, spaced_iff, spaced_iff, words_collapse]
  · rw [← String.toList_eq_nil_iff, n.toList_readableText, collapse_eq_nil]
  · exact readAlike_of_text (Node.readableText_eq_iff.mpr respaced)

section Sample

def sampleBroken : Node :=
  .element "a" [("href", "/y")]
    [.text "\n First ", .element "b" [] [.text "ne", .comment " "], .text "ws\u3000"]

def sampleUnbroken : Node := .element "p" [("href", "/y")] [.text "First\tnews"]

theorem node_text_single_spaced_broken :
    sampleBroken.TextsBelow [([0], "\n First "), ([1, 0], "ne"), ([2], "ws\u3000")] ∧
      Respaced sampleBroken.rawText.toList sampleUnbroken.rawText.toList ∧
      locateTitle sampleUnbroken .block = .ok ("First news", "/y") ∧
      locateTitle (.element "div" [] [sampleBroken]) .block = .ok ("First news", "/y") := by
  have respaced : Respaced sampleBroken.rawText.toList sampleUnbroken.rawText.toList :=
    respaced_iff.mpr (by decide +kernel)
  have alike := (node_text_single_spaced sampleBroken).2.2.2.2 sampleUnbroken respaced
  have text : sampleUnbroken.readableText = "First news" := by decide +kernel
  have link : sampleUnbroken.link? = some "/y" := by decide +kernel
  have read : locateTitle sampleUnbroken .block = .ok ("First news", "/y") := by
    rw [locateTitle_of_source (n := sampleUnbroken) rfl, link, text]
  refine ⟨sampleBroken.textsBelow, respaced, read, ?_⟩
  rw [← read]
  exact alike.linked rfl rfl rfl

end Sample

end PageWatch
