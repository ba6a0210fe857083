import PageWatch.Extraction.Extract
import PageWatch.Proofs.Data.Results

/-!
# Which element is chosen

Of several values of an attribute the first that occurs decides, and of the elements that
have it the first one in document order is taken. Content blocks are listed for all values
before the first of them is taken, and titles are looked for one value after the other:
both are the same choice, among the elements of the document and among those of the block.
-/

set_option autoImplicit false

namespace PageWatch

namespace Query

def matcher (q : Query) (value : String) : Matcher := ⟨q.tag, some (q.attr, value), q.agreement⟩

def Misses (q : Query) (elements : List Node) : Prop :=
  ∀ value ∈ q.alternatives, ∀ x ∈ elements, (q.matcher value).accepts x = false

/-- The element has a value that no element before it has, and no element at all has one of the
values before that. -/
def Chooses (q : Query) (elements : List Node) (e : Node) : Prop :=
  ∃ earlier value later before after,
    q.alternatives = earlier ++ value :: later ∧ elements = before ++ e :: after ∧
      (∀ v ∈ earlier, ∀ x ∈ elements, (q.matcher v).accepts x = false) ∧
      (∀ x ∈ before, (q.matcher value).accepts x = false) ∧ (q.matcher value).accepts e = true

def choice? (q : Query) (elements : List Node) : Option Node :=
  q.alternatives.findSome? fun value => elements.find? (q.matcher value).accepts

variable {q : Query} {elements : List Node}

theorem find?_eq_none {value : String} :
    elements.find? (q.matcher value).accepts = none ↔
      ∀ x ∈ elements, (q.matcher value).accepts x = false := by
  simp only [List.find?_eq_none, Bool.not_eq_true]

theorem choice?_eq_none : q.choice? elements = none ↔ q.Misses elements := by
  rw [choice?, List.findSome?_eq_none_iff]
  exact forall₂_congr fun value _ => find?_eq_none

theorem choice?_eq_some {e : Node} : q.choice? elements = some e ↔ q.Chooses elements e := by
  rw [choice?, List.findSome?_eq_some_iff]
  constructor
  · rintro ⟨earlier, value, later, values, found, missed⟩
    obtain ⟨accepted, before, after, place, passed⟩ := List.find?_eq_some_iff_append.mp found
    refine ⟨earlier, value, later, before, after, values, place, ?_, ?_, accepted⟩
    · exact fun v mem => find?_eq_none.mp (missed v mem)
    · exact fun x mem => by simpa using passed x mem
  · rintro ⟨earlier, value, later, before, after, values, place, missed, passed, accepted⟩
    refine ⟨earlier, value, later, values, ?_, fun v mem => find?_eq_none.mpr (missed v mem)⟩
    apply List.find?_eq_some_iff_append.mpr
    exact ⟨accepted, before, after, place, fun x mem => by simp [passed x mem]⟩

theorem head?_flatMap_filter (q : Query) (elements : List Node) :
    (q.matchers.flatMap fun m => elements.filter m.accepts).head? = q.choice? elements := by
  rw [matchers, List.flatMap_map, List.head?_flatMap, choice?]
  congr 1
  funext value
  exact List.head?_filter

end Query

theorem head?_contentBlocks (d : Document) (q : Query) :
    (contentBlocks d q).head? = q.choice? d.elements :=
  q.head?_flatMap_filter d.elements

theorem titleNode?_alternatives (block : Node) (q : Query) :
    titleNode? block (.alternatives q) = q.choice? block.elements := by
  show q.matchers.findSome? block.find? = q.choice? block.elements
  rw [Query.matchers, List.findSome?_map]
  rfl

inductive ExtractionStep where
  | content
  | date
  | title
  | link
  deriving DecidableEq

def ExtractionError.step : ExtractionError → ExtractionStep
  | noContent .. => .content
  | noDateElement | emptyDate | unreadableDate .. => .date
  | noTitle | noLink => .title
  | badUrl _ => .link

section

variable {d : Document} {block : Node} {rules : RuleSet} {cutoff : Calendar.Timestamp}
  {e : ExtractionError}

theorem step_of_locateDate (h : locateDate d block rules = .error e) : e.step = .date := by
  unfold locateDate at h
  split at h
  · cases h
    rfl
  · simp only at h
    split at h
    · cases h
      rfl
    · split at h
      · cases h
      · cases h
        rfl

theorem titleAndLink_error {node : Node} (h : titleAndLink node = .error e) : e = .noLink := by
  unfold titleAndLink at h
  simp only at h
  split at h
  · cases h
  · exact (Except.error.inj h).symm

theorem step_of_locateTitle {l : TitleLocator} (h : locateTitle block l = .error e) :
    e.step = .title := by
  unfold locateTitle at h
  split at h
  · rw [titleAndLink_error h]
    rfl
  · cases h
    rfl

theorem locateTitle_eq_noTitle {l : TitleLocator} :
    locateTitle block l = .error .noTitle ↔ titleNode? block l = none := by
  unfold locateTitle
  cases titleNode? block l with
  | none => simp
  | some node =>
    constructor
    · intro h
      cases titleAndLink_error h
    · intro h
      cases h

theorem step_of_extractFrom (h : extractFrom d block rules cutoff = .error e) :
    e.step ≠ .content := by
  rcases bind_eq_error.mp h with undated | ⟨publishedAt, -, h⟩
  · simp [step_of_locateDate undated]
  · split at h
    · cases h
    · rcases bind_eq_error.mp h with untitled | ⟨⟨title, link⟩, -, h⟩
      · simp [step_of_locateTitle untitled]
      · rcases bind_eq_error.mp h with unresolved | ⟨endpoint, -, h⟩
        · obtain ⟨fault, -, rfl⟩ := mapError_eq_error.mp unresolved
          simp [ExtractionError.step]
        · cases h

theorem extract_eq_noContent :
    extract d rules cutoff = .error (noContent rules.content) ↔
      contentBlocks d rules.content = [] := by
  unfold extract
  cases contentBlocks d rules.content with
  | nil => simp
  | cons block rest =>
    constructor
    · intro h
      exact absurd rfl (step_of_extractFrom h)
    · intro h
      cases h

end

/-- An extraction finds no content if and only if no element of the document has any of the values,
and else the first block has the first value that any element has, before all others that have it.
Titles are chosen among the elements of a block by the same rule, and for both it does not matter
whether all that is found is listed or the first alternative with a hit ends the search. -/
theorem first_alternative_wins (d : Document) (rules : RuleSet) (cutoff : Calendar.Timestamp)
    (block : Node) (title : Query) :
    ((extract d rules cutoff = .error (noContent rules.content) ↔
          rules.content.Misses d.elements) ∧
        ∀ e, (contentBlocks d rules.content).head? = some e ↔
          rules.content.Chooses d.elements e) ∧
      ((locateTitle block (.alternatives title) = .error .noTitle ↔
          title.Misses block.elements) ∧
        ∀ e, titleNode? block (.alternatives title) = some e ↔
          title.Chooses block.elements e) ∧
      (contentBlocks d rules.content).head? = rules.content.matchers.findSome? d.find? ∧
      titleNode? block (.alternatives title) =
        (title.matchers.flatMap block.findAll).head? := by
  refine ⟨⟨?_, ?_⟩, ⟨?_, ?_⟩, ?_, ?_⟩
  · rw [extract_eq_noContent, ← List.head?_eq_none_iff, head?_contentBlocks, Query.choice?_eq_none]
  · intro e
    rw [head?_contentBlocks, Query.choice?_eq_some]
  · rw [locateTitle_eq_noTitle, titleNode?_alternatives, Query.choice?_eq_none]
  · intro e
    rw [titleNode?_alternatives, Query.choice?_eq_some]
  · rw [head?_contentBlocks, Query.matchers, List.findSome?_map]
    rfl
  · rw [titleNode?_alternatives]
    exact (title.head?_flatMap_filter block.elements).symm

/-- The order of the alternatives comes before that of the document. -/
example :
    (contentBlocks ⟨[.element "p" [("id", "b")] [], .element "p" [("id", "a")] []]⟩
      ⟨"p", "id", ["a", "b"], .exact⟩).head? = some (.element "p" [("id", "a")] []) := rfl

end PageWatch
