import PageWatch.Document.Search
import PageWatch.Extraction.Item
import PageWatch.Site.RuleSet

/-!
# Extracting the newest item

First the content block is found, then the date. A date before the cutoff ends
the search; otherwise title and link follow, and the link is resolved.
-/

set_option autoImplicit false

namespace PageWatch

/-- All content blocks: the alternatives in order, and the matches of each in document order. -/
def contentBlocks (d : Document) (q : Query) : List Node := q.matchers.flatMap d.findAll

def noContent (q : Query) : ExtractionError := .noContent q.tag q.attr q.alternatives

/-- The first hit for each tag is the only way down that is tried. -/
def descend (block : Node) (tags : List String) : Option Node :=
  tags.foldlM (fun n tag => n.findTag? tag) block

def dateNode? (d : Document) (block : Node) : DateLocator → Option Node
  | .inBlock m => block.find? m
  | .alongTags tags => descend block tags
  | .anywhere m => d.find? m

def locateDate (d : Document) (block : Node) (rules : RuleSet) :
    Except ExtractionError Calendar.Timestamp := do
  match dateNode? d block rules.date with
  | none => throw .noDateElement
  | some node =>
    let raw := node.readableText
    if raw.isEmpty then throw .emptyDate
    match Calendar.Layout.parseFirst? rules.dateFormats raw with
    | some t => return t
    | none => throw (.unreadableDate raw (rules.dateFormats.map (·.text)))

def titleNode? (block : Node) : TitleLocator → Option Node
  | .block => some block
  | .alternatives q => q.matchers.findSome? block.find?

/-- Title and link of an element: those of the first anchor in it, if there is one. -/
def titleAndLink (node : Node) : Except ExtractionError (String × String) :=
  let source := (node.findTag? "a").getD node
  match ((source.attribute? "href").map Text.trimmed).filter (!·.isEmpty) with
  | some link => .ok (source.readableText, link)
  | none => .error .noLink

def locateTitle (block : Node) (l : TitleLocator) : Except ExtractionError (String × String) :=
  match titleNode? block l with
  | some node => titleAndLink node
  | none => .error .noTitle

def extractFrom (d : Document) (block : Node) (rules : RuleSet) (cutoff : Calendar.Timestamp) :
    Except ExtractionError Extraction := do
  let publishedAt ← locateDate d block rules
  if publishedAt.isBefore cutoff then return .stale publishedAt
  let (title, link) ← locateTitle block rules.title
  let endpoint ← (Link.resolve rules.baseUrl rules.realUrl link).mapError .badUrl
  return .item ⟨title, endpoint, publishedAt⟩

def extract (d : Document) (rules : RuleSet) (cutoff : Calendar.Timestamp) :
    Except ExtractionError Extraction :=
  match contentBlocks d rules.content with
  | [] => .error (noContent rules.content)
  | block :: _ => extractFrom d block rules cutoff

end PageWatch
