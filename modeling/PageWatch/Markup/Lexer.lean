import PageWatch.Markup.Reference

/-!
# Cutting markup into tokens

`nextTokens` takes the tokens at the front of the text and leaves the rest. How
it cuts depends on the reading that the tree asks for: inside elements such as
`title`, `style` and `script` only their own end tag is markup. An unfinished
tag at the end of the text is dropped.
-/

set_option autoImplicit false

namespace PageWatch.Markup

open Text

inductive TagPart where
  | tagName
  | gap
  | name
  | afterName
  | beforeValue
  | quoted (mark : Char)
  | unquoted
  | afterQuoted
  | slash

structure TagDraft where
  tagName : List Char := []
  attributes : List Attribute := []
  name : List Char := []
  value : List Char := []

namespace TagDraft

/-- The attribute read last joins the others unless one of its name is there already. -/
def keep (d : TagDraft) : TagDraft :=
  let name := String.ofList d.name.reverse
  let value := String.ofList (resolveReferences true d.value.reverse)
  if d.attributes.any (·.1 == name) then { d with name := [], value := [] }
  else { d with attributes := (name, value) :: d.attributes, name := [], value := [] }

def finish (d : TagDraft) (selfClosing : Bool) : Tag :=
  ⟨String.ofList d.tagName.reverse, d.attributes.reverse, selfClosing⟩

end TagDraft

def TagDraft.beginName (d : TagDraft) (c : Char) : TagDraft :=
  { d with name := [withoutNull (lower c)] }

def readTag : TagPart → TagDraft → List Char → Option (Tag × List Char)
  | _, _, [] => none
  | .tagName, d, c :: r =>
    if isSpace c then readTag .gap d r
    else if c = '/' then readTag .slash d r
    else if c = '>' then some (d.finish false, r)
    else readTag .tagName { d with tagName := withoutNull (lower c) :: d.tagName } r
  | .gap, d, c :: r =>
    if isSpace c then readTag .gap d r
    else if c = '/' then readTag .slash d r
    else if c = '>' then some (d.finish false, r)
    else readTag .name (d.beginName c) r
  | .slash, d, c :: r =>
    if c = '>' then some (d.finish true, r)
    else if isSpace c then readTag .gap d r
    else if c = '/' then readTag .slash d r
    else readTag .name (d.beginName c) r
  | .name, d, c :: r =>
    if isSpace c then readTag .afterName d r
    else if c = '/' then readTag .slash d.keep r
    else if c = '>' then some (d.keep.finish false, r)
    else if c = '=' then readTag .beforeValue d r
    else readTag .name { d with name := withoutNull (lower c) :: d.name } r
  | .afterName, d, c :: r =>
    if isSpace c then readTag .afterName d r
    else if c = '/' then readTag .slash d.keep r
    else if c = '>' then some (d.keep.finish false, r)
    else if c = '=' then readTag .beforeValue d r
    else readTag .name (d.keep.beginName c) r
  | .beforeValue, d, c :: r =>
    if isSpace c then readTag .beforeValue d r
    else if c = '"' ∨ c = '\'' then readTag (.quoted c) d r
    else if c = '>' then some (d.keep.finish false, r)
    else readTag .unquoted { d with value := [withoutNull c] } r
  | .quoted mark, d, c :: r =>
    if c = mark then readTag .afterQuoted d.keep r
    else readTag (.quoted mark) { d with value := withoutNull c :: d.value } r
  | .unquoted, d, c :: r =>
    if isSpace c then readTag .gap d.keep r
    else if c = '>' then some (d.keep.finish false, r)
    else readTag .unquoted { d with value := withoutNull c :: d.value } r
  | .afterQuoted, d, c :: r =>
    if isSpace c then readTag .gap d r
    else if c = '/' then readTag .slash d r
    else if c = '>' then some (d.finish false, r)
    else readTag .name (d.beginName c) r

def readComment (done : List Char) : List Char → List Char × List Char
  | [] => (done.reverse, [])
  | '-' :: '-' :: '>' :: r => (done.reverse, r)
  | '-' :: '-' :: '!' :: '>' :: r => (done.reverse, r)
  | c :: r => readComment (withoutNull c :: done) r

def comment (cs : List Char) : Token × List Char :=
  match cs with
  | '>' :: r => (.comment "", r)
  | '-' :: '>' :: r => (.comment "", r)
  | _ => let (content, r) := readComment [] cs; (.comment (String.ofList content), r)

def bogusComment (cs : List Char) : Token × List Char :=
  let (content, r) := cs.span (· ≠ '>')
  (.comment (String.ofList (content.map withoutNull)), r.drop 1)

def startsWithLetters (word : String) (cs : List Char) : Bool :=
  word.toList.isPrefixOf (cs.map lower)

def quotedIdentifier? (cs : List Char) : Option (String × Bool × List Char) :=
  match cs with
  | mark :: r =>
    if mark = '"' ∨ mark = '\'' then
      let (held, rest) := r.span (· ≠ mark)
      some (String.ofList (held.map withoutNull), !rest.isEmpty, rest.drop 1)
    else none
  | [] => none

def skipSpace (cs : List Char) : List Char := cs.dropWhile isSpace

def identifiers (cs : List Char) (d : Doctype) : Doctype :=
  let six := cs.take 6
  if cs.isEmpty then d
  else if startsWithLetters "public" six then
    match quotedIdentifier? (skipSpace (cs.drop 6)) with
    | none => { d with forceLegacy := true }
    | some (pub, false, _) => { d with publicId := some pub, forceLegacy := true }
    | some (pub, true, rest) =>
      let rest := skipSpace rest
      if rest.isEmpty then { d with publicId := some pub }
      else match quotedIdentifier? rest with
        | none => { d with publicId := some pub, forceLegacy := true }
        | some (sys, closed, _) =>
          { d with publicId := some pub, systemId := some sys, forceLegacy := !closed }
  else if startsWithLetters "system" six then
    match quotedIdentifier? (skipSpace (cs.drop 6)) with
    | none => { d with forceLegacy := true }
    | some (sys, closed, _) => { d with systemId := some sys, forceLegacy := !closed }
  else { d with forceLegacy := true }

/-- A document type ends at the first `>`, also inside an identifier. -/
def doctype (cs : List Char) : Token × List Char :=
  let (body, rest) := cs.span (· ≠ '>')
  let body := skipSpace body
  let name := body.takeWhile (!isSpace ·)
  let d : Doctype := ⟨none, none, none, rest.isEmpty⟩
  if name.isEmpty then (.doctype { d with forceLegacy := true }, rest.drop 1)
  else
    let d := { d with name := some (String.ofList (name.map fun c => withoutNull (lower c))) }
    let d' := identifiers (skipSpace (body.dropWhile (!isSpace ·))) d
    (.doctype { d' with forceLegacy := d'.forceLegacy || rest.isEmpty }, rest.drop 1)

/-- Runs of blank and of other characters; a null character is a token of its own. -/
def textTokens (cs : List Char) : List Token :=
  (cs.splitBy fun a b => a ≠ '\x00' && b ≠ '\x00' && isSpace a == isSpace b).map fun run =>
    match run with
    | '\x00' :: _ => .null
    | c :: _ => .chars (isSpace c) (String.ofList run)
    | [] => .chars true ""

def plainTokens (cs : List Char) : List Token := textTokens (cs.map withoutNull)

def closes (name : List Char) (cs : List Char) : Bool :=
  name.isPrefixOf ((cs.take name.length).map lower) &&
    match cs[name.length]? with
    | some c => isSpace c || c == '/' || c == '>'
    | none => false

def beforeEndTag (name : List Char) (done : List Char) : List Char → List Char × List Char
  | [] => (done.reverse, [])
  | '<' :: '/' :: r =>
    if closes name r then (done.reverse, '<' :: '/' :: r)
    else beforeEndTag name ('<' :: done) ('/' :: r)
  | c :: r => beforeEndTag name (c :: done) r

/-- Inside a comment of a script a nested script element may open and close. -/
inductive Nesting where
  | plain
  | escaped (dashes : Nat)
  | nested (dashes : Nat)
  deriving DecidableEq

def endsWord (c : Char) : Bool := isSpace c || c == '/' || c == '>'

def opensScript (cs : List Char) : Bool :=
  startsWithLetters "script" (cs.take 6) && (cs[6]?.any endsWord)

def closesScript (cs : List Char) : Bool :=
  cs.head? = some '/' && closes "script".toList (cs.drop 1)

def scriptText : Nesting → List Char → List Char → List Char × List Char
  | _, done, [] => (done.reverse, [])
  | .plain, done, c :: r =>
    if c = '<' ∧ closesScript r then (done.reverse, c :: r)
    else if c = '<' ∧ "!--".toList.isPrefixOf r then scriptText (.escaped 0) (c :: done) r
    else scriptText .plain (c :: done) r
  | .escaped dashes, done, c :: r =>
    if c = '-' then scriptText (.escaped (dashes + 1)) (c :: done) r
    else if c = '>' ∧ 2 ≤ dashes then scriptText .plain (c :: done) r
    else if c = '<' ∧ closesScript r then (done.reverse, c :: r)
    else if c = '<' ∧ opensScript r then scriptText (.nested 0) (c :: done) r
    else scriptText (.escaped 0) (c :: done) r
  | .nested dashes, done, c :: r =>
    if c = '-' then scriptText (.nested (dashes + 1)) (c :: done) r
    else if c = '>' ∧ 2 ≤ dashes then scriptText .plain (c :: done) r
    else if c = '<' ∧ r.head? = some '/' ∧ opensScript (r.drop 1) then
      scriptText (.escaped 0) (c :: done) r
    else scriptText (.nested 0) (c :: done) r

def endTagOr (name : List Char) (cs : List Char)
    (text : List Char → List Char × List Char) (encode : List Char → List Token) :
    List Token × List Char :=
  match cs with
  | [] => ([.eof], [])
  | '<' :: '/' :: r =>
    if closes name r then
      match readTag .tagName {} r with
      | some (tag, rest) => ([.endTag tag.name], rest)
      | none => ([.eof], [])
    else let (run, rest) := text cs; (encode run, rest)
  | _ => let (run, rest) := text cs; (encode run, rest)

/-- A character-data section ends at the first `]]>` or with the text. -/
def sectionText (done : List Char) : List Char → List Char × List Char
  | [] => (done.reverse, [])
  | ']' :: ']' :: '>' :: r => (done.reverse, r)
  | c :: r => sectionText (c :: done) r

def declaration (sections : Bool) (cs : List Char) : List Token × List Char :=
  match cs with
  | '-' :: '-' :: r => let (t, rest) := comment r; ([t], rest)
  | _ =>
    if startsWithLetters "doctype" (cs.take 7) then
      let (t, rest) := doctype (cs.drop 7); ([t], rest)
    else if sections && "[CDATA[".toList.isPrefixOf cs then
      let (run, rest) := sectionText [] (cs.drop 7); (textTokens run, rest)
    else let (t, rest) := bogusComment cs; ([t], rest)

def markupTokens (sections : Bool) (cs : List Char) : List Token × List Char :=
  match cs with
  | '!' :: r => declaration sections r
  | '?' :: _ => let (t, rest) := bogusComment cs; ([t], rest)
  | ['/'] => ([.chars false "</"], [])
  | '/' :: '>' :: r => ([], r)
  | '/' :: c :: r =>
    if isLetter c then
      match readTag .tagName {} (c :: r) with
      | some (tag, rest) => ([.endTag tag.name], rest)
      | none => ([.eof], [])
    else let (t, rest) := bogusComment (c :: r); ([t], rest)
  | c :: _ =>
    if isLetter c then
      match readTag .tagName {} cs with
      | some (tag, rest) => ([.startTag tag], rest)
      | none => ([.eof], [])
    else ([.chars false "<"], cs)
  | [] => ([.chars false "<"], [])

/-- The tokens at the front of `cs`. `name` is the tag whose text is being read, and `sections`
says whether character-data sections are allowed here. -/
def nextTokens (reading : Reading) (name : String) (sections : Bool) (cs : List Char) :
    List Token × List Char :=
  match reading with
  | .plainText => if cs.isEmpty then ([.eof], []) else (plainTokens cs, [])
  | .rawText => endTagOr name.toList cs (beforeEndTag name.toList []) plainTokens
  | .escapableText =>
    endTagOr name.toList cs (beforeEndTag name.toList []) fun run =>
      textTokens (resolveReferences false (run.map withoutNull))
  | .script => endTagOr name.toList cs (scriptText .plain []) plainTokens
  | .data =>
    match cs with
    | [] => ([.eof], [])
    | '<' :: r => markupTokens sections r
    | '&' :: r =>
      match reference? false r with
      | some (chars, n) => (textTokens chars, r.drop n)
      | none => ([.chars false "&"], r)
    | '\x00' :: r => ([.null], r)
    | c :: r =>
      let (run, rest) := r.span fun d => d ≠ '<' && d ≠ '&' && d ≠ '\x00' && isSpace d == isSpace c
      ([.chars (isSpace c) (String.ofList (c :: run))], rest)

/-- Line ends are line feeds, and a leading byte-order mark is not part of the text. -/
def normalized : List Char → List Char
  | '\uFEFF' :: r => newlines r
  | cs => newlines cs
where
  newlines : List Char → List Char
    | '\r' :: '\n' :: r => '\n' :: newlines r
    | '\r' :: r => '\n' :: newlines r
    | c :: r => c :: newlines r
    | [] => []

end PageWatch.Markup
