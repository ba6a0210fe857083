import PageWatch.Markup.HeadRules

/-!
# Rules of the body
-/

set_option autoImplicit false

namespace PageWatch.Markup

open Text

def stop : Build Step := do
  modify fun b => { b with stopped := true }
  done

/-- At the end of the text open templates are closed one by one. -/
def endInTemplate : Build Step := do
  if ← condition (·.hasOpen "template") then
    popThrough ["template"]
    clearToMarker
    modify fun b => { b with templates := b.templates.drop 1 }
    resetMode
    return .again
  else stop

def blockTags : List String :=
  ["address", "article", "aside", "blockquote", "center", "details", "dialog", "dir", "div", "dl",
   "fieldset", "figcaption", "figure", "footer", "header", "hgroup", "main", "menu", "nav", "ol",
   "p", "search", "section", "summary", "ul"]

def blockEndTags : List String :=
  ["address", "article", "aside", "blockquote", "button", "center", "details", "dialog", "dir",
   "div", "dl", "fieldset", "figcaption", "figure", "footer", "header", "hgroup", "listing",
   "main", "menu", "nav", "ol", "pre", "search", "section", "summary", "ul"]

/-- A list item ends the open item of its kind, unless a special element is nearer. -/
def closeItem (kinds : List String) : Build Unit := do
  let b ← get
  match nearest b b.opened with
  | none => pure ()
  | some tag =>
    closeImplied [tag]
    popThrough [tag]
where
  nearest (b : Builder) : List Nat → Option String
    | [] => none
    | i :: outer =>
      match b.name? i with
      | none => none
      | some n =>
        if n.isOneOf kinds then some n.tag
        else if isSpecial n && !n.isOneOf ["address", "div", "p"] then none
        else nearest b outer

def insertFormatting (t : Tag) : Build Step := do
  let i ← insertElement t
  addFormatting i t
  done

def insertWithMarker (t : Tag) : Build Step := do
  reconstruct
  insertTag t
  addMarker
  framesetNotOk
  done

def insertForeign (space : Space) (tag : String) (t : Tag) : Build Unit := do
  let i ← insertContent (.element ⟨space, tag⟩ (foreignAttributes space t.attributes))
  unless t.selfClosing do push i

def isHidden (t : Tag) : Bool := (t.attribute? "type").any (lowered · == "hidden")

def openAnchor (t : Tag) : Build Step := do
  match (← get).waiting? "a" with
  | none => pure ()
  | some (id, _) =>
    closeFormatting "a"
    removeFormatting id
    removeOpened id
  reconstruct
  insertFormatting t

def openForm (t : Tag) : Build Step := do
  let inTemplate ← condition (·.hasOpen "template")
  if (← get).form.isSome && !inTemplate then done
  else
    closeParagraphInScope
    let i ← insertElement t
    unless inTemplate do modify fun b => { b with form := some i }
    done

def openSelect (t : Tag) : Build Step := do
  reconstruct
  insertTag t
  framesetNotOk
  modify fun b =>
    let inTable := [Mode.inTable, .inCaption, .inTableBody, .inRow, .inCell].contains b.mode
    { b with mode := if inTable then .inSelectInTable else .inSelect }
  done

def openBodyAgain (t : Tag) : Build Step := do
  let b ← get
  match b.opened.reverse.drop 1 with
  | second :: _ =>
    if (b.name? second).any (·.isHtml "body") && !b.hasOpen "template" then
      framesetNotOk
      modify fun b => { b with forest := b.forest.addMissing second t.attributes }
  | [] => pure ()
  done

def replaceBody (t : Tag) : Build Step := do
  let b ← get
  match b.opened.reverse.drop 1 with
  | second :: _ =>
    if (b.name? second).any (·.isHtml "body") && b.framesetOk then
      modify fun b =>
        { b with forest := b.forest.detach second, opened := b.opened.getLast?.toList }
      insertTag t
      setMode .inFrameset
  | [] => pure ()
  done

def bodyStartTag (t : Tag) : Build Step := do
  let name := t.name
  if name == "html" then mergeRoot t.attributes
  else if headTags.contains name then headStartTag t
  else if name == "body" then openBodyAgain t
  else if name == "frameset" then replaceBody t
  else if blockTags.contains name then
    closeParagraphInScope
    insertTag t
    done
  else if headings.contains name then
    closeParagraphInScope
    if ← condition (·.currentIs headings) then pop
    insertTag t
    done
  else if name == "pre" || name == "listing" then
    closeParagraphInScope
    insertTag t
    modify fun b => { b with skipNewline := true, framesetOk := false }
    done
  else if name == "form" then openForm t
  else if name == "li" then
    framesetNotOk
    closeItem ["li"]
    closeParagraphInScope
    insertTag t
    done
  else if name == "dd" || name == "dt" then
    framesetNotOk
    closeItem ["dd", "dt"]
    closeParagraphInScope
    insertTag t
    done
  else if name == "plaintext" then
    closeParagraphInScope
    insertTag t
    modify fun b => { b with reading := .plainText }
    done
  else if name == "button" then
    if ← condition (·.tagInScope boundsScope ["button"]) then
      closeImplied []
      popThrough ["button"]
    reconstruct
    insertTag t
    framesetNotOk
    done
  else if name == "a" then openAnchor t
  else if formattingTags.contains name then
    reconstruct
    insertFormatting t
  else if name == "nobr" then
    reconstruct
    if ← condition (·.tagInScope boundsScope ["nobr"]) then
      closeFormatting "nobr"
      reconstruct
    insertFormatting t
  else if ["applet", "marquee", "object"].contains name then insertWithMarker t
  else if name == "table" then
    unless (← get).legacy do closeParagraphInScope
    insertTag t
    framesetNotOk
    setMode .inTable
    done
  else if ["area", "br", "embed", "img", "keygen", "wbr"].contains name then
    reconstruct
    insertVoid t
    framesetNotOk
    done
  else if name == "input" then
    reconstruct
    insertVoid t
    unless isHidden t do framesetNotOk
    done
  else if ["param", "source", "track"].contains name then
    insertVoid t
    done
  else if name == "hr" then
    closeParagraphInScope
    insertVoid t
    framesetNotOk
    done
  else if name == "image" then
    reconstruct
    insertVoid { t with name := "img" }
    framesetNotOk
    done
  else if name == "textarea" then
    modify fun b => { b with skipNewline := true, framesetOk := false }
    insertReading t .escapableText
  else if name == "xmp" then
    closeParagraphInScope
    reconstruct
    framesetNotOk
    insertReading t .rawText
  else if name == "iframe" then
    framesetNotOk
    insertReading t .rawText
  else if name == "noembed" || name == "noscript" then insertReading t .rawText
  else if name == "select" then openSelect t
  else if name == "optgroup" || name == "option" then
    if ← condition (·.currentIs ["option"]) then pop
    reconstruct
    insertTag t
    done
  else if name == "rb" || name == "rtc" then
    if ← condition (·.tagInScope boundsScope ["ruby"]) then closeImplied []
    insertTag t
    done
  else if name == "rp" || name == "rt" then
    if ← condition (·.tagInScope boundsScope ["ruby"]) then closeImplied ["rtc"]
    insertTag t
    done
  else if name == "math" then
    reconstruct
    insertForeign .math "math" t
    done
  else if name == "svg" then
    reconstruct
    insertForeign .svg "svg" t
    done
  else if ["caption", "col", "colgroup", "frame", "head", "tbody", "td", "tfoot", "th", "thead",
      "tr"].contains name then done
  else
    reconstruct
    insertTag t
    done

def closeForm : Build Step := do
  if ← condition (·.hasOpen "template") then
    if ← condition (·.tagInScope boundsScope ["form"]) then
      closeImplied []
      popThrough ["form"]
  else
    let b ← get
    modify fun b => { b with form := none }
    match b.form with
    | some id =>
      if b.scopeHas boundsScope fun i _ => i == id then
        closeImplied []
        removeOpened id
    | none => pure ()
  done

def bodyEndTag (name : String) : Build Step := do
  if name == "template" then closeTemplate
  else if name == "body" || name == "html" then
    if ← condition (·.tagInScope boundsScope ["body"]) then
      setMode .afterBody
      return if name == "html" then .again else .done
    else done
  else if blockEndTags.contains name then
    if ← condition (·.tagInScope boundsScope [name]) then
      closeImplied []
      popThrough [name]
    done
  else if name == "form" then closeForm
  else if name == "p" then
    unless ← condition (·.tagInScope boundsButtonScope ["p"]) do insertNamed "p"
    closeParagraph
    done
  else if name == "li" then
    if ← condition (·.tagInScope boundsListScope ["li"]) then
      closeImplied ["li"]
      popThrough ["li"]
    done
  else if name == "dd" || name == "dt" then
    if ← condition (·.tagInScope boundsScope [name]) then
      closeImplied [name]
      popThrough [name]
    done
  else if headings.contains name then
    if ← condition (·.tagInScope boundsScope headings) then
      closeImplied []
      popThrough headings
    done
  else if name == "a" || name == "nobr" || formattingTags.contains name then
    closeFormatting name
    done
  else if ["applet", "marquee", "object"].contains name then
    if ← condition (·.tagInScope boundsScope [name]) then
      closeImplied []
      popThrough [name]
      clearToMarker
    done
  else if name == "br" then
    reconstruct
    insertVoid ⟨"br", [], false⟩
    framesetNotOk
    done
  else
    anyOtherEndTag name
    done

def inBodyRules (t : Token) : Build Step := do
  match t with
  | .null | .doctype _ => done
  | .chars blank run =>
    reconstruct
    insertText run
    unless blank do framesetNotOk
    done
  | .comment c => insertComment c; done
  | .startTag tag => bodyStartTag tag
  | .endTag name => bodyEndTag name
  | .eof => if (← get).templates.isEmpty then stop else endInTemplate

end PageWatch.Markup
