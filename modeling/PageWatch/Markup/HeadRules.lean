import PageWatch.Markup.Adoption

/-!
# Rules before the body

The rules from the start of the document to the end of its head, and those of
templates, which other rules share.
-/

set_option autoImplicit false

namespace PageWatch.Markup

def initialRules (t : Token) : Build Step := do
  match t with
  | .chars true _ => done
  | .comment c => appendComment 0 c; done
  | .doctype d =>
    modify fun b => { b with legacy := d.isLegacy }
    setMode .beforeHtml
    done
  | _ =>
    modify fun b => { b with legacy := true }
    switchTo .beforeHtml

def insertRoot (attributes : List Attribute) : Build Unit := do
  let i ← create (.element ⟨.html, "html"⟩ attributes)
  modify fun b => { b with forest := b.forest.append 0 i, opened := [i] }

def beforeHtmlRules (t : Token) : Build Step := do
  match t with
  | .doctype _ | .chars true _ => done
  | .comment c => appendComment 0 c; done
  | .startTag ⟨"html", attributes, _⟩ =>
    insertRoot attributes
    setMode .beforeHead
    done
  | .endTag name =>
    if ["head", "body", "html", "br"].contains name then
      insertRoot []
      switchTo .beforeHead
    else done
  | _ =>
    insertRoot []
    switchTo .beforeHead

/-- A further `html` tag adds the attributes that the root lacks. -/
def mergeRoot (attributes : List Attribute) : Build Step := do
  unless ← condition (·.hasOpen "template") do
    modify fun b =>
      match b.opened.getLast? with
      | some root => { b with forest := b.forest.addMissing root attributes }
      | none => b
  done

def insertHead (t : Tag) : Build Unit := do
  let i ← insertElement t
  modify fun b => { b with head := some i, mode := .inHead }

def beforeHeadRules (t : Token) : Build Step := do
  match t with
  | .doctype _ | .chars true _ => done
  | .comment c => insertComment c; done
  | .startTag ⟨"html", attributes, _⟩ => mergeRoot attributes
  | .startTag ⟨"head", attributes, c⟩ => insertHead ⟨"head", attributes, c⟩; done
  | .endTag name =>
    if ["head", "body", "html", "br"].contains name then
      insertHead ⟨"head", [], false⟩
      return .again
    else done
  | _ =>
    insertHead ⟨"head", [], false⟩
    return .again

def openTemplate (t : Tag) : Build Step := do
  insertTag t
  addMarker
  modify fun b =>
    { b with framesetOk := false, mode := .inTemplate, templates := .inTemplate :: b.templates }
  done

def closeTemplate : Build Step := do
  if ← condition (·.hasOpen "template") then
    closeImpliedThoroughly
    popThrough ["template"]
    clearToMarker
    modify fun b => { b with templates := b.templates.drop 1 }
    resetMode
  done

def headTags : List String :=
  ["base", "basefont", "bgsound", "link", "meta", "title", "noframes", "style", "script",
   "template"]

/-- The start tags that go into the head wherever they stand. -/
def headStartTag (t : Tag) : Build Step := do
  match t.name with
  | "title" => insertReading t .escapableText
  | "noframes" | "style" => insertReading t .rawText
  | "script" => insertReading t .script
  | "template" => openTemplate t
  | _ => insertVoid t; done

def leaveHead : Build Step := do
  pop
  switchTo .afterHead

def inHeadRules (t : Token) : Build Step := do
  match t with
  | .chars true run => insertText run; done
  | .comment c => insertComment c; done
  | .doctype _ => done
  | .startTag tag =>
    if tag.name == "html" then mergeRoot tag.attributes
    else if headTags.contains tag.name then headStartTag tag
    else if tag.name == "noscript" then insertReading tag .rawText
    else if tag.name == "head" then done
    else leaveHead
  | .endTag name =>
    if name == "head" then
      pop
      setMode .afterHead
      done
    else if ["body", "html", "br"].contains name then leaveHead
    else if name == "template" then closeTemplate
    else done
  | _ => leaveHead

def insertBody : Build Step := do
  insertNamed "body"
  switchTo .inBody

def afterHeadRules (t : Token) : Build Step := do
  match t with
  | .chars true run => insertText run; done
  | .comment c => insertComment c; done
  | .doctype _ => done
  | .startTag tag =>
    if tag.name == "html" then mergeRoot tag.attributes
    else if tag.name == "body" then
      insertTag tag
      framesetNotOk
      setMode .inBody
      done
    else if tag.name == "frameset" then
      insertTag tag
      setMode .inFrameset
      done
    else if headTags.contains tag.name then
      match (← get).head with
      | some head =>
        push head
        let step ← headStartTag tag
        removeOpened head
        return step
      | none => done
    else if tag.name == "head" then done
    else insertBody
  | .endTag name =>
    if name == "template" then closeTemplate
    else if ["body", "html", "br"].contains name then insertBody
    else done
  | _ => insertBody

def textRules (t : Token) : Build Step := do
  let leave : Build Unit := do
    pop
    modify fun b => { b with mode := b.returnMode, reading := .data }
  match t with
  | .chars _ run => insertText run; done
  | .endTag _ => leave; done
  | .eof => leave; return .again
  | _ => done

end PageWatch.Markup
