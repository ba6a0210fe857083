import PageWatch.Markup.TableRules

/-!
# Rules of selections, templates, frames and the end of a document
-/

set_option autoImplicit false

namespace PageWatch.Markup

def inSelectScope : Build Bool := condition (·.tagInScope boundsSelectScope ["select"])

def leaveSelect : Build Unit := do
  popThrough ["select"]
  resetMode

def selectStartTag (t : Tag) : Build Step := do
  let name := t.name
  if name == "html" then mergeRoot t.attributes
  else if name == "option" then
    if ← condition (·.currentIs ["option"]) then pop
    insertTag t
    done
  else if name == "optgroup" || name == "hr" then
    if ← condition (·.currentIs ["option"]) then pop
    if ← condition (·.currentIs ["optgroup"]) then pop
    if name == "hr" then insertVoid t else insertTag t
    done
  else if name == "select" then
    if ← inSelectScope then leaveSelect
    done
  else if ["input", "keygen", "textarea"].contains name then
    if ← inSelectScope then
      leaveSelect
      return .again
    else done
  else if name == "script" || name == "template" then headStartTag t
  else done

def selectEndTag (name : String) : Build Step := do
  if name == "optgroup" then
    let b ← get
    let inGroup := (b.opened.drop 1).head?.any fun i => (b.name? i).any (·.isHtml "optgroup")
    if b.currentIs ["option"] && inGroup then pop
    if ← condition (·.currentIs ["optgroup"]) then pop
    done
  else if name == "option" then
    if ← condition (·.currentIs ["option"]) then pop
    done
  else if name == "select" then
    if ← inSelectScope then leaveSelect
    done
  else if name == "template" then closeTemplate
  else done

def inSelectRules (t : Token) : Build Step := do
  match t with
  | .null | .doctype _ => done
  | .chars _ run => insertText run; done
  | .comment c => insertComment c; done
  | .startTag tag => selectStartTag tag
  | .endTag name => selectEndTag name
  | .eof => inBodyRules t

def inSelectInTableRules (t : Token) : Build Step := do
  let tags := ["caption", "table", "tbody", "tfoot", "thead", "tr", "td", "th"]
  match t with
  | .startTag tag =>
    if tags.contains tag.name then
      leaveSelect
      return .again
    else inSelectRules t
  | .endTag name =>
    if tags.contains name then
      if ← inTableScope [name] then
        leaveSelect
        return .again
      else done
    else inSelectRules t
  | _ => inSelectRules t

def inTemplateRules (t : Token) : Build Step := do
  let switchTemplate (m : Mode) : Build Step := do
    modify fun b => { b with templates := m :: b.templates.drop 1 }
    switchTo m
  match t with
  | .chars .. | .comment _ => inBodyRules t
  | .startTag tag =>
    let name := tag.name
    if headTags.contains name then headStartTag tag
    else if name == "caption" || name == "colgroup" || tableSections.contains name then
      switchTemplate .inTable
    else if name == "col" then switchTemplate .inColumnGroup
    else if name == "tr" then switchTemplate .inTableBody
    else if name == "td" || name == "th" then switchTemplate .inRow
    else switchTemplate .inBody
  | .endTag name => if name == "template" then closeTemplate else done
  | .eof => endInTemplate
  | .null | .doctype _ => done

def afterBodyRules (t : Token) : Build Step := do
  match t with
  | .chars true _ => inBodyRules t
  | .comment c =>
    match (← get).opened.getLast? with
    | some root => appendComment root c
    | none => pure ()
    done
  | .doctype _ => done
  | .startTag ⟨"html", attributes, _⟩ => mergeRoot attributes
  | .endTag "html" => setMode .afterAfterBody; done
  | .eof => stop
  | _ => switchTo .inBody

def inFramesetRules (t : Token) : Build Step := do
  match t with
  | .chars true run => insertText run; done
  | .comment c => insertComment c; done
  | .startTag ⟨"html", attributes, _⟩ => mergeRoot attributes
  | .startTag ⟨"frameset", attributes, c⟩ => insertTag ⟨"frameset", attributes, c⟩; done
  | .startTag ⟨"frame", attributes, c⟩ => insertVoid ⟨"frame", attributes, c⟩; done
  | .startTag ⟨"noframes", attributes, c⟩ => headStartTag ⟨"noframes", attributes, c⟩
  | .endTag "frameset" =>
    if 1 < (← get).opened.length then
      pop
      unless ← condition (·.currentIs ["frameset"]) do setMode .afterFrameset
    done
  | .eof => stop
  | _ => done

def afterFramesetRules (t : Token) : Build Step := do
  match t with
  | .chars true run => insertText run; done
  | .comment c => insertComment c; done
  | .startTag ⟨"html", attributes, _⟩ => mergeRoot attributes
  | .startTag ⟨"noframes", attributes, c⟩ => headStartTag ⟨"noframes", attributes, c⟩
  | .endTag "html" => setMode .afterAfterFrameset; done
  | .eof => stop
  | _ => done

def afterAfterBodyRules (t : Token) : Build Step := do
  match t with
  | .chars true _ => inBodyRules t
  | .comment c => appendComment 0 c; done
  | .doctype _ => done
  | .startTag ⟨"html", attributes, _⟩ => mergeRoot attributes
  | .eof => stop
  | _ => switchTo .inBody

def afterAfterFramesetRules (t : Token) : Build Step := do
  match t with
  | .chars true _ => inBodyRules t
  | .comment c => appendComment 0 c; done
  | .startTag ⟨"html", attributes, _⟩ => mergeRoot attributes
  | .startTag ⟨"noframes", attributes, c⟩ => headStartTag ⟨"noframes", attributes, c⟩
  | .eof => stop
  | _ => done

end PageWatch.Markup
