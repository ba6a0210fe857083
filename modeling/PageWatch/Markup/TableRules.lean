import PageWatch.Markup.BodyRules

/-!
# Rules of tables

Content that has no place in a table is put in front of it: it is read by the
rules of the body while `fostering` is set.
-/

set_option autoImplicit false

namespace PageWatch.Markup

def tableParts : List String :=
  ["caption", "col", "colgroup", "tbody", "td", "tfoot", "th", "thead", "tr"]

def setFostering (on : Bool) : Build Unit := modify fun b => { b with fostering := on }

def foster (t : Token) : Build Step := do
  setFostering true
  let step ← inBodyRules t
  setFostering false
  return step

def popTo (tags : List String) : Build Unit := popWhile fun n => !n.isOneOf tags

def inTableScope (tags : List String) : Build Bool := condition (·.tagInScope boundsTableScope tags)

def tableStartTag (t : Tag) : Build Step := do
  let name := t.name
  if name == "caption" then
    popTo tableContext
    addMarker
    insertTag t
    setMode .inCaption
    done
  else if name == "colgroup" then
    popTo tableContext
    insertTag t
    setMode .inColumnGroup
    done
  else if name == "col" then
    popTo tableContext
    insertNamed "colgroup"
    switchTo .inColumnGroup
  else if tableSections.contains name then
    popTo tableContext
    insertTag t
    setMode .inTableBody
    done
  else if ["td", "th", "tr"].contains name then
    popTo tableContext
    insertNamed "tbody"
    switchTo .inTableBody
  else if name == "table" then
    if ← inTableScope ["table"] then
      popThrough ["table"]
      resetMode
      return .again
    else done
  else if ["style", "script", "template"].contains name then headStartTag t
  else if name == "input" && isHidden t then
    insertVoid t
    done
  else if name == "form" then
    let b ← get
    if !b.hasOpen "template" && b.form.isNone then
      let i ← insertElement t
      pop
      modify fun b => { b with form := some i }
    done
  else foster (.startTag t)
where
  tableContext : List String := ["table", "template", "html"]

def tableEndTag (name : String) : Build Step := do
  if name == "table" then
    if ← inTableScope ["table"] then
      popThrough ["table"]
      resetMode
    done
  else if name == "body" || name == "html" || tableParts.contains name then done
  else if name == "template" then closeTemplate
  else foster (.endTag name)

/-- Text is first collected, since it goes in front of the table unless it is all blank. -/
def tableChars (t : Token) : Build Step := do
  if ← condition (·.currentIs ("table" :: "tr" :: tableSections)) then
    modify fun b => { b with returnMode := b.mode }
    switchTo .inTableText
  else foster t

def inTableRules (t : Token) : Build Step := do
  match t with
  | .null | .chars .. => tableChars t
  | .comment c => insertComment c; done
  | .doctype _ => done
  | .startTag tag => tableStartTag tag
  | .endTag name => tableEndTag name
  | .eof => inBodyRules t

def placeTableText : Build Unit := do
  let runs := (← get).tableText.reverse
  modify fun b => { b with tableText := [], mode := b.returnMode }
  for (blank, run) in runs do
    if runs.all (·.1) then insertText run
    else discard (foster (.chars blank run))

def inTableTextRules (t : Token) : Build Step := do
  match t with
  | .null => done
  | .chars blank run =>
    modify fun b => { b with tableText := (blank, run) :: b.tableText }
    done
  | _ =>
    placeTableText
    return .again

def closeMarked (tags : List String) : Build Unit := do
  closeImplied []
  popThrough tags
  clearToMarker

def inCaptionRules (t : Token) : Build Step := do
  let leave : Build Bool := do
    if ← inTableScope ["caption"] then
      closeMarked ["caption"]
      setMode .inTable
      return true
    else return false
  match t with
  | .startTag tag =>
    if tableParts.contains tag.name then return if ← leave then .again else .done
    else inBodyRules t
  | .endTag name =>
    if name == "caption" then discard leave; done
    else if name == "table" then return if ← leave then .again else .done
    else if name == "body" || name == "html" || tableParts.contains name then done
    else inBodyRules t
  | _ => inBodyRules t

def inColumnGroupRules (t : Token) : Build Step := do
  let leave : Build Bool := do
    if ← condition (·.currentIs ["colgroup"]) then
      pop
      setMode .inTable
      return true
    else return false
  let leaveWith : Build Step := return if ← leave then .again else .done
  match t with
  | .chars true run => insertText run; done
  | .comment c => insertComment c; done
  | .doctype _ => done
  | .startTag tag =>
    if tag.name == "html" then mergeRoot tag.attributes
    else if tag.name == "col" then insertVoid tag; done
    else if tag.name == "template" then openTemplate tag
    else leaveWith
  | .endTag name =>
    if name == "colgroup" then discard leave; done
    else if name == "col" then done
    else if name == "template" then closeTemplate
    else leaveWith
  | .eof => inBodyRules t
  | _ => leaveWith

def inTableBodyRules (t : Token) : Build Step := do
  let leave : Build Unit := do
    popTo context
    pop
    setMode .inTable
  let leaveWith : Build Step := do
    if ← inTableScope ["table", "tbody", "tfoot"] then
      leave
      return .again
    else done
  match t with
  | .startTag tag =>
    if tag.name == "tr" then
      popTo context
      insertTag tag
      setMode .inRow
      done
    else if tag.name == "td" || tag.name == "th" then
      popTo context
      insertNamed "tr"
      switchTo .inRow
    else if tableParts.contains tag.name then leaveWith
    else inTableRules t
  | .endTag name =>
    if tableSections.contains name then
      if ← inTableScope [name] then leave
      done
    else if name == "table" then leaveWith
    else inTableRules t
  | _ => inTableRules t
where
  context : List String := tableSections ++ ["template", "html"]

def inRowRules (t : Token) : Build Step := do
  let leave : Build Bool := do
    if ← inTableScope ["tr"] then
      popTo context
      pop
      setMode .inTableBody
      return true
    else return false
  let leaveWith : Build Step := return if ← leave then .again else .done
  match t with
  | .startTag tag =>
    if tag.name == "td" || tag.name == "th" then
      popTo context
      insertTag tag
      setMode .inCell
      addMarker
      done
    else if tableParts.contains tag.name then leaveWith
    else inTableRules t
  | .endTag name =>
    if name == "tr" then discard leave; done
    else if name == "table" then leaveWith
    else if tableSections.contains name then
      if ← inTableScope [name] then leaveWith else done
    else inTableRules t
  | _ => inTableRules t
where
  context : List String := ["tr", "template", "html"]

def inCellRules (t : Token) : Build Step := do
  let leaveFor (tags : List String) : Build Step := do
    if ← inTableScope tags then
      closeMarked ["td", "th"]
      switchTo .inRow
    else done
  match t with
  | .startTag tag =>
    if tableParts.contains tag.name then leaveFor ["td", "th"] else inBodyRules t
  | .endTag name =>
    if name == "td" || name == "th" then
      if ← inTableScope [name] then
        closeImplied []
        popThrough [name]
        clearToMarker
        setMode .inRow
      done
    else if ["body", "caption", "col", "colgroup", "html"].contains name then done
    else if name == "table" || name == "tr" || tableSections.contains name then leaveFor [name]
    else inBodyRules t
  | _ => inBodyRules t

end PageWatch.Markup
