import PageWatch.Markup.SelectRules

/-!
# Rules of drawings and formulas

Some elements of drawings and formulas hold ordinary markup again, and start
tags of common elements leave the drawing.
-/

set_option autoImplicit false

namespace PageWatch.Markup

open Text

def Mode.rules : Mode → Token → Build Step
  | .initial => initialRules
  | .beforeHtml => beforeHtmlRules
  | .beforeHead => beforeHeadRules
  | .inHead => inHeadRules
  | .afterHead => afterHeadRules
  | .inBody => inBodyRules
  | .text => textRules
  | .inTable => inTableRules
  | .inTableText => inTableTextRules
  | .inCaption => inCaptionRules
  | .inColumnGroup => inColumnGroupRules
  | .inTableBody => inTableBodyRules
  | .inRow => inRowRules
  | .inCell => inCellRules
  | .inSelect => inSelectRules
  | .inSelectInTable => inSelectInTableRules
  | .inTemplate => inTemplateRules
  | .afterBody => afterBodyRules
  | .inFrameset => inFramesetRules
  | .afterFrameset => afterFramesetRules
  | .afterAfterBody => afterAfterBodyRules
  | .afterAfterFrameset => afterAfterFramesetRules

def modeRules (t : Token) : Build Step := do (← get).mode.rules t

def holdsFormulaText (n : Name) : Bool := n.space == .math && formulaText.contains n.tag

def holdsDrawingText (n : Name) : Bool := n.space == .svg && drawingText.contains n.tag

def Name.isForeignTo (n : Name) (t : Token) : Bool :=
  if n.space == .html then false
  else match t with
    | .eof => false
    | .null | .chars .. => !holdsFormulaText n && !holdsDrawingText n
    | .startTag tag =>
      !(holdsFormulaText n && tag.name != "mglyph" && tag.name != "malignmark") &&
        !holdsDrawingText n && !(n == ⟨.math, "annotation-xml"⟩ && tag.name == "svg")
    | _ => true

def breakOut (t : Token) : Build Step := do
  popWhile fun n => n.space != .html && !holdsFormulaText n && !holdsDrawingText n
  modeRules t

def isBreakout (t : Tag) : Bool :=
  breakoutTags.contains t.name ||
    (t.name == "font" && t.attributes.any fun a => ["color", "face", "size"].contains a.1)

/-- Closes the nearest element spelled so inside the drawing, but leaves the tag to the ordinary
rules when an ordinary element is nearer. -/
def foreignEndTag (tag : String) : Build Step := do
  let b ← get
  match go b true b.opened with
  | none => done
  | some (some rest) =>
    modify fun b => { b with opened := rest }
    done
  | some none => modeRules (.endTag tag)
where
  go (b : Builder) (first : Bool) : List Nat → Option (Option (List Nat))
    | [] | [_] => none
    | i :: outer =>
      match b.name? i with
      | none => none
      | some n =>
        if !first && n.space == .html then some none
        else if lowered n.tag == tag then some (some outer)
        else go b false outer

def foreignRules (t : Token) : Build Step := do
  match t with
  | .null => insertText (String.ofList [replacement]); done
  | .chars blank run =>
    unless blank do framesetNotOk
    insertText run
    done
  | .comment c => insertComment c; done
  | .doctype _ | .eof => done
  | .startTag tag =>
    if isBreakout tag then breakOut t
    else
      match (← get).currentName? with
      | some ⟨.svg, _⟩ => insertForeign .svg (spelling drawingTags tag.name) tag
      | _ => insertForeign .math tag.name tag
      done
  | .endTag name => if name == "br" || name == "p" then breakOut t else foreignEndTag name

end PageWatch.Markup
