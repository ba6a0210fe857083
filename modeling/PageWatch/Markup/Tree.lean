import PageWatch.Markup.Lexer
import PageWatch.Markup.ForeignRules

/-!
# From markup to a tree

Tokens are taken from the front of the text and given to the rules, which may
change how the rest is cut into tokens.
-/

set_option autoImplicit false

namespace PageWatch.Markup

def rules (t : Token) : Build Step := do
  if (← get).currentName?.any (·.isForeignTo t) then foreignRules t else modeRules t

/-- Gives the token to the rules until they are done with it. Each time that they are not, they
close an element or leave a mode for good. -/
def process (t : Token) : Nat → Build Unit
  | 0 => pure ()
  | fuel + 1 => do
    match ← rules t with
    | .done => pure ()
    | .again => process t fuel

/-- A line feed right after the start tag of preformatted text is dropped. -/
def withoutNewline : Token → Option Token
  | .chars true run =>
    match run.toList with
    | ['\n'] => none
    | '\n' :: r => some (.chars true (String.ofList r))
    | _ => some (.chars true run)
  | t => some t

def feed (t : Token) : Build Unit := do
  let b ← get
  set { b with skipNewline := false }
  match if b.skipNewline then withoutNewline t else some t with
  | some t => process t (2 * b.opened.length + 2 * b.templates.length + 16)
  | none => pure ()

def feedAll : List Token → Build Unit
  | [] => modify fun b => { b with skipNewline := false }
  | [t] => feed t
  | t :: ts => do
    feed t
    feedAll ts

def readTokens : Nat → List Char → Build Unit
  | 0, _ => pure ()
  | fuel + 1, cs => do
    let b ← get
    if b.stopped then pure ()
    else
      let sections := b.currentName?.any (·.space != .html)
      let (tokens, rest) := nextTokens b.reading b.readingTag sections cs
      feedAll tokens
      readTokens fuel rest

def forestOf (markup : String) : Forest :=
  let cs := normalized markup.toList
  ((readTokens (cs.length + 2) cs).run {}).2.forest

end PageWatch.Markup
