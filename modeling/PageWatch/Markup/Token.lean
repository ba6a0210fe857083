/-!
# Markup tokens

Characters come in runs that are either all blank (tab, line feed, form feed,
return, space) or without any such character, because the tree rules treat the
two differently.
-/

set_option autoImplicit false

namespace PageWatch.Markup

def isSpace (c : Char) : Bool :=
  c == ' ' || c == '\n' || c == '\t' || c == '\x0c' || c == '\r'

/-- What stands in for characters that have no place in a document. -/
def replacement : Char := '\uFFFD'

def withoutNull (c : Char) : Char := if c = '\x00' then replacement else c

abbrev Attribute := String × String

structure Tag where
  name : String
  attributes : List Attribute
  selfClosing : Bool
  deriving Repr, DecidableEq

def Tag.attribute? (t : Tag) (name : String) : Option String :=
  (t.attributes.find? (·.1 == name)).map (·.2)

structure Doctype where
  name : Option String
  publicId : Option String
  systemId : Option String
  forceLegacy : Bool
  deriving Repr, DecidableEq

inductive Token where
  | doctype (d : Doctype)
  | startTag (t : Tag)
  | endTag (name : String)
  | comment (content : String)
  | chars (blank : Bool) (run : String)
  | null
  | eof
  deriving Repr, DecidableEq

inductive Reading where
  | data
  | escapableText
  | rawText
  | script
  | plainText
  deriving Repr, DecidableEq

end PageWatch.Markup
