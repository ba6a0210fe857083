import PageWatch.Document.Node

/-!
# Matching elements

An element matches when its tag is the wanted one and, if an attribute is asked
for, the attribute's value agrees with the wanted value, either as a whole or as
one of its words.
-/

set_option autoImplicit false

namespace PageWatch

inductive Agreement where
  | token
  | exact
  deriving Repr, DecidableEq

def Agreement.holds (a : Agreement) (actual expected : String) : Bool :=
  match a with
  | .token => (Text.words actual.toList).contains expected.toList
  | .exact => actual == expected

structure Matcher where
  tag : String
  wanted : Option (String × String)
  agreement : Agreement
  deriving Repr, DecidableEq

namespace Matcher

def ofTag (tag : String) : Matcher := ⟨tag, none, .token⟩

def hasWanted (m : Matcher) (n : Node) : Bool :=
  match m.wanted with
  | none => true
  | some (name, expected) =>
    match n.attribute? name with
    | none => false
    | some actual => m.agreement.holds actual expected

def accepts (m : Matcher) (n : Node) : Bool :=
  n.isElement && n.tag == m.tag && m.hasWanted n

end Matcher

end PageWatch
