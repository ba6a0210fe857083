import PageWatch.Log.Event
import PageWatch.Text.Substring

/-!
# Which events are shown

A filter is a list of rules, each a level or a part of the program with a level.
Of the rules whose part an event comes from, the one with the longest name
decides. A text behind a slash must occur in the event.
-/

set_option autoImplicit false

namespace PageWatch

abbrev Verbosity := Nat

def Verbosity.ofName? (name : String) : Option Verbosity :=
  match Text.lowered name with
  | "off" => some 0
  | "error" => some 1
  | "warn" => some 2
  | "info" => some 3
  | "debug" => some 4
  | "trace" => some 5
  | _ => none

structure LogRule where
  part : Option String
  verbosity : Verbosity
  deriving Repr, DecidableEq

structure LogFilter where
  rules : List LogRule
  needle : Option String := none
  deriving Repr, DecidableEq

namespace LogRule

def size (r : LogRule) : Nat := (r.part.map (·.utf8ByteSize)).getD 0

def covers (r : LogRule) (target : String) : Bool :=
  match r.part with
  | none => true
  | some part => part.toList.isPrefixOf target.toList

def ofText? (text : String) : Option LogRule :=
  match text.splitOn "=" with
  | [one] =>
    match Verbosity.ofName? one with
    | some v => some ⟨none, v⟩
    | none => some ⟨some one, 5⟩
  | [part, level] =>
    let level := Text.trimmed level
    if level.isEmpty then some ⟨some part, 5⟩
    else (Verbosity.ofName? level).map fun v => ⟨some part, v⟩
  | _ => none

end LogRule

namespace LogFilter

def insert (rules : List LogRule) (r : LogRule) : List LogRule :=
  if rules.any (·.part == r.part) then rules.map fun q => if q.part == r.part then r else q
  else rules ++ [r]

def ofRules (rules : List LogRule) (needle : Option String) : LogFilter :=
  let distinct := rules.foldl insert []
  let rules := if distinct.isEmpty then [⟨none, 1⟩] else distinct
  { rules := rules.mergeSort fun a b => a.size ≤ b.size, needle }

/-- The filter that a text describes; without any rule errors are shown. -/
def ofText (text : String) : LogFilter :=
  let rules (list : String) : List LogRule :=
    ((list.splitOn ",").map Text.trimmed |>.filter (!·.isEmpty)).filterMap LogRule.ofText?
  match text.splitOn "/" with
  | [list] => ofRules (rules list) none
  | [list, needle] => ofRules (rules list) (some needle)
  | _ => ofRules [] none

def passes (f : LogFilter) (e : LogEvent) : Bool :=
  let allowed := match f.rules.reverse.find? (·.covers e.target) with
    | some r => decide (e.level.rank ≤ r.verbosity)
    | none => false
  let matched := match f.needle with
    | some needle => Text.occursIn needle.toList e.text.toList
    | none => true
  allowed && matched

end LogFilter

end PageWatch
