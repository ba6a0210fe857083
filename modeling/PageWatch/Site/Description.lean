import PageWatch.Data.Decode
import PageWatch.Document.Matcher

/-!
# Sites as they are described

A description holds the rules of a site as texts. It can be read from structured
data, where rules that are left out have defaults, and written back.
-/

set_option autoImplicit false

namespace PageWatch

structure RuleTexts where
  content : String := ""
  contentTag : String := "div"
  contentMode : String := "class"
  dateTag : String := ""
  dateMode : String := ""
  date : String := ""
  dateIn : String := ""
  titleMode : String := ""
  titleTag : String := "h3"
  title : String := ""
  agreement : Agreement := .token
  deriving Repr, DecidableEq

structure SiteDescription where
  name : String
  baseUrl : String
  realUrl : Option String := none
  rules : RuleTexts
  dateFormats : List String := []
  deriving Repr, DecidableEq

def Agreement.names : List String := ["token", "exact"]

def Agreement.name : Agreement → String
  | token => "token"
  | exact => "exact"

def Agreement.ofDatum (f : DataFormat) (d : Datum) : Decoded Agreement := do
  let i ← d.asVariant f Agreement.names
  return if i = 0 then .token else .exact

namespace RuleTexts

def textField (f : DataFormat) (name : String) (set : RuleTexts → String → RuleTexts) :
    Datum.Field RuleTexts :=
  (name, fun r d => return set r (← d.asText f))

def fields (f : DataFormat) : List (Datum.Field RuleTexts) :=
  [textField f "content" fun r s => { r with content := s },
   textField f "content_tag" fun r s => { r with contentTag := s },
   textField f "content_mode" fun r s => { r with contentMode := s },
   textField f "date_tag" fun r s => { r with dateTag := s },
   textField f "date_mode" fun r s => { r with dateMode := s },
   textField f "date" fun r s => { r with date := s },
   textField f "date_in" fun r s => { r with dateIn := s },
   textField f "title_mode" fun r s => { r with titleMode := s },
   textField f "title_tag" fun r s => { r with titleTag := s },
   textField f "title" fun r s => { r with title := s },
   ("match", fun r d => return { r with agreement := ← Agreement.ofDatum f d })]

def ofDatum (f : DataFormat) (d : Datum) : Decoded RuleTexts :=
  d.asRecord f "ParseRules" (fields f) [] {}

def toDatum (r : RuleTexts) : Datum :=
  .table
    [("content", .text r.content), ("content_tag", .text r.contentTag),
     ("content_mode", .text r.contentMode), ("date_tag", .text r.dateTag),
     ("date_mode", .text r.dateMode), ("date", .text r.date), ("date_in", .text r.dateIn),
     ("title_mode", .text r.titleMode), ("title_tag", .text r.titleTag),
     ("title", .text r.title), ("match", .text r.agreement.name)]

end RuleTexts

namespace SiteDescription

structure Draft where
  name : Option String := none
  baseUrl : Option String := none
  realUrl : Option String := none
  rules : Option RuleTexts := none
  dateFormats : List String := []

def fields (f : DataFormat) : List (Datum.Field Draft) :=
  [("name", fun s d => return { s with name := some (← d.asText f) }),
   ("base_url", fun s d => return { s with baseUrl := some (← d.asText f) }),
   ("real_url", fun s d => return { s with realUrl := ← d.asOptionalText f }),
   ("rules", fun s d => return { s with rules := some (← RuleTexts.ofDatum f d) }),
   ("date_formats", fun s d => return { s with dateFormats := ← d.asTexts f })]

def needed : List (String × (Draft → Bool)) :=
  [("name", (·.name.isSome)), ("base_url", (·.baseUrl.isSome)), ("rules", (·.rules.isSome))]

def ofDatum (f : DataFormat) (d : Datum) : Decoded SiteDescription := do
  let s ← d.asRecord f "SiteConfig" (fields f) needed {}
  return {
    name := s.name.getD ""
    baseUrl := s.baseUrl.getD ""
    realUrl := s.realUrl
    rules := s.rules.getD {}
    dateFormats := s.dateFormats }

def toDatum (s : SiteDescription) : Datum :=
  let real := match s.realUrl with
    | some url => [("real_url", .text url)]
    | none => []
  .table <|
    [("name", .text s.name), ("base_url", .text s.baseUrl)] ++ real ++
      [("rules", s.rules.toDatum), ("date_formats", .list (s.dateFormats.map .text))]

end SiteDescription

end PageWatch
