import PageWatch.Calendar.Layout
import PageWatch.Site.Alternatives
import PageWatch.Site.Description
import PageWatch.Url.Parse

/-!
# Rules of a site

A description is checked once and turned into rules that cannot go wrong later:
there is something to look for at each step, the base URL has a host, and every
date layout has a date.
-/

set_option autoImplicit false

namespace PageWatch

/-- Elements of one tag that have one of several values in an attribute. -/
structure Query where
  tag : String
  attr : String
  alternatives : List String
  agreement : Agreement
  deriving Repr, DecidableEq

def Query.matchers (q : Query) : List Matcher :=
  q.alternatives.map fun value => ⟨q.tag, some (q.attr, value), q.agreement⟩

inductive DateLocator where
  | inBlock (m : Matcher)
  | alongTags (tags : List String)
  | anywhere (m : Matcher)
  deriving Repr, DecidableEq

inductive TitleLocator where
  | block
  | alternatives (q : Query)
  deriving Repr, DecidableEq

structure RuleSet where
  name : String
  baseUrl : String
  realUrl : Option String
  content : Query
  date : DateLocator
  title : TitleLocator
  dateFormats : List Calendar.Layout
  deriving DecidableEq

inductive SiteFault where
  | badBaseUrl (url : String) (reason : UrlError)
  | baseUrlWithoutHost (url : String)
  | noContentTag
  | noContentMode
  | noContent
  | noDateTag
  | dateModeWithoutDate (mode : String)
  | noTitleTag
  | noTitle
  | noDateFormats
  | undatedFormat (layout : String)
  deriving Repr, DecidableEq

inductive SiteError where
  | unnamed
  | faulty (site : String) (fault : SiteFault)
  | undatedLayout (layout : String)
  deriving Repr, DecidableEq

def undatedMessage (layout : String) : String :=
  "date format '" ++ layout ++ "' contains no reference date (e.g. 2006-01-02)"

def SiteFault.message : SiteFault → String
  | badBaseUrl url reason => "base_url '" ++ url ++ "' is invalid: " ++ reason.message
  | baseUrlWithoutHost url => "base_url '" ++ url ++ "' has no host"
  | noContentTag => "content_tag is empty"
  | noContentMode => "content_mode is empty"
  | noContent => "content has no alternatives"
  | noDateTag => "date_tag is empty"
  | dateModeWithoutDate mode => "date_mode '" ++ mode ++ "' is set but date is empty"
  | noTitleTag => "title_tag is empty"
  | noTitle => "title has no alternatives"
  | noDateFormats => "date_formats is empty"
  | undatedFormat layout => "Validation error: " ++ undatedMessage layout

def SiteError.message : SiteError → String
  | unnamed => "site name is empty"
  | faulty site fault => "site '" ++ site ++ "': " ++ fault.message
  | undatedLayout layout => undatedMessage layout

namespace RuleSet

def orFault {α : Type} (x : Option α) (fault : SiteFault) : Except SiteFault α :=
  match x with
  | some a => .ok a
  | none => .error fault

def checkBase (url : String) : Except SiteFault Unit :=
  match Url.parse url with
  | .error reason => .error (.badBaseUrl url reason)
  | .ok base => if base.host.isSome then .ok () else .error (.baseUrlWithoutHost url)

def checkQuery (q : Query) (fault : SiteFault) : Except SiteFault Query :=
  if q.alternatives.isEmpty then .error fault else .ok q

def contentQuery (r : RuleTexts) : Except SiteFault Query := do
  let tag ← orFault (nonBlank? r.contentTag) .noContentTag
  let attr ← orFault (nonBlank? r.contentMode) .noContentMode
  checkQuery ⟨tag, attr, splitAlternatives r.content, r.agreement⟩ .noContent

def dateMatcher (r : RuleTexts) (tag : String) : Matcher :=
  match nonBlank? r.dateMode with
  | none => .ofTag tag
  | some mode => ⟨tag, some (mode, Text.trimmed r.date), r.agreement⟩

def dateLocator (r : RuleTexts) : Except SiteFault DateLocator := do
  let tag ← orFault (nonBlank? r.dateTag) .noDateTag
  match nonBlank? r.dateMode with
  | some mode =>
    if (nonBlank? r.date).isNone then throw (.dateModeWithoutDate mode)
  | none => pure ()
  if Text.trimmed r.dateIn == "yes" then
    if (nonBlank? r.dateMode).isNone then return .alongTags (splitAlternatives tag)
    else return .inBlock (dateMatcher r tag)
  else return .anywhere (dateMatcher r tag)

def titleLocator (r : RuleTexts) : Except SiteFault TitleLocator :=
  match nonBlank? r.titleMode with
  | none => .ok .block
  | some attr => do
    let tag ← orFault (nonBlank? r.titleTag) .noTitleTag
    let q ← checkQuery ⟨tag, attr, splitAlternatives r.title, r.agreement⟩ .noTitle
    return .alternatives q

def layouts (formats : List String) : Except SiteFault (List Calendar.Layout) :=
  if formats.isEmpty then .error .noDateFormats
  else formats.mapM fun layout => orFault (Calendar.Layout.ofText? layout) (.undatedFormat layout)

def compile (name : String) (s : SiteDescription) : Except SiteFault RuleSet := do
  checkBase s.baseUrl
  let content ← contentQuery s.rules
  let date ← dateLocator s.rules
  let title ← titleLocator s.rules
  let dateFormats ← layouts s.dateFormats
  let realUrl := s.realUrl.filter fun url => (nonBlank? url).isSome
  return { name, baseUrl := s.baseUrl, realUrl, content, date, title, dateFormats }

def ofDescription (s : SiteDescription) : Except SiteError RuleSet :=
  match nonBlank? s.name with
  | none => .error .unnamed
  | some name => (compile name s).mapError (.faulty name)

end RuleSet

end PageWatch
