import PageWatch.Calendar.Timestamp
import PageWatch.Extraction.Link
import PageWatch.Text.Quoted

/-!
# Items and why none is found
-/

set_option autoImplicit false

namespace PageWatch

structure Item where
  title : String
  endpoint : String
  publishedAt : Calendar.Timestamp
  deriving DecidableEq

inductive Extraction where
  | item (i : Item)
  | stale (publishedAt : Calendar.Timestamp)
  deriving DecidableEq

inductive ExtractionError where
  | noContent (tag attr : String) (alternatives : List String)
  | noDateElement
  | emptyDate
  | unreadableDate (raw : String) (formats : List String)
  | noTitle
  | noLink
  | badUrl (e : LinkError)
  deriving Repr, DecidableEq

def ExtractionError.message : ExtractionError → String
  | noContent tag attr alternatives =>
    "no content element matched " ++ tag ++ "[" ++ attr ++ "] in " ++
      Text.quotedList alternatives
  | noDateElement => "date element not found"
  | emptyDate => "date element is empty"
  | unreadableDate raw formats =>
    "date '" ++ raw ++ "' matched none of the formats " ++ Text.quotedList formats
  | noTitle => "title element not found"
  | noLink => "link not found on title element"
  | badUrl e => "invalid URL '" ++ e.input ++ "': " ++ e.reason.message

end PageWatch
