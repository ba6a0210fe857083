import PageWatch.Extraction.Item
import PageWatch.Text.Substring

/-!
# Messages about items

A template holds placeholders for the site, the title, the link and the day of
publication. They are filled in this order, each throughout the text so far.
-/

set_option autoImplicit false

namespace PageWatch

inductive Placeholder where
  | site
  | title
  | link
  | date
  deriving Repr, DecidableEq

def Placeholder.text : Placeholder → String
  | site => "\x7bsite\x7d"
  | title => "\x7btitle\x7d"
  | link => "\x7blink\x7d"
  | date => "\x7bdate\x7d"

def Item.value (i : Item) (site : String) : Placeholder → String
  | .site => site
  | .title => i.title
  | .link => i.endpoint
  | .date => i.publishedAt.date.toString

def Item.message (i : Item) (template site : String) : String :=
  [Placeholder.site, .title, .link, .date].foldl
    (fun text p => Text.replaced p.text (i.value site p) text) template

end PageWatch
