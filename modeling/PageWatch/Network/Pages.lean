import PageWatch.Config.Settings
import PageWatch.Log.Event
import PageWatch.Network.Exchange

/-!
# Fetching pages
-/

set_option autoImplicit false

namespace PageWatch

variable {m : Type → Type} [Monad m]

structure PageFetcher where
  userAgent : String
  deriving Repr, DecidableEq

namespace PageFetcher

def ofSettings (s : CrawlerSettings) : Except Failure PageFetcher :=
  if isHeaderText s.userAgent then .ok ⟨s.userAgent⟩ else .error (.exchange .badHeader)

def request (f : PageFetcher) (url : String) (timeoutSecs : Nat) : Request :=
  { method := .get, url, timeoutSecs, userAgent := some f.userAgent }

def ofReply (url : String) (r : Reply) : Except Failure PageText :=
  if r.isSuccess then .ok (Charset.decodePage r.body r.charset?)
  else .error (.fetch url ("HTTP " ++ r.statusText))

/-- Bytes that make up no character are logged. -/
def fetch (f : PageFetcher) (network : Network m) (log : LogEvent → m Unit) (url : String)
    (timeoutSecs : Nat) : m (Except Failure String) := do
  match ← network (f.request url timeoutSecs) with
  | .error e => return .error (.exchange e)
  | .ok reply =>
    match ofReply url reply with
    | .error e => return .error e
    | .ok page =>
      if page.damaged then log (.invalidBytes page.charset)
      return .ok page.text

end PageFetcher

end PageWatch
