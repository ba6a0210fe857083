import PageWatch.Charset.Label
import PageWatch.Failure
import PageWatch.Watch.Outcome

/-!
# What is logged

An event has a level, the part of the program that it comes from, and a text.
-/

set_option autoImplicit false

namespace PageWatch

inductive LogLevel where
  | error
  | warn
  | info
  | debug
  deriving Repr, DecidableEq

def LogLevel.name : LogLevel → String
  | error => "ERROR"
  | warn => "WARN"
  | info => "INFO"
  | debug => "DEBUG"

def LogLevel.rank : LogLevel → Nat
  | error => 1
  | warn => 2
  | info => 3
  | debug => 4

inductive LogEvent where
  | loadFailed (path : String) (e : Failure)
  | loaded (sites : Nat) (path : String)
  | configOk
  | siteListed (rules : RuleSet)
  | watching (seconds : Nat)
  | done (notified : Nat)
  | tickStarted (tick : Nat)
  | shutdown (ticks : Nat)
  | siteNotified (site : String) (i : Item)
  | siteUnchanged (site : String)
  | siteStale (site : String)
  | siteFailed (site url : String) (e : Failure)
  | notRecorded (site : String) (e : Failure)
  | tickComplete (s : Summary)
  | lookupFailed (site : String) (e : Failure)
  | beforeCutoff (site : String) (publishedAt cutoff : Calendar.Timestamp)
  | titleKept (title : String) (e : Failure)
  | invalidBytes (c : Charset)
  | storeOpened (path : String) (entries : Nat)
  | storeReady (path : String)

namespace LogEvent

def level : LogEvent → LogLevel
  | loadFailed .. | notRecorded .. => .error
  | siteFailed .. | lookupFailed .. | titleKept .. => .warn
  | loaded .. | configOk | siteListed _ | watching _ | done _ | shutdown _ | siteNotified ..
  | siteUnchanged _ | tickComplete _ | storeReady _ => .info
  | tickStarted _ | siteStale _ | beforeCutoff .. | invalidBytes _ | storeOpened .. => .debug

def target : LogEvent → String
  | loadFailed .. | loaded .. | configOk | siteListed _ | watching _ | done _ => "newswatch"
  | tickStarted _ | shutdown _ => "newswatch::pipeline::schedule"
  | siteNotified .. | siteUnchanged _ | siteStale _ | siteFailed .. | notRecorded ..
  | tickComplete _ => "newswatch::pipeline::watch"
  | lookupFailed .. => "newswatch::services::change"
  | beforeCutoff .. => "newswatch::services::extractor"
  | titleKept .. => "newswatch::services::translator"
  | invalidBytes _ => "newswatch::utils::http"
  | storeOpened .. => "newswatch::storage::local"
  | storeReady _ => "newswatch::storage"

def ofSite (site text : String) : String := "[" ++ site ++ "] " ++ text

def text : LogEvent → String
  | loadFailed path e => "Failed to load " ++ path ++ ": " ++ e.message
  | loaded sites path => "Loaded " ++ toString sites ++ " sites from " ++ path
  | configOk => "✓ Config OK"
  | siteListed rules =>
    "  " ++ rules.name ++ " -> " ++ rules.baseUrl ++ " (" ++ toString rules.dateFormats.length ++
      " date formats)"
  | watching seconds => "Watching every " ++ toString seconds ++ "s, press Ctrl-C to stop"
  | done notified => "Done! " ++ toString notified ++ " notified"
  | tickStarted tick => "Starting tick " ++ toString tick
  | shutdown ticks => "Shutdown requested after " ++ toString ticks ++ " tick(s)"
  | siteNotified site i => ofSite site ("notified: " ++ i.title ++ " (" ++ i.endpoint ++ ")")
  | siteUnchanged site => ofSite site "skipped, already notified"
  | siteStale site => ofSite site "nothing new before cutoff"
  | siteFailed site url e => ofSite site ("failed for " ++ url ++ ": " ++ e.message)
  | notRecorded site e => ofSite site ("failed to save fingerprint: " ++ e.message)
  | tickComplete s =>
    "Tick complete: " ++ toString s.total ++ " sites, " ++ toString s.notified ++ " notified, " ++
      toString s.unchanged ++ " unchanged, " ++ toString s.stale ++ " stale, " ++
      toString s.failures ++ " failed"
  | lookupFailed site e =>
    ofSite site ("fingerprint lookup failed, treating as new: " ++ e.message)
  | beforeCutoff site publishedAt cutoff =>
    ofSite site ("newest item dated " ++ publishedAt.textWith ' ' ++ " is before cutoff " ++
      cutoff.textWith ' ')
  | titleKept title e =>
    "Translation failed, keeping original title '" ++ title ++ "': " ++ e.message
  | invalidBytes c => "Page contained bytes invalid for " ++ c.name
  | storeOpened path entries =>
    "Opened fingerprint store " ++ path ++ " (" ++ toString entries ++ " entries)"
  | storeReady path => "Fingerprints stored at " ++ path

def line (e : LogEvent) : String := e.level.name ++ " " ++ e.target ++ ": " ++ e.text

end LogEvent

end PageWatch
