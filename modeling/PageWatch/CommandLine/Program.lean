import PageWatch.CommandLine.Invocation
import PageWatch.Config.Load
import PageWatch.Log.Filter
import PageWatch.Network.Pages
import PageWatch.Network.Translator
import PageWatch.Network.Webhook
import PageWatch.Store.Store
import PageWatch.Watch.Tick

/-!
# The program

The program is written over a host, which gives access to files, the network, the
environment and the clock.
-/

set_option autoImplicit false

namespace PageWatch

structure Host (m : Type → Type) where
  disk : Disk m
  network : Network m
  variableOf : String → m (Option String)
  print : String → m Unit
  display : LogEvent → m Unit
  pause : Nat → m Bool

namespace CommandLine

inductive Exit where
  | success
  | failure (e : Failure)
  | help (t : Topic)
  | version
  | misuse (e : Misuse)
  deriving Repr, DecidableEq

def Exit.code : Exit → Nat
  | success | help _ | version => 0
  | failure _ => 1
  | misuse _ => 2

variable {m : Type → Type} [Monad m]

structure Watcher where
  config : Config
  pages : PageFetcher
  webhook : Webhook
  translator : Option Translator

abbrev Logger (m : Type → Type) := LogEvent → m Unit

namespace Watcher

/-- The collaborators that stand for the real services; the store is the state. -/
def collaborators (h : Host m) (log : Logger m) (w : Watcher) :
    Collaborators (StateT Store m) where
  fetch url timeoutSecs := StateT.lift (w.pages.fetch h.network log url timeoutSecs)
  lookup site := return .ok ((← get).get? site)
  translate text language :=
    match w.translator with
    | some t => StateT.lift (t.translate h.network text language)
    | none => return .ok text
  send message := StateT.lift (w.webhook.send h.network message)
  record site endpoint := do
    match ← StateT.lift ((← get).put h.disk site endpoint) with
    | .ok store => set store; return .ok ()
    | .error e => return .error e
  log e := StateT.lift (log e)

def tick (h : Host m) (log : Logger m) (w : Watcher) : StateT Store m Summary :=
  PageWatch.tick (w.collaborators h log) w.config w.translator.isSome

def watch (h : Host m) (log : Logger m) (w : Watcher) : (limit done : Nat) → StateT Store m Nat
  | 0, done => return done
  | limit + 1, done => do
    log (.tickStarted (done + 1))
    let _ ← w.tick h log
    if ← h.pause w.config.schedule.intervalSecs then w.watch h log limit (done + 1)
    else
      log (.shutdown (done + 1))
      return done + 1

end Watcher

/-- More ticks than there is time for. -/
def tickLimit : Nat := Nat.pow 2 62

def translatorOf (s : TranslatorSettings) : Except Failure (Option Translator) :=
  if s.enabled then (Translator.ofSettings s).map some else .ok none

/-- Makes a watcher and opens its store; the first failure ends it. -/
def assemble (h : Host m) (log : Logger m) (c : Config) :
    m (Except Failure (Watcher × Store)) := do
  match PageFetcher.ofSettings c.crawler, Webhook.ofSettings c.notifier with
  | .error e, _ | _, .error e => return .error e
  | .ok pages, .ok webhook =>
    match ← Store.openConfigured h.disk log c.store with
    | .error e => return .error e
    | .ok store =>
      match translatorOf c.translator with
      | .error e => return .error e
      | .ok translator => return .ok ({ config := c, pages, webhook, translator }, store)

def validate (log : Logger m) (c : Config) : m Exit := do
  log .configOk
  c.sites.forM fun site => log (.siteListed site)
  return .success

def checkLine (site : RuleSet) (r : Except Failure Extraction) : String :=
  let rest := match r with
    | .ok (.item i) =>
      i.publishedAt.date.toString ++ " | " ++ i.title ++ " | " ++ i.endpoint
    | .ok (.stale t) => "stale (newest " ++ t.date.toString ++ ")"
    | .error e => "error: " ++ e.message
  "[" ++ site.name ++ "] " ++ rest

def readers (h : Host m) (log : Logger m) (pages : PageFetcher) : Collaborators m where
  fetch url timeoutSecs := pages.fetch h.network log url timeoutSecs
  lookup _ := return .ok none
  translate text _ := return .ok text
  send _ := return .ok ()
  record _ _ := return .ok ()
  log := log

def check (h : Host m) (log : Logger m) (c : Config) (name : Option String) : m Exit := do
  let sites : List RuleSet := match name with
    | some name => c.sites.filter (·.name == name)
    | none => c.sites
  if sites.isEmpty then return .failure (.setup (.unknownSite (name.getD "")))
  match PageFetcher.ofSettings c.crawler with
  | .error e => return .failure e
  | .ok pages =>
    sites.forM fun site => do
      let r ← (Chain.examine c site .done).run (readers h log pages)
      h.print (checkLine site r)
    return .success

def once (h : Host m) (log : Logger m) (c : Config) : m Exit := do
  match ← assemble h log c with
  | .error e => return .failure e
  | .ok (w, store) =>
    let (s, _) ← (w.tick h log).run store
    log (.done s.notified)
    return .success

def watch (h : Host m) (log : Logger m) (c : Config) : m Exit := do
  match ← assemble h log c with
  | .error e => return .failure e
  | .ok (w, store) =>
    log (.watching c.schedule.intervalSecs)
    let _ ← (w.watch h log tickLimit 0).run store
    return .success

def perform (h : Host m) (log : Logger m) (c : Config) : Command → m Exit
  | .run => watch h log c
  | .once => once h log c
  | .check name => check h log c name
  | .validate => validate log c

def logger (h : Host m) (f : LogFilter) : Logger m := fun e =>
  if f.passes e then h.display e else pure ()

def overrides (h : Host m) : m Overrides := do
  let webhookUrl ← h.variableOf "NEWSWATCH_WEBHOOK_URL"
  let translatorKey ← h.variableOf "NEWSWATCH_TRANSLATOR_KEY"
  let storeUrl ← h.variableOf "NEWSWATCH_STORE_URL"
  return { webhookUrl, translatorKey, storeUrl }

def filterOf (verbose : Bool) (level : String) : LogFilter :=
  .ofText (if verbose then "debug" else level)

def invoke (h : Host m) (i : Invocation) : m Exit := do
  match Config.load i.config (← h.disk.read i.config) (← overrides h) with
  | .error e =>
    logger h (filterOf i.verbose "info") (.loadFailed i.config e)
    return .failure e
  | .ok c =>
    let log := logger h (filterOf i.verbose c.logging.level)
    log (.loaded c.sites.length i.config)
    perform h log c i.command

def run (h : Host m) (arguments : List String) : m Exit := do
  match Wish.ofArguments arguments with
  | .invoke i => invoke h i
  | .help t => t.text.forM h.print; return .help t
  | .version => h.print versionText; return .version
  | .misuse e => return .misuse e

end CommandLine

end PageWatch
