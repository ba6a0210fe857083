import PageWatch.Store.Store
import PageWatch.Watch.Timeline

/-!
# Rehearsals

A rehearsal runs the program without a network. Pages are served from a table,
messages are kept, and each collaborator can be made to fail.
-/

set_option autoImplicit false

namespace PageWatch

/-- What a store is opened as. -/
inductive StorePlan where
  | memory
  | file (path : String)
  | configured
  deriving Repr, DecidableEq

structure Rehearsal where
  config : Config
  plan : StorePlan := .memory
  translates : Bool := false
  store : Store := .memory {}
  files : FileSystem := .empty
  page? : String → Nat → Option String := fun _ _ => none
  refused : Option String := none
  translatorFails : Bool := false
  lookupFails : Bool := false
  recordFails : Bool := false
  fetches : Nat := 0
  attempts : Nat := 0
  sent : List String := []
  logs : List LogEvent := []

namespace Rehearsal

abbrev Run := StateM Rehearsal

def disk : Disk Run := FileSystem.disk (·.files) fun files r => { r with files }

def log (e : LogEvent) : Run Unit := modify fun r => { r with logs := e :: r.logs }

def fetch (url : String) (timeoutSecs : Nat) : Run (Except Failure String) := do
  modify fun r => { r with fetches := r.fetches + 1 }
  match (← get).page? url timeoutSecs with
  | some markup => return .ok markup
  | none => return .error (.fetch url "HTTP 500 Internal Server Error")

def lookup (site : String) : Run (Except Failure (Option String)) := do
  let r ← get
  if r.lookupFails then return .error (.store (.unavailable "connection refused"))
  else return .ok (r.store.get? site)

def record (site endpoint : String) : Run (Except Failure Unit) := do
  let r ← get
  if r.recordFails then return .error (.store (.unavailable "disk full"))
  else
    match ← r.store.put disk site endpoint with
    | .ok store => modify fun r => { r with store }; return .ok ()
    | .error e => return .error e

def refuses (r : Rehearsal) (message : String) : Bool :=
  match r.refused with
  | some text => Text.occursIn text.toList message.toList
  | none => false

def send (message : String) : Run (Except Failure Unit) := do
  modify fun r => { r with attempts := r.attempts + 1 }
  if (← get).refuses message then return .error (.notify "webhook returned 502")
  else
    modify fun r => { r with sent := message :: r.sent }
    return .ok ()

def translate (text language : String) : Run (Except Failure String) := do
  if (← get).translatorFails then return .error (.translate "service unavailable")
  else return .ok ("[" ++ language ++ "] " ++ text)

def collaborators : Collaborators Run := { fetch, lookup, translate, send, record, log }

inductive Step where
  | tick
  | process (site : Nat)
  | check (site : Nat)
  | setPage (url : String) (markup? : Nat → Option String)
  | refuse (text : Option String)
  | failTranslator (fails : Bool)
  | failLookups (fails : Bool)
  | failRecords (fails : Bool)
  | setFingerprint (site endpoint : String)
  | reopen

inductive Answer where
  | ok
  | summary (s : Summary)
  | outcome (o : Outcome)
  | extraction (x : Extraction)
  | failure (e : Failure)
  | noSuchSite

def openStore : Run (Except Failure Store) := do
  let r ← get
  match r.plan with
  | .memory => return .ok (.memory {})
  | .file path => Store.openFile disk log path
  | .configured => Store.openConfigured disk log r.config.store

def ofUnit : Except Failure Unit → Answer
  | .ok () => .ok
  | .error e => .failure e

def withSite (index : Nat) (go : RuleSet → Run Answer) : Run Answer := do
  match (← get).config.sites[index]? with
  | some site => go site
  | none => return .noSuchSite

def perform : Step → Run Answer
  | .tick => do
    let r ← get
    return .summary (← PageWatch.tick collaborators r.config r.translates)
  | .process index => withSite index fun site => do
    let r ← get
    match ← (Chain.ofSite r.config r.translates site).run collaborators with
    | .ok o => return .outcome o
    | .error e => return .failure e
  | .check index => withSite index fun site => do
    let r ← get
    match ← (Chain.examine r.config site .done).run collaborators with
    | .ok x => return .extraction x
    | .error e => return .failure e
  | .setPage url markup? => do
    modify fun r =>
      { r with page? := fun u t => if u = url then markup? t else r.page? u t }
    return .ok
  | .refuse text => do modify fun r => { r with refused := text }; return .ok
  | .failTranslator fails => do modify fun r => { r with translatorFails := fails }; return .ok
  | .failLookups fails => do modify fun r => { r with lookupFails := fails }; return .ok
  | .failRecords fails => do modify fun r => { r with recordFails := fails }; return .ok
  | .setFingerprint site endpoint => do return ofUnit (← record site endpoint)
  | .reopen => do
    match ← openStore with
    | .ok store => modify fun r => { r with store }; return .ok
    | .error e => return .failure e

end Rehearsal

end PageWatch
