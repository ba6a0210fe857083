import PageWatch.Config.Settings
import PageWatch.Extraction.Extract
import PageWatch.Extraction.Message
import PageWatch.Log.Event

/-!
# The chain of steps for a site

A chain asks for one thing after another and goes on with the answer. It says
nothing about who answers, so that chains can be run, replayed or interleaved.
-/

set_option autoImplicit false

namespace PageWatch

inductive Chain (α : Type) where
  | done (result : α)
  | fetch (url : String) (timeoutSecs : Nat) (next : Except Failure String → Chain α)
  | lookup (site : String) (next : Except Failure (Option String) → Chain α)
  | translate (text language : String) (next : Except Failure String → Chain α)
  | send (message : String) (next : Except Failure Unit → Chain α)
  | record (site endpoint : String) (next : Except Failure Unit → Chain α)
  | log (event : LogEvent) (next : Chain α)

namespace Chain

variable {α : Type}

def examine (c : Config) (site : RuleSet) (next : Except Failure Extraction → Chain α) :
    Chain α :=
  fetch site.baseUrl c.crawler.timeoutSecs fun
    | .error e => next (.error e)
    | .ok markup =>
      match extract (Document.parse markup) site c.cutoffTime with
      | .error e => next (.error (.extraction e))
      | .ok (.stale t) => log (.beforeCutoff site.name t c.cutoffTime) (next (.ok (.stale t)))
      | .ok (.item i) => next (.ok (.item i))

/-- Whether an endpoint is news for a site. Without a usable answer it is. -/
def ifNews (site endpoint : String) (next : Bool → Chain α) : Chain α :=
  lookup site fun
    | .ok (some known) => next (known != endpoint)
    | .ok none => next true
    | .error e => log (.lookupFailed site e) (next true)

def translateOrKeep (text language : String) (next : String → Chain α) : Chain α :=
  translate text language fun
    | .ok translated => next translated
    | .error e => log (.titleKept text e) (next text)

/-- The item with its title translated, if titles are translated at all. -/
def withTitle (c : Config) (translates : Bool) (i : Item) (next : Item → Chain α) : Chain α :=
  if translates then
    translateOrKeep i.title c.translator.targetLanguage fun title => next { i with title }
  else next i

/-- Records what was sent. The message is out, so a failure is only logged. -/
def recordSent (site endpoint : String) (next : Chain α) : Chain α :=
  record site endpoint fun
    | .ok () => next
    | .error e => log (.notRecorded site e) next

def announce (c : Config) (site : RuleSet) (i : Item) : Chain (Except Failure Outcome) :=
  send (i.message c.notifier.template site.name) fun
    | .error e => done (.error e)
    | .ok () => recordSent site.name i.endpoint (done (.ok (.notified i)))

/-- All there is to do for a site. -/
def ofSite (c : Config) (translates : Bool) (site : RuleSet) : Chain (Except Failure Outcome) :=
  examine c site fun
    | .error e => done (.error e)
    | .ok (.stale _) => done (.ok .stale)
    | .ok (.item i) =>
      ifNews site.name i.endpoint fun news =>
        if news then withTitle c translates i fun i => announce c site i
        else done (.ok .unchanged)

end Chain

structure Collaborators (m : Type → Type) where
  fetch : (url : String) → (timeoutSecs : Nat) → m (Except Failure String)
  lookup : (site : String) → m (Except Failure (Option String))
  translate : (text language : String) → m (Except Failure String)
  send : (message : String) → m (Except Failure Unit)
  record : (site endpoint : String) → m (Except Failure Unit)
  log : LogEvent → m Unit

def Chain.run {m : Type → Type} [Monad m] {α : Type} (w : Collaborators m) : Chain α → m α
  | done result => pure result
  | fetch url timeoutSecs next => do (next (← w.fetch url timeoutSecs)).run w
  | lookup site next => do (next (← w.lookup site)).run w
  | translate text language next => do (next (← w.translate text language)).run w
  | send message next => do (next (← w.send message)).run w
  | record site endpoint next => do (next (← w.record site endpoint)).run w
  | log event next => do w.log event; next.run w

end PageWatch
