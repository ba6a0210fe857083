import PageWatch.Watch.Tick

/-!
# Ticks in time

Only fetches take time. Within a tick so many of them run at once as the settings
allow, and each that ends makes room for the next. Between ticks the loop waits for
the next to be due or for a shutdown to be seen, whichever comes first.
-/

set_option autoImplicit false

namespace PageWatch.Timeline

structure Running where
  index : Nat
  due : Nat
  deriving Repr, DecidableEq

inductive Moment where
  | start (index time : Nat)
  | finish (index time : Nat)
  deriving Repr, DecidableEq

/-- Running fetches stand in the order in which they end, and those that end together in the order
in which they started. -/
def enqueue (r : Running) : List Running → List Running
  | [] => [r]
  | first :: rest => if first.due ≤ r.due then first :: enqueue r rest else r :: first :: rest

/-- What happens from `now` on, when fetch `index` is the next to start, the delays of those that
wait are given, and at most `limit` may run at once. -/
def moments (limit now index : Nat) : (waiting : List Nat) → (running : List Running) → List Moment
  | [], running => running.map fun r => .finish r.index r.due
  | delay :: waiting, [] =>
    .start index now :: moments limit now (index + 1) waiting [⟨index, now + delay⟩]
  | delay :: waiting, first :: rest =>
    if rest.length + 1 < limit then
      .start index now ::
        moments limit now (index + 1) waiting (enqueue ⟨index, now + delay⟩ (first :: rest))
    else
      .finish first.index first.due :: .start index first.due ::
        moments limit first.due (index + 1) waiting (enqueue ⟨index, first.due + delay⟩ rest)

def Moment.time : Moment → Nat
  | start _ t => t
  | finish _ t => t

def ofDelays (limit : Nat) (delays : List Nat) : List Moment := moments limit 0 0 delays []

def length (limit : Nat) (delays : List Nat) : Nat :=
  ((ofDelays limit delays).getLast?.map Moment.time).getD 0

/-- A positive time from one tick to the next. -/
abbrev Period := { n : Nat // 0 < n }

/-- The loop between two ticks: the time, and the time from which on the next tick is due. -/
structure Turn where
  now : Nat := 0
  deadline : Nat := 0
  deriving Repr, DecidableEq

namespace Turn

def due (t : Turn) : Nat := max t.now t.deadline

def seen (t : Turn) (shutdown : Nat) : Nat := max t.now shutdown

/-- The turn after a tick. A tick that starts on time leaves the deadlines where they are, and one
that starts late puts them off. -/
def after (period : Period) (length : Nat) (t : Turn) : Turn where
  now := t.due + length
  deadline := (if t.deadline < t.now then t.now else t.deadline) + period.1

end Turn

variable {m : Type → Type} [Monad m]

structure Started where
  index : Nat
  site : RuleSet
  rest : Chain (Except Failure Outcome)

/-- Runs a chain up to the answer to its fetch. -/
def startFetch (w : Collaborators m) {α : Type} : Chain α → m (Chain α)
  | .fetch url timeoutSecs next => return next (← w.fetch url timeoutSecs)
  | chain => return chain

def runMoments (w : Collaborators m) (c : Config) (translates : Bool) :
    List Moment → List Started → Summary → m Summary
  | [], _, s => return s
  | .start i _ :: rest, fetching, s => do
    match c.sites[i]? with
    | some site =>
      let chain ← startFetch w (Chain.ofSite c translates site)
      runMoments w c translates rest (fetching ++ [⟨i, site, chain⟩]) s
    | none => runMoments w c translates rest fetching s
  | .finish i _ :: rest, fetching, s => do
    match fetching.find? (·.index == i) with
    | some one =>
      let s ← s.report w one.site (← one.rest.run w)
      runMoments w c translates rest (fetching.filter (·.index != i)) s
    | none => runMoments w c translates rest fetching s

def delaysOf (c : Config) (delay : Nat → Nat) (tick : Nat) : List Nat :=
  (List.range c.sites.length).map fun i => delay (tick * c.sites.length + i)

def tickAt (w : Collaborators m) (c : Config) (translates : Bool) (delay : Nat → Nat)
    (tick : Nat) : m Summary := do
  w.log (.tickStarted (tick + 1))
  let happens := ofDelays c.crawler.maxConcurrent (delaysOf c delay tick)
  (← runMoments w c translates happens [] { total := c.sites.length }).conclude w

def lengthAt (c : Config) (delay : Nat → Nat) (tick : Nat) : Nat :=
  length c.crawler.maxConcurrent (delaysOf c delay tick)

def fetchTimes (c : Config) (delay : Nat → Nat) (tick start : Nat) : List Nat :=
  (ofDelays c.crawler.maxConcurrent (delaysOf c delay tick)).filterMap fun
    | .start _ t => some (start + t)
    | .finish .. => none

/-- Takes turns, the next of which is for the given tick, until a shutdown is seen before a tick is
due. Gives the times at which fetches start. -/
def takeTurns (w : Collaborators m) (c : Config) (translates : Bool) (delay : Nat → Nat)
    (period : Period) (shutdown tick : Nat) (t : Turn) : m (List (List Nat)) := do
  if _ : t.due < t.seen shutdown then
    discard (tickAt w c translates delay tick)
    let later ← takeTurns w c translates delay period shutdown (tick + 1)
      (t.after period (lengthAt c delay tick))
    return fetchTimes c delay tick t.due :: later
  else
    w.log (.shutdown tick)
    return []
  termination_by shutdown - t.deadline
  decreasing_by
    have := period.2
    simp only [Turn.due, Turn.seen, Turn.after] at *
    split <;> omega

def run (w : Collaborators m) (c : Config) (delay : Nat → Nat) (period : Period)
    (shutdown : Nat) (translates : Bool := false) : m (List (List Nat)) :=
  takeTurns w c translates delay period shutdown 0 {}

end PageWatch.Timeline
