import PageWatch.Watch.Chain

/-!
# Ticks

In a tick every site is worked on once. A site that fails is logged and counted,
and the others go on.
-/

set_option autoImplicit false

namespace PageWatch

variable {m : Type → Type} [Monad m]

def Outcome.event (site : RuleSet) : Except Failure Outcome → LogEvent
  | .ok (.notified i) => .siteNotified site.name i
  | .ok .unchanged => .siteUnchanged site.name
  | .ok .stale => .siteStale site.name
  | .error e => .siteFailed site.name site.baseUrl e

def Summary.report (w : Collaborators m) (s : Summary) (site : RuleSet)
    (r : Except Failure Outcome) : m Summary := do
  w.log (Outcome.event site r)
  return s.add r

def Summary.conclude (w : Collaborators m) (s : Summary) : m Summary := do
  w.log (.tickComplete s)
  return s

/-- Works on the sites one after another. -/
def tick (w : Collaborators m) (c : Config) (translates : Bool) : m Summary := do
  let work (s : Summary) (site : RuleSet) : m Summary := do
    s.report w site (← (Chain.ofSite c translates site).run w)
  (← c.sites.foldlM work { total := c.sites.length }).conclude w

end PageWatch
