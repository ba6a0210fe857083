import Mathlib.Data.List.Induction
import Mathlib.Data.List.Nodup
import PageWatch.Proofs.Config.Names
import PageWatch.Proofs.Store.Entries
import PageWatch.Proofs.Watch.Acts

/-!
# What can happen while sites are watched

A call, be it for a tick or for a single site, makes sites wait. Waiting sites are
started in order, at most so many at once as the settings allow, and every act of
every started site may come next. Whoever answers may answer anything; only the
store answers with what it holds, and holds what was written into it. A history is
the list of all that happened, the last event at the end.
-/

set_option autoImplicit false

namespace PageWatch

namespace Act

def Fits (s : Fingerprints) : Act → Prop
  | .lookup site (.ok known) => known = s.get? site
  | _ => True

def written? : Act → Option (String × String)
  | .record site endpoint (.ok ()) => some (site, endpoint)
  | _ => none

def stored (s : Fingerprints) (a : Act) : Fingerprints := s.putAll a.written?.toList

theorem stored_of_unwritten {a : Act} (s : Fingerprints) (h : a.written? = none) :
    a.stored s = s := by
  simp [stored, h, Fingerprints.putAll]

theorem stored_of_written {a : Act} (s : Fingerprints) {site endpoint : String}
    (h : a.written? = some (site, endpoint)) : a.stored s = s.put site endpoint := by
  simp [stored, h, Fingerprints.putAll]

end Act

namespace Watching

/-- The work on a site, numbered in the order in which work is started, and the item on the page
once that has been found. -/
structure Job where
  number : Nat
  site : RuleSet
  item? : Option Item := none

def itemIn (c : Config) (site : RuleSet) (markup : String) : Option Item :=
  match extract (Document.parse markup) site c.cutoffTime with
  | .ok (.item i) => some i
  | _ => none

def Job.after (c : Config) (j : Job) : Act → Job
  | .fetch _ _ (.ok markup) => { j with item? := itemIn c j.site markup }
  | _ => j

structure Work where
  job : Job
  rest : Chain (Except Failure Outcome)

inductive Event where
  | called (sites : List RuleSet)
  | started (j : Job)
  | did (j : Job) (a : Act)
  | reported (j : Job) (result : Except Failure Outcome)
  | replaced (before after : Fingerprints)

structure State where
  store : Fingerprints
  waiting : List RuleSet := []
  working : List Work := []
  started : Nat := 0
  summary : Summary := { total := 0 }

def State.Idle (s : State) : Prop := s.waiting = [] ∧ s.working = []

def State.calling (s : State) (sites : List RuleSet) : State :=
  { s with waiting := sites, summary := { total := sites.length } }

def State.starting (s : State) (c : Config) (translates : Bool) (site : RuleSet)
    (waiting : List RuleSet) : State :=
  { s with
    waiting
    working := s.working ++ [⟨{ number := s.started, site }, .ofSite c translates site⟩]
    started := s.started + 1 }

inductive Step (c : Config) (translates : Bool) : State → Event → State → Prop where
  | tick {s : State} (idle : s.Idle) : Step c translates s (.called c.sites) (s.calling c.sites)
  | process {s : State} (site : RuleSet) (idle : s.Idle) :
    Step c translates s (.called [site]) (s.calling [site])
  | start {s : State} {site : RuleSet} {waiting : List RuleSet}
      (next : s.waiting = site :: waiting)
      (room : s.working.length < max c.crawler.maxConcurrent 1) :
    Step c translates s (.started { number := s.started, site })
      (s.starting c translates site waiting)
  | act {s : State} {before after : List Work} {w : Work} {a : Act}
      {rest : Chain (Except Failure Outcome)} (working : s.working = before ++ w :: after)
      (acts : w.rest.Step a rest) (fits : a.Fits s.store) :
    Step c translates s (.did w.job a)
      { s with store := a.stored s.store, working := before ++ ⟨w.job.after c a, rest⟩ :: after }
  | report {s : State} {before after : List Work} {w : Work} {result : Except Failure Outcome}
      (working : s.working = before ++ w :: after) (done : w.rest = .done result) :
    Step c translates s (.reported w.job result)
      { s with working := before ++ after, summary := s.summary.add result }
  | replace {s : State} (store : Fingerprints) :
    Step c translates s (.replaced s.store store) { s with store }

inductive Run (c : Config) (translates : Bool) (s : State) : List Event → State → Prop where
  | start : Run c translates s [] s
  | more {events : List Event} {s' s'' : State} {e : Event} (run : Run c translates s events s')
      (step : Step c translates s' e s'') : Run c translates s (events ++ [e]) s''

variable {c : Config} {translates : Bool}

theorem Run.cons {s s' s'' : State} {e : Event} {events : List Event}
    (step : Step c translates s e s') (run : Run c translates s' events s'') :
    Run c translates s (e :: events) s'' := by
  induction run with
  | start => exact Run.start.more step
  | more run last ih => exact ih.more last

theorem Run.append {s s' s'' : State} {before after : List Event}
    (first : Run c translates s before s') (last : Run c translates s' after s'') :
    Run c translates s (before ++ after) s'' := by
  induction last with
  | start => simpa using first
  | more run step ih =>
    rw [← List.append_assoc]
    exact ih.more step

theorem Run.split {s s' : State} {before after : List Event}
    (run : Run c translates s (before ++ after) s') :
    ∃ middle, Run c translates s before middle ∧ Run c translates middle after s' := by
  induction after using List.reverseRecOn generalizing s' with
  | nil => exact ⟨s', by simpa using run, .start⟩
  | append_singleton after e ih =>
    rw [← List.append_assoc] at run
    generalize hall : before ++ after ++ [e] = all at run
    cases run with
    | start => simp at hall
    | more run step =>
      obtain ⟨rfl, he⟩ := List.append_inj' hall rfl
      obtain rfl : e = _ := by simpa using he
      obtain ⟨middle, first, last⟩ := ih run
      exact ⟨middle, first, last.more step⟩

theorem Run.split_cons {s s' : State} {before after : List Event} {e : Event}
    (run : Run c translates s (before ++ e :: after) s') :
    ∃ middle next, Run c translates s before middle ∧ Step c translates middle e next ∧
      Run c translates next after s' := by
  rw [List.append_cons] at run
  obtain ⟨next, first, last⟩ := run.split
  generalize hall : before ++ [e] = all at first
  cases first with
  | start => simp at hall
  | more first step =>
    obtain ⟨rfl, he⟩ := List.append_inj' hall rfl
    obtain rfl : e = _ := by simpa using he
    exact ⟨_, next, first, step, last⟩

@[simp] theorem Job.after_number (j : Job) (a : Act) : (j.after c a).number = j.number := by
  unfold after
  split <;> rfl

@[simp] theorem Job.after_site (j : Job) (a : Act) : (j.after c a).site = j.site := by
  unfold after
  split <;> rfl

def Work.Stands (c : Config) (translates : Bool) (w : Work) (stage : Stage) : Prop :=
  Chain.AtStage c translates w.job.site w.rest stage ∧ w.job.item? = stage.item?

theorem Job.after_item? {j : Job} {stage next : Stage} {a : Act} (h : j.item? = stage.item?)
    (goes : Stage.Goes c translates j.site stage a next) : (j.after c a).item? = next.item? := by
  cases goes with
  | faulty hx => simp [after, itemIn, hx, Stage.item?]
  | stale hx => simp [after, itemIn, hx, Stage.item?]
  | found hx => simp [after, itemIn, hx, Stage.item?]
  | news i =>
    rw [Stage.withNews_item?]
    exact h
  | _ => exact h

theorem Job.after_eq {j : Job} {stage next : Stage} {a : Act} (h : j.item? = stage.item?)
    (goes : Stage.Goes c translates j.site stage a next) :
    j.after c a = { j with item? := next.item? } := by
  rw [← Job.after_item? h goes]
  unfold after
  split <;> rfl

theorem Step.leads {s : State} (before : List Work) {after : List Work} {j : Job}
    {stage next : Stage} {a : Act}
    (leads : Stage.Leads c translates j.site stage a next)
    (working : s.working = before ++ ⟨j, stage.chain c translates j.site⟩ :: after)
    (item : j.item? = stage.item?) (fits : a.Fits s.store) :
    Step c translates s (.did j a)
      { s with
        store := a.stored s.store
        working :=
          before ++ ⟨{ j with item? := next.item? }, next.chain c translates j.site⟩ :: after } := by
  rw [← Job.after_eq item leads.1]
  exact .act working leads.2 fits

theorem Step.ends {s : State} (before : List Work) {after : List Work} {j : Job}
    {result : Except Failure Outcome} (working : s.working = before ++ ⟨j, .done result⟩ :: after) :
    Step c translates s (.reported j result)
      { s with working := before ++ after, summary := s.summary.add result } :=
  .report working rfl

theorem Work.step {w : Work} {stage : Stage} {a : Act} {rest : Chain (Except Failure Outcome)}
    (stands : w.Stands c translates stage) (h : w.rest.Step a rest) :
    (∃ event, a = .log event ∧ Work.Stands c translates ⟨w.job.after c a, rest⟩ stage) ∨
      ∃ next, Stage.Goes c translates w.job.site stage a next ∧
        Work.Stands c translates ⟨w.job.after c a, rest⟩ next := by
  rcases stands.1.step h with ⟨event, rfl, later⟩ | ⟨next, goes, later⟩
  · exact .inl ⟨event, rfl, later, stands.2⟩
  · exact .inr ⟨next, goes, by simpa using later, Job.after_item? stands.2 goes⟩

theorem Work.written {w : Work} {stage : Stage} {a : Act} {rest : Chain (Except Failure Outcome)}
    (stands : w.Stands c translates stage) (h : w.rest.Step a rest) {site endpoint : String}
    (written : a.written? = some (site, endpoint)) :
    ∃ i title, stage = .recording i title ∧ site = w.job.site.name ∧ endpoint = i.endpoint := by
  rcases Work.step stands h with ⟨event, rfl, _⟩ | ⟨next, goes, _⟩
  · cases written
  · cases goes with
    | recorded i title answer =>
      cases answer with
      | error e => cases written
      | ok done =>
        obtain ⟨rfl, rfl⟩ := Prod.mk.inj (Option.some.inj written)
        exact ⟨i, title, rfl, rfl, rfl⟩
    | _ => cases written

theorem Work.Stands.stored_of_other {w : Work} {stage : Stage} {a : Act}
    {rest : Chain (Except Failure Outcome)} (stands : w.Stands c translates stage)
    (h : w.rest.Step a rest) {name : String}
    (other : w.job.site.name = name → ∀ i title, stage ≠ .recording i title)
    (store : Fingerprints) : (a.stored store).get? name = store.get? name := by
  cases hw : a.written? with
  | none => rw [Act.stored_of_unwritten _ hw]
  | some entry =>
    obtain ⟨i, title, rfl, site, -⟩ := Work.written stands h hw
    have apart : name ≠ entry.1 := fun he => other (site.symm.trans he.symm) i title rfl
    rw [Act.stored_of_written _ hw, Fingerprints.get?_put_of_ne _ apart]

/-- No two sites that are worked on or wait share a name, every job goes by a number of its own, and
the chain of every job is at some stage. -/
structure Sound (c : Config) (translates : Bool) (events : List Event) (s : State) : Prop where
  names : (s.working.map (·.job.site.name) ++ s.waiting.map (·.name)).Nodup
  numbers : (s.working.map (·.job.number)).Nodup
  recent : ∀ w ∈ s.working, w.job.number < s.started
  stands : ∀ w ∈ s.working, ∃ stage, w.Stands c translates stage
  past : ∀ j a, .did j a ∈ events → j.number < s.started
  owned : ∀ w ∈ s.working, ∀ j a, .did j a ∈ events → j.number = w.job.number →
    j.site = w.job.site

theorem Sound.initial (store : Fingerprints) : Sound c translates [] { store } := by
  constructor <;> simp

variable {events : List Event} {s s' : State} {before after : List Work} {w : Work}

/-- Other jobs than one that is worked on are for other sites and have other numbers. -/
theorem Sound.apart (sound : Sound c translates events s) (working : s.working = before ++ w :: after)
    {other : Work} (h : other ∈ before ++ after) :
    other.job.site.name ≠ w.job.site.name ∧ other.job.number ≠ w.job.number := by
  have names := (List.nodup_append.mp sound.names).1
  have numbers := sound.numbers
  rw [working, List.map_append, List.map_cons, List.nodup_middle, ← List.map_append,
    List.nodup_cons] at names numbers
  exact ⟨fun he => names.1 (he ▸ List.mem_map_of_mem h),
    fun he => numbers.1 (he ▸ List.mem_map_of_mem h)⟩

theorem Sound.mem_working (working : s.working = before ++ w :: after) {other : Work}
    (h : other ∈ before ++ after) : other ∈ s.working := by
  rw [working]
  rcases List.mem_append.mp h with h | h
  · exact List.mem_append_left _ h
  · exact List.mem_append_right _ (List.mem_cons_of_mem _ h)

theorem mem_replaced {other : Work} :
    other ∈ before ++ w :: after ↔ other = w ∨ other ∈ before ++ after := by
  simp only [List.mem_append, List.mem_cons]
  tauto

theorem Sound.starting (sound : Sound c translates events s) {site : RuleSet}
    {waiting : List RuleSet} (next : s.waiting = site :: waiting) :
    Sound c translates (events ++ [.started { number := s.started, site }])
      (s.starting c translates site waiting) where
  names := by simpa [State.starting, next] using sound.names
  numbers := by
    have fresh : ∀ w ∈ s.working, w.job.number ≠ s.started :=
      fun w h => Nat.ne_of_lt (sound.recent w h)
    simpa [State.starting, List.nodup_append, sound.numbers] using fresh
  recent := by
    intro w h
    rcases List.mem_append.mp h with h | h
    · exact Nat.lt_succ_of_lt (sound.recent w h)
    · simp [List.mem_singleton.mp h, State.starting]
  stands := by
    intro w h
    rcases List.mem_append.mp h with h | h
    · exact sound.stands w h
    · rw [List.mem_singleton.mp h]
      exact ⟨.examining, .here .examining, rfl⟩
  past := by
    intro j a h
    exact Nat.lt_succ_of_lt (sound.past j a (by simpa using h))
  owned := by
    intro w h j a hj he
    have hj : .did j a ∈ events := by simpa using hj
    rcases List.mem_append.mp h with h | h
    · exact sound.owned w h j a hj he
    · have hlt := sound.past j a hj
      rw [he, List.mem_singleton.mp h] at hlt
      exact absurd hlt (Nat.lt_irrefl _)

theorem Sound.acting (sound : Sound c translates events s) {a : Act}
    {rest : Chain (Except Failure Outcome)} (working : s.working = before ++ w :: after)
    (acts : w.rest.Step a rest) :
    Sound c translates (events ++ [.did w.job a])
      { s with store := a.stored s.store, working := before ++ ⟨w.job.after c a, rest⟩ :: after } where
  names := by simpa [working] using sound.names
  numbers := by simpa [working] using sound.numbers
  recent := by
    intro other h
    rcases mem_replaced.mp h with rfl | h
    · simpa using sound.recent w (by simp [working])
    · exact sound.recent other (Sound.mem_working working h)
  stands := by
    intro other h
    rcases mem_replaced.mp h with rfl | h
    · obtain ⟨stage, stands⟩ := sound.stands w (by simp [working])
      rcases Work.step stands acts with ⟨event, _, later⟩ | ⟨next, _, later⟩
      · exact ⟨stage, later⟩
      · exact ⟨next, later⟩
    · exact sound.stands other (Sound.mem_working working h)
  past := by
    intro j b h
    rcases List.mem_append.mp h with h | h
    · exact sound.past j b h
    · obtain ⟨rfl, rfl⟩ := Event.did.inj (List.mem_singleton.mp h)
      exact sound.recent w (by simp [working])
  owned := by
    intro other h j b hj he
    rcases List.mem_append.mp hj with hj | hj
    · rcases mem_replaced.mp h with rfl | h
      · simpa using sound.owned w (by simp [working]) j b hj (by simpa using he)
      · exact sound.owned other (Sound.mem_working working h) j b hj he
    · obtain ⟨rfl, rfl⟩ := Event.did.inj (List.mem_singleton.mp hj)
      rcases mem_replaced.mp h with rfl | h
      · simp
      · exact absurd he.symm (sound.apart working h).2

theorem Sound.reporting (sound : Sound c translates events s) {result : Except Failure Outcome}
    (working : s.working = before ++ w :: after) :
    Sound c translates (events ++ [.reported w.job result])
      { s with working := before ++ after, summary := s.summary.add result } where
  names := by
    have names := sound.names
    rw [working, List.map_append, List.map_cons, List.append_assoc, List.cons_append,
      List.nodup_middle, List.nodup_cons] at names
    simpa using names.2
  numbers := by
    have numbers := sound.numbers
    rw [working, List.map_append, List.map_cons, List.nodup_middle, List.nodup_cons] at numbers
    simpa using numbers.2
  recent := fun other h => sound.recent other (Sound.mem_working working h)
  stands := fun other h => sound.stands other (Sound.mem_working working h)
  past := fun j a h => sound.past j a (by simpa using h)
  owned := fun other h j a hj => sound.owned other (Sound.mem_working working h) j a (by simpa using hj)

theorem Sound.called (sound : Sound c translates events s) {sites : List RuleSet} (idle : s.Idle)
    (names : (sites.map (·.name)).Nodup) :
    Sound c translates (events ++ [.called sites]) (s.calling sites) where
  names := by simpa [State.calling, idle.2] using names
  numbers := sound.numbers
  recent := sound.recent
  stands := sound.stands
  past := fun j a h => sound.past j a (by simpa using h)
  owned := fun w h j a hj => sound.owned w h j a (by simpa using hj)

theorem Sound.step (valid : c.fault? = none) (sound : Sound c translates events s) {e : Event}
    (step : Step c translates s e s') : Sound c translates (events ++ [e]) s' := by
  cases step with
  | tick idle => exact sound.called idle (Config.names_nodup valid)
  | process site idle => exact sound.called idle (by simp)
  | start next room => exact sound.starting next
  | act working acts fits => exact sound.acting working acts
  | report working done => exact sound.reporting working
  | replace store =>
    exact
      { sound with
        past := fun j a h => sound.past j a (by simpa using h)
        owned := fun w h j a hj => sound.owned w h j a (by simpa using hj) }

theorem Run.sound (valid : c.fault? = none) {store : Fingerprints}
    (run : Run c translates { store } events s) : Sound c translates events s := by
  induction run with
  | start => exact .initial store
  | more run step ih => exact ih.step valid step

end Watching

end PageWatch
