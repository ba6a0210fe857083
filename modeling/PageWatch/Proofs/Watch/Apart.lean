import PageWatch.Proofs.Watch.Again

/-!
# Sites apart

What is done for a site, in the order in which it is done, is what is done for it where
there is no other site. This holds of every tick whatever the others do in between, and
of one tick after another since a tick leaves for the site what it would leave for it
alone.
-/

set_option autoImplicit false

namespace PageWatch

namespace Watching

/-- An act for a site, or what the site came to in the end. -/
inductive Deed where
  | act (a : Act)
  | result (r : Except Failure Outcome)

def Event.deed? (name : String) : Event → Option Deed
  | .did j a => if j.site.name = name then some (.act a) else none
  | .reported j r => if j.site.name = name then some (.result r) else none
  | _ => none

def deeds (name : String) (events : List Event) : List Deed := events.filterMap (·.deed? name)

theorem deeds_append (name : String) (events : List Event) (e : Event) :
    deeds name (events ++ [e]) = deeds name events ++ (e.deed? name).toList := by
  unfold deeds
  cases h : e.deed? name <;> simp [h]

end Watching

namespace Chain

variable (answers : Answers) (known : Fingerprints)

def deeds (chain : Chain (Except Failure Outcome)) : List Watching.Deed :=
  (chain.acts answers known).map .act ++ [.result (chain.outcome answers known)]

variable {answers known}

theorem deeds_of_step {chain rest : Chain (Except Failure Outcome)} {a : Act}
    (step : chain.Step a rest) (gives : answers.Gives known a) :
    chain.deeds answers known = .act a :: rest.deeds answers known := by
  rw [deeds, acts_of_step step gives, outcome_of_step step gives]
  rfl

end Chain

def Answers.deeds (answers : Answers) (c : Config) (translates : Bool) (known : Fingerprints)
    (site : RuleSet) : List Watching.Deed :=
  (Chain.ofSite c translates site).deeds answers known

theorem Answers.deeds_congr {answers : Answers} {c : Config} {translates : Bool} {site : RuleSet}
    {s known : Fingerprints} (agree : s.get? site.name = known.get? site.name) :
    answers.deeds c translates s site = answers.deeds c translates known site := by
  have acts : (Chain.ofSite c translates site).acts answers s = _ := Answers.acts_congr agree
  have outcome : (Chain.ofSite c translates site).outcome answers s = _ :=
    Answers.outcome_congr agree
  rw [deeds, Chain.deeds, acts, outcome]
  rfl

namespace Watching

section Ahead

variable (answers : Answers) (c : Config) (translates : Bool) (known : Fingerprints)
  (name : String)

def deedsAhead (s : State) : List Deed :=
  (s.working.filter (·.job.site.name = name)).flatMap (fun w => w.rest.deeds answers known) ++
    (s.waiting.filter (·.name = name)).flatMap (answers.deeds c translates known)

end Ahead

variable {answers : Answers} {c : Config} {translates : Bool} {known : Fingerprints}
  {name : String} {events : List Event} {s s' : State} {before after : List Work} {w : Work}

theorem deedsAhead_starting {site : RuleSet} {waiting : List RuleSet}
    (next : s.waiting = site :: waiting) :
    deedsAhead answers c translates known name (s.starting c translates site waiting) =
      deedsAhead answers c translates known name s := by
  by_cases own : site.name = name <;>
    simp [deedsAhead, State.starting, next, own, Answers.deeds]

theorem Sound.filter_before (sound : Sound c translates events s)
    (working : s.working = before ++ w :: after) :
    before.filter (·.job.site.name = w.job.site.name) = [] := by
  apply List.filter_eq_nil_iff.mpr
  intro other h
  simpa using (sound.apart working (List.mem_append_left _ h)).1

theorem deedsAhead_acting (sound : Sound c translates events s)
    (working : s.working = before ++ w :: after) {a : Act}
    {rest : Chain (Except Failure Outcome)} (step : w.rest.Step a rest)
    (gives : answers.Gives known a) (store : Fingerprints) :
    deedsAhead answers c translates known name s =
      (Event.deed? name (.did w.job a)).toList ++
        deedsAhead answers c translates known name
          { s with store, working := before ++ ⟨w.job.after c a, rest⟩ :: after } := by
  by_cases own : w.job.site.name = name
  · -- The jobs before it are for other sites, so nothing of the site's comes before its act.
    subst own
    simp [deedsAhead, working, sound.filter_before working, Chain.deeds_of_step step gives,
      Event.deed?]
  · simp [deedsAhead, working, own, Event.deed?]

theorem deedsAhead_reporting (sound : Sound c translates events s)
    (working : s.working = before ++ w :: after) {result : Except Failure Outcome}
    (done : w.rest = .done result) (summary : Summary) :
    deedsAhead answers c translates known name s =
      (Event.deed? name (.reported w.job result)).toList ++
        deedsAhead answers c translates known name
          { s with working := before ++ after, summary } := by
  by_cases own : w.job.site.name = name
  · subst own
    simp [deedsAhead, working, sound.filter_before working, done, Chain.deeds, Chain.acts,
      Chain.outcome, Event.deed?]
  · simp [deedsAhead, working, own, Event.deed?]

theorem Interleaved.deedsAhead_step
    (inter : Interleaved answers c translates known events s) {e : Event}
    (step : Step c translates s e s') (answered : e.Answered answers) :
    deedsAhead answers c translates known name s =
      (e.deed? name).toList ++ deedsAhead answers c translates known name s' := by
  cases step with
  | start next room => exact (deedsAhead_starting next).symm
  | @act before after w a rest working acts fits =>
    obtain ⟨held, gives⟩ := answered
    obtain ⟨stage, at_stage, agree⟩ := inter.agree w (by simp [working])
    obtain ⟨same, -⟩ := at_stage.agree_step answers acts agree
    exact deedsAhead_acting inter.sound working acts (same.mp (gives_of_fits gives fits)) _
  | report working done => exact deedsAhead_reporting inter.sound working done _
  | _ => exact answered.elim

theorem Run.deeds_and_ahead (name : String) (valid : c.fault? = none) (idle : s.Idle)
    (run : Run c translates (s.calling c.sites) events s')
    (answered : ∀ e ∈ events, e.Answered answers) :
    deeds name events ++ deedsAhead answers c translates s.store name s' =
      (c.sites.filter (·.name = name)).flatMap (answers.deeds c translates s.store) := by
  induction run with
  | start => simp [deeds, deedsAhead, State.calling, idle.2]
  | @more events s' s'' e run step ih =>
    have earlier : ∀ e ∈ events, e.Answered answers :=
      fun e h => answered e (List.mem_append_left _ h)
    have last := answered e (List.mem_append_right _ (List.mem_singleton_self _))
    have inter := run.interleaved valid idle earlier
    rw [deeds_append, List.append_assoc, ← inter.deedsAhead_step step last]
    exact ih earlier

theorem filter_name {sites : List RuleSet} (names : (sites.map (·.name)).Nodup) {site : RuleSet}
    (mem : site ∈ sites) : sites.filter (·.name = site.name) = [site] := by
  obtain ⟨before, after, rfl⟩ := List.append_of_mem mem
  rw [List.map_append, List.map_cons, List.nodup_middle, List.nodup_cons, ← List.map_append] at names
  have others : (before ++ after).filter (·.name = site.name) = [] := by
    apply List.filter_eq_nil_iff.mpr
    intro other h
    have apart : other.name ≠ site.name := fun he => names.1 (he ▸ List.mem_map_of_mem h)
    simpa using apart
  rw [List.filter_append, List.append_eq_nil_iff] at others
  simp [List.filter_append, others]

theorem Run.deeds_of_site (valid : c.fault? = none) (idle : s.Idle)
    (run : Run c translates (s.calling c.sites) events s')
    (answered : ∀ e ∈ events, e.Answered answers) (idle' : s'.Idle) {site : RuleSet}
    (mem : site ∈ c.sites) :
    deeds site.name events = answers.deeds c translates s.store site ∧
      s'.store.get? site.name =
        (s.store.putAll (writes (answers.acts c translates s.store site))).get? site.name := by
  constructor
  · have whole := run.deeds_and_ahead site.name valid idle answered
    rw [filter_name (Config.names_nodup valid) mem] at whole
    simpa [deedsAhead, idle'.1, idle'.2] using whole
  · rw [(run.interleaved valid idle answered).store_at_end valid idle']
    exact Answers.get?_putAll_sites (Config.names_nodup valid) mem

/-- A tick that is over: the answers that were given in it, what happened, and the store it left. -/
structure Past where
  answers : Answers
  events : List Event
  store : Fingerprints

/-- What a tick was for the site of this name: what was done for it, the messages with their answers
and the result among it, and what was stored for it then. -/
def Past.view (name : String) (past : Past) : List Deed × Option String :=
  (deeds name past.events, past.store.get? name)

/-- One tick after another. Between ticks all that answers may change. -/
inductive Ticks (c : Config) (translates : Bool) : State → List Past → State → Prop where
  | initial {s : State} (idle : s.Idle) : Ticks c translates s [] s
  | more {s s' s'' : State} {answers : Answers} {events : List Event} {later : List Past}
      (idle : s.Idle) (run : Run c translates (s.calling c.sites) events s')
      (answered : ∀ e ∈ events, e.Answered answers) (rest : Ticks c translates s' later s'') :
    Ticks c translates s (⟨answers, events, s'.store⟩ :: later) s''

theorem Ticks.idle {pasts : List Past} (ticks : Ticks c translates s pasts s') : s.Idle := by
  cases ticks <;> assumption

theorem Ticks.of_answers (c : Config) (translates : Bool) (given : List Answers) (idle : s.Idle) :
    ∃ pasts s', Ticks c translates s pasts s' ∧ pasts.map (·.answers) = given := by
  induction given generalizing s with
  | nil => exact ⟨[], s, .initial idle, rfl⟩
  | cons answers given ih =>
    obtain ⟨events, s', run, answered, idle'⟩ := State.canEnd answers c translates
      (s.calling c.sites)
    obtain ⟨pasts, s'', ticks, same⟩ := ih idle'
    exact ⟨_, s'', .more idle run answered ticks, congrArg _ same⟩

/-- What a site shows in one tick after another, each with the answers given in it, where the site is
alone with a store. -/
def viewsAlone (c : Config) (translates : Bool) (site : RuleSet) :
    List Answers → Fingerprints → List (List Deed × Option String)
  | [], _ => []
  | answers :: given, store =>
    let left := store.putAll (writes (answers.acts c translates store site))
    (answers.deeds c translates store site, left.get? site.name) ::
      viewsAlone c translates site given left

theorem viewsAlone_congr {site : RuleSet} (given : List Answers) {store store' : Fingerprints}
    (agree : store.get? site.name = store'.get? site.name) :
    viewsAlone c translates site given store = viewsAlone c translates site given store' := by
  induction given generalizing store store' with
  | nil => rfl
  | cons answers given ih =>
    have left : (store.putAll (writes (answers.acts c translates store site))).get? site.name =
        (store'.putAll (writes (answers.acts c translates store' site))).get? site.name := by
      rw [Answers.acts_congr agree]
      exact Answers.stored_congr agree
    simp only [viewsAlone]
    rw [Answers.deeds_congr agree, ih left, left]

theorem viewsAlone_sites (site : RuleSet) (sites : List RuleSet) (given : List Answers)
    (store : Fingerprints) :
    viewsAlone { c with sites } translates site given store =
      viewsAlone c translates site given store := by
  induction given generalizing store with
  | nil => rfl
  | cons answers given ih => exact congrArg (List.cons _) (ih _)

/-- What the ticks show of a site is what it shows alone. -/
theorem Ticks.views_eq (valid : c.fault? = none) {site : RuleSet} (mem : site ∈ c.sites)
    {pasts : List Past} (ticks : Ticks c translates s pasts s') :
    pasts.map (·.view site.name) =
      viewsAlone c translates site (pasts.map (·.answers)) s.store := by
  induction ticks with
  | initial idle => rfl
  | @more s s' s'' answers events later idle run answered rest ih =>
    obtain ⟨done, left⟩ := run.deeds_of_site valid idle answered rest.idle mem
    simp only [List.map_cons, viewsAlone, Past.view]
    rw [done, left]
    -- The others have left nothing in the store that the next ticks depend on.
    exact congrArg _ (ih.trans (viewsAlone_congr _ left))

/-- In any number of ticks, with whatever answers in each of them, what is done for a site, what it
comes to and what is stored for it are as if it were the only site, and are the same whatever other
sites there are. -/
theorem site_undisturbed (valid : c.fault? = none) {site : RuleSet} (mem : site ∈ c.sites)
    {pasts : List Past} (ticks : Ticks c translates s pasts s') {t : State} (idle : t.Idle)
    (stored : t.store.get? site.name = s.store.get? site.name) :
    (∃ alone t', Ticks { c with sites := [site] } translates t alone t' ∧
      alone.map (·.answers) = pasts.map (·.answers)) ∧
    (∀ alone t', Ticks { c with sites := [site] } translates t alone t' →
      alone.map (·.answers) = pasts.map (·.answers) →
      alone.map (·.view site.name) = pasts.map (·.view site.name)) ∧
    (∀ sites, ({ c with sites } : Config).fault? = none → site ∈ sites →
      ∀ others t', Ticks { c with sites } translates t others t' →
        others.map (·.answers) = pasts.map (·.answers) →
        others.map (·.view site.name) = pasts.map (·.view site.name)) ∧
    pasts.map (·.view site.name) =
      viewsAlone c translates site (pasts.map (·.answers)) t.store := by
  have shown : pasts.map (·.view site.name) =
      viewsAlone c translates site (pasts.map (·.answers)) t.store :=
    (ticks.views_eq valid mem).trans (viewsAlone_congr _ stored.symm)
  refine ⟨Ticks.of_answers _ translates _ idle, ?_, ?_, shown⟩
  · intro alone t' ticks' given
    have valid' := Config.fault?_single valid site
    rw [ticks'.views_eq valid' (List.mem_singleton_self site), given, shown, viewsAlone_sites]
  · intro sites valid' mem' others t' ticks' given
    rw [ticks'.views_eq valid' mem', given, shown, viewsAlone_sites]

def samplePasts : List Past :=
  [⟨sampleAnswers, sampleTurns, sampleEnd.store⟩,
    ⟨sampleAnswers, sampleTurnsAgain, sampleEndAgain.store⟩]

theorem sample_ticks :
    Ticks (sampleConfig 2 sampleSites) false sampleStart samplePasts sampleEndAgain :=
  .more ⟨rfl, rfl⟩ sample_turns sample_turns_answered
    (.more ⟨rfl, rfl⟩ sample_turns_again sample_turns_again_answered (.initial ⟨rfl, rfl⟩))

theorem site_undisturbed_sample :
    (sampleConfig 2 sampleSites).fault? = none ∧ sampleSite "A" ∈ sampleSites ∧
      Ticks (sampleConfig 2 sampleSites) false sampleStart samplePasts sampleEndAgain ∧
      sampleStart.Idle ∧
      ∃ alone t, Ticks (sampleConfig 2 [sampleSite "A"]) false sampleStart alone t ∧
        alone.map (·.answers) = [sampleAnswers, sampleAnswers] ∧
        alone.map (·.view "A") = samplePasts.map (·.view "A") := by
  have valid : (sampleConfig 2 sampleSites).fault? = none :=
    sample_valid (by decide) (by simp [sampleSites]) (by decide)
  have mem : sampleSite "A" ∈ (sampleConfig 2 sampleSites).sites := List.mem_cons_self
  obtain ⟨⟨alone, t, ticks, given⟩, same, -⟩ :=
    site_undisturbed valid mem sample_ticks ⟨rfl, rfl⟩ rfl
  exact ⟨valid, mem, sample_ticks, ⟨rfl, rfl⟩, alone, t, ticks, given, same alone t ticks given⟩

end Watching

end PageWatch
