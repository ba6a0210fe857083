import PageWatch.Proofs.Watch.Alone
import PageWatch.Proofs.Watch.Delivery

/-!
# Interleavings of a tick

The sites of a tick write fingerprints of their own and read no others, so the
order in which their acts follow one another does not matter. At any time what was
done and what is still ahead make up what the sites do when each is alone.
-/

set_option autoImplicit false

namespace PageWatch

def Summary.count (results : List (Except Failure Outcome)) : Summary where
  total := results.length
  notified := results.countP (· matches .ok (.notified _))
  unchanged := results.countP (· matches .ok .unchanged)
  stale := results.countP (· matches .ok .stale)
  failures := results.countP (· matches .error _)

namespace Summary

theorem foldl_add (s : Summary) (results : List (Except Failure Outcome)) :
    results.foldl add s =
      { total := s.total
        notified := s.notified + (count results).notified
        unchanged := s.unchanged + (count results).unchanged
        stale := s.stale + (count results).stale
        failures := s.failures + (count results).failures } := by
  induction results generalizing s with
  | nil => rfl
  | cons result results ih =>
    rw [List.foldl_cons, ih]
    rcases result with e | (i | _ | _) <;> simp [add, count] <;> omega

theorem foldl_add_total (results : List (Except Failure Outcome)) :
    results.foldl add { total := results.length } = count results := by
  rw [foldl_add]
  simp [count]

theorem count_perm {results results' : List (Except Failure Outcome)}
    (perm : results.Perm results') : count results = count results' := by
  simp only [count, perm.length_eq, perm.countP_eq]

theorem count_total (results : List (Except Failure Outcome)) :
    (count results).notified + (count results).unchanged + (count results).stale +
      (count results).failures = (count results).total := by
  induction results with
  | nil => rfl
  | cons result results ih =>
    rcases result with e | (i | _ | _) <;> simp [count] at ih ⊢ <;> omega

end Summary

namespace Watching

def Event.act? : Event → Option Act
  | .did _ a => some a
  | _ => none

def Event.report? : Event → Option (RuleSet × Except Failure Outcome)
  | .reported j result => some (j.site, result)
  | _ => none

def acts (events : List Event) : List Act := events.filterMap Event.act?

def reports (events : List Event) : List (RuleSet × Except Failure Outcome) :=
  events.filterMap Event.report?

theorem acts_append (events : List Event) (e : Event) :
    acts (events ++ [e]) = acts events ++ e.act?.toList := by
  unfold acts
  cases h : e.act? <;> simp [h]

theorem reports_append (events : List Event) (e : Event) :
    reports (events ++ [e]) = reports events ++ e.report?.toList := by
  unfold reports
  cases h : e.report? <;> simp [h]

/-- An event of a tick that nobody else disturbs, where what is asked is answered as given. -/
def Event.Answered (answers : Answers) : Event → Prop
  | .did _ a => ∃ s, answers.Gives s a
  | .called _ | .replaced .. => False
  | _ => True

variable (answers : Answers) (c : Config) (translates : Bool) (known : Fingerprints)

def actsAhead (s : State) : List Act :=
  s.working.flatMap (fun w => w.rest.acts answers known) ++
    s.waiting.flatMap (answers.acts c translates known)

def reportsAhead (s : State) : List (RuleSet × Except Failure Outcome) :=
  s.working.map (fun w => (w.job.site, w.rest.outcome answers known)) ++
    s.waiting.map fun site => (site, answers.outcome c translates known site)

variable {answers c translates known} {s s' : State} {before after : List Work} {w : Work} {a : Act}
  {rest : Chain (Except Failure Outcome)} {events : List Event}

theorem gives_of_fits {held held' : Fingerprints} (gives : answers.Gives held a)
    (fits : a.Fits held') : answers.Gives held' a := by
  cases a with
  | lookup site answer =>
    simp only [Answers.Gives, Answers.known] at gives ⊢
    cases h : answers.readFault? site with
    | some e => simpa [h] using gives
    | none =>
      obtain rfl : answer = .ok (held.get? site) := by simpa [h] using gives
      exact congrArg Except.ok fits
  | _ => exact gives

section Ahead

variable {site : RuleSet} {waiting : List RuleSet}

theorem actsAhead_starting (next : s.waiting = site :: waiting) :
    actsAhead answers c translates known (s.starting c translates site waiting) =
      actsAhead answers c translates known s := by
  simp [actsAhead, State.starting, next, Answers.acts]

theorem reportsAhead_starting (next : s.waiting = site :: waiting) :
    reportsAhead answers c translates known (s.starting c translates site waiting) =
      reportsAhead answers c translates known s := by
  simp [reportsAhead, State.starting, next, Answers.outcome]

variable {store : Fingerprints} {summary : Summary} {j : Job}

theorem actsAhead_acting (working : s.working = before ++ w :: after)
    (step : w.rest.Step a rest) (gives : answers.Gives known a) :
    (actsAhead answers c translates known s).Perm
      (a :: actsAhead answers c translates known
        { s with store, working := before ++ ⟨j, rest⟩ :: after }) := by
  simp only [actsAhead, working, List.flatMap_append, List.flatMap_cons,
    Chain.acts_of_step step gives, List.cons_append, List.append_assoc]
  exact List.perm_middle

theorem reportsAhead_acting (working : s.working = before ++ w :: after)
    (step : w.rest.Step a rest) (gives : answers.Gives known a) :
    reportsAhead answers c translates known
        { s with store, working := before ++ ⟨w.job.after c a, rest⟩ :: after } =
      reportsAhead answers c translates known s := by
  simp [reportsAhead, working, Chain.outcome_of_step step gives]

theorem actsAhead_reporting {result : Except Failure Outcome}
    (working : s.working = before ++ w :: after) (done : w.rest = .done result) :
    actsAhead answers c translates known { s with working := before ++ after, summary } =
      actsAhead answers c translates known s := by
  simp [actsAhead, working, done, Chain.acts]

theorem reportsAhead_reporting {result : Except Failure Outcome}
    (working : s.working = before ++ w :: after) (done : w.rest = .done result) :
    (reportsAhead answers c translates known s).Perm
      ((w.job.site, result) ::
        reportsAhead answers c translates known { s with working := before ++ after, summary }) := by
  simp only [reportsAhead, working, done, Chain.outcome, List.map_append, List.map_cons,
    List.cons_append, List.append_assoc]
  exact List.perm_middle

end Ahead

/-- What was done and what is ahead make up what the sites do when each is alone, and no site has
lost sight of the fingerprint that was stored when the tick began. -/
structure Interleaved (answers : Answers) (c : Config) (translates : Bool) (known : Fingerprints)
    (events : List Event) (s : State) : Prop where
  sound : Sound c translates events s
  agree : ∀ w ∈ s.working, ∃ stage, Chain.AtStage c translates w.job.site w.rest stage ∧
    (stage.Unread → s.store.get? w.job.site.name = known.get? w.job.site.name)
  untouched : ∀ site ∈ s.waiting, s.store.get? site.name = known.get? site.name
  acted : (acts events ++ actsAhead answers c translates known s).Perm
    (c.sites.flatMap (answers.acts c translates known))
  reported : (reports events ++ reportsAhead answers c translates known s).Perm
    (c.sites.map fun site => (site, answers.outcome c translates known site))
  store : s.store = known.putAll (writes (acts events))
  summary : s.summary = (reports events).foldl (fun sum report => sum.add report.2)
    { total := c.sites.length }

theorem Sound.of_idle (idle : s.Idle) : Sound c translates [] s := by
  constructor <;> simp [idle.1, idle.2]

theorem Interleaved.initial (valid : c.fault? = none) (idle : s.Idle) :
    Interleaved answers c translates s.store [] (s.calling c.sites) where
  sound := by
    have start : Sound c translates [] s := .of_idle idle
    have sound := start.called idle (Config.names_nodup valid)
    exact { sound with past := by simp, owned := by simp }
  agree := by simp [State.calling, idle.2]
  untouched := fun _ _ => rfl
  acted := by simp [actsAhead, State.calling, idle.2, acts]
  reported := by simp [reportsAhead, State.calling, idle.2, reports]
  store := rfl
  summary := rfl

theorem Interleaved.starting (inter : Interleaved answers c translates known events s)
    {site : RuleSet} {waiting : List RuleSet} (next : s.waiting = site :: waiting) :
    Interleaved answers c translates known (events ++ [.started { number := s.started, site }])
      (s.starting c translates site waiting) where
  sound := inter.sound.starting next
  agree := by
    intro w h
    rcases List.mem_append.mp h with h | h
    · exact inter.agree w h
    · rw [List.mem_singleton.mp h]
      exact ⟨.examining, .here .examining, fun _ => inter.untouched site (by simp [next])⟩
  untouched := fun other h => inter.untouched other (next ▸ List.mem_cons_of_mem _ h)
  acted := by
    rw [acts_append, actsAhead_starting next]
    simpa [Event.act?] using inter.acted
  reported := by
    rw [reports_append, reportsAhead_starting next]
    simpa [Event.report?] using inter.reported
  store := by
    rw [acts_append]
    simpa [Event.act?, State.starting] using inter.store
  summary := by
    rw [reports_append]
    simpa [Event.report?, State.starting] using inter.summary

theorem Interleaved.reporting (inter : Interleaved answers c translates known events s)
    {result : Except Failure Outcome} (working : s.working = before ++ w :: after)
    (done : w.rest = .done result) :
    Interleaved answers c translates known (events ++ [.reported w.job result])
      { s with working := before ++ after, summary := s.summary.add result } where
  sound := inter.sound.reporting working
  agree := fun other h => inter.agree other (Sound.mem_working working h)
  untouched := inter.untouched
  acted := by
    rw [acts_append, actsAhead_reporting working done]
    simpa [Event.act?] using inter.acted
  reported := by
    rw [reports_append, List.append_assoc]
    exact ((reportsAhead_reporting working done).symm.append_left _).trans inter.reported
  store := by
    rw [acts_append]
    simpa [Event.act?] using inter.store
  summary := by
    rw [reports_append, List.foldl_append, ← inter.summary]
    rfl

theorem Sound.stored_elsewhere (sound : Sound c translates events s) (mem : w ∈ s.working)
    (step : w.rest.Step a rest) {name : String} (other : name ≠ w.job.site.name)
    (store : Fingerprints) : (a.stored store).get? name = store.get? name := by
  obtain ⟨stage, stands⟩ := sound.stands w mem
  exact stands.stored_of_other step (fun same => absurd same.symm other) store

theorem Sound.waiting_apart (sound : Sound c translates events s) (mem : w ∈ s.working)
    {site : RuleSet} (h : site ∈ s.waiting) : site.name ≠ w.job.site.name :=
  fun he => (List.nodup_append.mp sound.names).2.2 _ (List.mem_map_of_mem mem) _
    (List.mem_map_of_mem h) he.symm

theorem Interleaved.acting (inter : Interleaved answers c translates known events s)
    (working : s.working = before ++ w :: after) (step : w.rest.Step a rest)
    (gives : answers.Gives s.store a) :
    Interleaved answers c translates known (events ++ [.did w.job a])
      { s with store := a.stored s.store, working := before ++ ⟨w.job.after c a, rest⟩ :: after } := by
  have mem : w ∈ s.working := by simp [working]
  obtain ⟨stage, at_stage, agree⟩ := inter.agree w mem
  obtain ⟨same, next, later, agree⟩ := at_stage.agree_step answers step agree
  have given := same.mp gives
  constructor
  case sound => exact inter.sound.acting working step
  case agree =>
    intro other h
    rcases mem_replaced.mp h with rfl | h
    · exact ⟨next, by simpa using later, by simpa using agree⟩
    · obtain ⟨stage, at_stage, agree⟩ := inter.agree other (Sound.mem_working working h)
      refine ⟨stage, at_stage, fun unread => ?_⟩
      have apart := (inter.sound.apart working h).1
      exact (inter.sound.stored_elsewhere mem step apart s.store).trans (agree unread)
  case untouched =>
    intro site h
    have apart := inter.sound.waiting_apart mem h
    exact (inter.sound.stored_elsewhere mem step apart s.store).trans (inter.untouched site h)
  case acted =>
    rw [acts_append, List.append_assoc]
    exact ((actsAhead_acting working step given).symm.append_left _).trans inter.acted
  case reported =>
    rw [reports_append, reportsAhead_acting working step given]
    simpa [Event.report?] using inter.reported
  case store =>
    rw [acts_append, writes_append, Fingerprints.putAll_append, ← inter.store]
    cases hw : a.written? <;> simp [Act.stored, Event.act?, writes, hw]
  case summary =>
    rw [reports_append]
    simpa [Event.report?] using inter.summary

theorem Interleaved.step (inter : Interleaved answers c translates known events s) {e : Event}
    (step : Step c translates s e s') (answered : e.Answered answers) :
    Interleaved answers c translates known (events ++ [e]) s' := by
  cases step with
  | start next room => exact inter.starting next
  | act working acts fits =>
    obtain ⟨held, gives⟩ := answered
    exact inter.acting working acts (gives_of_fits gives fits)
  | report working done => exact inter.reporting working done
  | _ => exact answered.elim

theorem Run.interleaved (valid : c.fault? = none) (idle : s.Idle)
    (run : Run c translates (s.calling c.sites) events s')
    (answered : ∀ e ∈ events, e.Answered answers) :
    Interleaved answers c translates s.store events s' := by
  induction run with
  | start => exact .initial valid idle
  | more run step ih =>
    exact (ih fun e h => answered e (List.mem_append_left _ h)).step step
      (answered _ (List.mem_append_right _ (List.mem_singleton_self _)))

/-- What a site comes to when it is worked on alone. -/
def alone (answers : Answers) (c : Config) (translates : Bool) (store : Fingerprints)
    (site : RuleSet) : Except Failure Outcome :=
  ((Chain.ofSite c translates site).run answers.collaborators { store }).1

theorem alone_eq (store : Fingerprints) (site : RuleSet) :
    alone answers c translates store site = answers.outcome c translates store site := by
  rw [alone, Answers.run_ofSite site { store } rfl]

theorem Interleaved.at_end (inter : Interleaved answers c translates known events s)
    (idle : s.Idle) :
    (acts events).Perm (c.sites.flatMap (answers.acts c translates known)) ∧
      (reports events).Perm (c.sites.map fun site => (site, alone answers c translates known site)) := by
  have acted := inter.acted
  have reported := inter.reported
  simp only [actsAhead, reportsAhead, idle.1, idle.2, List.flatMap_nil, List.map_nil,
    List.append_nil] at acted reported
  simp only [alone_eq]
  exact ⟨acted, reported⟩

/-- In whatever order the sites of a tick act, each comes to what it comes to alone, the writes lie
over the store there was before, and messages and counts are those of a tick that works on one site
after another. -/
theorem tick_of_interleaving (valid : c.fault? = none) (idle : s.Idle)
    (run : Run c translates (s.calling c.sites) events s')
    (answered : ∀ e ∈ events, e.Answered answers) (idle' : s'.Idle) :
    (reports events).Perm
        (c.sites.map fun site => (site, alone answers c translates s.store site)) ∧
      ((writes (acts events)).map (·.1)).Nodup ∧
      (∀ name, s'.store.get? name =
        ((writes (acts events)).lookup name).or (s.store.get? name)) ∧
      s'.store = (tick answers.collaborators c translates { store := s.store }).2.store ∧
      (messages (acts events)).Perm
        (tick answers.collaborators c translates { store := s.store }).2.accepted ∧
      s'.summary = (tick answers.collaborators c translates { store := s.store }).1 ∧
      s'.summary = Summary.count (c.sites.map (alone answers c translates s.store)) ∧
      s'.summary.notified + s'.summary.unchanged + s'.summary.stale + s'.summary.failures =
        c.sites.length := by
  have inter := run.interleaved valid idle answered
  obtain ⟨acted, reported⟩ := inter.at_end idle'
  have written : (writes (acts events)).Perm
      (writes (c.sites.flatMap (answers.acts c translates s.store))) := acted.filterMap _
  have once : ((writes (acts events)).map (·.1)).Nodup :=
    (written.map (·.1)).nodup_iff.mpr
      ((Answers.writes_sites c.sites).nodup (Config.names_nodup valid))
  have results : ((reports events).map (·.2)).Perm
      (c.sites.map (alone answers c translates s.store)) := by
    simpa [Function.comp_def] using reported.map (·.2)
  have counted : s'.summary = Summary.count (c.sites.map (alone answers c translates s.store)) := by
    rw [← Summary.count_perm results, ← Summary.foldl_add_total, results.length_eq, List.length_map,
      List.foldl_map, inter.summary]
  refine ⟨reported, once, fun name => ?_, ?_, ?_, ?_, counted, ?_⟩
  · rw [inter.store, Fingerprints.get?_putAll _ _ once]
  · rw [Answers.tick_eq valid, inter.store]
    exact Fingerprints.putAll_perm _ written once
  · rw [Answers.tick_eq valid]
    exact acted.filterMap _
  · have same : alone answers c translates s.store = answers.outcome c translates s.store :=
      funext (alone_eq s.store)
    rw [Answers.tick_eq valid, counted, ← Summary.foldl_add_total, List.length_map, same]
  · rw [counted, Summary.count_total]
    exact List.length_map ..

def State.CanEnd (answers : Answers) (c : Config) (translates : Bool) (s : State) : Prop :=
  ∃ events s', Run c translates s events s' ∧ (∀ e ∈ events, e.Answered answers) ∧ s'.Idle

theorem State.CanEnd.step {e : Event} (later : s'.CanEnd answers c translates)
    (step : Step c translates s e s') (answered : e.Answered answers) :
    s.CanEnd answers c translates := by
  obtain ⟨events, last, run, given, idle⟩ := later
  exact ⟨e :: events, last, .cons step run, List.forall_mem_cons.mpr ⟨answered, given⟩, idle⟩

theorem State.canEnd_of_first {works : List Work} {waiting : List RuleSet}
    (others : ∀ s : State, s.working = works → s.waiting = waiting →
      s.CanEnd answers c translates) (j : Job) (chain : Chain (Except Failure Outcome)) (s : State)
    (working : s.working = ⟨j, chain⟩ :: works) (waits : s.waiting = waiting) :
    s.CanEnd answers c translates := by
  induction chain using Chain.rec_answered answers generalizing j s with
  | done result =>
    have step : Step c translates s (.reported j result) _ := .ends [] working
    refine State.CanEnd.step ?_ step trivial
    exact others _ rfl waits
  | step ih =>
    obtain ⟨a, rest, acts, gives, later⟩ := ih s.store
    have first : s.working = [] ++ ⟨j, _⟩ :: works := working
    have step : Step c translates s (.did j a) _ := .act first acts (Answers.fits_of_gives gives)
    refine State.CanEnd.step ?_ step ⟨s.store, gives⟩
    exact later _ _ rfl waits

/-- Sites that are worked on and sites that wait never block each other. -/
theorem State.canEnd (answers : Answers) (c : Config) (translates : Bool) (s : State) :
    s.CanEnd answers c translates := by
  generalize waits : s.waiting = waiting
  induction waiting generalizing s with
  | nil =>
    generalize working : s.working = works
    induction works generalizing s with
    | nil => exact ⟨[], s, .start, List.forall_mem_nil _, waits, working⟩
    | cons w works ih => exact canEnd_of_first (fun s h h' => ih s h' h) w.job w.rest s working waits
  | cons site waiting ih =>
    generalize working : s.working = works
    induction works generalizing s with
    | nil =>
      have room : s.working.length < max c.crawler.maxConcurrent 1 := by
        rw [working]
        exact Nat.lt_of_lt_of_le Nat.zero_lt_one (Nat.le_max_right _ _)
      exact (ih (s.starting c translates site waiting) rfl).step (.start waits room) trivial
    | cons w works ih =>
      exact canEnd_of_first (fun s h h' => ih s h' h) w.job w.rest s working waits

def sampleAnswers : Answers where
  page _ _ := .ok samplePage
  translation text _ := .ok text
  acceptance _ := .ok ()
  readFault? _ := none
  writeFault? _ := none

def sampleTurns : List Event :=
  [.started (sampleJob 0 "A" none),
    .started (sampleJob 1 "B" none),
    .did (sampleJob 1 "B" none) (.fetch "news://h" 30 (.ok samplePage)),
    .did (sampleJob 0 "A" none) (.fetch "news://h" 30 (.ok samplePage)),
    .did (sampleJob 1 "B" (some sampleItem)) (.lookup "B" (.ok none)),
    .did (sampleJob 0 "A" (some sampleItem)) (.lookup "A" (.ok none)),
    .did (sampleJob 1 "B" (some sampleItem)) (.send (sampleText "B") (.ok ())),
    .did (sampleJob 0 "A" (some sampleItem)) (.send (sampleText "A") (.ok ())),
    .did (sampleJob 1 "B" (some sampleItem)) (.record "B" "x:y" (.ok ())),
    .did (sampleJob 0 "A" (some sampleItem)) (.record "A" "x:y" (.ok ())),
    .reported (sampleJob 1 "B" (some sampleItem)) (.ok (.notified sampleItem)),
    .reported (sampleJob 0 "A" (some sampleItem)) (.ok (.notified sampleItem))]

def sampleSites : List RuleSet := [sampleSite "A", sampleSite "B"]

def sampleStart : State where
  store := {}

def sampleEnd : State where
  store := (Fingerprints.put {} "B" "x:y").put "A" "x:y"
  started := 2
  summary := { total := 2, notified := 2 }

theorem sample_turns :
    Run (sampleConfig 2 sampleSites) false (sampleStart.calling sampleSites) sampleTurns
      sampleEnd := by
  refine .cons (.start rfl (by decide)) ?_
  refine .cons (.start rfl (by decide)) ?_
  refine .cons (.leads [_] (sample_found "B" 2 _) rfl rfl trivial) ?_
  refine .cons (.leads [] (sample_found "A" 2 _) rfl rfl trivial) ?_
  refine .cons (.leads [_] (Stage.comparing_unknown sampleItem) rfl rfl rfl) ?_
  refine .cons (.leads [] (Stage.comparing_unknown sampleItem) rfl rfl rfl) ?_
  refine .cons (.leads [_] (Stage.sending_accepted sampleItem _) rfl rfl trivial) ?_
  refine .cons (.leads [] (Stage.sending_accepted sampleItem _) rfl rfl trivial) ?_
  refine .cons (.leads [_] (Stage.recording_recorded sampleItem _) rfl rfl trivial) ?_
  refine .cons (.leads [] (Stage.recording_recorded sampleItem _) rfl rfl trivial) ?_
  refine .cons (.ends [_] rfl) ?_
  refine .cons (.ends [] rfl) ?_
  exact .start

theorem sample_turns_answered : ∀ e ∈ sampleTurns, e.Answered sampleAnswers := by
  simp only [sampleTurns, List.forall_mem_cons]
  exact ⟨trivial, trivial, ⟨{}, rfl⟩, ⟨{}, rfl⟩, ⟨{}, rfl⟩, ⟨{}, rfl⟩, ⟨{}, rfl⟩, ⟨{}, rfl⟩,
    ⟨{}, rfl⟩, ⟨{}, rfl⟩, trivial, trivial, List.forall_mem_nil _⟩

theorem tick_of_interleaving_sample :
    (sampleConfig 2 sampleSites).fault? = none ∧ sampleStart.Idle ∧
      Run (sampleConfig 2 sampleSites) false (sampleStart.calling sampleSites) sampleTurns
        sampleEnd ∧
      (∀ e ∈ sampleTurns, e.Answered sampleAnswers) ∧ sampleEnd.Idle ∧
      sampleEnd.store = (tick sampleAnswers.collaborators (sampleConfig 2 sampleSites) false
          { store := sampleStart.store }).2.store := by
  have valid : (sampleConfig 2 sampleSites).fault? = none :=
    sample_valid (by decide) (by simp [sampleSites]) (by decide)
  have idle : sampleStart.Idle := ⟨rfl, rfl⟩
  have idle' : sampleEnd.Idle := ⟨rfl, rfl⟩
  obtain ⟨-, -, -, same, -⟩ :=
    tick_of_interleaving valid idle sample_turns sample_turns_answered idle'
  exact ⟨valid, idle, sample_turns, sample_turns_answered, idle', same⟩

end Watching

end PageWatch
