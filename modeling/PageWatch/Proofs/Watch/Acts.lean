import PageWatch.Watch.Chain

/-!
# What the chain of a site can do

An act is a request of a chain together with its answer. Between two acts the
chain of a site is at one of six stages, and each act leads from one stage to
another. What a stage can do is said once here, for all answers; later proofs
go by stages and never open a chain.
-/

set_option autoImplicit false

namespace PageWatch

inductive Act where
  | fetch (url : String) (timeoutSecs : Nat) (answer : Except Failure String)
  | lookup (site : String) (answer : Except Failure (Option String))
  | translate (text language : String) (answer : Except Failure String)
  | send (message : String) (answer : Except Failure Unit)
  | record (site endpoint : String) (answer : Except Failure Unit)
  | log (event : LogEvent)

/-- A chain whose request is answered goes on with what follows. -/
inductive Chain.Step {α : Type} : Chain α → Act → Chain α → Prop where
  | fetch (url timeoutSecs next answer) :
    Step (.fetch url timeoutSecs next) (.fetch url timeoutSecs answer) (next answer)
  | lookup (site next answer) : Step (.lookup site next) (.lookup site answer) (next answer)
  | translate (text language next answer) :
    Step (.translate text language next) (.translate text language answer) (next answer)
  | send (message next answer) : Step (.send message next) (.send message answer) (next answer)
  | record (site endpoint next answer) :
    Step (.record site endpoint next) (.record site endpoint answer) (next answer)
  | log (event next) : Step (.log event next) (.log event) next

namespace Chain

variable {α : Type} {a : Act} {rest : Chain α}

theorem step_fetch_iff {url : String} {timeoutSecs : Nat} {next : Except Failure String → Chain α} :
    Step (.fetch url timeoutSecs next) a rest ↔
      ∃ answer, a = .fetch url timeoutSecs answer ∧ rest = next answer := by
  constructor
  · rintro ⟨⟩
    exact ⟨_, rfl, rfl⟩
  · rintro ⟨answer, rfl, rfl⟩
    exact .fetch url timeoutSecs next answer

theorem step_lookup_iff {site : String} {next : Except Failure (Option String) → Chain α} :
    Step (.lookup site next) a rest ↔ ∃ answer, a = .lookup site answer ∧ rest = next answer := by
  constructor
  · rintro ⟨⟩
    exact ⟨_, rfl, rfl⟩
  · rintro ⟨answer, rfl, rfl⟩
    exact .lookup site next answer

theorem step_translate_iff {text language : String} {next : Except Failure String → Chain α} :
    Step (.translate text language next) a rest ↔
      ∃ answer, a = .translate text language answer ∧ rest = next answer := by
  constructor
  · rintro ⟨⟩
    exact ⟨_, rfl, rfl⟩
  · rintro ⟨answer, rfl, rfl⟩
    exact .translate text language next answer

theorem step_send_iff {message : String} {next : Except Failure Unit → Chain α} :
    Step (.send message next) a rest ↔
      ∃ answer, a = .send message answer ∧ rest = next answer := by
  constructor
  · rintro ⟨⟩
    exact ⟨_, rfl, rfl⟩
  · rintro ⟨answer, rfl, rfl⟩
    exact .send message next answer

theorem step_record_iff {site endpoint : String} {next : Except Failure Unit → Chain α} :
    Step (.record site endpoint next) a rest ↔
      ∃ answer, a = .record site endpoint answer ∧ rest = next answer := by
  constructor
  · rintro ⟨⟩
    exact ⟨_, rfl, rfl⟩
  · rintro ⟨answer, rfl, rfl⟩
    exact .record site endpoint next answer

end Chain

/-- Where the work on a site stands. From `comparing` on an item has been found on the page, and
from `sending` on it is known under which title it goes out. -/
inductive Stage where
  | examining
  | comparing (i : Item)
  | translating (i : Item)
  | sending (i : Item) (title : String)
  | recording (i : Item) (title : String)
  | ended (item? : Option Item) (result : Except Failure Outcome)

namespace Stage

def item? : Stage → Option Item
  | examining => none
  | comparing i | translating i | sending i _ | recording i _ => some i
  | ended item? _ => item?

def withNews (translates : Bool) (i : Item) : Stage :=
  if translates then translating i else sending i i.title

@[simp] theorem withNews_item? (translates : Bool) (i : Item) :
    (withNews translates i).item? = some i := by
  cases translates <;> rfl

def chain (c : Config) (translates : Bool) (site : RuleSet) :
    Stage → Chain (Except Failure Outcome)
  | examining => .ofSite c translates site
  | comparing i =>
    .ifNews site.name i.endpoint fun news =>
      if news then Chain.withTitle c translates i fun i => .announce c site i
      else .done (.ok .unchanged)
  | translating i =>
    .translateOrKeep i.title c.translator.targetLanguage fun title =>
      .announce c site { i with title }
  | sending i title => .announce c site { i with title }
  | recording i title =>
    .recordSent site.name i.endpoint (.done (.ok (.notified { i with title })))
  | ended _ result => .done result

theorem withNews_chain (c : Config) (translates : Bool) (site : RuleSet) (i : Item) :
    (withNews translates i).chain c translates site =
      Chain.withTitle c translates i fun i => .announce c site i := by
  cases translates <;> rfl

/-- The acts at each stage and where they lead. -/
inductive Goes (c : Config) (translates : Bool) (site : RuleSet) : Stage → Act → Stage → Prop where
  | unfetched (e : Failure) :
    Goes c translates site .examining (.fetch site.baseUrl c.crawler.timeoutSecs (.error e))
      (.ended none (.error e))
  | faulty {markup : String} {e : ExtractionError}
      (h : extract (Document.parse markup) site c.cutoffTime = .error e) :
    Goes c translates site .examining (.fetch site.baseUrl c.crawler.timeoutSecs (.ok markup))
      (.ended none (.error (.extraction e)))
  | stale {markup : String} {t : Calendar.Timestamp}
      (h : extract (Document.parse markup) site c.cutoffTime = .ok (.stale t)) :
    Goes c translates site .examining (.fetch site.baseUrl c.crawler.timeoutSecs (.ok markup))
      (.ended none (.ok .stale))
  | found {markup : String} {i : Item}
      (h : extract (Document.parse markup) site c.cutoffTime = .ok (.item i)) :
    Goes c translates site .examining (.fetch site.baseUrl c.crawler.timeoutSecs (.ok markup))
      (.comparing i)
  | known (i : Item) :
    Goes c translates site (.comparing i) (.lookup site.name (.ok (some i.endpoint)))
      (.ended (some i) (.ok .unchanged))
  | news (i : Item) {answer : Except Failure (Option String)}
      (h : answer ≠ .ok (some i.endpoint)) :
    Goes c translates site (.comparing i) (.lookup site.name answer) (withNews translates i)
  | translated (i : Item) (title : String) :
    Goes c translates site (.translating i)
      (.translate i.title c.translator.targetLanguage (.ok title)) (.sending i title)
  | untranslated (i : Item) (e : Failure) :
    Goes c translates site (.translating i)
      (.translate i.title c.translator.targetLanguage (.error e)) (.sending i i.title)
  | refused (i : Item) (title : String) (e : Failure) :
    Goes c translates site (.sending i title)
      (.send (Item.message { i with title } c.notifier.template site.name) (.error e))
      (.ended (some i) (.error e))
  | accepted (i : Item) (title : String) :
    Goes c translates site (.sending i title)
      (.send (Item.message { i with title } c.notifier.template site.name) (.ok ()))
      (.recording i title)
  | recorded (i : Item) (title : String) (answer : Except Failure Unit) :
    Goes c translates site (.recording i title) (.record site.name i.endpoint answer)
      (.ended (some i) (.ok (.notified { i with title })))

end Stage

/-- A chain is at a stage when only events are to be logged before what the stage has left. -/
inductive Chain.AtStage (c : Config) (translates : Bool) (site : RuleSet) :
    Chain (Except Failure Outcome) → Stage → Prop where
  | here (stage : Stage) : AtStage c translates site (stage.chain c translates site) stage
  | logging (event : LogEvent) {rest : Chain (Except Failure Outcome)} {stage : Stage} :
    AtStage c translates site rest stage → AtStage c translates site (.log event rest) stage

namespace Stage

variable {c : Config} {translates : Bool} {site : RuleSet}

theorem examining_step {a : Act} {rest : Chain (Except Failure Outcome)}
    (h : Chain.Step (examining.chain c translates site) a rest) :
    ∃ next, Goes c translates site examining a next ∧
      Chain.AtStage c translates site rest next := by
  simp only [chain, Chain.ofSite, Chain.examine] at h
  obtain ⟨answer, rfl, rfl⟩ := Chain.step_fetch_iff.mp h
  cases answer with
  | error e => exact ⟨_, .unfetched e, .here (.ended none _)⟩
  | ok markup =>
    cases hx : extract (Document.parse markup) site c.cutoffTime with
    | error e => exact ⟨_, .faulty hx, by simpa [hx] using .here (.ended none _)⟩
    | ok x =>
      cases x with
      | stale t => exact ⟨_, .stale hx, by simpa [hx] using .logging _ (.here (.ended none _))⟩
      | item i => exact ⟨_, .found hx, by simpa [hx] using .here (.comparing i)⟩

theorem comparing_step {i : Item} {a : Act} {rest : Chain (Except Failure Outcome)}
    (h : Chain.Step ((comparing i).chain c translates site) a rest) :
    ∃ next, Goes c translates site (comparing i) a next ∧
      Chain.AtStage c translates site rest next := by
  have ahead : Chain.AtStage c translates site ((withNews translates i).chain c translates site)
      (withNews translates i) := .here _
  rw [withNews_chain] at ahead
  simp only [chain, Chain.ifNews] at h
  obtain ⟨answer, rfl, rfl⟩ := Chain.step_lookup_iff.mp h
  match answer with
  | .error e => exact ⟨_, .news i (by simp), .logging _ (by simpa using ahead)⟩
  | .ok none => exact ⟨_, .news i (by simp), by simpa using ahead⟩
  | .ok (some known) =>
    by_cases same : known = i.endpoint
    · subst same
      exact ⟨_, .known i, by simpa using .here (.ended (some i) _)⟩
    · exact ⟨_, .news i (by simpa using same), by simpa [same] using ahead⟩

theorem translating_step {i : Item} {a : Act} {rest : Chain (Except Failure Outcome)}
    (h : Chain.Step ((translating i).chain c translates site) a rest) :
    ∃ next, Goes c translates site (translating i) a next ∧
      Chain.AtStage c translates site rest next := by
  simp only [chain, Chain.translateOrKeep] at h
  obtain ⟨answer, rfl, rfl⟩ := Chain.step_translate_iff.mp h
  cases answer with
  | ok title => exact ⟨_, .translated i title, .here (.sending i title)⟩
  | error e => exact ⟨_, .untranslated i e, .logging _ (.here (.sending i i.title))⟩

theorem sending_step {i : Item} {title : String} {a : Act}
    {rest : Chain (Except Failure Outcome)}
    (h : Chain.Step ((sending i title).chain c translates site) a rest) :
    ∃ next, Goes c translates site (sending i title) a next ∧
      Chain.AtStage c translates site rest next := by
  simp only [chain, Chain.announce] at h
  obtain ⟨answer, rfl, rfl⟩ := Chain.step_send_iff.mp h
  cases answer with
  | error e => exact ⟨_, .refused i title e, .here (.ended (some i) _)⟩
  | ok done => exact ⟨_, .accepted i title, .here (.recording i title)⟩

theorem recording_step {i : Item} {title : String} {a : Act}
    {rest : Chain (Except Failure Outcome)}
    (h : Chain.Step ((recording i title).chain c translates site) a rest) :
    ∃ next, Goes c translates site (recording i title) a next ∧
      Chain.AtStage c translates site rest next := by
  simp only [chain, Chain.recordSent] at h
  obtain ⟨answer, rfl, rfl⟩ := Chain.step_record_iff.mp h
  refine ⟨_, .recorded i title answer, ?_⟩
  cases answer with
  | error e => exact .logging _ (.here (.ended (some i) _))
  | ok done => exact .here (.ended (some i) _)

theorem goes_of_step {stage : Stage} {a : Act} {rest : Chain (Except Failure Outcome)}
    (h : Chain.Step (stage.chain c translates site) a rest) :
    ∃ next, Goes c translates site stage a next ∧ Chain.AtStage c translates site rest next := by
  cases stage with
  | examining => exact examining_step h
  | comparing i => exact comparing_step h
  | translating i => exact translating_step h
  | sending i title => exact sending_step h
  | recording i title => exact recording_step h
  | ended item? result => cases h

def Leads (c : Config) (translates : Bool) (site : RuleSet) (stage : Stage) (a : Act)
    (next : Stage) : Prop :=
  Goes c translates site stage a next ∧
    Chain.Step (stage.chain c translates site) a (next.chain c translates site)

theorem examining_found {markup : String} {i : Item}
    (h : extract (Document.parse markup) site c.cutoffTime = .ok (.item i)) :
    Leads c translates site examining (.fetch site.baseUrl c.crawler.timeoutSecs (.ok markup))
      (comparing i) := by
  refine ⟨.found h, ?_⟩
  simp only [chain, Chain.ofSite, Chain.examine]
  exact Chain.step_fetch_iff.mpr ⟨_, rfl, by simp [h]⟩

theorem comparing_known (i : Item) :
    Leads c translates site (comparing i) (.lookup site.name (.ok (some i.endpoint)))
      (ended (some i) (.ok .unchanged)) := by
  refine ⟨.known i, ?_⟩
  simp only [chain, Chain.ifNews]
  exact Chain.step_lookup_iff.mpr ⟨_, rfl, by simp⟩

theorem comparing_unknown (i : Item) :
    Leads c translates site (comparing i) (.lookup site.name (.ok none))
      (withNews translates i) := by
  refine ⟨.news i (by simp), ?_⟩
  rw [withNews_chain]
  simp only [chain, Chain.ifNews]
  exact Chain.step_lookup_iff.mpr ⟨_, rfl, by simp⟩

theorem sending_accepted (i : Item) (title : String) :
    Leads c translates site (sending i title)
      (.send (Item.message { i with title } c.notifier.template site.name) (.ok ()))
      (recording i title) := by
  refine ⟨.accepted i title, ?_⟩
  simp only [chain, Chain.announce]
  exact Chain.step_send_iff.mpr ⟨_, rfl, rfl⟩

theorem recording_recorded (i : Item) (title : String) :
    Leads c translates site (recording i title) (.record site.name i.endpoint (.ok ()))
      (ended (some i) (.ok (.notified { i with title }))) := by
  refine ⟨.recorded i title (.ok ()), ?_⟩
  simp only [chain, Chain.recordSent]
  exact Chain.step_record_iff.mpr ⟨_, rfl, rfl⟩

end Stage

namespace Chain.AtStage

variable {c : Config} {translates : Bool} {site : RuleSet}

theorem step {chain rest : Chain (Except Failure Outcome)} {stage : Stage} {a : Act}
    (at_stage : AtStage c translates site chain stage) (h : Chain.Step chain a rest) :
    (∃ event, a = .log event ∧ AtStage c translates site rest stage) ∨
      ∃ next, Stage.Goes c translates site stage a next ∧
        AtStage c translates site rest next := by
  cases at_stage with
  | here => exact .inr (Stage.goes_of_step h)
  | logging event later =>
    cases h
    exact .inl ⟨event, rfl, later⟩

theorem eq_ended {stage : Stage} {result : Except Failure Outcome}
    (h : AtStage c translates site (.done result) stage) : ∃ item?, stage = .ended item? result := by
  generalize hc : Chain.done result = chain at h
  cases h with
  | here =>
    cases stage with
    | ended item? r => exact ⟨item?, by rw [Chain.done.inj hc]⟩
    | examining => cases hc
    | comparing i => cases hc
    | translating i => cases hc
    | sending i title => cases hc
    | recording i title => cases hc
  | logging => cases hc

end Chain.AtStage

section Kind

variable {c : Config} {translates : Bool} {site : RuleSet} {kind : Stage → Prop}
  {chain rest : Chain (Except Failure Outcome)} {a : Act}

def Chain.IsAt (c : Config) (translates : Bool) (site : RuleSet) (kind : Stage → Prop)
    (chain : Chain (Except Failure Outcome)) : Prop :=
  ∃ stage, kind stage ∧ chain.AtStage c translates site stage

/-- What holds of a stage and of each to which an act can lead from there. -/
theorem Chain.IsAt.step (is_at : chain.IsAt c translates site kind) (step : Chain.Step chain a rest)
    (goes : ∀ stage next, kind stage → Stage.Goes c translates site stage a next → kind next) :
    rest.IsAt c translates site kind := by
  obtain ⟨stage, holds, at_stage⟩ := is_at
  rcases at_stage.step step with ⟨event, -, logged⟩ | ⟨next, gone, later⟩
  · exact ⟨stage, holds, logged⟩
  · exact ⟨next, goes stage next holds gone, later⟩

theorem Chain.IsAt.not_step (is_at : chain.IsAt c translates site kind)
    (step : Chain.Step chain a rest) (unlogged : ∀ event, a ≠ .log event)
    (none : ∀ stage next, kind stage → ¬ Stage.Goes c translates site stage a next) : False := by
  obtain ⟨stage, holds, at_stage⟩ := is_at
  rcases at_stage.step step with ⟨event, same, -⟩ | ⟨next, gone, -⟩
  · exact unlogged event same
  · exact none stage next holds gone

theorem Chain.ofSite_isAt (first : kind .examining) :
    (Chain.ofSite c translates site).IsAt c translates site kind :=
  ⟨.examining, first, .here .examining⟩

end Kind

end PageWatch
