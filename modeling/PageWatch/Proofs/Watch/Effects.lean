import PageWatch.Proofs.Extraction.Endpoints
import PageWatch.Proofs.Watch.Alone
import PageWatch.Proofs.Watch.Delivery

/-!
# What the work on a site does

Whoever answers, and whatever the answers are, the work on a site goes one of six ways,
told by what is asked and answered in it. What it does to others is read off the ways:
one fetch, at most one message, and at most one write, which comes after the message.
-/

set_option autoImplicit false

namespace PageWatch

section Always

variable {m : Type → Type} [Monad m] [LawfulMonad m] {α β : Type} {P Q : α → Prop}

/-- Every result of the program has the property. -/
def Always (P : α → Prop) (x : m α) : Prop := ∃ y : m { a // P a }, Subtype.val <$> y = x

theorem Always.pure {a : α} (holds : P a) : Always P (pure a : m α) :=
  ⟨Pure.pure ⟨a, holds⟩, by simp⟩

theorem Always.mono {x : m α} (always : Always P x) (weaker : ∀ a, P a → Q a) : Always Q x := by
  obtain ⟨y, rfl⟩ := always
  exact ⟨(fun a => ⟨a.1, weaker a.1 a.2⟩) <$> y, by simp⟩

theorem Always.bind {f : β → m α} (x : m β) (each : ∀ b, Always P (f b)) :
    Always P (x >>= f) := by
  obtain ⟨y, same⟩ := Classical.axiomOfChoice each
  exact ⟨x >>= y, by simp [map_bind, same]⟩

theorem Always.of_id {a : α} (always : Always (m := Id) P a) : P a := by
  obtain ⟨y, rfl⟩ := always
  exact y.2

end Always

section Observed

variable {m : Type → Type} [Monad m]

variable {α β : Type}

def noteAnswer (act : β → Act) (x : m β) : StateT (List Act) m β := do
  let answer ← x
  modify (· ++ [act answer])
  return answer

def Collaborators.observed (w : Collaborators m) : Collaborators (StateT (List Act) m) where
  fetch url timeoutSecs := noteAnswer (.fetch url timeoutSecs) (w.fetch url timeoutSecs)
  lookup site := noteAnswer (.lookup site) (w.lookup site)
  translate text language := noteAnswer (.translate text language) (w.translate text language)
  send message := noteAnswer (.send message) (w.send message)
  record site endpoint := noteAnswer (.record site endpoint) (w.record site endpoint)
  log event := w.log event

/-- A chain with what was seen before and what is seen of it. -/
def Chain.observe (w : Collaborators m) (chain : Chain α) (seen : List Act) : m (α × List Act) :=
  (chain.run w.observed).run seen

variable [LawfulMonad m] (w : Collaborators m)

theorem run_noteAnswer_bind (act : β → Act) (x : m β) (f : β → StateT (List Act) m α)
    (seen : List Act) :
    (noteAnswer act x >>= f).run seen =
      x >>= fun answer => (f answer).run (seen ++ [act answer]) := by
  simp [noteAnswer]

theorem Chain.asking_induction {P : Chain α → Prop} (done : ∀ result, P (.done result))
    (asks : ∀ {chain : Chain α} {β : Type} (x : m β) (act : β → Act) (next : β → Chain α),
      (∀ answer, Step chain (act answer) (next answer) ∧ ∀ event, act answer ≠ .log event) →
      chain.run w = (x >>= fun answer => (next answer).run w) →
      (∀ seen, chain.observe w seen =
        x >>= fun answer => (next answer).observe w (seen ++ [act answer])) →
      (∀ answer, P (next answer)) → P chain)
    (log : ∀ event next, P next → P (.log event next)) (chain : Chain α) : P chain := by
  induction chain with
  | done result => exact done result
  | fetch url timeoutSecs next ih =>
    exact asks (w.fetch url timeoutSecs) (.fetch url timeoutSecs) next
      (fun answer => ⟨.fetch url timeoutSecs next answer, fun _ => nofun⟩)
      rfl (run_noteAnswer_bind _ _ _) ih
  | lookup site next ih =>
    exact asks (w.lookup site) (.lookup site) next
      (fun answer => ⟨.lookup site next answer, fun _ => nofun⟩)
      rfl (run_noteAnswer_bind _ _ _) ih
  | translate text language next ih =>
    exact asks (w.translate text language) (.translate text language) next
      (fun answer => ⟨.translate text language next answer, fun _ => nofun⟩)
      rfl (run_noteAnswer_bind _ _ _) ih
  | send message next ih =>
    exact asks (w.send message) (.send message) next
      (fun answer => ⟨.send message next answer, fun _ => nofun⟩)
      rfl (run_noteAnswer_bind _ _ _) ih
  | record site endpoint next ih =>
    exact asks (w.record site endpoint) (.record site endpoint) next
      (fun answer => ⟨.record site endpoint next answer, fun _ => nofun⟩)
      rfl (run_noteAnswer_bind _ _ _) ih
  | log event next ih => exact log event next ih

theorem Chain.observe_log (event : LogEvent) (next : Chain α) (seen : List Act) :
    (Chain.log event next).observe w seen = w.log event >>= fun _ => next.observe w seen := by
  simp [observe, run, Collaborators.observed]

/-- Whoever looks on changes nothing. -/
theorem Chain.observe_result (chain : Chain α) (seen : List Act) :
    Prod.fst <$> chain.observe w seen = chain.run w := by
  induction chain using Chain.asking_induction w generalizing seen with
  | done result => simp [observe, run]
  | asks x act next steps runs observed ih =>
    rw [runs, observed, map_bind]
    exact bind_congr fun answer => ih answer _
  | log event next ih =>
    rw [observe_log, map_bind]
    exact bind_congr fun _ => ih seen

end Observed

section Ways

variable {c : Config} {translates : Bool} {site : RuleSet}

inductive Stage.Course (c : Config) (translates : Bool) (site : RuleSet) :
    Stage → List Act → Except Failure Outcome → Prop where
  | ended (item? : Option Item) (result : Except Failure Outcome) :
    Course c translates site (.ended item? result) [] result
  | goes {stage next : Stage} {a : Act} {acts : List Act} {result : Except Failure Outcome}
      (act : Stage.Goes c translates site stage a next)
      (later : Course c translates site next acts result) :
    Course c translates site stage (a :: acts) result

variable {m : Type → Type} [Monad m] [LawfulMonad m] (w : Collaborators m)

theorem Chain.AtStage.observe {chain : Chain (Except Failure Outcome)} {stage : Stage}
    (at_stage : AtStage c translates site chain stage) (seen : List Act) :
    Always (fun r => ∃ acts, r.2 = seen ++ acts ∧ stage.Course c translates site acts r.1)
      (chain.observe w seen) := by
  induction chain using Chain.asking_induction w generalizing stage seen with
  | done result =>
    obtain ⟨item?, rfl⟩ := at_stage.eq_ended
    exact .pure ⟨[], (List.append_nil seen).symm, .ended item? result⟩
  | asks x act next steps runs observed ih =>
    rw [observed]
    refine .bind x fun answer => ?_
    obtain ⟨step, unlogged⟩ := steps answer
    rcases at_stage.step step with ⟨event, same, -⟩ | ⟨following, goes, later⟩
    · exact absurd same (unlogged event)
    · refine (ih answer later _).mono fun r => ?_
      rintro ⟨acts, noted, course⟩
      exact ⟨_, by rw [noted, List.append_assoc, List.singleton_append], .goes goes course⟩
  | log event next ih =>
    rw [Chain.observe_log]
    refine .bind _ fun _ => ?_
    rcases at_stage.step (.log event next) with ⟨-, -, later⟩ | ⟨following, goes, -⟩
    · exact ih later seen
    · cases goes

inductive Titled (c : Config) (translates : Bool) (i : Item) : List Act → String → Prop where
  | untouched (off : translates = false) : Titled c translates i [] i.title
  | translated (on : translates = true) (title : String) :
    Titled c translates i [.translate i.title c.translator.targetLanguage (.ok title)] title
  | kept (on : translates = true) (e : Failure) :
    Titled c translates i [.translate i.title c.translator.targetLanguage (.error e)] i.title

@[simp] def Act.visit (c : Config) (site : RuleSet) (answer : Except Failure String) : Act :=
  .fetch site.baseUrl c.crawler.timeoutSecs answer

/-- All that is asked in the work on a site, with the answers, and what it comes to. -/
inductive Way (c : Config) (translates : Bool) (site : RuleSet) :
    List Act → Except Failure Outcome → Prop where
  | unfetched (e : Failure) : Way c translates site [.visit c site (.error e)] (.error e)
  | faulty {markup : String} {e : ExtractionError}
      (found : extract (Document.parse markup) site c.cutoffTime = .error e) :
    Way c translates site [.visit c site (.ok markup)] (.error (.extraction e))
  | stale {markup : String} {t : Calendar.Timestamp}
      (found : extract (Document.parse markup) site c.cutoffTime = .ok (.stale t)) :
    Way c translates site [.visit c site (.ok markup)] (.ok .stale)
  | known {markup : String} {i : Item}
      (found : extract (Document.parse markup) site c.cutoffTime = .ok (.item i)) :
    Way c translates site
      [.visit c site (.ok markup), .lookup site.name (.ok (some i.endpoint))] (.ok .unchanged)
  | refused {markup : String} {i : Item} {answer : Except Failure (Option String)}
      {translation : List Act} {title : String} (e : Failure)
      (found : extract (Document.parse markup) site c.cutoffTime = .ok (.item i))
      (titled : Titled c translates i translation title) :
    Way c translates site
      (.visit c site (.ok markup) :: .lookup site.name answer :: (translation ++
        [.send (Item.message { i with title } c.notifier.template site.name) (.error e)]))
      (.error e)
  | accepted {markup : String} {i : Item} {answer : Except Failure (Option String)}
      {translation : List Act} {title : String} (written : Except Failure Unit)
      (found : extract (Document.parse markup) site c.cutoffTime = .ok (.item i))
      (titled : Titled c translates i translation title) :
    Way c translates site
      (.visit c site (.ok markup) :: .lookup site.name answer :: (translation ++
        [.send (Item.message { i with title } c.notifier.template site.name) (.ok ()),
          .record site.name i.endpoint written]))
      (.ok (.notified { i with title }))

namespace Stage.Course

variable {acts : List Act} {result : Except Failure Outcome} {i : Item}

theorem eq_of_ended {item? : Option Item} {result' : Except Failure Outcome}
    (course : Course c translates site (.ended item? result') acts result) :
    acts = [] ∧ result = result' := by
  cases course with
  | ended => exact ⟨rfl, rfl⟩
  | goes act later => cases act

theorem of_sending {title : String}
    (course : Course c translates site (.sending i title) acts result) :
    (∃ e, acts = [.send (Item.message { i with title } c.notifier.template site.name) (.error e)] ∧
        result = .error e) ∨
      ∃ written, acts =
          [.send (Item.message { i with title } c.notifier.template site.name) (.ok ()),
            .record site.name i.endpoint written] ∧
        result = .ok (.notified { i with title }) := by
  cases course with
  | goes act later =>
    cases act with
    | refused i title e =>
      obtain ⟨rfl, rfl⟩ := later.eq_of_ended
      exact .inl ⟨e, rfl, rfl⟩
    | accepted i title =>
      cases later with
      | goes act later =>
        cases act with
        | recorded i title written =>
          obtain ⟨rfl, rfl⟩ := later.eq_of_ended
          exact .inr ⟨written, rfl, rfl⟩

theorem of_news (course : Course c translates site (.withNews translates i) acts result) :
    ∃ translation title later, Titled c translates i translation title ∧
      acts = translation ++ later ∧
      Course c translates site (.sending i title) later result := by
  cases translates with
  | false => exact ⟨[], i.title, acts, .untouched rfl, rfl, course⟩
  | true =>
    cases course with
    | goes act later =>
      cases act with
      | translated i title => exact ⟨_, title, _, .translated rfl title, rfl, later⟩
      | untranslated i e => exact ⟨_, i.title, _, .kept rfl e, rfl, later⟩

theorem way (course : Course c translates site .examining acts result) :
    Way c translates site acts result := by
  cases course with
  | goes act later =>
    cases act with
    | unfetched e =>
      obtain ⟨rfl, rfl⟩ := later.eq_of_ended
      exact .unfetched e
    | faulty found =>
      obtain ⟨rfl, rfl⟩ := later.eq_of_ended
      exact .faulty found
    | stale found =>
      obtain ⟨rfl, rfl⟩ := later.eq_of_ended
      exact .stale found
    | found found =>
      cases later with
      | goes act later =>
        cases act with
        | known i =>
          obtain ⟨rfl, rfl⟩ := later.eq_of_ended
          exact .known found
        | news i unknown =>
          obtain ⟨translation, title, after, titled, rfl, sending⟩ := later.of_news
          rcases sending.of_sending with ⟨e, rfl, rfl⟩ | ⟨written, rfl, rfl⟩
          · exact .refused e found titled
          · exact .accepted written found titled

end Stage.Course

end Ways

section Effects

inductive Act.Kind where
  | fetch
  | lookup
  | translate
  | send
  | record
  | log
  deriving DecidableEq

def Act.kind : Act → Act.Kind
  | fetch .. => .fetch
  | lookup .. => .lookup
  | translate .. => .translate
  | send .. => .send
  | record .. => .record
  | log .. => .log

def calls (kind : Act.Kind) (acts : List Act) : List Act := acts.filter (·.kind = kind)

@[simp] theorem calls_nil (kind : Act.Kind) : calls kind [] = [] := rfl

@[simp] theorem calls_cons (kind : Act.Kind) (a : Act) (acts : List Act) :
    calls kind (a :: acts) = if a.kind = kind then a :: calls kind acts else calls kind acts := by
  simp [calls, List.filter_cons]

@[simp] theorem calls_append (kind : Act.Kind) (before after : List Act) :
    calls kind (before ++ after) = calls kind before ++ calls kind after :=
  List.filter_append ..

def Act.translation? : Act → Option String
  | translate _ _ (.ok title) => some title
  | _ => none

variable (c : Config) (translates : Bool) (site : RuleSet)

def Found (acts : List Act) (i : Item) : Prop :=
  ∃ markup, .visit c site (.ok markup) ∈ acts ∧
    extract (Document.parse markup) site c.cutoffTime = .ok (.item i)

def retitled (acts : List Act) (i : Item) : Item :=
  { i with title := (acts.findSome? Act.translation?).getD i.title }

def Quiet (acts : List Act) : Prop := ∀ a ∈ acts, a.kind = .fetch

/-- What is asked of others in the work on a site, with what answers, and what result goes with it. A
write is the last act and follows a message that was accepted, so a message that fails leaves any
store as it is. Whether the write succeeds makes no difference to the result. -/
structure Effects (acts : List Act) (result : Except Failure Outcome) : Prop where
  fetched : ∃ answer, calls .fetch acts = [.visit c site answer]
  sent : (calls .send acts).length ≤ 1
  written : (calls .record acts).length ≤ 1
  unfetched : ∀ e, .visit c site (.error e) ∈ acts → result = .error e ∧ Quiet acts
  faulty : ∀ markup e, .visit c site (.ok markup) ∈ acts →
    extract (Document.parse markup) site c.cutoffTime = .error e →
      result = .error (.extraction e) ∧ Quiet acts
  stale : result = .ok .stale → Quiet acts
  unchanged : result = .ok .unchanged → ∃ i, Found c site acts i ∧
    calls .lookup acts = [.lookup site.name (.ok (some i.endpoint))] ∧
      calls .translate acts = [] ∧ calls .send acts = [] ∧ calls .record acts = []
  translated : ∀ text language answer, .translate text language answer ∈ acts →
    translates = true ∧ language = c.translator.targetLanguage ∧
      ∃ i, Found c site acts i ∧ text = i.title
  message : ∀ message answer, .send message answer ∈ acts → ∃ i, Found c site acts i ∧
    i.publishedAt.isBefore c.cutoffTime = false ∧
      message = (retitled acts i).message c.notifier.template site.name
  refused : ∀ message e, .send message (.error e) ∈ acts → result = .error e ∧
    calls .record acts = [] ∧ ∀ store : Fingerprints, store.putAll (writes acts) = store
  accepted : ∀ message, .send message (.ok ()) ∈ acts → ∃ i, Found c site acts i ∧
    result = .ok (.notified (retitled acts i))
  recorded : ∀ name endpoint answer, .record name endpoint answer ∈ acts →
    (∃ before message,
      acts = before ++ [.send message (.ok ()), .record name endpoint answer]) ∧
    name = site.name ∧ ∃ i, Found c site acts i ∧ endpoint = i.endpoint

variable {c translates site} {acts : List Act} {result : Except Failure Outcome}

theorem extract_late {d : Document} {rules : RuleSet} {cutoff : Calendar.Timestamp} {i : Item}
    (found : extract d rules cutoff = .ok (.item i)) : i.publishedAt.isBefore cutoff = false := by
  obtain ⟨-, -, -, late, -⟩ := extract_eq_item.mp found
  exact late

namespace Titled

variable {i : Item} {translation : List Act} {title : String}

theorem mem (titled : Titled c translates i translation title) {a : Act} (mem : a ∈ translation) :
    translates = true ∧ ∃ answer, a = .translate i.title c.translator.targetLanguage answer := by
  cases titled with
  | untouched off => cases mem
  | translated on title => exact ⟨on, .ok title, List.mem_singleton.mp mem⟩
  | kept on e => exact ⟨on, .error e, List.mem_singleton.mp mem⟩

theorem not_mem (titled : Titled c translates i translation title) {a : Act}
    (other : a.kind ≠ .translate) : a ∉ translation := by
  intro mem
  obtain ⟨-, answer, rfl⟩ := titled.mem mem
  exact other rfl

theorem calls_eq_nil (titled : Titled c translates i translation title) {kind : Act.Kind}
    (other : kind ≠ .translate) : calls kind translation = [] := by
  refine List.filter_eq_nil_iff.mpr fun a mem same => titled.not_mem ?_ mem
  exact of_decide_eq_true same ▸ other

theorem fetch_not_mem (titled : Titled c translates i translation title) (url : String)
    (timeoutSecs : Nat) (answer : Except Failure String) :
    .fetch url timeoutSecs answer ∉ translation :=
  titled.not_mem nofun

theorem send_not_mem (titled : Titled c translates i translation title) (message : String)
    (answer : Except Failure Unit) : .send message answer ∉ translation :=
  titled.not_mem nofun

theorem record_not_mem (titled : Titled c translates i translation title) (name endpoint : String)
    (answer : Except Failure Unit) : .record name endpoint answer ∉ translation :=
  titled.not_mem nofun

theorem translate_mem (titled : Titled c translates i translation title)
    {text language : String} {answer : Except Failure String}
    (mem : .translate text language answer ∈ translation) :
    translates = true ∧ language = c.translator.targetLanguage ∧ text = i.title := by
  obtain ⟨on, answer, same⟩ := titled.mem mem
  cases same
  exact ⟨on, rfl, rfl⟩

theorem writes_eq_nil (titled : Titled c translates i translation title) :
    writes translation = [] := by
  refine List.filterMap_eq_nil_iff.mpr fun a mem => ?_
  obtain ⟨-, answer, rfl⟩ := titled.mem mem
  rfl

variable (site) in
theorem retitled_eq (titled : Titled c translates i translation title)
    (page : Except Failure String) (answer : Except Failure (Option String)) (after : List Act)
    (untranslated : after.findSome? Act.translation? = none) :
    retitled (.visit c site page :: .lookup site.name answer :: (translation ++ after)) i =
      { i with title } := by
  cases titled <;> simp [retitled, List.findSome?_cons, Act.translation?, untranslated]

end Titled

theorem Way.effects (way : Way c translates site acts result) :
    Effects c translates site acts result := by
  cases way with
  | unfetched e => constructor <;> simp [Quiet, Act.kind]
  | faulty found => constructor <;> simp_all [Quiet, Act.kind]
  | stale found => constructor <;> simp_all [Quiet, Act.kind]
  | known found => constructor <;> simp_all [Found, Act.kind]
  | @refused markup i answer translation title e found titled =>
    -- the translation is all that is unknown of the acts, and it only asks the translator
    have late := extract_late found
    have same := titled.retitled_eq site (.ok markup) answer
      [.send (Item.message { i with title } c.notifier.template site.name) (.error e)] rfl
    have unwritten : writes (.visit c site (.ok markup) :: .lookup site.name answer ::
        (translation ++ [.send (Item.message { i with title } c.notifier.template site.name)
          (.error e)])) = [] := by
      simp only [writes_cons, writes_append, titled.writes_eq_nil]
      rfl
    constructor
    case translated =>
      simpa [Found, found, titled.fetch_not_mem] using fun _ _ _ => titled.translate_mem
    case refused => simp_all [Act.kind, titled.calls_eq_nil, titled.send_not_mem, Fingerprints.putAll]
    all_goals simp_all [Act.kind, Found, titled.calls_eq_nil, titled.fetch_not_mem,
      titled.send_not_mem, titled.record_not_mem]
  | @accepted markup i answer translation title written found titled =>
    have late := extract_late found
    have same := titled.retitled_eq site (.ok markup) answer
      [.send (Item.message { i with title } c.notifier.template site.name) (.ok ()),
        .record site.name i.endpoint written] rfl
    constructor
    case translated =>
      simpa [Found, found, titled.fetch_not_mem] using fun _ _ _ => titled.translate_mem
    case recorded =>
      intro name endpoint answer' mem
      obtain ⟨rfl, rfl, rfl⟩ : name = site.name ∧ endpoint = i.endpoint ∧ answer' = written := by
        simpa [titled.record_not_mem] using mem
      refine ⟨⟨.visit c site (.ok markup) :: .lookup site.name answer :: translation,
        Item.message { i with title } c.notifier.template site.name, by simp⟩, rfl, i, ?_, rfl⟩
      exact ⟨markup, by simp, found⟩
    all_goals simp_all [Act.kind, Found, titled.calls_eq_nil, titled.fetch_not_mem,
      titled.send_not_mem]

end Effects

/-- Whoever answers the work on a site, in whatever state, and whatever the answers are, its acts and
its result have the effects above. They are those of the work itself: looking on changes nothing. -/
theorem Chain.ofSite_effects {m : Type → Type} [Monad m] [LawfulMonad m] (w : Collaborators m)
    (c : Config) (translates : Bool) (site : RuleSet) :
    Prod.fst <$> (Chain.ofSite c translates site).observe w [] =
        (Chain.ofSite c translates site).run w ∧
      Always (fun r => Effects c translates site r.2 r.1)
        ((Chain.ofSite c translates site).observe w []) := by
  refine ⟨Chain.observe_result w _ [], ?_⟩
  have at_stage : Chain.AtStage c translates site (Chain.ofSite c translates site) .examining :=
    .here .examining
  refine (at_stage.observe w []).mono fun r => ?_
  rintro ⟨acts, seen, course⟩
  rw [seen, List.nil_append]
  exact course.way.effects

def unwritable : Collaborators Id where
  fetch _ _ := .ok Watching.samplePage
  lookup _ := .ok none
  translate _ _ := .ok "News"
  send _ := .ok ()
  record _ _ := .error (.fetch "" "")
  log _ := ()

def sampleNewsItem : Item := { Watching.sampleItem with title := "News" }

theorem unwritable_observe :
    (Chain.ofSite (Watching.sampleConfig 1 []) true (Watching.sampleSite "A")).observe
        unwritable [] =
      (.ok (.notified sampleNewsItem),
        [.fetch "news://h" 30 (.ok Watching.samplePage), .lookup "A" (.ok none),
          .translate "2025-1-2" "zh" (.ok "News"),
          .send (sampleNewsItem.message (Watching.sampleConfig 1 []).notifier.template "A")
            (.ok ()),
          .record "A" "x:y" (.error (.fetch "" ""))]) := by
  have found : extract (Document.parse Watching.samplePage) (Watching.sampleSite "A")
      (Watching.sampleConfig 1 []).cutoffTime = .ok (.item Watching.sampleItem) :=
    Watching.sample_extract "A"
  simp only [Chain.ofSite, Chain.examine, Chain.observe, Chain.run, Collaborators.observed]
  rw [run_noteAnswer_bind]
  simp only [unwritable, bind, found]
  rfl

theorem Chain.ofSite_effects_unwritable :
    (Chain.ofSite (Watching.sampleConfig 1 []) true (Watching.sampleSite "A")).run unwritable =
        .ok (.notified sampleNewsItem) ∧
      Effects (Watching.sampleConfig 1 []) true (Watching.sampleSite "A")
        [.fetch "news://h" 30 (.ok Watching.samplePage), .lookup "A" (.ok none),
          .translate "2025-1-2" "zh" (.ok "News"),
          .send (sampleNewsItem.message (Watching.sampleConfig 1 []).notifier.template "A")
            (.ok ()),
          .record "A" "x:y" (.error (.fetch "" ""))]
        (.ok (.notified sampleNewsItem)) := by
  obtain ⟨unchanged, always⟩ := Chain.ofSite_effects unwritable (Watching.sampleConfig 1 []) true
    (Watching.sampleSite "A")
  rw [unwritable_observe] at unchanged always
  exact ⟨unchanged.symm, Always.of_id (a := (_, _)) always⟩

end PageWatch
