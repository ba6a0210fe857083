import PageWatch.Proofs.Watch.Interleaving

/-!
# What a site comes to

A site fails, or is stale, unchanged or notified, and the answers decide which. What is
stored for it matters only for whether the item on its page is news. A message is
accepted and a fingerprint written where the site comes to be notified and nowhere else,
so after a tick the store is known from what the sites came to.
-/

set_option autoImplicit false

namespace PageWatch

variable {c : Config} {translates : Bool} {site : RuleSet} {answers : Answers}
  {known s : Fingerprints} {stage : Stage}

namespace Answers

variable (answers : Answers) (c : Config) (translates : Bool) (site : RuleSet)

/-- The newest item of a site, or why there is none. -/
def examined : Except Failure Extraction :=
  match answers.page site.baseUrl c.crawler.timeoutSecs with
  | .error e => .error e
  | .ok markup => (extract (Document.parse markup) site c.cutoffTime).mapError .extraction

def isNews (endpoint : String) : Except Failure (Option String) → Bool
  | .ok (some known) => known != endpoint
  | _ => true

def titled (i : Item) : Item :=
  if translates then
    match answers.translation i.title c.translator.targetLanguage with
    | .ok title => { i with title }
    | .error _ => i
  else i

def announced (i : Item) : Except Failure Outcome :=
  (answers.acceptance (i.message c.notifier.template site.name)).map fun _ => .notified i

def verdict (held : Except Failure (Option String)) : Except Failure Outcome :=
  match answers.examined c site with
  | .error e => .error e
  | .ok (.stale _) => .ok .stale
  | .ok (.item i) =>
    if isNews i.endpoint held then answers.announced c site (answers.titled c translates i)
    else .ok .unchanged

@[simp] theorem titled_endpoint (i : Item) :
    (answers.titled c translates i).endpoint = i.endpoint := by
  unfold titled
  split
  · split <;> rfl
  · rfl

end Answers

namespace Chain

variable {α : Type}

theorem outcome_examine (next : Except Failure Extraction → Chain α) :
    (examine c site next).outcome answers known =
      (next (answers.examined c site)).outcome answers known := by
  simp only [examine, outcome, Answers.examined]
  cases answers.page site.baseUrl c.crawler.timeoutSecs with
  | error e => rfl
  | ok markup =>
    cases h : extract (Document.parse markup) site c.cutoffTime with
    | error e => simp only [h, Except.mapError]
    | ok x => cases x <;> simp only [h, Except.mapError, outcome]

theorem outcome_ifNews (name endpoint : String) (next : Bool → Chain α) :
    (ifNews name endpoint next).outcome answers known =
      (next (Answers.isNews endpoint (answers.known known name))).outcome answers known := by
  simp only [ifNews, outcome]
  rcases answers.known known name with e | (_ | _) <;> rfl

theorem outcome_withTitle (i : Item) (next : Item → Chain α) :
    (withTitle c translates i next).outcome answers known =
      (next (answers.titled c translates i)).outcome answers known := by
  cases translates with
  | false => rfl
  | true =>
    simp only [withTitle, translateOrKeep, outcome, Answers.titled, if_true]
    cases answers.translation i.title c.translator.targetLanguage <;> rfl

theorem outcome_announce (i : Item) :
    (announce c site i).outcome answers known = answers.announced c site i := by
  simp only [announce, outcome, Answers.announced]
  cases answers.acceptance (i.message c.notifier.template site.name) with
  | error e => rfl
  | ok done =>
    simp only [recordSent, outcome, Except.map]
    cases answers.written site.name <;> rfl

end Chain

/-- The store matters for what a site comes to only by what it holds for the site. -/
theorem Answers.outcome_eq (site : RuleSet) :
    answers.outcome c translates known site =
      answers.verdict c translates site (answers.known known site.name) := by
  rw [Answers.outcome, Chain.ofSite, Chain.outcome_examine, Answers.verdict]
  rcases answers.examined c site with e | (i | t)
  · rfl
  · rw [Chain.outcome_ifNews]
    cases news : Answers.isNews i.endpoint (answers.known known site.name) with
    | false => simp only [news, Bool.false_eq_true, if_false, Chain.outcome]
    | true => simp only [news, if_true, Chain.outcome_withTitle, Chain.outcome_announce]
  · rfl

theorem Answers.outcome_congr (agree : s.get? site.name = known.get? site.name) :
    answers.outcome c translates s site = answers.outcome c translates known site := by
  rw [Answers.outcome_eq, Answers.outcome_eq, Answers.known, Answers.known, agree]

theorem Chain.AtStage.acts_congr {chain : Chain (Except Failure Outcome)}
    (at_stage : AtStage c translates site chain stage)
    (agree : stage.Unread → s.get? site.name = known.get? site.name) :
    chain.acts answers s = chain.acts answers known := by
  induction chain using Chain.rec_steps answers known generalizing stage with
  | done result => rfl
  | step step gives ih =>
    rcases at_stage.step step with ⟨event, rfl, later⟩ | ⟨next, goes, later⟩
    · rw [Chain.acts_of_step step gives, Chain.acts_of_step step trivial, ih later agree]
    · have given := (goes.gives_iff agree).mpr gives
      rw [Chain.acts_of_step step gives, Chain.acts_of_step step given]
      exact congrArg _ (ih later fun unread => agree (goes.unread unread).1)

theorem Answers.acts_congr (agree : s.get? site.name = known.get? site.name) :
    answers.acts c translates s site = answers.acts c translates known site :=
  (Chain.AtStage.here .examining).acts_congr fun _ => agree

def Outcome.notified? : Except Failure Outcome → Option Item
  | .ok (.notified i) => some i
  | _ => none

theorem Chain.AtStage.conserved {β : Type} (seen : Act → Option β) (past : Stage → List β)
    {chain : Chain (Except Failure Outcome)} (quiet : ∀ event, seen (.log event) = none)
    (goes : ∀ {stage a next}, Stage.Goes c translates site stage a next → answers.Gives known a →
      past stage ++ (seen a).toList = past next)
    (at_stage : AtStage c translates site chain stage) :
    ∃ item?, past stage ++ (chain.acts answers known).filterMap seen =
      past (.ended item? (chain.outcome answers known)) := by
  induction chain using Chain.rec_steps answers known generalizing stage with
  | done result =>
    obtain ⟨item?, rfl⟩ := at_stage.eq_ended
    exact ⟨item?, List.append_nil _⟩
  | @step chain a rest step gives ih =>
    have split : (a :: rest.acts answers known).filterMap seen =
        (seen a).toList ++ (rest.acts answers known).filterMap seen := by
      cases h : seen a <;> simp [h]
    rw [Chain.acts_of_step step gives, Chain.outcome_of_step step gives, split,
      ← List.append_assoc]
    rcases at_stage.step step with ⟨event, rfl, later⟩ | ⟨next, leads, later⟩
    · rw [quiet, Option.toList_none, List.append_nil]
      exact ih later
    · rw [goes leads gives]
      exact ih later

section Seen

variable (c : Config) (site : RuleSet)

def Stage.messages : Stage → List String
  | recording i title => [Item.message { i with title } c.notifier.template site.name]
  | ended _ result =>
    ((Outcome.notified? result).map fun i => i.message c.notifier.template site.name).toList
  | _ => []

def Stage.entries : Stage → List (String × String)
  | ended _ result => ((Outcome.notified? result).map fun i => (site.name, i.endpoint)).toList
  | _ => []

end Seen

theorem Stage.Goes.messages {next : Stage} {a : Act}
    (goes : Stage.Goes c translates site stage a next) :
    stage.messages c site ++ a.accepted?.toList = next.messages c site := by
  cases goes with
  | news i h => cases translates <;> rfl
  | _ => rfl

theorem Stage.Goes.entries (writable : answers.writeFault? site.name = none) {next : Stage} {a : Act}
    (goes : Stage.Goes c translates site stage a next) (gives : answers.Gives known a) :
    stage.entries site ++ a.written?.toList = next.entries site := by
  cases goes with
  | news i h => cases translates <;> rfl
  | recorded i title answer =>
    obtain rfl : answer = .ok () := by
      rw [show answer = _ from gives, Answers.written, writable]
    rfl
  | _ => rfl

theorem Answers.messages_acts (site : RuleSet) :
    messages (answers.acts c translates known site) =
      ((Outcome.notified? (answers.outcome c translates known site)).map
        fun i => i.message c.notifier.template site.name).toList := by
  have start : Chain.AtStage c translates site _ .examining := .here .examining
  obtain ⟨item?, sent⟩ : ∃ item?, _ ++ messages (answers.acts c translates known site) = _ :=
    start.conserved Act.accepted? (Stage.messages c site) (fun _ => rfl) fun goes _ => goes.messages
  exact sent

theorem Answers.writes_acts_of_writable {site : RuleSet}
    (writable : answers.writeFault? site.name = none) :
    writes (answers.acts c translates known site) =
      ((Outcome.notified? (answers.outcome c translates known site)).map
        fun i => (site.name, i.endpoint)).toList := by
  have start : Chain.AtStage c translates site _ .examining := .here .examining
  obtain ⟨item?, written⟩ : ∃ item?, _ ++ writes (answers.acts c translates known site) = _ :=
    start.conserved Act.written? (Stage.entries site) (fun _ => rfl)
      fun goes gives => goes.entries writable gives
  exact written

theorem Answers.writes_acts_of_unwritable {site : RuleSet} {e : Failure}
    (fault : answers.writeFault? site.name = some e) :
    writes (answers.acts c translates known site) = [] := by
  have start : Chain.AtStage c translates site _ .examining := .here .examining
  obtain ⟨item?, written⟩ : ∃ item?, _ ++ writes (answers.acts c translates known site) = [] := by
    refine start.conserved Act.written? (fun _ => []) (fun _ => rfl) ?_
    intro stage a next goes gives
    cases goes with
    | recorded i title answer =>
      rw [show answer = _ from gives, Answers.written, fault]
      rfl
    | _ => rfl
  exact written

namespace Answers

variable (answers : Answers) (c : Config) (site : RuleSet) (result : Except Failure Outcome)

def recorded : List (String × String) :=
  match answers.writeFault? site.name with
  | some _ => []
  | none => ((Outcome.notified? result).map fun i => (site.name, i.endpoint)).toList

def leaves (world : World) : World :=
  { store := world.store.putAll (answers.recorded site result)
    accepted := world.accepted ++ ((Outcome.notified? result).map
      fun i => i.message c.notifier.template site.name).toList }

variable {answers c site result}

theorem writes_acts_eq (site : RuleSet) :
    writes (answers.acts c translates known site) =
      answers.recorded site (answers.outcome c translates known site) := by
  unfold recorded
  cases fault : answers.writeFault? site.name with
  | none => exact writes_acts_of_writable fault
  | some e => exact writes_acts_of_unwritable fault

theorem run_eq_of_verdict (world : World)
    (verdict : answers.verdict c translates site (answers.known world.store site.name) = result) :
    (Chain.ofSite c translates site).run answers.collaborators world =
      (result, answers.leaves c site result world) := by
  have outcome : answers.outcome c translates world.store site = result := by
    rw [outcome_eq, verdict]
  rw [run_ofSite site world rfl, World.afterAll, messages_acts, writes_acts_eq, outcome]
  rfl

end Answers

theorem writes_flatMap (sites : List RuleSet) (acts : RuleSet → List Act) :
    writes (sites.flatMap acts) = sites.flatMap fun site => writes (acts site) :=
  List.filterMap_flatMap

theorem messages_flatMap (sites : List RuleSet) (acts : RuleSet → List Act) :
    messages (sites.flatMap acts) = sites.flatMap fun site => messages (acts site) :=
  List.filterMap_flatMap

theorem Answers.stored_congr (agree : s.get? site.name = known.get? site.name) :
    (s.putAll (writes (answers.acts c translates known site))).get? site.name =
      (known.putAll (writes (answers.acts c translates known site))).get? site.name := by
  have once : ((writes (answers.acts c translates known site)).map (·.1)).Nodup :=
    (Answers.writes_acts site).nodup (List.nodup_singleton _)
  rw [Fingerprints.get?_putAll _ _ once, Fingerprints.get?_putAll _ _ once, agree]

theorem Answers.get?_putAll_sites {sites : List RuleSet} (names : (sites.map (·.name)).Nodup)
    (mem : site ∈ sites) :
    (known.putAll (writes (sites.flatMap (answers.acts c translates known)))).get? site.name =
      (known.putAll (writes (answers.acts c translates known site))).get? site.name := by
  obtain ⟨before, after, rfl⟩ := List.append_of_mem mem
  have absent {others : List RuleSet} (apart : site.name ∉ others.map (·.name)) :
      site.name ∉ (writes (others.flatMap (answers.acts c translates known))).map (·.1) :=
    fun h => apart ((Answers.writes_sites others).subset h)
  rw [List.map_append, List.map_cons, List.nodup_middle, List.nodup_cons, List.mem_append,
    not_or] at names
  rw [List.flatMap_append, List.flatMap_cons, writes_append, writes_append,
    Fingerprints.putAll_append, Fingerprints.putAll_append,
    Fingerprints.get?_putAll_of_not_mem _ _ (absent names.1.2)]
  exact Answers.stored_congr (Fingerprints.get?_putAll_of_not_mem _ _ (absent names.1.1))

namespace Watching

variable {events : List Event} {state : State}

theorem Interleaved.messages_at_end (inter : Interleaved answers c translates known events state)
    (idle : state.Idle) :
    (messages (acts events)).Perm (messages (c.sites.flatMap (answers.acts c translates known))) :=
  (inter.at_end idle).1.filterMap _

theorem Interleaved.store_at_end (inter : Interleaved answers c translates known events state)
    (valid : c.fault? = none) (idle : state.Idle) :
    state.store = known.putAll (writes (c.sites.flatMap (answers.acts c translates known))) := by
  have written : (writes (acts events)).Perm
      (writes (c.sites.flatMap (answers.acts c translates known))) :=
    (inter.at_end idle).1.filterMap _
  rw [inter.store]
  refine Fingerprints.putAll_perm known written ?_
  exact (written.map (·.1)).nodup_iff.mpr
    ((Answers.writes_sites c.sites).nodup (Config.names_nodup valid))

theorem Interleaved.summary_at_end (inter : Interleaved answers c translates known events state)
    (idle : state.Idle) :
    state.summary = (c.sites.map (answers.outcome c translates known)).foldl Summary.add
      { total := c.sites.length } := by
  have results : ((reports events).map (·.2)).Perm
      (c.sites.map (answers.outcome c translates known)) := by
    simpa [Function.comp_def, alone_eq] using (inter.at_end idle).2.map (·.2)
  rw [inter.summary, ← List.foldl_map, Summary.foldl_add, Summary.foldl_add,
    Summary.count_perm results]

end Watching

end PageWatch
