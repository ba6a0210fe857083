import PageWatch.Proofs.Watch.History
import PageWatch.Watch.Tick

/-!
# A site alone

Where every answer depends only on what is asked, a chain that is alone with a
store has one way to go. The store matters only for the fingerprint of the site
itself, and only until it is looked up.
-/

set_option autoImplicit false

namespace PageWatch

/-- Answers that depend only on what is asked. The store is read and written unless that fails. -/
structure Answers where
  page : (url : String) → (timeoutSecs : Nat) → Except Failure String
  translation : (text language : String) → Except Failure String
  acceptance : (message : String) → Except Failure Unit
  readFault? : (site : String) → Option Failure
  writeFault? : (site : String) → Option Failure

/-- What those who answer keep: the store, and the messages that were accepted. -/
structure World where
  store : Fingerprints
  accepted : List String := []

def Act.accepted? : Act → Option String
  | .send message (.ok ()) => some message
  | _ => none

def World.after (world : World) (a : Act) : World :=
  { store := a.stored world.store, accepted := world.accepted ++ a.accepted?.toList }

theorem World.after_silent (world : World) {a : Act} (unwritten : a.written? = none)
    (unsent : a.accepted? = none) : world.after a = world := by
  simp [after, Act.stored_of_unwritten _ unwritten, unsent]

def writes (acts : List Act) : List (String × String) := acts.filterMap Act.written?

def messages (acts : List Act) : List String := acts.filterMap Act.accepted?

theorem writes_cons (a : Act) (acts : List Act) :
    writes (a :: acts) = a.written?.toList ++ writes acts := by
  unfold writes
  cases h : a.written? <;> simp [h]

theorem messages_cons (a : Act) (acts : List Act) :
    messages (a :: acts) = a.accepted?.toList ++ messages acts := by
  unfold messages
  cases h : a.accepted? <;> simp [h]

theorem writes_append (before after : List Act) :
    writes (before ++ after) = writes before ++ writes after :=
  List.filterMap_append

theorem messages_append (before after : List Act) :
    messages (before ++ after) = messages before ++ messages after :=
  List.filterMap_append

def World.afterAll (world : World) (acts : List Act) : World :=
  { store := world.store.putAll (writes acts), accepted := world.accepted ++ messages acts }

theorem World.afterAll_nil (world : World) : world.afterAll [] = world := by
  simp [afterAll, writes, messages, Fingerprints.putAll]

theorem World.afterAll_cons (world : World) (a : Act) (acts : List Act) :
    world.afterAll (a :: acts) = (world.after a).afterAll acts := by
  simp only [afterAll, after, Act.stored, writes_cons, messages_cons, Fingerprints.putAll_append,
    List.append_assoc]

theorem World.afterAll_append (world : World) (before after : List Act) :
    world.afterAll (before ++ after) = (world.afterAll before).afterAll after := by
  simp only [afterAll, writes_append, messages_append, Fingerprints.putAll_append,
    List.append_assoc]

namespace Answers

variable (answers : Answers)

def known (s : Fingerprints) (site : String) : Except Failure (Option String) :=
  match answers.readFault? site with
  | some e => .error e
  | none => .ok (s.get? site)

def written (site : String) : Except Failure Unit :=
  match answers.writeFault? site with
  | some e => .error e
  | none => .ok ()

def collaborators : Collaborators (StateM World) where
  fetch url timeoutSecs := return answers.page url timeoutSecs
  lookup site := return answers.known (← get).store site
  translate text language := return answers.translation text language
  send message := do
    match answers.acceptance message with
    | .ok () =>
      modify fun world => { world with accepted := world.accepted ++ [message] }
      return .ok ()
    | .error e => return .error e
  record site endpoint := do
    match answers.written site with
    | .ok () =>
      modify fun world => { world with store := world.store.put site endpoint }
      return .ok ()
    | .error e => return .error e
  log _ := return ()

def Gives (s : Fingerprints) : Act → Prop
  | .fetch url timeoutSecs answer => answer = answers.page url timeoutSecs
  | .lookup site answer => answer = answers.known s site
  | .translate text language answer => answer = answers.translation text language
  | .send message answer => answer = answers.acceptance message
  | .record site _ answer => answer = answers.written site
  | .log _ => True

theorem fits_of_gives {answers : Answers} {s : Fingerprints} {a : Act} (gives : answers.Gives s a) :
    a.Fits s := by
  cases a with
  | lookup site answer =>
    obtain rfl : answer = answers.known s site := gives
    unfold known
    cases answers.readFault? site with
    | some e => trivial
    | none => rfl
  | _ => trivial

variable (world : World)

theorem collaborators_send (message : String) :
    answers.collaborators.send message world =
      (answers.acceptance message, world.after (.send message (answers.acceptance message))) := by
  unfold collaborators
  cases h : answers.acceptance message with
  | error e =>
    rw [world.after_silent rfl rfl]
    simp only [h]
    rfl
  | ok done =>
    simp only [h]
    rfl

theorem collaborators_record (site endpoint : String) :
    answers.collaborators.record site endpoint world =
      (answers.written site, world.after (.record site endpoint (answers.written site))) := by
  unfold collaborators
  cases h : answers.written site with
  | error e =>
    rw [world.after_silent rfl rfl]
    simp only [h]
    rfl
  | ok done =>
    simp only [h, World.after, Act.stored, Fingerprints.putAll, Act.written?, Act.accepted?,
      Option.toList, List.append_nil]
    rfl

end Answers

namespace Chain

variable {α : Type} (answers : Answers) (known : Fingerprints)

def acts : Chain α → List Act
  | done _ => []
  | fetch url timeoutSecs next =>
    .fetch url timeoutSecs (answers.page url timeoutSecs) :: (next (answers.page url timeoutSecs)).acts
  | lookup site next =>
    .lookup site (answers.known known site) :: (next (answers.known known site)).acts
  | translate text language next =>
    .translate text language (answers.translation text language) ::
      (next (answers.translation text language)).acts
  | send message next =>
    .send message (answers.acceptance message) :: (next (answers.acceptance message)).acts
  | record site endpoint next =>
    .record site endpoint (answers.written site) :: (next (answers.written site)).acts
  | log event next => .log event :: next.acts

def outcome : Chain α → α
  | done result => result
  | fetch url timeoutSecs next => (next (answers.page url timeoutSecs)).outcome
  | lookup site next => (next (answers.known known site)).outcome
  | translate text language next => (next (answers.translation text language)).outcome
  | send message next => (next (answers.acceptance message)).outcome
  | record site _ next => (next (answers.written site)).outcome
  | log _ next => next.outcome

variable {answers known} {chain rest : Chain α} {a : Act}

theorem acts_of_step (step : chain.Step a rest) (gives : answers.Gives known a) :
    chain.acts answers known = a :: rest.acts answers known := by
  cases step with
  | log event => rfl
  | _ =>
    rw [show _ = _ from gives]
    rfl

theorem outcome_of_step (step : chain.Step a rest) (gives : answers.Gives known a) :
    chain.outcome answers known = rest.outcome answers known := by
  cases step with
  | log event => rfl
  | _ =>
    rw [show _ = _ from gives]
    rfl

theorem rec_answered (answers : Answers) {P : Chain α → Prop} (done : ∀ result, P (.done result))
    (step : ∀ {chain}, (∀ held, ∃ a rest, Step chain a rest ∧ answers.Gives held a ∧ P rest) →
      P chain) (chain : Chain α) : P chain := by
  induction chain with
  | done result => exact done result
  | fetch url timeoutSecs next ih => exact step fun _ => ⟨_, _, .fetch .., rfl, ih _⟩
  | lookup site next ih => exact step fun _ => ⟨_, _, .lookup .., rfl, ih _⟩
  | translate text language next ih => exact step fun _ => ⟨_, _, .translate .., rfl, ih _⟩
  | send message next ih => exact step fun _ => ⟨_, _, .send .., rfl, ih _⟩
  | record site endpoint next ih => exact step fun _ => ⟨_, _, .record .., rfl, ih _⟩
  | log event next ih => exact step fun _ => ⟨_, _, .log .., trivial, ih⟩

theorem rec_steps (answers : Answers) (known : Fingerprints) {P : Chain α → Prop}
    (done : ∀ result, P (.done result))
    (step : ∀ {chain a rest}, Step chain a rest → answers.Gives known a → P rest → P chain)
    (chain : Chain α) : P chain := by
  induction chain using rec_answered answers with
  | done result => exact done result
  | step ih =>
    obtain ⟨a, rest, acts, gives, later⟩ := ih known
    exact step acts gives later

theorem run_of_step (step : chain.Step a rest) (world : World)
    (gives : answers.Gives world.store a) :
    chain.run answers.collaborators world = rest.run answers.collaborators (world.after a) := by
  cases step with
  | send message next answer =>
    rw [show answer = _ from gives]
    change (fun said : _ × World => (next said.1).run answers.collaborators said.2)
      (answers.collaborators.send message world) = _
    rw [Answers.collaborators_send]
  | record site endpoint next answer =>
    rw [show answer = _ from gives]
    change (fun said : _ × World => (next said.1).run answers.collaborators said.2)
      (answers.collaborators.record site endpoint world) = _
    rw [Answers.collaborators_record]
  | log event next =>
    rw [world.after_silent rfl rfl]
    rfl
  | _ =>
    rw [world.after_silent rfl rfl, show _ = _ from gives]
    rfl

end Chain

def Stage.Unread : Stage → Prop
  | examining | comparing _ => True
  | _ => False

def Stage.mayWrite (site : RuleSet) : Stage → List String
  | ended _ _ => []
  | _ => [site.name]

variable {c : Config} {translates : Bool} {site : RuleSet} {answers : Answers}
  {known s : Fingerprints} {stage next : Stage} {a : Act}
  {chain rest : Chain (Except Failure Outcome)}

theorem Stage.withNews_read (i : Item) : ¬ (withNews translates i).Unread := by
  cases translates <;> exact id

theorem Stage.withNews_mayWrite (i : Item) :
    (withNews translates i).mayWrite site = [site.name] := by
  cases translates <;> rfl

theorem Stage.Goes.unread (goes : Stage.Goes c translates site stage a next)
    (unread : next.Unread) : stage.Unread ∧ a.written? = none := by
  cases goes with
  | found hx => exact ⟨trivial, rfl⟩
  | news i => exact absurd unread (withNews_read i)
  | _ => exact unread.elim

theorem Stage.Goes.gives_iff (goes : Stage.Goes c translates site stage a next)
    (agree : stage.Unread → s.get? site.name = known.get? site.name) :
    answers.Gives s a ↔ answers.Gives known a := by
  cases goes with
  | known i => simp only [Answers.Gives, Answers.known, agree trivial]
  | news i => simp only [Answers.Gives, Answers.known, agree trivial]
  | _ => exact .rfl

theorem Stage.Goes.writes (goes : Stage.Goes c translates site stage a next) :
    (a.written?.toList.map (·.1) ++ next.mayWrite site).Sublist (stage.mayWrite site) := by
  cases goes with
  | news i h =>
    rw [withNews_mayWrite]
    exact .refl _
  | recorded i title answer =>
    cases answer with
    | error e => exact List.nil_sublist _
    | ok done => exact .refl _
  | found hx => exact .refl _
  | translated i title => exact .refl _
  | untranslated i e => exact .refl _
  | accepted i title => exact .refl _
  | _ => exact List.nil_sublist _

namespace Chain.AtStage

theorem agree_step (answers : Answers) (at_stage : AtStage c translates site chain stage)
    (step : chain.Step a rest)
    (agree : stage.Unread → s.get? site.name = known.get? site.name) :
    (answers.Gives s a ↔ answers.Gives known a) ∧ ∃ next, AtStage c translates site rest next ∧
      (next.Unread → (a.stored s).get? site.name = known.get? site.name) := by
  rcases at_stage.step step with ⟨event, rfl, later⟩ | ⟨next, goes, later⟩
  · refine ⟨.rfl, stage, later, ?_⟩
    rwa [Act.stored_of_unwritten s rfl]
  · refine ⟨goes.gives_iff agree, next, later, fun unread => ?_⟩
    obtain ⟨unread, unwritten⟩ := goes.unread unread
    rw [Act.stored_of_unwritten s unwritten]
    exact agree unread

theorem writes_sublist (at_stage : AtStage c translates site chain stage) :
    ((writes (chain.acts answers known)).map (·.1)).Sublist (stage.mayWrite site) := by
  induction chain using Chain.rec_steps answers known generalizing stage with
  | done result => exact List.nil_sublist _
  | step step gives ih =>
    rw [Chain.acts_of_step step gives, writes_cons, List.map_append]
    rcases at_stage.step step with ⟨event, rfl, later⟩ | ⟨next, goes, later⟩
    · exact ih later
    · exact ((List.Sublist.refl _).append (ih later)).trans goes.writes

theorem run_eq (at_stage : AtStage c translates site chain stage) (world : World)
    (agree : stage.Unread → world.store.get? site.name = known.get? site.name) :
    chain.run answers.collaborators world =
      (chain.outcome answers known, world.afterAll (chain.acts answers known)) := by
  induction chain using Chain.rec_steps answers known generalizing stage world with
  | done result => exact congrArg (Prod.mk result) world.afterAll_nil.symm
  | step step gives ih =>
    obtain ⟨same, next, later, agree⟩ := at_stage.agree_step answers step agree
    rw [Chain.run_of_step step world (same.mpr gives), ih later (world.after _) agree,
      Chain.outcome_of_step step gives, Chain.acts_of_step step gives, World.afterAll_cons]

end Chain.AtStage

namespace Answers

variable (answers : Answers) (c : Config) (translates : Bool) (known : Fingerprints)

def acts (site : RuleSet) : List Act := (Chain.ofSite c translates site).acts answers known

def outcome (site : RuleSet) : Except Failure Outcome :=
  (Chain.ofSite c translates site).outcome answers known

variable {answers c translates known}

theorem run_ofSite (site : RuleSet) (world : World)
    (agree : world.store.get? site.name = known.get? site.name) :
    (Chain.ofSite c translates site).run answers.collaborators world =
      (answers.outcome c translates known site,
        world.afterAll (answers.acts c translates known site)) :=
  (Chain.AtStage.here .examining).run_eq world fun _ => agree

theorem writes_acts (site : RuleSet) :
    ((writes (answers.acts c translates known site)).map (·.1)).Sublist [site.name] :=
  (Chain.AtStage.here .examining).writes_sublist

theorem writes_sites (sites : List RuleSet) :
    ((writes (sites.flatMap (answers.acts c translates known))).map (·.1)).Sublist
      (sites.map (·.name)) := by
  induction sites with
  | nil => exact .refl _
  | cons site sites ih =>
    rw [List.flatMap_cons, writes_append, List.map_append]
    exact (writes_acts site).append ih

theorem get?_afterAll (site : RuleSet) (world : World) {name : String} (h : name ≠ site.name) :
    (world.afterAll (answers.acts c translates known site)).store.get? name =
      world.store.get? name := by
  refine Fingerprints.get?_putAll_of_not_mem _ _ fun mem => h ?_
  simpa using (writes_acts site).mem mem

end Answers

def Answers.work (answers : Answers) (c : Config) (translates : Bool) (summary : Summary)
    (site : RuleSet) : StateM World Summary := do
  summary.report answers.collaborators site
    (← (Chain.ofSite c translates site).run answers.collaborators)

theorem Answers.work_eq (site : RuleSet) (world : World)
    (agree : world.store.get? site.name = known.get? site.name) (summary : Summary) :
    answers.work c translates summary site world =
      (summary.add (answers.outcome c translates known site),
        world.afterAll (answers.acts c translates known site)) := by
  change (fun said : _ × World => summary.report answers.collaborators site said.1 said.2)
    ((Chain.ofSite c translates site).run answers.collaborators world) = _
  rw [Answers.run_ofSite site world agree]
  rfl

theorem Answers.foldlM_eq (sites : List RuleSet) (names : (sites.map (·.name)).Nodup)
    (world : World) (agree : ∀ site ∈ sites, world.store.get? site.name = known.get? site.name)
    (summary : Summary) :
    sites.foldlM (answers.work c translates) summary world =
      ((sites.map (answers.outcome c translates known)).foldl Summary.add summary,
        world.afterAll (sites.flatMap (answers.acts c translates known))) := by
  induction sites generalizing world summary with
  | nil =>
    rw [List.flatMap_nil, World.afterAll_nil]
    rfl
  | cons site sites ih =>
    simp only [List.map_cons, List.nodup_cons, List.mem_map, not_exists, not_and] at names
    have later : ∀ other ∈ sites,
        (world.afterAll (answers.acts c translates known site)).store.get? other.name =
          known.get? other.name := by
      intro other mem
      rw [Answers.get?_afterAll site world (names.1 other mem)]
      exact agree other (List.mem_cons_of_mem _ mem)
    rw [List.foldlM_cons]
    change (fun said : _ × World => sites.foldlM (answers.work c translates) said.1 said.2)
      (answers.work c translates summary site world) = _
    rw [Answers.work_eq site world (agree site List.mem_cons_self), List.flatMap_cons,
      World.afterAll_append, List.map_cons, List.foldl_cons]
    exact ih names.2 _ later _

/-- A tick that works on the sites one after another. -/
theorem Answers.tick_eq (valid : c.fault? = none) (store : Fingerprints) :
    tick answers.collaborators c translates { store } =
      ((c.sites.map (answers.outcome c translates store)).foldl Summary.add
          { total := c.sites.length },
        World.afterAll { store } (c.sites.flatMap (answers.acts c translates store))) := by
  change (fun said : _ × World => said.1.conclude answers.collaborators said.2)
    (c.sites.foldlM (answers.work c translates) { total := c.sites.length } { store }) = _
  rw [Answers.foldlM_eq c.sites (Config.names_nodup valid) { store } fun _ _ => rfl]
  rfl

end PageWatch
