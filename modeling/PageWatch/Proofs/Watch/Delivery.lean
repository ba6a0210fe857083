import PageWatch.Proofs.Watch.History

/-!
# No item is lost

What the store holds for a site is read off the history: the endpoint of the last
message for the site that was accepted and then recorded. So an item is passed
over as known only if a message about it was accepted before.
-/

set_option autoImplicit false

namespace PageWatch.Watching

def Event.accepted? (name : String) : Event → Option (Nat × String)
  | .did ⟨number, site, some i⟩ (.send _ (.ok ())) =>
    if site.name = name then some (number, i.endpoint) else none
  | _ => none

def Event.records (number : Nat) : Event → Bool
  | .did j (.record _ _ (.ok ())) => j.number == number
  | _ => false

def accepted (name : String) (events : List Event) : List (Nat × String) :=
  events.filterMap (·.accepted? name)

def recorded (number : Nat) (events : List Event) : Bool := events.any (·.records number)

/-- The messages for a site that were accepted and then recorded. -/
def delivered (name : String) (events : List Event) : List (Nat × String) :=
  (accepted name events).filter fun message => recorded message.1 events

theorem accepted_append (name : String) (before after : List Event) :
    accepted name (before ++ after) = accepted name before ++ accepted name after :=
  List.filterMap_append

theorem recorded_append (number : Nat) (before after : List Event) :
    recorded number (before ++ after) = (recorded number before || recorded number after) :=
  List.any_append

theorem accepted_single (name : String) (e : Event) :
    accepted name [e] = (e.accepted? name).toList := by
  unfold accepted
  cases h : e.accepted? name <;> simp [h]

theorem recorded_single (number : Nat) (e : Event) : recorded number [e] = e.records number := by
  simp [recorded]

def Event.Silent (e : Event) : Prop :=
  (∀ name, e.accepted? name = none) ∧ ∀ number, e.records number = false

theorem accepted_silent {e : Event} (silent : e.Silent) (name : String) (events : List Event) :
    accepted name (events ++ [e]) = accepted name events := by
  simp [accepted_append, accepted_single, silent.1]

theorem recorded_silent {e : Event} (silent : e.Silent) (number : Nat) (events : List Event) :
    recorded number (events ++ [e]) = recorded number events := by
  simp [recorded_append, recorded_single, silent.2]

theorem delivered_silent {e : Event} (silent : e.Silent) (name : String) (events : List Event) :
    delivered name (events ++ [e]) = delivered name events := by
  simp only [delivered, accepted_silent silent, recorded_silent silent]

theorem mem_accepted {name endpoint : String} {number : Nat} {events : List Event}
    (h : (number, endpoint) ∈ accepted name events) :
    ∃ j a, .did j a ∈ events ∧ j.number = number ∧ j.site.name = name := by
  obtain ⟨e, mem, he⟩ := List.mem_filterMap.mp h
  unfold Event.accepted? at he
  split at he
  · split at he
    · rename_i number' site i _ hname
      simp only [Option.some.injEq, Prod.mk.injEq] at he
      exact ⟨_, _, mem, he.1, hname⟩
    · cases he
  · cases he

variable {c : Config} {translates : Bool} {events : List Event} {s s' : State}
  {before after : List Work} {w : Work}

section Messages

variable {j : Job} {i : Item} {text site endpoint : String}

theorem accepted_accept (h : j.item? = some i) (name : String) :
    accepted name (events ++ [.did j (.send text (.ok ()))]) =
      accepted name events ++ if j.site.name = name then [(j.number, i.endpoint)] else [] := by
  obtain ⟨number, site, item?⟩ := j
  subst h
  rw [accepted_append, accepted_single]
  by_cases hn : site.name = name <;> simp [Event.accepted?, hn]

theorem recorded_accept (number : Nat) (answer : Except Failure Unit) :
    recorded number (events ++ [.did j (.send text answer)]) = recorded number events := by
  simp [recorded_append, recorded_single, Event.records]

theorem delivered_accept (h : j.item? = some i) (unrecorded : recorded j.number events = false)
    (name : String) :
    delivered name (events ++ [.did j (.send text (.ok ()))]) = delivered name events := by
  simp only [delivered, recorded_accept, accepted_accept h, List.filter_append]
  by_cases hn : j.site.name = name <;> simp [hn, unrecorded]

theorem accepted_record (name : String) (answer : Except Failure Unit) :
    accepted name (events ++ [.did j (.record site endpoint answer)]) = accepted name events := by
  simp [accepted_append, accepted_single, Event.accepted?]

theorem recorded_record (number : Nat) :
    recorded number (events ++ [.did j (.record site endpoint (.ok ()))]) =
      (recorded number events || j.number == number) := by
  simp [recorded_append, recorded_single, Event.records]

theorem delivered_record {name : String} {message : Nat × String}
    (h : (accepted name events).getLast? = some message) (number : message.1 = j.number) :
    (delivered name (events ++ [.did j (.record site endpoint (.ok ()))])).getLast? =
      some message := by
  obtain ⟨earlier, he⟩ := List.getLast?_eq_some_iff.mp h
  simp [delivered, accepted_record, recorded_record, he, List.filter_append, number]

theorem delivered_record_other {name : String}
    (h : ∀ message ∈ accepted name events, message.1 ≠ j.number) :
    delivered name (events ++ [.did j (.record site endpoint (.ok ()))]) =
      delivered name events := by
  simp only [delivered, accepted_record, recorded_record]
  refine List.filter_congr fun message mem => ?_
  simp [Ne.symm (h message mem)]

end Messages

/-- A message is recorded once only, the message to be recorded is the last one for the site, and an
item that is passed over was announced before. -/
def Traced (events : List Event) (j : Job) : Stage → Prop
  | .examining | .comparing _ | .translating _ | .sending _ _ => recorded j.number events = false
  | .recording i _ =>
    recorded j.number events = false ∧
      (accepted j.site.name events).getLast? = some (j.number, i.endpoint)
  | .ended item? result =>
    result = .ok .unchanged →
      ∃ i, item? = some i ∧ i.endpoint ∈ (accepted j.site.name events).map (·.2)

theorem Traced.frame {j : Job} {stage : Stage} {e : Event} (traced : Traced events j stage)
    (accepts : e.accepted? j.site.name = none) (records : e.records j.number = false) :
    Traced (events ++ [e]) j stage := by
  have ha : accepted j.site.name (events ++ [e]) = accepted j.site.name events := by
    simp [accepted_append, accepted_single, accepts]
  have hr : recorded j.number (events ++ [e]) = recorded j.number events := by
    simp [recorded_append, recorded_single, records]
  cases stage <;> simpa only [Traced, ha, hr] using traced

theorem Traced.of_job {j j' : Job} {stage : Stage} (traced : Traced events j stage)
    (number : j'.number = j.number) (site : j'.site = j.site) : Traced events j' stage := by
  cases stage <;> simpa only [Traced, number, site] using traced

theorem accepted?_of_ne {j : Job} {a : Act} {name : String} (h : name ≠ j.site.name) :
    Event.accepted? name (.did j a) = none := by
  unfold Event.accepted?
  split
  · rename_i he
    obtain ⟨rfl, rfl⟩ := Event.did.inj he
    exact if_neg (Ne.symm h)
  · rfl

theorem records_of_ne {j : Job} {a : Act} {number : Nat} (h : number ≠ j.number) :
    Event.records number (.did j a) = false := by
  unfold Event.records
  split
  · rename_i he
    obtain ⟨rfl, rfl⟩ := Event.did.inj he
    simpa using Ne.symm h
  · rfl

theorem Sound.unrecorded_new (sound : Sound c translates events s) :
    recorded s.started events = false := by
  refine List.any_eq_false.mpr fun e mem => ?_
  cases e with
  | did j a =>
    rw [records_of_ne (Nat.ne_of_gt (sound.past j a mem))]
    decide
  | _ => simp [Event.records]

/-- The store holds what was delivered last. -/
structure Kept (c : Config) (translates : Bool) (events : List Event) (s : State) : Prop where
  sound : Sound c translates events s
  stored : ∀ name, s.store.get? name = (delivered name events).getLast?.map (·.2)
  traced : ∀ w ∈ s.working, ∃ stage, w.Stands c translates stage ∧ Traced events w.job stage

theorem Kept.initial : Kept c translates [] { store := {} } where
  sound := .initial {}
  stored := fun _ => rfl
  traced := by simp

theorem Kept.silent {e : Event} (kept : Kept c translates events s)
    (sound : Sound c translates (events ++ [e]) s') (silent : e.Silent)
    (store : s'.store = s.store)
    (traced : ∀ w ∈ s'.working, ∃ stage, w.Stands c translates stage ∧ Traced events w.job stage) :
    Kept c translates (events ++ [e]) s' where
  sound := sound
  stored := fun name => by rw [store, delivered_silent silent, kept.stored name]
  traced := fun w h =>
    have ⟨stage, stands, traced⟩ := traced w h
    ⟨stage, stands, traced.frame (silent.1 _) (silent.2 _)⟩

section Acting

variable {a : Act} {rest : Chain (Except Failure Outcome)}

theorem Kept.traced_others (kept : Kept c translates events s)
    (working : s.working = before ++ w :: after) {other : Work} (h : other ∈ before ++ after) :
    ∃ stage, other.Stands c translates stage ∧
      Traced (events ++ [.did w.job a]) other.job stage := by
  obtain ⟨stage, stands, traced⟩ := kept.traced other (Sound.mem_working working h)
  obtain ⟨name, number⟩ := kept.sound.apart working h
  exact ⟨stage, stands, traced.frame (accepted?_of_ne name) (records_of_ne number)⟩

theorem Kept.acting_silent (kept : Kept c translates events s)
    (working : s.working = before ++ w :: after) (acts : w.rest.Step a rest)
    (stage : Stage) (silent : (Event.did w.job a).Silent) (unwritten : a.written? = none)
    (stands : Work.Stands c translates ⟨w.job.after c a, rest⟩ stage)
    (traced : Traced events w.job stage) :
    Kept c translates (events ++ [.did w.job a])
      { s with store := a.stored s.store, working := before ++ ⟨w.job.after c a, rest⟩ :: after } := by
  refine kept.silent (kept.sound.acting working acts) silent ?_ ?_
  · exact Act.stored_of_unwritten _ unwritten
  · intro other h
    rcases mem_replaced.mp h with rfl | h
    · exact ⟨stage, stands, traced.of_job (Job.after_number ..) (Job.after_site ..)⟩
    · exact kept.traced other (Sound.mem_working working h)

theorem Kept.accepting (kept : Kept c translates events s)
    (working : s.working = before ++ w :: after) {i : Item} {title text : String}
    (acts : w.rest.Step (.send text (.ok ())) rest) (item : w.job.item? = some i)
    (stands : Work.Stands c translates ⟨w.job, rest⟩ (.recording i title))
    (unrecorded : recorded w.job.number events = false) :
    Kept c translates (events ++ [.did w.job (.send text (.ok ()))])
      { s with working := before ++ ⟨w.job, rest⟩ :: after } where
  sound := kept.sound.acting working acts
  stored := fun name => by rw [delivered_accept item unrecorded, kept.stored name]
  traced := by
    intro other h
    rcases mem_replaced.mp h with rfl | h
    · refine ⟨_, stands, by simpa [recorded_accept] using unrecorded, ?_⟩
      simp [accepted_accept item]
    · exact kept.traced_others working h

theorem Kept.recording (kept : Kept c translates events s)
    (working : s.working = before ++ w :: after) {i : Item} {title : String}
    (acts : w.rest.Step (.record w.job.site.name i.endpoint (.ok ())) rest)
    (stands : Work.Stands c translates ⟨w.job, rest⟩
      (.ended (some i) (.ok (.notified { i with title }))))
    (last : (accepted w.job.site.name events).getLast? = some (w.job.number, i.endpoint)) :
    Kept c translates (events ++ [.did w.job (.record w.job.site.name i.endpoint (.ok ()))])
      { s with
        store := s.store.put w.job.site.name i.endpoint
        working := before ++ ⟨w.job, rest⟩ :: after } where
  sound := kept.sound.acting working acts
  stored := by
    intro name
    by_cases hn : name = w.job.site.name
    · subst hn
      rw [Fingerprints.get?_put_self, delivered_record last rfl]
      rfl
    · have others : ∀ message ∈ accepted name events, message.1 ≠ w.job.number := by
        intro message mem he
        obtain ⟨j, a, hj, number, site⟩ := mem_accepted mem
        have owner := kept.sound.owned w (by simp [working]) j a hj (number.trans he)
        exact hn (by rw [← site, owner])
      rw [Fingerprints.get?_put_of_ne _ hn, delivered_record_other others, kept.stored name]
  traced := by
    intro other h
    rcases mem_replaced.mp h with rfl | h
    · exact ⟨_, stands, by simp [Traced]⟩
    · exact kept.traced_others working h

theorem Kept.acting (kept : Kept c translates events s)
    (working : s.working = before ++ w :: after) (acts : w.rest.Step a rest)
    (fits : a.Fits s.store) :
    Kept c translates (events ++ [.did w.job a])
      { s with store := a.stored s.store, working := before ++ ⟨w.job.after c a, rest⟩ :: after } := by
  obtain ⟨stage, stands, traced⟩ := kept.traced w (by simp [working])
  have quiet := kept.acting_silent working acts
  rcases Work.step stands acts with ⟨event, rfl, later⟩ | ⟨next, goes, later⟩
  · exact quiet _ ⟨fun _ => by simp [Event.accepted?], fun _ => rfl⟩ rfl later traced
  · cases goes with
    | known i =>
      refine quiet _ ⟨fun _ => by simp [Event.accepted?], fun _ => rfl⟩ rfl later fun _ => ?_
      -- The answer is what the store holds, hence the endpoint of a delivered message.
      have held : some i.endpoint = s.store.get? w.job.site.name := fits
      rw [kept.stored] at held
      obtain ⟨message, last, endpoint⟩ := Option.map_eq_some_iff.mp held.symm
      have mem := (List.mem_filter.mp (List.mem_of_getLast? last)).1
      exact ⟨i, rfl, endpoint ▸ List.mem_map_of_mem mem⟩
    | accepted i title => exact kept.accepting working acts stands.2 later traced
    | recorded i title answer =>
      cases answer with
      | error e =>
        exact quiet _ ⟨fun _ => by simp [Event.accepted?], fun _ => rfl⟩ rfl later (by simp [Traced])
      | ok done => exact kept.recording working acts later traced.2
    | news i h =>
      refine quiet _ ⟨fun _ => by simp [Event.accepted?], fun _ => rfl⟩ rfl later ?_
      cases translates <;> exact traced
    | found hx =>
      exact quiet _ ⟨fun _ => by simp [Event.accepted?], fun _ => rfl⟩ rfl later traced
    | translated i title =>
      exact quiet _ ⟨fun _ => by simp [Event.accepted?], fun _ => rfl⟩ rfl later traced
    | untranslated i e =>
      exact quiet _ ⟨fun _ => by simp [Event.accepted?], fun _ => rfl⟩ rfl later traced
    | _ =>
      exact quiet _ ⟨fun _ => by simp [Event.accepted?], fun _ => rfl⟩ rfl later (by simp [Traced])

end Acting

def Event.isReplaced : Event → Bool
  | .replaced .. => true
  | _ => false

theorem Kept.step (valid : c.fault? = none) (kept : Kept c translates events s) {e : Event}
    (alone : e.isReplaced = false) (step : Step c translates s e s') :
    Kept c translates (events ++ [e]) s' := by
  have sound := kept.sound.step valid step
  cases step with
  | tick idle => exact kept.silent sound ⟨fun _ => rfl, fun _ => rfl⟩ rfl kept.traced
  | process site idle => exact kept.silent sound ⟨fun _ => rfl, fun _ => rfl⟩ rfl kept.traced
  | start next room =>
    refine kept.silent sound ⟨fun _ => rfl, fun _ => rfl⟩ rfl fun other h => ?_
    rcases List.mem_append.mp h with h | h
    · exact kept.traced other h
    · rw [List.mem_singleton.mp h]
      exact ⟨.examining, ⟨.here .examining, rfl⟩, kept.sound.unrecorded_new⟩
  | act working acts fits => exact kept.acting working acts fits
  | report working done =>
    exact kept.silent sound ⟨fun _ => rfl, fun _ => rfl⟩ rfl fun other h =>
      kept.traced other (Sound.mem_working working h)
  | replace store => cases alone

theorem Run.kept (valid : c.fault? = none) (run : Run c translates { store := {} } events s)
    (alone : ∀ e ∈ events, e.isReplaced = false) : Kept c translates events s := by
  induction run with
  | start => exact .initial
  | more run step ih =>
    exact (ih fun e h => alone e (List.mem_append_left _ h)).step valid
      (alone _ (List.mem_append_right _ (List.mem_singleton_self _))) step

/-- A watcher that began with an empty store, and is alone in writing it, has stored for every site
the endpoint of the last message that was accepted and recorded. What it reports as unchanged it has
sent before. -/
theorem fingerprint_is_last_delivered (valid : c.fault? = none)
    (run : Run c translates { store := {} } events s)
    (alone : ∀ e ∈ events, e.isReplaced = false) :
    (∀ name, s.store.get? name = (delivered name events).getLast?.map (·.2)) ∧
      ∀ earlier later j, events = earlier ++ .reported j (.ok .unchanged) :: later →
        ∃ i, j.item? = some i ∧ i.endpoint ∈ (accepted j.site.name earlier).map (·.2) := by
  refine ⟨(run.kept valid alone).stored, ?_⟩
  rintro earlier later j rfl
  obtain ⟨middle, next, first, step, -⟩ := run.split_cons
  have kept := first.kept valid fun e h => alone e (List.mem_append_left _ h)
  cases step with
  | report working done =>
    rename_i before after w
    obtain ⟨stage, ⟨at_stage, item⟩, traced⟩ := kept.traced w (by simp [working])
    rw [done] at at_stage
    obtain ⟨item?, rfl⟩ := at_stage.eq_ended
    obtain ⟨i, rfl, mem⟩ := traced rfl
    exact ⟨i, item, mem⟩

def sampleLayout : Calendar.Layout :=
  ⟨Calendar.Segment.scan "2006-1-2".toList, by decide +kernel⟩

def sampleSite (name : String) : RuleSet where
  name
  baseUrl := "news://h"
  realUrl := none
  content := ⟨"a", "id", ["n"], .exact⟩
  date := .anywhere (.ofTag "a")
  title := .block
  dateFormats := [sampleLayout]

def samplePage : String := "<a id=n href=x:y>2025-1-2"

def sampleBlock : Node := .element "a" [("id", "n"), ("href", "x:y")] [.text "2025-1-2"]

def sampleItem : Item := ⟨"2025-1-2", "x:y", .midnight ⟨2025, 1, 2, by decide⟩⟩

def sampleConfig (limit : Nat) (sites : List RuleSet) : Config :=
  { sites, crawler := { maxConcurrent := limit } }

theorem extract_renamed (d : Document) (rules : RuleSet) (name : String)
    (cutoff : Calendar.Timestamp) : extract d { rules with name } cutoff = extract d rules cutoff :=
  rfl

theorem sample_extract (name : String) :
    extract (Document.parse samplePage) (sampleSite name) (.midnight firstCutoff) =
      .ok (.item sampleItem) := by
  have alone : extract (Document.parse samplePage) (sampleSite "A") (.midnight firstCutoff) =
      .ok (.item sampleItem) := by decide +kernel
  rw [← alone]
  exact extract_renamed _ (sampleSite "A") name _

def sampleText (name : String) : String :=
  sampleItem.message (sampleConfig 1 []).notifier.template name

def sampleJob (number : Nat) (name : String) (item? : Option Item) : Job :=
  { number, site := sampleSite name, item? }

def sampleNews (number : Nat) (name : String) : List Event :=
  [.called [sampleSite name],
    .started (sampleJob number name none),
    .did (sampleJob number name none) (.fetch "news://h" 30 (.ok samplePage)),
    .did (sampleJob number name (some sampleItem)) (.lookup name (.ok none)),
    .did (sampleJob number name (some sampleItem)) (.send (sampleText name) (.ok ())),
    .did (sampleJob number name (some sampleItem)) (.record name "x:y" (.ok ())),
    .reported (sampleJob number name (some sampleItem)) (.ok (.notified sampleItem))]

def sampleRepeat (number : Nat) (name : String) : List Event :=
  [.called [sampleSite name],
    .started (sampleJob number name none),
    .did (sampleJob number name none) (.fetch "news://h" 30 (.ok samplePage)),
    .did (sampleJob number name (some sampleItem)) (.lookup name (.ok (some "x:y"))),
    .reported (sampleJob number name (some sampleItem)) (.ok .unchanged)]

section Sample

variable (name : String) (store : Fingerprints) (started : Nat) (summary : Summary)

theorem sample_found (limit : Nat) (sites : List RuleSet) :
    Stage.Leads (sampleConfig limit sites) false (sampleSite name) .examining
      (.fetch "news://h" 30 (.ok samplePage)) (.comparing sampleItem) :=
  Stage.examining_found (sample_extract name)

theorem sample_news (unknown : store.get? name = none) :
    Run (sampleConfig 1 [sampleSite name]) false { store, started, summary }
      (sampleNews started name)
      { store := store.put name "x:y", started := started + 1,
        summary := { total := 1, notified := 1 } } := by
  refine .cons (.process _ ⟨rfl, rfl⟩) ?_
  refine .cons (.start rfl Nat.zero_lt_one) ?_
  refine .cons (.leads [] (sample_found name 1 _) rfl rfl trivial) ?_
  refine .cons (.leads [] (Stage.comparing_unknown sampleItem) rfl rfl unknown.symm) ?_
  refine .cons (.leads [] (Stage.sending_accepted sampleItem _) rfl rfl trivial) ?_
  refine .cons (.leads [] (Stage.recording_recorded sampleItem _) rfl rfl trivial) ?_
  refine .cons (.ends [] rfl) ?_
  exact .start

theorem sample_repeat (known : store.get? name = some "x:y") :
    Run (sampleConfig 1 [sampleSite name]) false { store, started, summary }
      (sampleRepeat started name)
      { store, started := started + 1, summary := { total := 1, unchanged := 1 } } := by
  refine .cons (.process _ ⟨rfl, rfl⟩) ?_
  refine .cons (.start rfl Nat.zero_lt_one) ?_
  refine .cons (.leads [] (sample_found name 1 _) rfl rfl trivial) ?_
  refine .cons (.leads [] (Stage.comparing_known sampleItem) rfl rfl known.symm) ?_
  refine .cons (.ends [] rfl) ?_
  exact .start

end Sample

theorem sample_valid {limit : Nat} {sites : List RuleSet} (positive : limit ≠ 0)
    (some_site : sites ≠ [])
    (fresh : Config.firstRepeated? [] (sites.map (·.name)) = none) :
    (sampleConfig limit sites).fault? = none := by
  have agent : (nonBlank? ({} : CrawlerSettings).userAgent).isNone = false := by decide +kernel
  simp [Config.fault?, sampleConfig, agent, positive, some_site, fresh]

theorem fingerprint_is_last_delivered_sample :
    (sampleConfig 1 [sampleSite "A"]).fault? = none ∧
      (∀ e ∈ sampleNews 0 "A" ++ sampleRepeat 1 "A", e.isReplaced = false) ∧
      Run (sampleConfig 1 [sampleSite "A"]) false { store := {} }
        (sampleNews 0 "A" ++ sampleRepeat 1 "A")
        { store := Fingerprints.put {} "A" "x:y", started := 2,
          summary := { total := 1, unchanged := 1 } } ∧
      (Fingerprints.put {} "A" "x:y").get? "A" =
        (delivered "A" (sampleNews 0 "A" ++ sampleRepeat 1 "A")).getLast?.map (·.2) := by
  have valid : (sampleConfig 1 [sampleSite "A"]).fault? = none :=
    sample_valid Nat.one_ne_zero (by simp) rfl
  have alone : ∀ e ∈ sampleNews 0 "A" ++ sampleRepeat 1 "A", e.isReplaced = false := by
    simp [sampleNews, sampleRepeat, Event.isReplaced]
  have run := (sample_news "A" {} 0 { total := 0 } rfl).append
    (sample_repeat "A" _ 1 _ (Fingerprints.get?_put_self {} "A" "x:y"))
  exact ⟨valid, alone, run, (fingerprint_is_last_delivered valid run alone).1 "A"⟩

end PageWatch.Watching
