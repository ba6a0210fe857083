import PageWatch.Proofs.Watch.Acts
import PageWatch.Proofs.Watch.Orderly
import PageWatch.Proofs.Watch.Turns

/-!
# The fetches of a run

A chain asks for a page once, before all else. So the fetches of a tick are the starts
among its moments, one for each site in the order of the sites, and a run makes those
of each of its ticks. When they start follows from the order of fetches in a tick and
from when ticks start.
-/

set_option autoImplicit false

namespace PageWatch

section Noting

variable {m : Type → Type} [Monad m]

abbrev Fetch := String × Nat

/-- The same answers, with a note of each fetch. -/
def Collaborators.noting (w : Collaborators m) : Collaborators (StateT (List Fetch) m) where
  fetch url timeoutSecs := do
    modify (· ++ [(url, timeoutSecs)])
    w.fetch url timeoutSecs
  lookup site := w.lookup site
  translate text language := w.translate text language
  send message := w.send message
  record site endpoint := w.record site endpoint
  log event := w.log event

variable {α β : Type}

/-- A program does what another does, and notes some fetches meanwhile. -/
def Noted (x : StateT (List Fetch) m α) (y : m α) (fetches : List Fetch) : Prop :=
  ∀ noted, x.run noted = (fun a => (a, noted ++ fetches)) <$> y

variable [LawfulMonad m] {x : StateT (List Fetch) m α} {y : m α}

theorem Noted.pure (a : α) : Noted (pure a : StateT (List Fetch) m α) (pure a) [] := by
  intro noted
  simp

theorem Noted.lift (y : m α) : Noted (liftM y : StateT (List Fetch) m α) y [] := by
  intro noted
  simp

theorem Noted.bind {fetches later : List Fetch} {f : α → StateT (List Fetch) m β} {g : α → m β}
    (first : Noted x y fetches) (next : ∀ a, Noted (f a) (g a) later) :
    Noted (x >>= f) (y >>= g) (fetches ++ later) := by
  intro noted
  rw [StateT.run_bind, first noted]
  simp only [bind_map_left, map_bind]
  exact bind_congr fun a => by rw [next a, List.append_assoc]

theorem Noted.bind_silent {later : List Fetch} {f : α → StateT (List Fetch) m β} {g : α → m β}
    (first : Noted x y []) (next : ∀ a, Noted (f a) (g a) later) :
    Noted (x >>= f) (y >>= g) later := by
  simpa using first.bind next

theorem Noted.bind_last {fetches : List Fetch} {f : α → StateT (List Fetch) m β} {g : α → m β}
    (first : Noted x y fetches) (next : ∀ a, Noted (f a) (g a) []) :
    Noted (x >>= f) (y >>= g) fetches := by
  simpa using first.bind next

theorem Noted.fetch (w : Collaborators m) (url : String) (timeoutSecs : Nat) :
    Noted (w.noting.fetch url timeoutSecs) (w.fetch url timeoutSecs) [(url, timeoutSecs)] := by
  intro noted
  simp [Collaborators.noting]

theorem discard_eq_bind {n : Type → Type} [Monad n] [LawfulMonad n] (z : n α) :
    discard z = z >>= fun _ => pure PUnit.unit := by
  rw [Functor.discard, LawfulFunctor.map_const]
  exact (bind_pure_comp (Function.const α PUnit.unit) z).symm

theorem Noted.discard {fetches : List Fetch} (noted : Noted x y fetches) :
    Noted (discard x) (discard y) fetches := by
  rw [discard_eq_bind, discard_eq_bind]
  exact noted.bind_last fun _ => .pure _

theorem Noted.forM {ι : Type} {f : ι → StateT (List Fetch) m Unit} {g : ι → m Unit}
    {fetches : List Fetch} (each : ∀ i, Noted (f i) (g i) fetches) (is : List ι) :
    Noted (is.forM f) (is.forM g) (List.replicate is.length fetches).flatten := by
  induction is with
  | nil => exact .pure ()
  | cons i is ih =>
    rw [List.length_cons, List.replicate_succ, List.flatten_cons]
    exact (each i).bind fun _ => ih

end Noting

section Site

variable {c : Config} {translates : Bool} {site : RuleSet}

theorem Stage.Goes.past_examining {stage next : Stage} {a : Act}
    (goes : Goes c translates site stage a next) : next ≠ .examining := by
  intro same
  cases goes with
  | news =>
    unfold withNews at same
    split at same <;> cases same
  | _ => cases same

abbrev Chain.Fetched (c : Config) (translates : Bool) (site : RuleSet) :
    Chain (Except Failure Outcome) → Prop :=
  Chain.IsAt c translates site (· ≠ .examining)

theorem Chain.Fetched.step {chain rest : Chain (Except Failure Outcome)} {a : Act}
    (fetched : chain.Fetched c translates site) (step : Chain.Step chain a rest) :
    rest.Fetched c translates site :=
  IsAt.step fetched step fun _ _ _ goes => goes.past_examining

theorem Chain.Fetched.not_fetch {url : String} {timeoutSecs : Nat}
    {next : Except Failure String → Chain (Except Failure Outcome)} :
    ¬ (Chain.fetch url timeoutSecs next).Fetched c translates site := by
  intro fetched
  refine IsAt.not_step fetched (.fetch url timeoutSecs next (.ok "")) (fun _ => nofun) ?_
  intro stage later past goes
  cases goes <;> exact past rfl

variable {m : Type → Type} [Monad m] [LawfulMonad m] (w : Collaborators m)

theorem Chain.Fetched.noted {chain : Chain (Except Failure Outcome)}
    (fetched : chain.Fetched c translates site) : Noted (chain.run w.noting) (chain.run w) [] := by
  induction chain with
  | done result => exact .pure result
  | fetch url timeoutSecs next ih => exact absurd fetched not_fetch
  | lookup name next ih =>
    exact (Noted.lift _).bind fun answer => ih answer (fetched.step (.lookup name next answer))
  | translate text language next ih =>
    exact (Noted.lift _).bind fun answer =>
      ih answer (fetched.step (.translate text language next answer))
  | send message next ih =>
    exact (Noted.lift _).bind fun answer => ih answer (fetched.step (.send message next answer))
  | record name endpoint next ih =>
    exact (Noted.lift _).bind fun answer =>
      ih answer (fetched.step (.record name endpoint next answer))
  | log event next ih => exact (Noted.lift _).bind fun _ => ih (fetched.step (.log event next))

theorem Chain.ofSite_eq_fetch (c : Config) (translates : Bool) (site : RuleSet) : ∃ next,
    Chain.ofSite c translates site = .fetch site.baseUrl c.crawler.timeoutSecs next ∧
      ∀ answer, (next answer).Fetched c translates site := by
  refine ⟨_, rfl, fun answer => ?_⟩
  have step : Chain.Step (Stage.examining.chain c translates site) _ _ :=
    Chain.step_fetch_iff.mpr ⟨answer, rfl, rfl⟩
  obtain ⟨stage, goes, at_stage⟩ := Stage.examining_step step
  exact ⟨stage, goes.past_examining, at_stage⟩

end Site

namespace Timeline

variable {m : Type → Type} [Monad m] [LawfulMonad m] (w : Collaborators m) (c : Config)
  (translates : Bool)

def fetchOf (c : Config) (site : RuleSet) : Fetch := (site.baseUrl, c.crawler.timeoutSecs)

def fetchesOf (c : Config) (happens : List Moment) : List Fetch :=
  (starts happens).filterMap fun (index, _) => c.sites[index]?.map (fetchOf c)

theorem fetchesOf_start (index time : Nat) (rest : List Moment) :
    fetchesOf c (.start index time :: rest) =
      (c.sites[index]?.map (fetchOf c)).toList ++ fetchesOf c rest := by
  cases found : c.sites[index]? <;> simp [fetchesOf, starts, Moment.start?, found]

theorem fetchesOf_finish (index time : Nat) (rest : List Moment) :
    fetchesOf c (.finish index time :: rest) = fetchesOf c rest := rfl

theorem runMoments_noted (happens : List Moment) : ∀ (fetching : List Started) (s : Summary),
    (∀ one ∈ fetching, one.rest.Fetched c translates one.site) →
      Noted (runMoments w.noting c translates happens fetching s)
        (runMoments w c translates happens fetching s) (fetchesOf c happens) := by
  induction happens with
  | nil =>
    intro fetching s fetched
    exact .pure s
  | cons moment rest ih =>
    intro fetching s fetched
    cases moment with
    | start index time =>
      rw [fetchesOf_start, runMoments, runMoments]
      cases c.sites[index]? with
      | none => exact ih fetching s fetched
      | some site =>
        obtain ⟨next, shape, past⟩ := Chain.ofSite_eq_fetch c translates site
        simp only [shape, startFetch, bind_assoc, pure_bind]
        refine (Noted.fetch w _ _).bind fun answer => ih _ s fun one mem => ?_
        rcases List.mem_append.mp mem with mem | mem
        · exact fetched one mem
        · obtain rfl := List.mem_singleton.mp mem
          exact past answer
    | finish index time =>
      rw [fetchesOf_finish, runMoments, runMoments]
      cases found : fetching.find? (·.index == index) with
      | none => exact ih fetching s fetched
      | some one =>
        have quiet := (fetched one (List.mem_of_find?_eq_some found)).noted w
        refine quiet.bind_silent fun result => ?_
        refine ((Noted.lift _).bind fun _ => .pure _).bind_silent fun s => ?_
        exact ih _ s fun other mem => fetched other (List.mem_filter.mp mem).1

theorem filterMap_range {α β : Type} (f : α → β) (all : List α) :
    (List.range all.length).filterMap (fun index => all[index]?.map f) = all.map f := by
  induction all with
  | nil => rfl
  | cons a rest ih =>
    rw [List.length_cons, List.range_succ_eq_map, List.filterMap_cons, List.filterMap_map,
      List.map_cons, ← ih]
    rfl

/-- A whole tick starts a fetch for each site. -/
theorem fetchesOf_ofDelays {limit : Nat} {delays : List Nat} (positive : 0 < limit)
    (length : delays.length = c.sites.length) :
    fetchesOf c (ofDelays limit delays) = c.sites.map (fetchOf c) := by
  obtain ⟨s, run, complete⟩ := Flight.run_ofDelays positive delays
  have inOrder := (Flight.orderly_of_run run complete).inOrder
  have byIndex : fetchesOf c (ofDelays limit delays) =
      ((starts (ofDelays limit delays)).map (·.1)).filterMap
        fun index => c.sites[index]?.map (fetchOf c) := by
    rw [List.filterMap_map]
    rfl
  rw [byIndex, inOrder, length, filterMap_range]

@[simp] theorem length_delaysOf (delay : Nat → Nat) (tick : Nat) :
    (delaysOf c delay tick).length = c.sites.length := by
  simp [delaysOf]

theorem tickAt_noted (positive : 0 < c.crawler.maxConcurrent) (delay : Nat → Nat) (tick : Nat) :
    Noted (tickAt w.noting c translates delay tick) (tickAt w c translates delay tick)
      (c.sites.map (fetchOf c)) := by
  refine (Noted.lift _).bind_silent fun _ => ?_
  rw [← fetchesOf_ofDelays c positive (length_delaysOf c delay tick)]
  have run := runMoments_noted w c translates
    (ofDelays c.crawler.maxConcurrent (delaysOf c delay tick)) [] { total := c.sites.length }
    (by simp)
  have conclude : ∀ s : Summary, Noted (s.conclude w.noting) (s.conclude w) [] := fun s =>
    (Noted.lift _).bind fun _ => .pure s
  exact run.bind_last conclude

section Times

variable {c : Config} {delay : Nat → Nat} {period : Period}

theorem fetchTimes_eq (tick begin : Nat) :
    fetchTimes c delay tick begin =
      (starts (ofDelays c.crawler.maxConcurrent (delaysOf c delay tick))).map (begin + ·.2) := by
  rw [fetchTimes, starts, List.map_filterMap]
  refine congrArg (List.filterMap · _) (funext fun moment => ?_)
  cases moment <;> rfl

theorem fetchTimes_within (positive : 0 < c.crawler.maxConcurrent) {tick begin time : Nat}
    (mem : time ∈ fetchTimes c delay tick begin) :
    begin ≤ time ∧ time ≤ begin + lengthAt c delay tick := by
  rw [fetchTimes_eq] at mem
  obtain ⟨⟨index, t⟩, started, rfl⟩ := List.mem_map.mp mem
  obtain ⟨s, run, complete⟩ := Flight.run_ofDelays positive (delaysOf c delay tick)
  have past : t ≤ s.now := (Flight.kept_of_run run).past _ (mem_starts.mp started)
  rw [Flight.now_eq_length positive run complete] at past
  exact ⟨Nat.le_add_right _ _, Nat.add_le_add_left past begin⟩

end Times

section Run

variable {w c translates} {delay : Nat → Nat} {period : Period} {shutdown : Nat}

def fetchesIn (c : Config) (ticks : Nat) : List Fetch :=
  (List.replicate ticks (c.sites.map (fetchOf c))).flatten

theorem length_fetchesIn (ticks : Nat) : (fetchesIn c ticks).length = ticks * c.sites.length := by
  simp [fetchesIn]

theorem ticks_noted (positive : 0 < c.crawler.maxConcurrent) (ticks : Nat) :
    Noted ((List.range ticks).forM fun tick => discard (tickAt w.noting c translates delay tick))
      ((List.range ticks).forM fun tick => discard (tickAt w c translates delay tick))
      (fetchesIn c ticks) := by
  have all := Noted.forM (fun tick => (tickAt_noted w c translates positive delay tick).discard)
    (List.range ticks)
  rwa [List.length_range] at all

theorem run_noted (positive : 0 < c.crawler.maxConcurrent) {n : Nat}
    (count : ∀ tick, tick < n ↔ start period (lengthAt c delay) tick < shutdown) :
    Noted (run w.noting c delay period shutdown translates)
      (run w c delay period shutdown translates) (fetchesIn c n) := by
  rw [run_eq count, run_eq count]
  refine (ticks_noted positive n).bind_last fun _ => ?_
  exact (Noted.lift _).bind fun _ => .pure _

end Run

/-- In each tick the fetches are made one after another in the order of the sites, at most so many
at once as the settings allow and each as soon as there is room, and a run makes those of its ticks
and no other. -/
theorem fetches_in_order (w : Collaborators m) (c : Config) (translates : Bool)
    (delay : Nat → Nat) (period : Period) (shutdown : Nat)
    (positive : 0 < c.crawler.maxConcurrent) :
    let limit := c.crawler.maxConcurrent
    let start := start period (lengthAt c delay)
    let finish := finish period (lengthAt c delay)
    (∀ tick happened s, Flight.Run limit (delaysOf c delay tick) {} happened s →
        (∃ more s', Flight.Run limit (delaysOf c delay tick) s more s' ∧
          s'.Over (delaysOf c delay tick)) ∧
        (s.Over (delaysOf c delay tick) →
          Orderly limit (delaysOf c delay tick) happened ∧
          (∀ time, inFlightAt (delaysOf c delay tick) happened time ≤ limit) ∧
          (starts happened).map (start tick + ·.2) = fetchTimes c delay tick (start tick) ∧
          start tick + (happened.getLast?.map Moment.time).getD 0 = finish tick)) ∧
      (∀ tick, ∀ time ∈ fetchTimes c delay tick (start tick),
        start tick ≤ time ∧ time ≤ finish tick ∧ finish tick ≤ start (tick + 1)) ∧
      (limit = 1 → ∀ tick, lengthAt c delay tick = (delaysOf c delay tick).sum) ∧
      (∀ ticks, (fetchesIn c ticks).length = ticks * c.sites.length ∧ Noted
        ((List.range ticks).forM fun tick => discard (tickAt w.noting c translates delay tick))
        ((List.range ticks).forM fun tick => discard (tickAt w c translates delay tick))
        (fetchesIn c ticks)) ∧
      ∃ n, (∀ tick, tick < n ↔ start tick < shutdown) ∧
        Noted (run w.noting c delay period shutdown translates)
          (run w c delay period shutdown translates) (fetchesIn c n) := by
  intro limit start finish
  refine ⟨fun tick happened s run => ⟨?_, fun complete => ⟨?_, ?_, ?_, ?_⟩⟩, ?_, ?_, ?_, ?_⟩
  · exact (Flight.kept_of_run run).run_to_over positive
  · exact Flight.orderly_of_run run complete
  · exact (Flight.orderly_of_run run complete).inFlightAt_le
  · obtain ⟨s', run', complete'⟩ := Flight.run_ofDelays positive (delaysOf c delay tick)
    rw [fetchTimes_eq, Flight.starts_eq run complete run' complete']
  · rw [← Flight.now_eq_last run complete, Flight.now_eq_length positive run complete]
    rfl
  · intro tick time mem
    obtain ⟨after, before⟩ := fetchTimes_within positive mem
    exact ⟨after, before, finish_le_start period (lengthAt c delay) tick⟩
  · intro one tick
    rw [lengthAt, show c.crawler.maxConcurrent = 1 from one, length_one]
  · intro ticks
    exact ⟨length_fetchesIn ticks, ticks_noted positive ticks⟩
  · obtain ⟨n, count⟩ := exists_count period (lengthAt c delay) shutdown
    exact ⟨n, count, run_noted positive count⟩

def unevenDelay (fetch : Nat) : Nat := [3, 5, 2][fetch % 3]?.getD 0

theorem uneven_delaysOf (tick : Nat) :
    delaysOf (sampleConfig 2 ["A", "B", "C"]) unevenDelay tick = [3, 5, 2] := by
  simp [delaysOf, sampleConfig, unevenDelay, List.range_succ, Nat.add_mod]

theorem uneven_start (tick : Nat) :
    start samplePeriod (lengthAt (sampleConfig 2 ["A", "B", "C"]) unevenDelay) tick = 5 * tick := by
  induction tick with
  | zero => rfl
  | succ tick ih =>
    have length : lengthAt (sampleConfig 2 ["A", "B", "C"]) unevenDelay tick = 5 := by
      rw [lengthAt, uneven_delaysOf]
      rfl
    have apart : samplePeriod.1 = 5 := rfl
    rw [start, ih, length, apart]
    omega

theorem uneven_run : ∃ s, Flight.Run 2 [3, 5, 2] {} [.start 0 0, .start 1 0, .finish 0 3,
    .start 2 3, .finish 2 5, .finish 1 5] s ∧ s.Over [3, 5, 2] := by
  have full : ¬ Flight.CanStart 2 [3, 5, 2] ⟨0, 2, [⟨0, 3⟩, ⟨1, 5⟩]⟩ := fun can =>
    absurd can.2 (by decide)
  have all : ¬ Flight.CanStart 2 [3, 5, 2] ⟨3, 3, [⟨1, 5⟩, ⟨2, 5⟩]⟩ := fun can =>
    absurd can.1 (by decide)
  have first : Flight.Step 2 [3, 5, 2] {} (.start 0 0) ⟨0, 1, [⟨0, 3⟩]⟩ :=
    .starts ⟨by decide, by decide⟩
  have second : Flight.Step 2 [3, 5, 2] ⟨0, 1, [⟨0, 3⟩]⟩ (.start 1 0) ⟨0, 2, [⟨0, 3⟩, ⟨1, 5⟩]⟩ :=
    .starts ⟨by decide, by decide⟩
  have room : Flight.Step 2 [3, 5, 2] ⟨0, 2, [⟨0, 3⟩, ⟨1, 5⟩]⟩ (.finish 0 3) ⟨3, 2, [⟨1, 5⟩]⟩ :=
    .finishes [] [⟨1, 5⟩] rfl (by decide) (.inr full)
  have third : Flight.Step 2 [3, 5, 2] ⟨3, 2, [⟨1, 5⟩]⟩ (.start 2 3) ⟨3, 3, [⟨1, 5⟩, ⟨2, 5⟩]⟩ :=
    .starts ⟨by decide, by decide⟩
  have later : Flight.Step 2 [3, 5, 2] ⟨3, 3, [⟨1, 5⟩, ⟨2, 5⟩]⟩ (.finish 2 5) ⟨5, 3, [⟨1, 5⟩]⟩ :=
    .finishes [⟨1, 5⟩] [] rfl (by decide) (.inr all)
  have last : Flight.Step 2 [3, 5, 2] ⟨5, 3, [⟨1, 5⟩]⟩ (.finish 1 5) ⟨5, 3, []⟩ :=
    .finishes [] [] (r := ⟨1, 5⟩) rfl (by decide) (.inl rfl)
  exact ⟨_, .cons first (.cons second (.cons room (.cons third (.cons later (.single last))))),
    rfl, rfl⟩

theorem fetches_in_order_uneven :
    0 < (sampleConfig 2 ["A", "B", "C"]).crawler.maxConcurrent ∧
      Orderly 2 [3, 5, 2] [.start 0 0, .start 1 0, .finish 0 3, .start 2 3, .finish 2 5,
        .finish 1 5] ∧
      (run sampleCollaborators.noting (sampleConfig 2 ["A", "B", "C"]) unevenDelay samplePeriod
        12).run [] = ([[0, 0, 3], [5, 5, 8], [10, 10, 13]], List.replicate 9 ("news://h", 30)) := by
  obtain ⟨ticks, -, -, -, n, count, noted⟩ := fetches_in_order sampleCollaborators
    (sampleConfig 2 ["A", "B", "C"]) false unevenDelay samplePeriod 12 (by decide)
  refine ⟨by decide, ?_, ?_⟩
  · obtain ⟨s, run, complete⟩ := uneven_run
    have delays := uneven_delaysOf 0
    exact delays ▸ ((ticks 0 _ s (delays ▸ run)).2 (delays ▸ complete)).1
  · have third := (count 2).mpr (by rw [uneven_start]; decide)
    have fourth := (count 3).not.mpr (by rw [uneven_start]; decide)
    obtain rfl : n = 3 := by omega
    rw [noted, run_eq count]
    rfl

end Timeline

end PageWatch
