import PageWatch.Proofs.Data.Results
import PageWatch.Proofs.Watch.Verdict

/-!
# The same tick again

Where nothing has changed since the last tick, what was notified is now unchanged, and
everything else comes to what it came to before. For the item that was notified is
stored, and what a site stores no other site overwrites.
-/

set_option autoImplicit false

namespace PageWatch

def Outcome.again : Except Failure Outcome → Except Failure Outcome
  | .ok (.notified _) => .ok .unchanged
  | result => result

@[simp] theorem Outcome.notified?_again (result : Except Failure Outcome) :
    notified? (again result) = none := by
  rcases result with e | (i | _ | _) <;> rfl

def Summary.again (s : Summary) : Summary :=
  { s with notified := 0, unchanged := s.unchanged + s.notified }

theorem Summary.again_add (s : Summary) (result : Except Failure Outcome) :
    s.again.add (Outcome.again result) = (s.add result).again := by
  rcases result with e | (i | _ | _)
  · rfl
  · simp only [add, again, Outcome.again, Nat.add_assoc]
  · simp only [add, again, Outcome.again, Nat.add_right_comm]
  · rfl

theorem Summary.foldl_again (s : Summary) (results : List (Except Failure Outcome)) :
    (results.map Outcome.again).foldl add s.again = (results.foldl add s).again := by
  induction results generalizing s with
  | nil => rfl
  | cons result results ih =>
    rw [List.map_cons, List.foldl_cons, List.foldl_cons, again_add]
    exact ih (s.add result)

/-- The store is read and written for the site. -/
structure Answers.Serves (answers : Answers) (site : RuleSet) : Prop where
  read : answers.readFault? site.name = none
  write : answers.writeFault? site.name = none

section Site

variable {c : Config} {translates : Bool} {site : RuleSet} {answers : Answers}
  {known s : Fingerprints}

namespace Answers

theorem Serves.known_eq (serves : answers.Serves site) (store : Fingerprints) :
    answers.known store site.name = .ok (store.get? site.name) := by
  rw [known, serves.read]

theorem Serves.stored_after (serves : answers.Serves site) :
    (known.putAll (writes (answers.acts c translates known site))).get? site.name =
      ((Outcome.notified? (answers.outcome c translates known site)).map (·.endpoint)).or
        (known.get? site.name) := by
  rw [writes_acts_of_writable serves.write]
  cases Outcome.notified? (answers.outcome c translates known site) with
  | none => rfl
  | some i => exact Fingerprints.get?_put_self known site.name i.endpoint

/-- The verdict is the same again, except that nothing is news twice. -/
theorem verdict_again {held : Option String} {result : Except Failure Outcome}
    (first : answers.verdict c translates site (.ok held) = result) :
    answers.verdict c translates site
        (.ok (((Outcome.notified? result).map (·.endpoint)).or held)) = Outcome.again result := by
  unfold verdict at first ⊢
  generalize answers.examined c site = examined at first ⊢
  rcases examined with e | (i | t)
  · subst first
    rfl
  · simp only at first ⊢
    by_cases news : isNews i.endpoint (.ok held) = true
    · rw [if_pos news] at first
      subst first
      cases accepted : answers.announced c site (answers.titled c translates i) with
      | error e =>
        show (if isNews i.endpoint (.ok held) = true then _ else _) = _
        rw [if_pos news]
        rfl
      | ok outcome =>
        -- What went out is stored by now under any title, and so it is no news.
        obtain ⟨-, -, rfl⟩ := map_eq_ok.mp accepted
        have known : isNews i.endpoint (.ok (some (answers.titled c translates i).endpoint)) =
            false := by
          simp [isNews]
        show (if isNews i.endpoint (.ok (some _)) = true then _ else _) = _
        rw [known]
        rfl
    · rw [if_neg news] at first
      subst first
      show (if isNews i.endpoint (.ok held) = true then _ else _) = _
      rw [if_neg news]
      rfl
  · subst first
    rfl

theorem outcome_again (serves : answers.Serves site)
    (stored : s.get? site.name =
      (known.putAll (writes (answers.acts c translates known site))).get? site.name) :
    answers.outcome c translates s site =
      Outcome.again (answers.outcome c translates known site) := by
  rw [serves.stored_after, outcome_eq, serves.known_eq] at stored
  rw [outcome_eq, outcome_eq, serves.known_eq, serves.known_eq, stored]
  exact verdict_again rfl

end Answers

end Site

section Tick

variable {c : Config} {translates : Bool} {answers : Answers} {known s : Fingerprints}

theorem Answers.sites_again (serves : ∀ site ∈ c.sites, answers.Serves site)
    (stored : ∀ site ∈ c.sites, s.get? site.name =
      (known.putAll (writes (answers.acts c translates known site))).get? site.name) :
    (∀ site ∈ c.sites, answers.outcome c translates s site =
        Outcome.again (answers.outcome c translates known site)) ∧
      writes (c.sites.flatMap (answers.acts c translates s)) = [] ∧
      messages (c.sites.flatMap (answers.acts c translates s)) = [] := by
  have again : ∀ site ∈ c.sites, answers.outcome c translates s site =
      Outcome.again (answers.outcome c translates known site) :=
    fun site mem => Answers.outcome_again (serves site mem) (stored site mem)
  refine ⟨again, ?_, ?_⟩
  · rw [writes_flatMap, List.flatMap_eq_nil_iff]
    intro site mem
    rw [Answers.writes_acts_of_writable (serves site mem).write, again site mem]
    simp
  · rw [messages_flatMap, List.flatMap_eq_nil_iff]
    intro site mem
    rw [Answers.messages_acts, again site mem]
    simp

theorem Answers.foldl_sites_again
    (again : ∀ site ∈ c.sites, answers.outcome c translates s site =
      Outcome.again (answers.outcome c translates known site)) :
    (c.sites.map (answers.outcome c translates s)).foldl Summary.add { total := c.sites.length } =
      ((c.sites.map (answers.outcome c translates known)).foldl Summary.add
        { total := c.sites.length }).again := by
  have results : c.sites.map (answers.outcome c translates s) =
      (c.sites.map (answers.outcome c translates known)).map Outcome.again := by
    rw [List.map_map]
    exact List.map_congr_left again
  rw [results]
  exact Summary.foldl_again { total := c.sites.length } _

open Watching in
/-- A second tick, with nothing changed since the first, leaves the store as it is, has no message
accepted, and counts as unchanged what the first one notified or found unchanged; every other site
comes to what it came to. It does not matter in which order the sites act in either tick. -/
theorem tick_again (valid : c.fault? = none) (serves : ∀ site ∈ c.sites, answers.Serves site) :
    (∀ store, ∃ sum world, tick answers.collaborators c translates { store } = (sum, world) ∧
      tick answers.collaborators c translates { store := world.store } =
        ({ sum with notified := 0, unchanged := sum.unchanged + sum.notified },
          { store := world.store, accepted := [] })) ∧
    ∀ (s s' s'' : State) (events events' : List Event), s.Idle →
      Run c translates (s.calling c.sites) events s' →
      (∀ e ∈ events, e.Answered answers) → s'.Idle →
      Run c translates (s'.calling c.sites) events' s'' →
      (∀ e ∈ events', e.Answered answers) → s''.Idle →
      s''.store = s'.store ∧ messages (acts events') = [] ∧
        s''.summary =
          { s'.summary with
            notified := 0
            unchanged := s'.summary.unchanged + s'.summary.notified } ∧
        (reports events').Perm ((reports events).map fun r => (r.1, Outcome.again r.2)) := by
  have names := Config.names_nodup valid
  constructor
  · intro store
    refine ⟨_, _, Answers.tick_eq valid store, ?_⟩
    obtain ⟨again, unwritten, unsent⟩ := Answers.sites_again serves
      fun site mem => Answers.get?_putAll_sites names mem
    rw [Answers.tick_eq valid, World.afterAll, World.afterAll, unwritten, unsent]
    exact Prod.ext (Answers.foldl_sites_again again) rfl
  · intro s s' s'' events events' idle first answered idle' second answered' idle''
    have inter := first.interleaved valid idle answered
    have inter' := second.interleaved valid idle' answered'
    have stored : ∀ site ∈ c.sites, s'.store.get? site.name =
        (s.store.putAll (writes (answers.acts c translates s.store site))).get? site.name := by
      intro site mem
      rw [inter.store_at_end valid idle']
      exact Answers.get?_putAll_sites names mem
    obtain ⟨again, unwritten, unsent⟩ := Answers.sites_again serves stored
    refine ⟨?_, ?_, ?_, ?_⟩
    · rw [inter'.store_at_end valid idle'', unwritten]
      rfl
    · have accepted := inter'.messages_at_end idle''
      rw [unsent] at accepted
      exact accepted.eq_nil
    · rw [inter'.summary_at_end idle'', inter.summary_at_end idle']
      exact Answers.foldl_sites_again again
    · have before := (inter.at_end idle').2.map fun r => (r.1, Outcome.again r.2)
      have after := (inter'.at_end idle'').2
      have same : c.sites.map (fun site => (site, alone answers c translates s'.store site)) =
          (c.sites.map fun site => (site, alone answers c translates s.store site)).map
            fun r => (r.1, Outcome.again r.2) := by
        rw [List.map_map]
        apply List.map_congr_left
        intro site mem
        simp only [Function.comp_apply, alone_eq, again site mem]
      rw [same] at after
      exact after.trans before.symm

end Tick

section Sample

open Watching

def sampleTurnsAgain : List Event :=
  [.started (sampleJob 2 "A" none),
    .started (sampleJob 3 "B" none),
    .did (sampleJob 3 "B" none) (.fetch "news://h" 30 (.ok samplePage)),
    .did (sampleJob 2 "A" none) (.fetch "news://h" 30 (.ok samplePage)),
    .did (sampleJob 3 "B" (some sampleItem)) (.lookup "B" (.ok (some "x:y"))),
    .did (sampleJob 2 "A" (some sampleItem)) (.lookup "A" (.ok (some "x:y"))),
    .reported (sampleJob 3 "B" (some sampleItem)) (.ok .unchanged),
    .reported (sampleJob 2 "A" (some sampleItem)) (.ok .unchanged)]

def sampleEndAgain : State :=
  { sampleEnd with started := 4, summary := { total := 2, unchanged := 2 } }

theorem sampleEnd_knows (name : String) (mem : name ∈ ["A", "B"]) :
    sampleEnd.store.get? name = some "x:y" := by
  rcases List.mem_pair.mp mem with rfl | rfl
  · exact Fingerprints.get?_put_self _ "A" "x:y"
  · rw [sampleEnd, Fingerprints.get?_put_of_ne _ (by decide)]
    exact Fingerprints.get?_put_self {} "B" "x:y"

theorem sample_turns_again :
    Run (sampleConfig 2 sampleSites) false (sampleEnd.calling sampleSites) sampleTurnsAgain
      sampleEndAgain := by
  have known (name) (mem : name ∈ ["A", "B"]) :
      Act.Fits sampleEnd.store (.lookup name (.ok (some "x:y"))) :=
    (sampleEnd_knows name mem).symm
  refine .cons (.start rfl (by decide)) ?_
  refine .cons (.start rfl (by decide)) ?_
  refine .cons (.leads [_] (sample_found "B" 2 _) rfl rfl trivial) ?_
  refine .cons (.leads [] (sample_found "A" 2 _) rfl rfl trivial) ?_
  refine .cons (.leads [_] (Stage.comparing_known sampleItem) rfl rfl (known "B" (by simp))) ?_
  refine .cons (.leads [] (Stage.comparing_known sampleItem) rfl rfl (known "A" (by simp))) ?_
  refine .cons (.ends [_] rfl) ?_
  refine .cons (.ends [] rfl) ?_
  exact .start

theorem sample_turns_again_answered : ∀ e ∈ sampleTurnsAgain, e.Answered sampleAnswers := by
  have known (name) (mem : name ∈ ["A", "B"]) :
      sampleAnswers.Gives sampleEnd.store (.lookup name (.ok (some "x:y"))) :=
    congrArg Except.ok (sampleEnd_knows name mem).symm
  simp only [sampleTurnsAgain, List.forall_mem_cons]
  exact ⟨trivial, trivial, ⟨{}, rfl⟩, ⟨{}, rfl⟩, ⟨_, known "B" (by simp)⟩, ⟨_, known "A" (by simp)⟩,
    trivial, trivial, List.forall_mem_nil _⟩

theorem tick_again_sample :
    (sampleConfig 2 sampleSites).fault? = none ∧
      (∀ site ∈ (sampleConfig 2 sampleSites).sites, sampleAnswers.Serves site) ∧
      Run (sampleConfig 2 sampleSites) false (sampleStart.calling sampleSites) sampleTurns
        sampleEnd ∧
      Run (sampleConfig 2 sampleSites) false (sampleEnd.calling sampleSites) sampleTurnsAgain
        sampleEndAgain ∧
      messages (acts sampleTurns) = [sampleText "B", sampleText "A"] ∧
      messages (acts sampleTurnsAgain) = [] ∧ sampleEndAgain.store = sampleEnd.store := by
  have valid : (sampleConfig 2 sampleSites).fault? = none :=
    sample_valid (by decide) (by simp [sampleSites]) (by decide)
  have serves : ∀ site ∈ (sampleConfig 2 sampleSites).sites, sampleAnswers.Serves site :=
    fun _ _ => ⟨rfl, rfl⟩
  obtain ⟨store, sent, -⟩ := (tick_again valid serves).2 sampleStart sampleEnd sampleEndAgain
    sampleTurns sampleTurnsAgain ⟨rfl, rfl⟩ sample_turns sample_turns_answered ⟨rfl, rfl⟩
    sample_turns_again sample_turns_again_answered ⟨rfl, rfl⟩
  exact ⟨valid, serves, sample_turns, sample_turns_again, rfl, sent, store⟩

end Sample

end PageWatch
