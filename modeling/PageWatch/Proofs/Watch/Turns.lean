import Mathlib.Data.Nat.Find
import Mathlib.Order.WellFounded
import PageWatch.Proofs.Data.Paths
import PageWatch.Watch.Timeline

/-!
# When ticks start

Whether a tick starts on time or late, the next one is due a period after its start.
So the starts follow from the lengths of the ticks alone: each is a period after the
one before, or at the end of the tick before where that comes later. The loop chooses
between the next tick and a shutdown at every turn. Where the two are never ready at
the same moment it has one way to go, and that ends.
-/

set_option autoImplicit false

namespace PageWatch.Timeline

section Starts

variable (period : Period) (length : Nat → Nat)

def start : Nat → Nat
  | 0 => 0
  | tick + 1 => max (start tick + period.1) (start tick + length tick)

def finish (tick : Nat) : Nat := start period length tick + length tick

def free : Nat → Nat
  | 0 => 0
  | tick + 1 => finish period length tick

def deadline : Nat → Nat
  | 0 => 0
  | tick + 1 => start period length tick + period.1

def turn (tick : Nat) : Turn := ⟨free period length tick, deadline period length tick⟩

theorem finish_le_start (tick : Nat) :
    finish period length tick ≤ start period length (tick + 1) :=
  Nat.le_max_right _ _

theorem period_le_start (tick : Nat) :
    start period length tick + period.1 ≤ start period length (tick + 1) :=
  Nat.le_max_left _ _

theorem free_le_start (tick : Nat) : free period length tick ≤ start period length tick := by
  cases tick with
  | zero => exact Nat.le_refl 0
  | succ tick => exact finish_le_start period length tick

theorem start_lt_succ (tick : Nat) :
    start period length tick < start period length (tick + 1) := by
  have apart := period_le_start period length tick
  have positive := period.2
  omega

theorem start_mono : StrictMono (start period length) :=
  strictMono_nat_of_lt_succ (start_lt_succ period length)

theorem turn_due (tick : Nat) : (turn period length tick).due = start period length tick := by
  cases tick with
  | zero => rfl
  | succ tick => exact Nat.max_comm _ _

theorem turn_due_lt_seen (tick shutdown : Nat) :
    (turn period length tick).due < (turn period length tick).seen shutdown ↔
      start period length tick < shutdown := by
  have waits := free_le_start period length tick
  rw [turn_due]
  simp only [Turn.seen, turn]
  omega

theorem turn_after (tick : Nat) :
    (turn period length tick).after period (length tick) = turn period length (tick + 1) := by
  have due := turn_due period length tick
  have late : (if (turn period length tick).deadline < (turn period length tick).now
      then (turn period length tick).now else (turn period length tick).deadline) =
        start period length tick := by
    rw [← due, Turn.due]
    split <;> omega
  rw [Turn.after, late, due]
  rfl

theorem exists_count (time : Nat) :
    ∃ n, ∀ tick, tick < n ↔ start period length tick < time := by
  have reached : ∃ tick, time ≤ start period length tick :=
    ⟨time, (start_mono period length).le_apply⟩
  refine ⟨Nat.find reached, fun tick => ?_⟩
  rw [Nat.lt_find_iff]
  constructor
  · intro before
    exact Nat.not_le.mp (before tick (Nat.le_refl tick))
  · intro early other le reaches
    have mono := (start_mono period length).monotone le
    omega

end Starts

inductive Loop where
  | waiting (tick : Nat) (t : Turn)
  | working (tick : Nat) (t : Turn)
  | ended (ticks : Nat)

inductive LoopEvent where
  | started (tick time : Nat)
  | finished (tick time : Nat)
  | shutdown (ticks time : Nat)

section Loop

variable (period : Period) (length : Nat → Nat) (shutdown : Nat)

/-- The loop takes what is ready first, and either when both are. While a tick runs it looks at
nothing else. -/
inductive Loop.Step : Loop → LoopEvent → Loop → Prop where
  | begins {tick : Nat} {t : Turn} (first : t.due ≤ t.seen shutdown) :
    Step (.waiting tick t) (.started tick t.due) (.working tick t)
  | completes (tick : Nat) (t : Turn) :
    Step (.working tick t) (.finished tick (t.due + length tick))
      (.waiting (tick + 1) (t.after period (length tick)))
  | stops {tick : Nat} {t : Turn} (first : t.seen shutdown ≤ t.due) :
    Step (.waiting tick t) (.shutdown tick (t.seen shutdown)) (.ended tick)

abbrev Loop.Run : Loop → List LoopEvent → Loop → Prop := Path (Loop.Step period length shutdown)

/-- In no run a tick and the shutdown are ready at the same moment. -/
def Untied : Prop :=
  ∀ events tick t, Loop.Run period length shutdown (.waiting 0 {}) events (.waiting tick t) →
    t.due ≠ t.seen shutdown

def ticksBefore (n : Nat) : List LoopEvent :=
  (List.range n).flatMap fun tick =>
    [.started tick (start period length tick), .finished tick (finish period length tick)]

def story (n : Nat) : List LoopEvent :=
  ticksBefore period length n ++ [.shutdown n (max (free period length n) shutdown)]

theorem ticksBefore_succ (n : Nat) :
    ticksBefore period length (n + 1) = ticksBefore period length n ++
      [.started n (start period length n), .finished n (finish period length n)] := by
  simp [ticksBefore, List.range_succ]

def Loop.OnTurn : Loop → Prop
  | waiting tick t | working tick t => t = turn period length tick
  | ended _ => True

/-- Where the loop stands after some events, when each tick so far started before the shutdown. -/
inductive Loop.Reached : List LoopEvent → Loop → Prop where
  | waiting {tick : Nat} (early : ∀ other < tick, start period length other < shutdown) :
    Reached (ticksBefore period length tick) (.waiting tick (turn period length tick))
  | working {tick : Nat} (early : ∀ other < tick + 1, start period length other < shutdown) :
    Reached (ticksBefore period length tick ++ [.started tick (start period length tick)])
      (.working tick (turn period length tick))
  | ended {n : Nat} (early : ∀ other < n, start period length other < shutdown)
      (late : shutdown ≤ start period length n) :
    Reached (story period length shutdown n) (.ended n)

variable {period length shutdown}

theorem Loop.onTurn_of_run {events : List LoopEvent} {s : Loop}
    (run : Loop.Run period length shutdown (.waiting 0 {}) events s) :
    s.OnTurn period length := by
  induction run with
  | start => exact (rfl : ({} : Turn) = turn period length 0)
  | more run step ih =>
    cases step with
    | begins first => exact ih
    | completes tick t =>
      rw [show t = _ from ih, turn_after]
      rfl
    | stops first => trivial

theorem untied_of_apart
    (apart : ∀ tick, start period length tick ≠ max (free period length tick) shutdown) :
    Untied period length shutdown := by
  intro events tick t run
  obtain rfl : t = turn period length tick := Loop.onTurn_of_run run
  rw [turn_due]
  exact apart tick

theorem Loop.Reached.step {events : List LoopEvent} {s s' : Loop} {e : LoopEvent}
    (untied : Untied period length shutdown)
    (run : Loop.Run period length shutdown (.waiting 0 {}) events s)
    (reached : Reached period length shutdown events s)
    (step : Loop.Step period length shutdown s e s') :
    Reached period length shutdown (events ++ [e]) s' := by
  cases step with
  | @begins tick t first =>
    have apart := untied _ _ _ run
    cases reached with
    | waiting early =>
      rw [turn_due]
      refine .working fun other before => ?_
      rcases Nat.lt_succ_iff_lt_or_eq.mp before with before | rfl
      · exact early other before
      · exact (turn_due_lt_seen period length other shutdown).mp (Nat.lt_of_le_of_ne first apart)
  | completes tick t =>
    cases reached with
    | working early =>
      have told : ticksBefore period length tick ++ [.started tick (start period length tick)] ++
          [.finished tick (start period length tick + length tick)] =
            ticksBefore period length (tick + 1) := by
        rw [ticksBefore_succ, List.append_assoc]
        rfl
      rw [turn_due, turn_after, told]
      exact .waiting early
  | @stops tick t first =>
    cases reached with
    | waiting early =>
      refine .ended early (Nat.not_lt.mp fun starts => ?_)
      exact Nat.not_lt.mpr first ((turn_due_lt_seen period length tick shutdown).mpr starts)

/-- Without ties the loop goes one way. -/
theorem Loop.reached_of_run {events : List LoopEvent} {s : Loop}
    (untied : Untied period length shutdown)
    (run : Loop.Run period length shutdown (.waiting 0 {}) events s) :
    Reached period length shutdown events s := by
  induction run with
  | start =>
    have none : ∀ other < 0, Timeline.start period length other < shutdown := by simp
    exact .waiting none
  | more run step ih => exact ih.step untied run step

theorem Loop.runs_tick {tick : Nat} (early : start period length tick < shutdown) :
    Step period length shutdown (.waiting tick (turn period length tick))
        (.started tick (start period length tick)) (.working tick (turn period length tick)) ∧
      Step period length shutdown (.working tick (turn period length tick))
        (.finished tick (finish period length tick))
        (.waiting (tick + 1) (turn period length (tick + 1))) := by
  have first : (turn period length tick).due ≤ (turn period length tick).seen shutdown :=
    Nat.le_of_lt ((turn_due_lt_seen period length tick shutdown).mpr early)
  constructor
  · simpa only [turn_due] using Step.begins first
  · have completes : Step period length shutdown (.working tick (turn period length tick)) _ _ :=
      .completes tick (turn period length tick)
    rwa [turn_due, turn_after] at completes

theorem Loop.run_from_waiting {n : Nat}
    (count : ∀ tick, tick < n ↔ start period length tick < shutdown) (left : Nat) :
    ∀ tick, tick + left = n → ∃ more,
      Run period length shutdown (.waiting tick (turn period length tick)) more (.ended n) ∧
        ticksBefore period length tick ++ more = story period length shutdown n := by
  induction left with
  | zero =>
    rintro tick rfl
    have late := (count tick).not.mp (Nat.lt_irrefl tick)
    have first : (turn period length tick).seen shutdown ≤ (turn period length tick).due :=
      Nat.not_lt.mp fun taken => late ((turn_due_lt_seen period length tick shutdown).mp taken)
    exact ⟨_, .single (.stops first), rfl⟩
  | succ left ih =>
    intro tick total
    obtain ⟨begins, completes⟩ := runs_tick ((count tick).mp (by omega))
    obtain ⟨more, run, told⟩ := ih (tick + 1) (by omega)
    refine ⟨_, .cons begins (.cons completes run), ?_⟩
    rw [← told, ticksBefore_succ, List.append_assoc]
    rfl

theorem Loop.Reached.run_to_over {n : Nat}
    (count : ∀ tick, tick < n ↔ start period length tick < shutdown)
    {events : List LoopEvent} {s : Loop} (reached : Reached period length shutdown events s) :
    ∃ more, Run period length shutdown s more (.ended n) ∧
      events ++ more = story period length shutdown n := by
  cases reached with
  | @waiting tick early =>
    have le : tick ≤ n := by
      by_contra beyond
      have late := (count n).not.mp (Nat.lt_irrefl n)
      exact late (early n (by omega))
    exact run_from_waiting count (n - tick) tick (by omega)
  | @working tick early =>
    have started : tick < n := (count tick).mpr (early tick (by omega))
    obtain ⟨-, completes⟩ := runs_tick (early tick (by omega))
    obtain ⟨more, run, told⟩ := run_from_waiting count (n - (tick + 1)) (tick + 1) (by omega)
    refine ⟨_, .cons completes run, ?_⟩
    rw [← told, ticksBefore_succ]
    simp
  | @ended k early late =>
    have same : k = n := by
      have low : ¬ k < n := fun less => absurd ((count k).mp less) (Nat.not_lt.mpr late)
      have high : ¬ n < k := fun less => (count n).not.mp (Nat.lt_irrefl n) (early n less)
      omega
    subst same
    exact ⟨[], .start, List.append_nil _⟩

end Loop

section Ticks

variable {m : Type → Type} [Monad m] [LawfulMonad m] {w : Collaborators m} {c : Config}
  {translates : Bool} {delay : Nat → Nat} {period : Period} {shutdown : Nat}

theorem takeTurns_eq {n : Nat}
    (count : ∀ tick, tick < n ↔ start period (lengthAt c delay) tick < shutdown) (left : Nat) :
    ∀ tick, tick + left = n →
      takeTurns w c translates delay period shutdown tick (turn period (lengthAt c delay) tick) = do
        (List.range' tick left).forM fun tick => discard (tickAt w c translates delay tick)
        w.log (.shutdown n)
        return (List.range' tick left).map fun tick =>
          fetchTimes c delay tick (start period (lengthAt c delay) tick) := by
  induction left with
  | zero =>
    rintro tick rfl
    have late := (count tick).not.mp (Nat.lt_irrefl tick)
    have stops : ¬ (turn period (lengthAt c delay) tick).due <
        (turn period (lengthAt c delay) tick).seen shutdown :=
      fun taken => late ((turn_due_lt_seen _ _ tick shutdown).mp taken)
    rw [takeTurns, dif_neg stops]
    simp
  | succ left ih =>
    intro tick total
    have early := (count tick).mp (by omega)
    have goes : (turn period (lengthAt c delay) tick).due <
        (turn period (lengthAt c delay) tick).seen shutdown :=
      (turn_due_lt_seen _ _ tick shutdown).mpr early
    rw [takeTurns, dif_pos goes, turn_after, ih (tick + 1) (by omega), turn_due]
    simp [List.range'_succ]

theorem run_eq {n : Nat}
    (count : ∀ tick, tick < n ↔ start period (lengthAt c delay) tick < shutdown) :
    run w c delay period shutdown translates = do
      (List.range n).forM fun tick => discard (tickAt w c translates delay tick)
      w.log (.shutdown n)
      return (List.range n).map fun tick =>
        fetchTimes c delay tick (start period (lengthAt c delay) tick) := by
  rw [List.range_eq_range']
  exact takeTurns_eq count n 0 (Nat.zero_add n)

/-- The ticks that start before the shutdown are run, one after another and each to its end, and
then the loop returns their number. -/
theorem ticks_in_time (w : Collaborators m) (c : Config) (translates : Bool) (delay : Nat → Nat)
    (period : Period) (shutdown : Nat) (untied : Untied period (lengthAt c delay) shutdown) :
    let start := start period (lengthAt c delay)
    let finish := finish period (lengthAt c delay)
    (start 0 = 0 ∧ ∀ tick, start (tick + 1) = max (start tick + period.1) (finish tick)) ∧
      (∀ tick, finish tick ≤ start (tick + 1) ∧ start tick + period.1 ≤ start (tick + 1)) ∧
      ∃ n, (∀ tick, tick < n ↔ start tick < shutdown) ∧
        (∀ events s, Loop.Run period (lengthAt c delay) shutdown (.waiting 0 {}) events s →
          ∃ more, Loop.Run period (lengthAt c delay) shutdown s more (.ended n) ∧
            events ++ more = story period (lengthAt c delay) shutdown n) ∧
        run w c delay period shutdown translates = do
          (List.range n).forM fun tick => discard (tickAt w c translates delay tick)
          w.log (.shutdown n)
          return (List.range n).map fun tick => fetchTimes c delay tick (start tick) := by
  intro start finish
  refine ⟨⟨rfl, fun tick => rfl⟩, fun tick => ⟨finish_le_start .., period_le_start ..⟩, ?_⟩
  obtain ⟨n, count⟩ := exists_count period (lengthAt c delay) shutdown
  refine ⟨n, count, ?_, run_eq count⟩
  intro events s run
  exact (Loop.reached_of_run untied run).run_to_over count

end Ticks

def sampleSite (name : String) : RuleSet where
  name
  baseUrl := "news://h"
  realUrl := none
  content := ⟨"a", "id", ["n"], .exact⟩
  date := .anywhere (.ofTag "a")
  title := .block
  dateFormats := []

def sampleConfig (limit : Nat) (names : List String) : Config :=
  { sites := names.map sampleSite, crawler := { maxConcurrent := limit } }

def sampleDelay (fetch : Nat) : Nat := if fetch = 0 then 7 else 0

def samplePeriod : Period := ⟨5, by decide⟩

theorem sample_lengthAt (tick : Nat) :
    lengthAt (sampleConfig 2 ["A", "B"]) sampleDelay tick = if tick = 0 then 7 else 0 := by
  cases tick with
  | zero => rfl
  | succ tick =>
    have delays : delaysOf (sampleConfig 2 ["A", "B"]) sampleDelay (tick + 1) = [0, 0] := by
      simp [delaysOf, sampleConfig, sampleDelay, List.range_succ]
    rw [lengthAt, delays]
    rfl

theorem sample_start (tick : Nat) :
    start samplePeriod (lengthAt (sampleConfig 2 ["A", "B"]) sampleDelay) (tick + 1) =
      7 + 5 * tick := by
  induction tick with
  | zero => rfl
  | succ tick ih =>
    have apart : samplePeriod.1 = 5 := rfl
    rw [start, ih, sample_lengthAt, apart, if_neg (Nat.succ_ne_zero tick)]
    omega

theorem sample_untied :
    Untied samplePeriod (lengthAt (sampleConfig 2 ["A", "B"]) sampleDelay) 15 := by
  refine untied_of_apart fun tick => ?_
  match tick with
  | 0 => decide
  | 1 => decide
  | tick + 2 =>
    simp only [free, finish, sample_start, sample_lengthAt]
    simp
    omega

def sampleCollaborators : Collaborators Id where
  fetch _ _ := .ok ""
  lookup _ := .ok none
  translate text _ := .ok text
  send _ := .ok ()
  record _ _ := .ok ()
  log _ := ()

theorem ticks_in_time_sample :
    Untied samplePeriod (lengthAt (sampleConfig 2 ["A", "B"]) sampleDelay) 15 ∧
      (∃ more, Loop.Run samplePeriod (lengthAt (sampleConfig 2 ["A", "B"]) sampleDelay) 15
        (.waiting 0 {}) more (.ended 3)) ∧
      run sampleCollaborators (sampleConfig 2 ["A", "B"]) sampleDelay samplePeriod 15 =
        [[0, 0], [7, 7], [12, 12]] := by
  obtain ⟨-, -, n, count, ends, runs⟩ := ticks_in_time sampleCollaborators
    (sampleConfig 2 ["A", "B"]) false sampleDelay samplePeriod 15 sample_untied
  have third := (count 2).mpr (by rw [sample_start]; decide)
  have fourth := (count 3).not.mpr (by rw [sample_start]; decide)
  obtain rfl : n = 3 := by omega
  obtain ⟨more, run, -⟩ := ends [] _ .start
  refine ⟨sample_untied, ⟨more, run⟩, ?_⟩
  rw [runs]
  rfl

end PageWatch.Timeline
