import Mathlib.Algebra.GroupWithZero.Nat
import PageWatch.Proofs.Watch.InFlight

/-!
# The order of fetches

What holds of the moments of a tick, whichever of the fetches that are due together
ends first. The times at which fetches start, and with them the end of the tick, follow
from the delays alone: a fetch starts when as many have ended as there is no room for.
-/

set_option autoImplicit false

namespace PageWatch.Timeline

/-- How many fetches are in flight at a time. -/
def inFlightAt (delays : List Nat) (happened : List Moment) (time : Nat) : Nat :=
  (starts happened).countP fun (index, start) =>
    start ≤ time && time < start + delays[index]?.getD 0

/-- What the moments of a whole tick obey. -/
structure Orderly (limit : Nat) (delays : List Nat) (happened : List Moment) : Prop where
  inOrder : (starts happened).map (·.1) = List.range delays.length
  ended : (finishes happened).Perm (ends delays (starts happened))
  /-- At every point the fetches that started are those that ended and at most `limit` more. -/
  bounded : ∀ before after, happened = before ++ after → ∃ running,
    (finishes before ++ running).Perm (ends delays (starts before)) ∧ running.length ≤ limit
  /-- The first fetches start at once, and each later one at the end of the fetch that makes room
  for it. -/
  prompt : ∀ before index time after, happened = before ++ .start index time :: after →
    index < limit ∧ time = 0 ∨
      limit ≤ index ∧ ∃ r, (finishes before)[index - limit]? = some r ∧ r.due = time
  forward : happened.Pairwise fun earlier later => earlier.time ≤ later.time
  last : ∀ moment, happened.getLast? = some moment → ∃ index, moment = .finish index moment.time

variable {limit : Nat} {delays : List Nat} {happened happened' : List Moment} {s s' : Flight}

theorem Flight.eq_of_start {index time : Nat}
    (step : Step limit delays s (.start index time) s') :
    s.CanStart limit delays ∧ index = s.started ∧ time = s.now := by
  cases step with
  | starts can => exact ⟨can, rfl, rfl⟩

theorem Flight.Kept.room_made (kept : Kept limit delays happened s)
    (can : s.CanStart limit delays) (later : limit ≤ s.started) :
    ∃ r, (Timeline.finishes happened)[s.started - limit]? = some r ∧ r.due = s.now := by
  have count := kept.length_eq
  have within : s.started - limit < (Timeline.finishes happened).length := by
    have := can.2
    omega
  refine ⟨_, List.getElem?_eq_getElem within, ?_⟩
  exact kept.prompt _ _ (List.getElem?_eq_getElem within) (by omega) can.1

theorem Flight.Kept.at_once (kept : Kept limit delays happened s)
    (can : s.CanStart limit delays) (first : s.started < limit) : s.now = 0 := by
  have waits := can.1
  have begun := kept.begun
  omega

theorem Flight.last_of_over (run : Run limit delays {} happened s) (complete : s.Over delays) :
    happened = [] ∧ s.now = 0 ∨ ∃ index, happened.getLast? = some (.finish index s.now) := by
  cases run with
  | start => exact .inl ⟨rfl, rfl⟩
  | more run step =>
    cases step with
    | starts can =>
      have none := congrArg List.length complete.2
      rw [(enqueue_perm _ _).length_eq] at none
      simp at none
    | @finishes _ _ r => exact .inr ⟨r.index, by simp⟩

theorem Flight.orderly_of_run (run : Run limit delays {} happened s) (complete : s.Over delays) :
    Orderly limit delays happened where
  inOrder := by rw [(kept_of_run run).inOrder, complete.1]
  ended := by simpa [complete.2] using (kept_of_run run).accounted
  bounded := by
    rintro before after rfl
    obtain ⟨middle, first, -⟩ := run.split
    exact ⟨middle.running, (kept_of_run first).accounted, (kept_of_run first).room⟩
  prompt := by
    rintro before index time after rfl
    obtain ⟨middle, next, first, step, -⟩ := run.split_cons
    obtain ⟨can, rfl, rfl⟩ := eq_of_start step
    have kept := kept_of_run first
    rcases Nat.lt_or_ge middle.started limit with first | later
    · exact .inl ⟨first, kept.at_once can first⟩
    · exact .inr ⟨later, kept.room_made can later⟩
  forward := (kept_of_run run).forward
  last := by
    intro moment found
    rcases last_of_over run complete with ⟨rfl, -⟩ | ⟨index, last⟩
    · cases found
    · rw [last] at found
      obtain rfl := Option.some.inj found
      exact ⟨index, rfl⟩

theorem exists_split_at (time : Nat)
    (forward : happened.Pairwise fun earlier later => earlier.time ≤ later.time) :
    ∃ before after, happened = before ++ after ∧ (∀ moment ∈ before, moment.time ≤ time) ∧
      ∀ moment ∈ after, time < moment.time := by
  induction happened with
  | nil => exact ⟨[], [], rfl, by simp, by simp⟩
  | cons moment rest ih =>
    obtain ⟨least, forward⟩ := List.pairwise_cons.mp forward
    rcases Nat.lt_or_ge time moment.time with later | earlier
    · refine ⟨[], moment :: rest, rfl, by simp, fun other mem => ?_⟩
      rcases List.mem_cons.mp mem with rfl | mem
      · exact later
      · exact Nat.lt_of_lt_of_le later (least other mem)
    · obtain ⟨before, after, rfl, past, future⟩ := ih forward
      refine ⟨moment :: before, after, rfl, fun other mem => ?_, future⟩
      rcases List.mem_cons.mp mem with rfl | mem
      · exact earlier
      · exact past other mem

theorem Orderly.inFlightAt_le (orderly : Orderly limit delays happened) (time : Nat) :
    inFlightAt delays happened time ≤ limit := by
  obtain ⟨before, after, rfl, past, future⟩ := exists_split_at time orderly.forward
  obtain ⟨running, accounted, room⟩ := orderly.bounded before after rfl
  have unstarted : (starts after).countP (fun (index, start) =>
      start ≤ time && time < start + delays[index]?.getD 0) = 0 := by
    rw [List.countP_eq_zero]
    intro one mem
    have later := future _ (mem_starts.mp mem)
    simp only [Moment.time_start] at later
    simp
    omega
  have ended : (finishes before).countP (fun r => time < r.due) = 0 := by
    rw [List.countP_eq_zero]
    intro r mem
    simpa using past _ (mem_finishes.mp mem)
  calc inFlightAt delays (before ++ after) time
      = (starts before).countP (fun (index, start) =>
          start ≤ time && time < start + delays[index]?.getD 0) := by
        rw [inFlightAt, starts_append, List.countP_append, unstarted, Nat.add_zero]
    _ ≤ (starts before).countP (fun (index, start) => time < start + delays[index]?.getD 0) :=
        List.countP_mono_left (by simp)
    _ = (ends delays (starts before)).countP (fun r => time < r.due) := by
        rw [ends, List.countP_map]
        rfl
    _ = (finishes before ++ running).countP (fun r => time < r.due) :=
        (accounted.countP_eq _).symm
    _ ≤ running.length := by
        rw [List.countP_append, ended, Nat.zero_add]
        exact List.countP_le_length
    _ ≤ limit := room

theorem Flight.run_to_start (run : Run limit delays {} happened s) {i : Nat} (lt : i < s.started) :
    ∃ before middle, Run limit delays {} before middle ∧ middle.CanStart limit delays ∧
      middle.started = i ∧ starts before = (starts happened).take i ∧
      (starts happened)[i]? = some (i, middle.now) := by
  induction run with
  | start => exact absurd lt (Nat.not_lt_zero i)
  | @more events s _ _ run step ih =>
    have length : (starts events).length = s.started := by
      simpa using congrArg List.length (kept_of_run run).inOrder
    cases step with
    | starts can =>
      rcases Nat.lt_succ_iff_lt_or_eq.mp lt with before | rfl
      · obtain ⟨earlier, middle, first, ready, count, taken, found⟩ := ih before
        refine ⟨earlier, middle, first, ready, count, ?_, ?_⟩
        · rw [taken, starts_append, List.take_append_of_le_length (by omega)]
        · rw [starts_append, List.getElem?_append_left (by omega), found]
      · refine ⟨events, s, run, can, rfl, ?_, ?_⟩
        · rw [starts_append, ← length, List.take_left]
        · rw [starts_append, starts_start, ← length, List.getElem?_concat_length]
    | finishes before after running first prompt =>
      obtain ⟨earlier, middle, first, ready, count, taken, found⟩ := ih lt
      exact ⟨earlier, middle, first, ready, count, by simpa using taken, by simpa using found⟩

theorem Flight.Kept.ended_before (kept : Kept limit delays happened s)
    (can : s.CanStart limit delays) :
    (Timeline.finishes happened).countP (fun r => r.due < s.now) ≤ s.started - limit := by
  have late : ((Timeline.finishes happened).drop (s.started - limit)).countP
      (fun r => r.due < s.now) = 0 := by
    rw [List.countP_eq_zero]
    intro r mem
    obtain ⟨i, found⟩ := List.mem_iff_getElem?.mp mem
    rw [List.getElem?_drop] at found
    have now := kept.prompt _ r found (by omega) can.1
    simp [now]
  have early := List.countP_le_length (p := fun r : Running => decide (r.due < s.now))
    (l := (Timeline.finishes happened).take (s.started - limit))
  rw [List.length_take] at early
  rw [← List.take_append_drop (s.started - limit) (Timeline.finishes happened),
    List.countP_append, late]
  omega

theorem Flight.Kept.ended_by (kept : Kept limit delays happened s) :
    (Timeline.finishes happened).countP (fun r => r.due ≤ s.now) =
      (Timeline.finishes happened).length := by
  rw [List.countP_eq_length]
  intro r mem
  simpa using kept.past _ (mem_finishes.mp mem)

theorem Flight.Kept.counts (kept : Kept limit delays happened s) (can : s.CanStart limit delays)
    (later : limit ≤ s.started) :
    (ends delays (Timeline.starts happened)).countP (fun r => r.due < s.now) ≤ s.started - limit ∧
      s.started - limit <
        (ends delays (Timeline.starts happened)).countP (fun r => r.due ≤ s.now) := by
  have count := kept.length_eq
  have free := can.2
  have running : s.running.countP (fun r => r.due < s.now) = 0 := by
    rw [List.countP_eq_zero]
    intro r mem
    simpa using kept.ahead r mem
  rw [← kept.accounted.countP_eq, ← kept.accounted.countP_eq, List.countP_append,
    List.countP_append, running, kept.ended_by]
  exact ⟨kept.ended_before can, by omega⟩

theorem eq_of_counts {all : List Running} {n time time' : Nat}
    (low : all.countP (fun r => r.due < time) ≤ n) (high : n < all.countP (fun r => r.due ≤ time))
    (low' : all.countP (fun r => r.due < time') ≤ n)
    (high' : n < all.countP (fun r => r.due ≤ time')) : time = time' := by
  have apart : ∀ {a b : Nat}, a < b →
      all.countP (fun r => r.due ≤ a) ≤ all.countP (fun r => r.due < b) := by
    intro a b less
    refine List.countP_mono_left fun r _ before => ?_
    simp only [decide_eq_true_eq] at before ⊢
    omega
  rcases Nat.lt_trichotomy time time' with less | same | less
  · have := apart less
    omega
  · exact same
  · have := apart less
    omega

/-- Two ways in which a tick can go have the same starts. -/
theorem Flight.take_starts_eq (run : Run limit delays {} happened s)
    (run' : Run limit delays {} happened' s') (i : Nat) :
    i ≤ s.started → i ≤ s'.started → (starts happened).take i = (starts happened').take i := by
  induction i with
  | zero => simp
  | succ i ih =>
    intro le le'
    obtain ⟨before, middle, first, can, count, taken, found⟩ := run_to_start run le
    obtain ⟨before', middle', first', can', count', taken', found'⟩ := run_to_start run' le'
    have same : starts before = starts before' := by
      rw [taken, taken', ih (Nat.le_of_succ_le le) (Nat.le_of_succ_le le')]
    have now : middle.now = middle'.now := by
      rcases Nat.lt_or_ge i limit with early | later
      · rw [(kept_of_run first).at_once can (by omega),
          (kept_of_run first').at_once can' (by omega)]
      · obtain ⟨low, high⟩ := (kept_of_run first).counts can (by omega)
        obtain ⟨low', high'⟩ := (kept_of_run first').counts can' (by omega)
        rw [count, same] at low high
        rw [count'] at low' high'
        exact eq_of_counts low high low' high'
    rw [List.take_add_one, List.take_add_one, found, found', now, ih (Nat.le_of_succ_le le)
      (Nat.le_of_succ_le le')]

theorem Flight.starts_eq (run : Run limit delays {} happened s) (complete : s.Over delays)
    (run' : Run limit delays {} happened' s') (complete' : s'.Over delays) :
    starts happened = starts happened' := by
  have length := congrArg List.length (kept_of_run run).inOrder
  have length' := congrArg List.length (kept_of_run run').inOrder
  rw [List.length_map, List.length_range] at length length'
  have count := complete.1.trans complete'.1.symm
  have same := take_starts_eq run run' s.started (Nat.le_refl _) (Nat.le_of_eq count)
  rwa [List.take_of_length_le (by omega), List.take_of_length_le (by omega)] at same

theorem Flight.now_le (run : Run limit delays {} happened s) (complete : s.Over delays)
    (run' : Run limit delays {} happened' s') (complete' : s'.Over delays) : s.now ≤ s'.now := by
  rcases last_of_over run complete with ⟨-, zero⟩ | ⟨index, last⟩
  · omega
  · have ended : (⟨index, s.now⟩ : Running) ∈ finishes happened :=
      mem_finishes.mpr (List.mem_of_getLast? last)
    rw [(orderly_of_run run complete).ended.mem_iff, starts_eq run complete run' complete',
      ← (orderly_of_run run' complete').ended.mem_iff] at ended
    exact (kept_of_run run').past _ (mem_finishes.mp ended)

theorem Flight.now_eq_last (run : Run limit delays {} happened s) (complete : s.Over delays) :
    s.now = (happened.getLast?.map Moment.time).getD 0 := by
  rcases last_of_over run complete with ⟨rfl, zero⟩ | ⟨index, last⟩
  · exact zero
  · rw [last]
    rfl

/-- A tick takes as long whichever of the fetches that are due together ends first. -/
theorem Flight.now_eq_length (positive : 0 < limit) (run : Run limit delays {} happened s)
    (complete : s.Over delays) : s.now = length limit delays := by
  obtain ⟨s', run', complete'⟩ := run_ofDelays positive delays
  have le := now_le run complete run' complete'
  have ge := now_le run' complete' run complete
  exact (Nat.le_antisymm le ge).trans (now_eq_last run' complete')

theorem last_moment_one (delays : List Nat) : ∀ now index first due, ∃ last,
    (moments 1 now index delays [⟨first, due⟩]).getLast? =
      some (.finish last (due + delays.sum)) := by
  induction delays with
  | nil => exact fun now index first due => ⟨first, rfl⟩
  | cons delay delays ih =>
    intro now index first due
    obtain ⟨last, found⟩ := ih due (index + 1) index (due + delay)
    refine ⟨last, ?_⟩
    rw [moments, if_neg (by simp), List.getLast?_cons_cons, List.getLast?_cons, enqueue, found]
    simp [Nat.add_assoc]

theorem length_one (delays : List Nat) : length 1 delays = delays.sum := by
  cases delays with
  | nil => rfl
  | cons delay delays =>
    obtain ⟨last, found⟩ := last_moment_one delays 0 1 0 (0 + delay)
    rw [length, ofDelays, moments, List.getLast?_cons, found]
    simp

end PageWatch.Timeline
