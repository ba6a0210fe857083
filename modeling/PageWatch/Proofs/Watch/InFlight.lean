import PageWatch.Proofs.Data.Paths
import PageWatch.Watch.Timeline

/-!
# Fetches in flight

In a tick a fetch starts where there is room, the first that is due ends, and time
passes only when no fetch can start. Of several fetches that are due together any may
end first. However that goes, fetches start in order and without delay: the first of
them at once, and each later one when an earlier one makes room for it.
-/

set_option autoImplicit false

namespace PageWatch.Timeline

def Moment.start? : Moment → Option (Nat × Nat)
  | start index time => some (index, time)
  | finish .. => none

def Moment.finish? : Moment → Option Running
  | start .. => none
  | finish index time => some ⟨index, time⟩

def starts (happened : List Moment) : List (Nat × Nat) := happened.filterMap Moment.start?

def finishes (happened : List Moment) : List Running := happened.filterMap Moment.finish?

def ends (delays : List Nat) (starts : List (Nat × Nat)) : List Running :=
  starts.map fun (index, time) => ⟨index, time + delays[index]?.getD 0⟩

@[simp] theorem Moment.time_start (index time : Nat) : (start index time).time = time := rfl

@[simp] theorem Moment.time_finish (index time : Nat) : (finish index time).time = time := rfl

theorem mem_starts {happened : List Moment} {one : Nat × Nat} :
    one ∈ starts happened ↔ .start one.1 one.2 ∈ happened := by
  rw [starts, List.mem_filterMap]
  constructor
  · rintro ⟨moment, mem, started⟩
    cases moment with
    | start index time =>
      obtain rfl := Option.some.inj started
      exact mem
    | finish index time => cases started
  · intro mem
    exact ⟨_, mem, rfl⟩

theorem mem_finishes {happened : List Moment} {r : Running} :
    r ∈ finishes happened ↔ .finish r.index r.due ∈ happened := by
  rw [finishes, List.mem_filterMap]
  constructor
  · rintro ⟨moment, mem, ended⟩
    cases moment with
    | start index time => cases ended
    | finish index time =>
      obtain rfl := Option.some.inj ended
      exact mem
  · intro mem
    exact ⟨_, mem, rfl⟩

section Lists

variable (before after : List Moment) (index time : Nat) (delays : List Nat)

@[simp] theorem starts_append : starts (before ++ after) = starts before ++ starts after :=
  List.filterMap_append

@[simp] theorem starts_start : starts [.start index time] = [(index, time)] := rfl

@[simp] theorem starts_finish : starts [.finish index time] = [] := rfl

@[simp] theorem finishes_append :
    finishes (before ++ after) = finishes before ++ finishes after :=
  List.filterMap_append

@[simp] theorem finishes_start : finishes [.start index time] = [] := rfl

@[simp] theorem finishes_finish : finishes [.finish index time] = [⟨index, time⟩] := rfl

@[simp] theorem ends_append (more less : List (Nat × Nat)) :
    ends delays (more ++ less) = ends delays more ++ ends delays less :=
  List.map_append

theorem enqueue_perm (r : Running) (running : List Running) :
    (enqueue r running).Perm (r :: running) := by
  induction running with
  | nil => exact .refl _
  | cons first rest ih =>
    unfold enqueue
    split
    · exact (ih.cons first).trans (.swap r first rest)
    · exact .refl _

def Sorted (running : List Running) : Prop :=
  running.Pairwise fun earlier later => earlier.due ≤ later.due

theorem sorted_enqueue (r : Running) {running : List Running} (sorted : Sorted running) :
    Sorted (enqueue r running) := by
  induction running with
  | nil => exact List.pairwise_singleton _ _
  | cons first rest ih =>
    obtain ⟨least, sorted'⟩ := List.pairwise_cons.mp sorted
    unfold enqueue
    split
    · rename_i before
      refine List.pairwise_cons.mpr ⟨fun other mem => ?_, ih sorted'⟩
      rcases List.mem_cons.mp ((enqueue_perm r rest).mem_iff.mp mem) with rfl | mem
      · exact before
      · exact least other mem
    · rename_i after
      refine List.pairwise_cons.mpr ⟨fun other mem => ?_, sorted⟩
      rcases List.mem_cons.mp mem with rfl | mem
      · omega
      · have := least other mem
        omega

end Lists

/-- Where a tick stands: the time, how many fetches have started, and those that are running. -/
structure Flight where
  now : Nat := 0
  started : Nat := 0
  running : List Running := []

section Flight

variable (limit : Nat) (delays : List Nat)

def Flight.CanStart (s : Flight) : Prop :=
  s.started < delays.length ∧ s.running.length < limit

inductive Flight.Step : Flight → Moment → Flight → Prop where
  | starts {s : Flight} (can : s.CanStart limit delays) :
    Step s (.start s.started s.now)
      { s with
        started := s.started + 1
        running := enqueue ⟨s.started, s.now + delays[s.started]?.getD 0⟩ s.running }
  | finishes {s : Flight} (before after : List Running) {r : Running}
      (running : s.running = before ++ r :: after) (first : ∀ other ∈ s.running, r.due ≤ other.due)
      (prompt : r.due = s.now ∨ ¬ s.CanStart limit delays) :
    Step s (.finish r.index r.due) { s with now := r.due, running := before ++ after }

abbrev Flight.Run : Flight → List Moment → Flight → Prop := Path (Flight.Step limit delays)

def Flight.Over (s : Flight) : Prop := s.started = delays.length ∧ s.running = []

/-- What the moments so far say about where a tick stands. -/
structure Flight.Kept (happened : List Moment) (s : Flight) : Prop where
  inOrder : (starts happened).map (·.1) = List.range s.started
  waiting : s.started ≤ delays.length
  accounted : (finishes happened ++ s.running).Perm (ends delays (starts happened))
  room : s.running.length ≤ limit
  past : ∀ moment ∈ happened, moment.time ≤ s.now
  ahead : ∀ r ∈ s.running, s.now ≤ r.due
  sorted : Sorted s.running
  forward : happened.Pairwise fun earlier later => earlier.time ≤ later.time
  prompt : ∀ (i : Nat) (r : Running), (finishes happened)[i]? = some r →
    s.started ≤ i + limit → s.started < delays.length → r.due = s.now
  begun : s.now = 0 ∨ limit ≤ s.started ∨ s.started = delays.length

variable {limit delays} {happened : List Moment} {s s' : Flight}

theorem Flight.Kept.length_eq (kept : Kept limit delays happened s) :
    (finishes happened).length + s.running.length = s.started := by
  have count := kept.accounted.length_eq
  have started := congrArg List.length kept.inOrder
  simp only [List.length_append, ends, List.length_map, List.length_range] at count started
  omega

theorem Flight.Kept.initial : Kept limit delays [] {} where
  inOrder := rfl
  waiting := Nat.zero_le _
  accounted := .refl _
  room := Nat.zero_le _
  past := by simp
  ahead := by simp
  sorted := .nil
  forward := .nil
  prompt := by simp [Timeline.finishes]
  begun := .inl rfl

theorem Flight.Kept.starts (kept : Kept limit delays happened s) (can : s.CanStart limit delays) :
    Kept limit delays (happened ++ [.start s.started s.now])
      { s with
        started := s.started + 1
        running := enqueue ⟨s.started, s.now + delays[s.started]?.getD 0⟩ s.running } where
  inOrder := by simp [kept.inOrder, List.range_succ]
  waiting := can.1
  accounted := by
    have split := kept.accounted.append_right [⟨s.started, s.now + delays[s.started]?.getD 0⟩]
    rw [List.append_assoc] at split
    simp only [finishes_append, finishes_start, List.append_nil, starts_append, starts_start,
      ends_append]
    refine (List.Perm.append_left _ ?_).trans split
    exact (enqueue_perm _ _).trans (List.perm_append_singleton _ _).symm
  room := by
    rw [(enqueue_perm _ _).length_eq]
    exact can.2
  past := by
    intro moment mem
    rcases List.mem_append.mp mem with mem | mem
    · exact kept.past moment mem
    · simp at mem
      simp [mem]
  ahead := by
    intro r mem
    rcases List.mem_cons.mp ((enqueue_perm _ _).mem_iff.mp mem) with rfl | mem
    · exact Nat.le_add_right _ _
    · exact kept.ahead r mem
  sorted := sorted_enqueue _ kept.sorted
  forward := by
    refine List.pairwise_append.mpr ⟨kept.forward, List.pairwise_singleton _ _, ?_⟩
    simpa using kept.past
  prompt := by
    intro i r found room waits
    simp only [finishes_append, finishes_start, List.append_nil] at found
    exact kept.prompt i r found (by simp at room; omega) can.1
  begun := by
    rcases kept.begun with now | many | all
    · exact .inl now
    · exact .inr (.inl (Nat.le_succ_of_le many))
    · exact absurd all (Nat.ne_of_lt can.1)

theorem Flight.Kept.full {time : Nat} (kept : Kept limit delays happened s)
    (prompt : time = s.now ∨ ¬ s.CanStart limit delays) :
    time = s.now ∨ s.started = delays.length ∨ limit ≤ s.running.length := by
  have waiting := kept.waiting
  simp only [CanStart] at prompt
  omega

theorem Flight.Kept.finishes {before after : List Running} {r : Running}
    (kept : Kept limit delays happened s) (running : s.running = before ++ r :: after)
    (first : ∀ other ∈ s.running, r.due ≤ other.due)
    (prompt : r.due = s.now ∨ ¬ s.CanStart limit delays) :
    Kept limit delays (happened ++ [.finish r.index r.due])
      { s with now := r.due, running := before ++ after } where
  inOrder := by simpa using kept.inOrder
  waiting := kept.waiting
  accounted := by
    have moved : (r :: (before ++ after)).Perm s.running := by
      rw [running]
      exact List.perm_middle.symm
    simp only [finishes_append, finishes_finish, starts_append, starts_finish, List.append_nil,
      List.append_assoc, List.singleton_append]
    exact (moved.append_left _).trans kept.accounted
  room := by
    have room := kept.room
    rw [running] at room
    simp at room ⊢
    omega
  past := by
    have later : s.now ≤ r.due := kept.ahead r (by simp [running])
    intro moment mem
    rcases List.mem_append.mp mem with mem | mem
    · exact Nat.le_trans (kept.past moment mem) later
    · simp at mem
      simp [mem]
  ahead := by
    intro other mem
    refine first other ?_
    rw [running]
    exact List.mem_append.mpr ((List.mem_append.mp mem).imp_right (List.mem_cons_of_mem r))
  sorted := by
    have sorted := kept.sorted
    rw [running] at sorted
    exact sorted.sublist ((List.Sublist.refl before).append (List.sublist_cons_self r after))
  forward := by
    have later : s.now ≤ r.due := kept.ahead r (by simp [running])
    refine List.pairwise_append.mpr ⟨kept.forward, List.pairwise_singleton _ _, ?_⟩
    intro moment mem
    simpa using Nat.le_trans (kept.past moment mem) later
  prompt := by
    have full := kept.full prompt
    have count := kept.length_eq
    intro i other found room waits
    simp only [finishes_append, finishes_finish] at found
    by_cases earlier : i < (Timeline.finishes happened).length
    · rw [List.getElem?_append_left earlier] at found
      have same := kept.prompt i other found room waits
      simp only at room waits ⊢
      omega
    · rw [List.getElem?_append_right (Nat.not_lt.mp earlier)] at found
      rw [List.getElem?_singleton] at found
      split at found
      · obtain rfl := Option.some.inj found
        rfl
      · cases found
  begun := by
    have full := kept.full prompt
    have count := kept.length_eq
    rcases kept.begun with now | begun
    · simp only
      omega
    · exact .inr begun

theorem Flight.Kept.step {moment : Moment} (kept : Kept limit delays happened s)
    (step : Step limit delays s moment s') : Kept limit delays (happened ++ [moment]) s' := by
  cases step with
  | starts can => exact kept.starts can
  | finishes before after running first prompt => exact kept.finishes running first prompt

theorem Flight.kept_of_run (run : Run limit delays {} happened s) :
    Kept limit delays happened s := by
  induction run with
  | start => exact .initial
  | more run step ih => exact ih.step step

theorem Flight.Step.first {now started : Nat} {r : Running} {others : List Running}
    (sorted : Sorted (r :: others))
    (full : ¬ CanStart limit delays ⟨now, started, r :: others⟩) :
    Step limit delays ⟨now, started, r :: others⟩ (.finish r.index r.due)
      ⟨r.due, started, others⟩ := by
  refine .finishes [] others rfl ?_ (.inr full)
  intro other mem
  rcases List.mem_cons.mp mem with rfl | mem
  · exact Nat.le_refl _
  · exact (List.pairwise_cons.mp sorted).1 other mem

theorem Flight.run_finishes (now : Nat) {running : List Running} (sorted : Sorted running) :
    ∃ s, Run limit delays ⟨now, delays.length, running⟩
      (running.map fun r => .finish r.index r.due) s ∧ s.Over delays := by
  induction running generalizing now with
  | nil => exact ⟨_, .start, rfl, rfl⟩
  | cons first rest ih =>
    obtain ⟨s, run, complete⟩ := ih first.due (List.pairwise_cons.mp sorted).2
    have none_waits : ¬ CanStart limit delays ⟨now, delays.length, first :: rest⟩ :=
      fun can => Nat.lt_irrefl _ can.1
    exact ⟨s, .cons (.first sorted none_waits) run, complete⟩

theorem Flight.run_moments (positive : 0 < limit) (waiting : List Nat) :
    ∀ now index (running : List Running), delays.drop index = waiting → index ≤ delays.length →
      Sorted running → running.length ≤ limit →
      ∃ s, Run limit delays ⟨now, index, running⟩ (moments limit now index waiting running) s ∧
        s.Over delays := by
  induction waiting with
  | nil =>
    intro now index running rest le sorted room
    obtain rfl : index = delays.length := by
      have := List.drop_eq_nil_iff.mp rest
      omega
    rw [moments]
    exact run_finishes now sorted
  | cons delay waiting ih =>
    intro now index running rest le sorted room
    have before : index < delays.length := by
      have := congrArg List.length rest
      simp at this
      omega
    have next : delays.drop (index + 1) = waiting := by
      rw [← List.drop_drop, rest, List.drop_one, List.tail_cons]
    have own : delays[index]?.getD 0 = delay := by
      rw [← List.head?_drop, rest]
      rfl
    -- The fetch starts at any time at which there is room.
    have starts : ∀ time (others : List Running), Sorted others → others.length < limit →
        ∃ s, Run limit delays ⟨time, index, others⟩ (.start index time ::
          moments limit time (index + 1) waiting (enqueue ⟨index, time + delay⟩ others)) s ∧
          s.Over delays := by
      intro time others sorted room
      have length := (enqueue_perm ⟨index, time + delay⟩ others).length_eq
      obtain ⟨s, run, complete⟩ := ih time (index + 1) (enqueue ⟨index, time + delay⟩ others) next
        before (sorted_enqueue _ sorted) (by rw [length]; exact room)
      have step : Step limit delays ⟨time, index, others⟩ (.start index time) _ :=
        .starts ⟨before, room⟩
      rw [own] at step
      exact ⟨s, .cons step run, complete⟩
    cases running with
    | nil =>
      rw [moments]
      exact starts now [] sorted positive
    | cons first others =>
      rw [moments]
      split
      · rename_i free
        exact starts now (first :: others) sorted free
      · rename_i full
        obtain ⟨s, run, complete⟩ := starts first.due others (List.pairwise_cons.mp sorted).2 room
        have taken : ¬ CanStart limit delays ⟨now, index, first :: others⟩ := fun can => full can.2
        exact ⟨s, .cons (.first sorted taken) run, complete⟩

theorem Flight.run_ofDelays (positive : 0 < limit) (delays : List Nat) :
    ∃ s, Run limit delays {} (ofDelays limit delays) s ∧ s.Over delays :=
  run_moments positive delays 0 0 [] rfl (Nat.zero_le _) .nil (Nat.zero_le _)

/-- Wherever a tick stands, it comes to its end. -/
theorem Flight.Kept.run_to_over (positive : 0 < limit) (kept : Kept limit delays happened s) :
    ∃ more s', Run limit delays s more s' ∧ s'.Over delays :=
  ⟨_, run_moments positive _ s.now s.started s.running rfl kept.waiting kept.sorted kept.room⟩

end Flight

end PageWatch.Timeline
